import SqlTemplate.Object.FailureClass
import SqlTemplate.Object.Signature
/-!
# Failures

Code that runs may fail, with a failure of any class.  The library has failures of its own, the `Fault`s.  Each
carries what went wrong as data, and its wording is in `Fault.message`.  A failure that was turned into a fault stays
behind it as the cause.
-/

namespace SqlTemplate

open Text

/-! ## The library's own failures -/

/-- A failure of the library. -/
inductive Fault where
  /-- A template's text is not well formed, or a declared expression is no path. -/
  | badTemplate (message : String) (template : Option String) (position : Option Int)
  /-- A declared type name is not known; `known` are the names that are. -/
  | unknownType (name : String) (known : List String)
  /-- An option has an unsupported value. -/
  | badOption (message : String) (option : Option String)
  /-- A statement was rendered with the wrong number of values. -/
  | wrongCount (expected actual : Int)
  /-- The root of a placeholder is no parameter of the method. -/
  | unknownParameter (name path : String) (parameters : List String)
  /-- A value has no property of the name a path asks for. -/
  | noProperty (qualifier owner path reason : String)
  /-- A located accessor failed; `causeClass` and `causeText` tell how. -/
  | accessorFailed (accessor path causeClass causeText : String)
  /-- A located member is not public.  The member may be told by any value; `title` is the text of that. -/
  | accessDenied (member : Value) (title path reason : String)
  deriving Repr

namespace Fault

/-- The class of a fault. -/
def kind : Fault → StandardFailure
  | badTemplate .. => .templateSyntaxError
  | unknownType .. => .unknownTypeError
  | badOption .. => .configurationError
  | wrongCount .. => .bindingCountError
  | unknownParameter .. => .unknownParameterError
  | noProperty .. => .unresolvablePropertyError
  | accessorFailed .. => .accessorInvocationError
  | accessDenied .. => .accessDeniedError

/-- A sentence with another one after it, if there is one. -/
def withReason (message reason : String) : String :=
  if reason = "" then message else message ++ " " ++ reason

/-- A message about a place in a template. -/
def located (message position : String) : String :=
  message ++ " (at position " ++ position ++ ")"

/-- The message about a wrong number of values. -/
def countMessage (expected actual : String) : String :=
  "Template expects " ++ expected ++ " resolved value(s) but " ++ actual ++ " were supplied."

/-- The message of a fault. -/
def message : Fault → String
  | badTemplate message _ position =>
    match position with
    | some offset => located message (toString offset)
    | none => message
  | unknownType name _ => "Unknown SQL type name: '" ++ name ++ "'."
  | badOption message _ => message
  | wrongCount expected actual => countMessage (toString expected) (toString actual)
  | unknownParameter name path _ =>
    "Invalid argument name in SQL statement: '" ++ name ++ "' (placeholder '\x7b" ++ path ++ "\x7d')."
  | noProperty qualifier owner path reason =>
    withReason ("Illegal argument in SQL statement: '" ++ path ++ "'; unable to find a suitable " ++
      "way of retrieving property '" ++ qualifier ++ "' out of object '" ++ owner ++ "'.") reason
  | accessorFailed accessor path causeClass causeText =>
    "Exception thrown when executing '" ++ accessor ++ "' to resolve '" ++ path ++ "': " ++
      causeClass ++ ": " ++ causeText
  | accessDenied _ title path reason =>
    withReason ("Unable to access member '" ++ title ++ "' while resolving '" ++ path ++ "'.") reason

/-- The machine-readable code of a fault of resolution. -/
def code? : Fault → Option String
  | unknownParameter .. => some "UNKNOWN_PARAMETER"
  | noProperty .. => some "UNRESOLVABLE_PROPERTY"
  | accessorFailed .. => some "ACCESSOR_FAILED"
  | accessDenied .. => some "ACCESS_DENIED"
  | _ => none

/-- What a fault of resolution tells for diagnostics. -/
def details : Fault → List (String × Value)
  | unknownParameter name path parameters =>
    [("name", .text name), ("path", .text path), ("parameters", .list (parameters.map .text))]
  | noProperty qualifier owner path _ =>
    [("qualifier", .text qualifier), ("owner", .text owner), ("path", .text path)]
  | accessorFailed accessor path causeClass _ =>
    [("accessor", .text accessor), ("path", .text path), ("cause", .text causeClass)]
  | accessDenied member _ path _ => [("member", member), ("path", .text path)]
  | _ => []

/-- A fault is one of resolving a placeholder. -/
def isResolution (fault : Fault) : Bool :=
  fault.code?.isSome

/-- What a fault tells besides its message, by name. -/
def members (fault : Fault) : List (String × Value) :=
  match fault with
  | badTemplate _ template position =>
    [("template", (template.map .text).getD .null), ("position", (position.map .int).getD .null)]
  | unknownType name known => [("type_name", .text name), ("known_count", .int known.length)]
  | badOption _ option => [("option", (option.map .text).getD .null)]
  | wrongCount expected actual => [("expected", .int expected), ("actual", .int actual)]
  | _ =>
    [("code", .text (fault.code?.getD "")),
     ("details", .mapping .plain (fault.details.map fun entry => (.text entry.1, entry.2)))]

end Fault

/-! ## Failures of any kind -/

/-- A piece of a text that is put together from values. -/
inductive TextPiece where
  | literal (text : String)
  /-- The text of a value by itself, which an object may define. -/
  | text (value : Value)
  /-- A value as it stands inside a container. -/
  | shown (value : Value)
  deriving Repr

/-- The text that a form makes of the texts of arguments. -/
def TextForm.pieces (form : TextForm) (arguments : List TextPiece) : List TextPiece :=
  .literal form.opening :: arguments.intersperse (.literal form.separator) ++ [.literal form.closing]

/-- The text of a failure of a class: as the class puts it together, or else as it is. -/
def FailureClass.textOf (kind : FailureClass) (text : List TextPiece) : List TextPiece :=
  match kind.form? with
  | some form => form.pieces text
  | none => text

/-- A failure in flight. -/
inductive Failure where
  /-- A failure of a class that is not the library's own, or of the base class of those. -/
  | plain (kind : FailureClass) (arguments : List Value)
  /-- A failure of one of the library's own classes that a function of the world made, from whatever values:
  its text, and what it tells besides. -/
  | made (kind : FailureClass) (text : List TextPiece) (members : List (String × Value))
  /-- A strategy located a member that it may not read.  The member and the reason are told by values. -/
  | inaccessible (kind : FailureClass) (member reason : Value)
  /-- A fault and the failure it was made of, if any. -/
  | fault (what : Fault) (cause : Option Failure)
  deriving Repr, Inhabited

namespace Failure

/-- The class of a failure. -/
def kind : Failure → FailureClass
  | plain kind _ => kind
  | made kind _ _ => kind
  | inaccessible kind _ _ => kind
  | fault what _ => .standard what.kind

/-- The name of the class of a failure. -/
def className (failure : Failure) : String :=
  failure.kind.name

/-- What a failure tells besides its text, by name. -/
def members : Failure → List (String × Value)
  | made _ _ members => members
  | fault what _ => what.members
  | _ => []

/-- The failure that one was made of. -/
def cause? : Failure → Option Failure
  | fault _ cause => cause
  | _ => none

/-- A failure belongs to a standard class, directly or by inheritance. -/
def isA (failure : Failure) (kind : StandardFailure) : Bool :=
  failure.kind.inherits kind

/-- A failure of a standard class with a message. -/
def ofMessage (kind : StandardFailure) (message : String) : Failure :=
  .plain (.standard kind) [.text message]

/-- A value does not have the type that is needed. -/
def typeError (message : String) : Failure :=
  ofMessage .typeError message

/-- An attribute is missing. -/
def attributeError (message : String) : Failure :=
  ofMessage .attributeError message

/-- A member is there, but may not be read. -/
def notAccessible (member reason : Value) : Failure :=
  .inaccessible (.standard .memberNotAccessible) member reason

/-! ### Classes of failures -/

variable {failure : Failure}

theorem isA_exception_of_isA_attributeError (h : failure.isA .attributeError = true) :
    failure.isA .exception = true := by
  rw [isA, FailureClass.inherits, List.contains_iff_mem] at h ⊢
  exact failure.kind.isLineage_lineage.exception_of_attributeError h

theorem isA_exception_of_isA_permissionError (h : failure.isA .permissionError = true) :
    failure.isA .exception = true := by
  rw [isA, FailureClass.inherits, List.contains_iff_mem] at h ⊢
  exact failure.kind.isLineage_lineage.exception_of_permissionError h

/-- A missing attribute is no refusal of permission. -/
theorem isA_permissionError_of_isA_attributeError (h : failure.isA .attributeError = true) :
    failure.isA .permissionError = false := by
  rw [isA, FailureClass.inherits, List.contains_iff_mem] at h
  rw [isA, FailureClass.inherits, ← Bool.not_eq_true, List.contains_iff_mem]
  exact failure.kind.isLineage_lineage.not_permissionError_of_attributeError h

end Failure

/-- Faults have no cause unless one is given. -/
instance : Coe Fault Failure := ⟨fun fault => .fault fault none⟩

end SqlTemplate
