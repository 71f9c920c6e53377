/-!
# Classes of failures

Every failure is of a class, and the classes form a hierarchy: `PermissionError` is an `OSError`, which is an
`Exception`; `KeyboardInterrupt` is none.  Only the place of a class in the hierarchy decides how a failure is treated.

The standard classes, and with them the library's own, are known beforehand.  Code of the world declares further ones:
with any classes as bases, and perhaps with a form of its own for the texts of their failures.  What a declared class
is called has no part in what it is; one that is named like a standard class is still another class.

The failures of some standard classes are built in ways of their own, so that no class inherits from two of these.
-/

namespace SqlTemplate

/-! ## The standard classes -/

/-- A class of failures that is known beforehand. -/
inductive StandardFailure where
  | memberNotAccessible
  | unknownParameterError
  | unresolvablePropertyError
  | accessorInvocationError
  | accessDeniedError
  | resolutionError
  | templateSyntaxError
  | unknownTypeError
  | configurationError
  | bindingCountError
  | fragQLError
  | brokenPipeError
  | connectionAbortedError
  | connectionRefusedError
  | connectionResetError
  | blockingIOError
  | childProcessError
  | connectionError
  | fileExistsError
  | fileNotFoundError
  | interruptedError
  | isADirectoryError
  | notADirectoryError
  | permissionError
  | processLookupError
  | timeoutError
  | osError
  | floatingPointError
  | overflowError
  | zeroDivisionError
  | arithmeticError
  | moduleNotFoundError
  | importError
  | indexError
  | keyError
  | lookupError
  | unboundLocalError
  | nameError
  | notImplementedError
  | recursionError
  | runtimeError
  | tabError
  | indentationError
  | syntaxError
  | unicodeDecodeError
  | unicodeEncodeError
  | unicodeTranslateError
  | unicodeError
  | valueError
  | bytesWarning
  | deprecationWarning
  | encodingWarning
  | futureWarning
  | importWarning
  | pendingDeprecationWarning
  | resourceWarning
  | runtimeWarning
  | syntaxWarning
  | unicodeWarning
  | userWarning
  | warning
  | assertionError
  | attributeError
  | bufferError
  | eofError
  | memoryError
  | referenceError
  | stopAsyncIteration
  | stopIteration
  | systemError
  | typeError
  | exceptionGroup
  | baseExceptionGroup
  | exception
  | generatorExit
  | keyboardInterrupt
  | systemExit
  | baseException
  deriving DecidableEq, Repr, Inhabited

namespace StandardFailure

/-- The name of a standard class. -/
def name : StandardFailure → String
  | memberNotAccessible => "MemberNotAccessible"
  | unknownParameterError => "UnknownParameterError"
  | unresolvablePropertyError => "UnresolvablePropertyError"
  | accessorInvocationError => "AccessorInvocationError"
  | accessDeniedError => "AccessDeniedError"
  | resolutionError => "ResolutionError"
  | templateSyntaxError => "TemplateSyntaxError"
  | unknownTypeError => "UnknownTypeError"
  | configurationError => "ConfigurationError"
  | bindingCountError => "BindingCountError"
  | fragQLError => "FragQLError"
  | brokenPipeError => "BrokenPipeError"
  | connectionAbortedError => "ConnectionAbortedError"
  | connectionRefusedError => "ConnectionRefusedError"
  | connectionResetError => "ConnectionResetError"
  | blockingIOError => "BlockingIOError"
  | childProcessError => "ChildProcessError"
  | connectionError => "ConnectionError"
  | fileExistsError => "FileExistsError"
  | fileNotFoundError => "FileNotFoundError"
  | interruptedError => "InterruptedError"
  | isADirectoryError => "IsADirectoryError"
  | notADirectoryError => "NotADirectoryError"
  | permissionError => "PermissionError"
  | processLookupError => "ProcessLookupError"
  | timeoutError => "TimeoutError"
  | osError => "OSError"
  | floatingPointError => "FloatingPointError"
  | overflowError => "OverflowError"
  | zeroDivisionError => "ZeroDivisionError"
  | arithmeticError => "ArithmeticError"
  | moduleNotFoundError => "ModuleNotFoundError"
  | importError => "ImportError"
  | indexError => "IndexError"
  | keyError => "KeyError"
  | lookupError => "LookupError"
  | unboundLocalError => "UnboundLocalError"
  | nameError => "NameError"
  | notImplementedError => "NotImplementedError"
  | recursionError => "RecursionError"
  | runtimeError => "RuntimeError"
  | tabError => "TabError"
  | indentationError => "IndentationError"
  | syntaxError => "SyntaxError"
  | unicodeDecodeError => "UnicodeDecodeError"
  | unicodeEncodeError => "UnicodeEncodeError"
  | unicodeTranslateError => "UnicodeTranslateError"
  | unicodeError => "UnicodeError"
  | valueError => "ValueError"
  | bytesWarning => "BytesWarning"
  | deprecationWarning => "DeprecationWarning"
  | encodingWarning => "EncodingWarning"
  | futureWarning => "FutureWarning"
  | importWarning => "ImportWarning"
  | pendingDeprecationWarning => "PendingDeprecationWarning"
  | resourceWarning => "ResourceWarning"
  | runtimeWarning => "RuntimeWarning"
  | syntaxWarning => "SyntaxWarning"
  | unicodeWarning => "UnicodeWarning"
  | userWarning => "UserWarning"
  | warning => "Warning"
  | assertionError => "AssertionError"
  | attributeError => "AttributeError"
  | bufferError => "BufferError"
  | eofError => "EOFError"
  | memoryError => "MemoryError"
  | referenceError => "ReferenceError"
  | stopAsyncIteration => "StopAsyncIteration"
  | stopIteration => "StopIteration"
  | systemError => "SystemError"
  | typeError => "TypeError"
  | exceptionGroup => "ExceptionGroup"
  | baseExceptionGroup => "BaseExceptionGroup"
  | exception => "Exception"
  | generatorExit => "GeneratorExit"
  | keyboardInterrupt => "KeyboardInterrupt"
  | systemExit => "SystemExit"
  | baseException => "BaseException"

/-- All standard classes. -/
def all : List StandardFailure :=
  [.memberNotAccessible, .unknownParameterError, .unresolvablePropertyError,
   .accessorInvocationError, .accessDeniedError, .resolutionError, .templateSyntaxError,
   .unknownTypeError, .configurationError, .bindingCountError, .fragQLError, .brokenPipeError,
   .connectionAbortedError, .connectionRefusedError, .connectionResetError, .blockingIOError,
   .childProcessError, .connectionError, .fileExistsError, .fileNotFoundError, .interruptedError,
   .isADirectoryError, .notADirectoryError, .permissionError, .processLookupError, .timeoutError,
   .osError, .floatingPointError, .overflowError, .zeroDivisionError, .arithmeticError,
   .moduleNotFoundError, .importError, .indexError, .keyError, .lookupError, .unboundLocalError,
   .nameError, .notImplementedError, .recursionError, .runtimeError, .tabError,
   .indentationError, .syntaxError, .unicodeDecodeError, .unicodeEncodeError,
   .unicodeTranslateError, .unicodeError, .valueError, .bytesWarning, .deprecationWarning,
   .encodingWarning, .futureWarning, .importWarning, .pendingDeprecationWarning,
   .resourceWarning, .runtimeWarning, .syntaxWarning, .unicodeWarning, .userWarning, .warning,
   .assertionError, .attributeError, .bufferError, .eofError, .memoryError, .referenceError,
   .stopAsyncIteration, .stopIteration, .systemError, .typeError, .exceptionGroup,
   .baseExceptionGroup, .exception, .generatorExit, .keyboardInterrupt, .systemExit,
   .baseException]

/-- The standard class of a name. -/
def ofName? (name : String) : Option StandardFailure :=
  all.find? (·.name == name)

/-- The classes that a standard class inherits from, the nearest first. -/
def ancestors : StandardFailure → List StandardFailure
  | exception | generatorExit | keyboardInterrupt | systemExit | baseExceptionGroup => [baseException]
  | exceptionGroup => [baseExceptionGroup, exception, baseException]
  | unknownParameterError | unresolvablePropertyError | accessorInvocationError | accessDeniedError =>
    [resolutionError, fragQLError, exception, baseException]
  | resolutionError | templateSyntaxError | unknownTypeError | configurationError | bindingCountError =>
    [fragQLError, exception, baseException]
  | brokenPipeError | connectionAbortedError | connectionRefusedError | connectionResetError =>
    [connectionError, osError, exception, baseException]
  | blockingIOError | childProcessError | connectionError | fileExistsError | fileNotFoundError
  | interruptedError | isADirectoryError | notADirectoryError | permissionError | processLookupError
  | timeoutError => [osError, exception, baseException]
  | floatingPointError | overflowError | zeroDivisionError => [arithmeticError, exception, baseException]
  | moduleNotFoundError => [importError, exception, baseException]
  | indexError | keyError => [lookupError, exception, baseException]
  | unboundLocalError => [nameError, exception, baseException]
  | notImplementedError | recursionError => [runtimeError, exception, baseException]
  | tabError => [indentationError, syntaxError, exception, baseException]
  | indentationError => [syntaxError, exception, baseException]
  | unicodeDecodeError | unicodeEncodeError | unicodeTranslateError =>
    [unicodeError, valueError, exception, baseException]
  | unicodeError => [valueError, exception, baseException]
  | bytesWarning | deprecationWarning | encodingWarning | futureWarning | importWarning
  | pendingDeprecationWarning | resourceWarning | runtimeWarning | syntaxWarning | unicodeWarning
  | userWarning => [warning, exception, baseException]
  | memberNotAccessible | osError | arithmeticError | importError | lookupError | nameError
  | runtimeError | syntaxError | valueError | warning | fragQLError | assertionError | attributeError
  | bufferError | eofError | memoryError | referenceError | stopAsyncIteration | stopIteration
  | systemError | typeError => [exception, baseException]
  | baseException => []

/-- The failures of a standard class are built in a way of their own. -/
def isBuiltApart : StandardFailure → Bool
  | attributeError | baseExceptionGroup | importError | nameError | osError | stopIteration
  | syntaxError | systemExit | unicodeDecodeError | unicodeEncodeError | unicodeTranslateError => true
  | _ => false

end StandardFailure

/-! ## Lineages -/

/-- Standard classes that a class may be or inherit from. -/
structure IsLineage (kinds : List StandardFailure) : Prop where
  rooted : .baseException ∈ kinds
  /-- With a class come all that it inherits from. -/
  closed : ∀ kind ∈ kinds, ∀ base ∈ kind.ancestors, base ∈ kinds
  /-- No two of them are built in ways of their own. -/
  apart : ∀ one ∈ kinds, one.isBuiltApart = true → ∀ other ∈ kinds, other.isBuiltApart = true → one = other

instance (kinds : List StandardFailure) : Decidable (IsLineage kinds) :=
  decidable_of_iff
    (.baseException ∈ kinds ∧ (∀ kind ∈ kinds, ∀ base ∈ kind.ancestors, base ∈ kinds) ∧
      ∀ one ∈ kinds, one.isBuiltApart = true → ∀ other ∈ kinds, other.isBuiltApart = true → one = other)
    ⟨fun h => ⟨h.1, h.2.1, h.2.2⟩, fun h => ⟨h.rooted, h.closed, h.apart⟩⟩

theorem StandardFailure.isLineage (kind : StandardFailure) : IsLineage (kind :: kind.ancestors) := by
  cases kind <;> decide

namespace IsLineage

variable {kinds : List StandardFailure}

theorem exception_of_attributeError (h : IsLineage kinds) (hmem : .attributeError ∈ kinds) : .exception ∈ kinds :=
  h.closed .attributeError hmem .exception (by decide)

theorem exception_of_permissionError (h : IsLineage kinds) (hmem : .permissionError ∈ kinds) : .exception ∈ kinds :=
  h.closed .permissionError hmem .exception (by decide)

/-- The failures of both are built in ways of their own. -/
theorem not_permissionError_of_attributeError (h : IsLineage kinds) (hmem : .attributeError ∈ kinds) :
    .permissionError ∉ kinds := by
  intro hpermission
  have hsystem : .osError ∈ kinds := h.closed .permissionError hpermission .osError (by decide)
  exact absurd (h.apart .attributeError hmem rfl .osError hsystem rfl) (by decide)

end IsLineage

/-! ## All classes -/

/-- How a class puts the texts of its failures together: the texts of the arguments, set apart. -/
structure TextForm where
  opening : String
  separator : String
  closing : String
  deriving DecidableEq, Repr

/-- A class of failures. -/
inductive FailureClass where
  | standard (kind : StandardFailure)
  /-- A class that code declares: its name, the standard classes that it inherits from, the nearest first, and how it
  puts texts together, if it does that itself. -/
  | declared (name : String) (bases : List StandardFailure) (form? : Option TextForm) (sound : IsLineage bases)
  deriving Repr

namespace FailureClass

instance : Inhabited FailureClass := ⟨standard .baseException⟩

/-- The name of a class. -/
def name : FailureClass → String
  | standard kind => kind.name
  | declared name .. => name

/-- The standard classes that a class is or inherits from, the nearest first. -/
def lineage : FailureClass → List StandardFailure
  | standard kind => kind :: kind.ancestors
  | declared _ bases .. => bases

/-- How a class puts texts together, if it does that itself. -/
def form? : FailureClass → Option TextForm
  | standard _ => none
  | declared _ _ form? _ => form?

/-- A class is a standard one or inherits from it. -/
def inherits (kind : FailureClass) (base : StandardFailure) : Bool :=
  kind.lineage.contains base

/-- A class is a standard one itself. -/
def isExactly (kind : FailureClass) (other : StandardFailure) : Bool :=
  match kind with
  | standard kind => kind == other
  | declared .. => false

theorem isLineage_lineage (kind : FailureClass) : IsLineage kind.lineage := by
  cases kind with
  | standard kind => exact kind.isLineage
  | declared name bases form? sound => exact sound

/-! ### Declaring classes -/

/-- Lineages as one: each class behind those that it stands behind in any of them. -/
def mergeLineages (lineages : List (List StandardFailure)) : List StandardFailure :=
  lineages.flatten.foldr (fun kind kinds => if kinds.contains kind then kinds else kind :: kinds) []

/-- The class that code declares under a name with bases.  There is none if the bases do not go together. -/
def declare? (name : String) (bases : List FailureClass) (form? : Option TextForm) : Option FailureClass :=
  let kinds := mergeLineages (bases.map lineage)
  if sound : IsLineage kinds then some (declared name kinds form? sound) else none

theorem mem_mergeLineages {lineages : List (List StandardFailure)} {kind : StandardFailure} :
    kind ∈ mergeLineages lineages ↔ ∃ kinds ∈ lineages, kind ∈ kinds := by
  rw [mergeLineages, ← List.mem_flatten]
  -- a class that is left out is one that comes again behind
  induction lineages.flatten with
  | nil => rfl
  | cons first rest ih =>
    rw [List.foldr_cons, List.mem_cons, ← ih]
    split
    · next hfirst =>
      have hmem := List.contains_iff_mem.mp hfirst
      exact ⟨.inr, fun h => h.elim (fun heq => heq ▸ hmem) id⟩
    · exact List.mem_cons

/-- A declared class inherits from what one of its bases is or inherits from, and from nothing else. -/
theorem inherits_of_declare? {name : String} {bases : List FailureClass} {form? : Option TextForm}
    {declared : FailureClass} (h : declare? name bases form? = some declared) (kind : StandardFailure) :
    declared.inherits kind = true ↔ ∃ base ∈ bases, base.inherits kind = true := by
  rw [declare?] at h
  split at h
  · cases h
    rw [inherits, lineage, List.contains_iff_mem, mem_mergeLineages]
    constructor
    · rintro ⟨kinds, hkinds, hmem⟩
      obtain ⟨base, hbase, rfl⟩ := List.mem_map.mp hkinds
      exact ⟨base, hbase, List.contains_iff_mem.mpr hmem⟩
    · rintro ⟨base, hbase, hinherits⟩
      exact ⟨base.lineage, List.mem_map_of_mem hbase, List.contains_iff_mem.mp hinherits⟩
  · cases h

end FailureClass

end SqlTemplate
