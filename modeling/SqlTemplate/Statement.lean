import SqlTemplate.Marker
import SqlTemplate.Resolve.Walk
/-!
# Statements

A template and the values of its placeholders make a statement: SQL text with markers, and one binding
for each marker.

First every fragment becomes a part of the statement: literal text stands as it is, a parameter's
value becomes a binding, and a substituted value becomes its text, which may run code.  The parts are
then laid out in a marker style.  Markers and bindings come from the same parts, so the marker with a
number always belongs to the binding with that number.
-/

namespace SqlTemplate

/-- A value for a marker, with its declared type. -/
structure Binding where
  value : Value
  type : SqlType
  deriving Repr

/-- A part of a statement. -/
inductive StatementPart where
  | text (text : String)
  | bound (binding : Binding)
  deriving Repr

/-- What is passed to a driver beside the text: the values by position, or by name. -/
inductive DriverArguments where
  | positional (values : List Value)
  | named (values : List (String × Value))
  deriving Repr

/-- A statement ready for a driver. -/
structure Statement where
  sql : String
  bindings : List Binding
  /-- The name of the marker style. -/
  paramstyle : String
  /-- The names of the bindings, if values are passed by name. -/
  names : List String
  deriving Repr

namespace Statement

/-- The values for the driver: by name if there are names. -/
def arguments (statement : Statement) : DriverArguments :=
  if statement.names.isEmpty then .positional (statement.bindings.map (·.value))
  else .named (namedOfList (statement.names.zip (statement.bindings.map (·.value))))

/-- The types of the bindings. -/
def types (statement : Statement) : List SqlType :=
  statement.bindings.map (·.type)

/-! ## Laying out -/

/-- The binding of a part. -/
def binding? : StatementPart → Option Binding
  | .text _ => none
  | .bound binding => some binding

/-- The texts of parts, with `index` as the number of the next marker. -/
def layoutFrom (style : MarkerStyle) (index : Nat) : List StatementPart → List String
  | [] => []
  | .text text :: more => style.escaped text :: layoutFrom style index more
  | .bound _ :: more => style.marker index :: layoutFrom style (index + 1) more

/-- The names of a number of bindings. -/
def bindingNames (count : Nat) : List String :=
  (List.range count).map fun (index : Nat) => bindingName index

/-- The statement that parts make in a style. -/
def ofParts (paramstyle : String) (style : MarkerStyle) (parts : List StatementPart) : Statement :=
  let bindings := parts.filterMap binding?
  { sql := String.join (layoutFrom style 0 parts)
    bindings
    paramstyle
    names := if style.positional then [] else bindingNames bindings.length }

/-! ## Rendering -/

/-- The parts that fragments and the values of those that take one make. -/
def parts : List Fragment → List Value → Run (List StatementPart)
  | [], _ => return []
  | .literal text :: more, values => return .text text :: (← parts more values)
  | .parameter _ type :: more, value :: values =>
    return .bound ⟨value, type⟩ :: (← parts more values)
  | .substitution _ :: more, value :: values => do
    let text ← Run.textOf value
    return .text text :: (← parts more values)
  | _ :: more, [] => parts more []

/-- The statement of a template with given values, one for each fragment that takes a value. -/
def render (paramstyle : String) (style : MarkerStyle) (template : Template)
    (values : List Value) : Run Statement := do
  let expected := template.valueFragments.length
  if values.length ≠ expected then
    Run.fail (.fault (.wrongCount expected values.length) none)
  else return ofParts paramstyle style (← parts template.fragments values)

/-- The statement of a template for an invocation: all placeholders are resolved first. -/
def bind (paramstyle : String) (style : MarkerStyle) (chain : List Strategy) (template : Template)
    (invocation : Invocation) : Run Statement := do
  render paramstyle style template (← Resolve.all chain invocation template)

end Statement

end SqlTemplate
