import SqlTemplate.Resolve.Strategy
import SqlTemplate.Template
import SqlTemplate.Invocation
/-!
# Walking paths

A path is resolved against an invocation: its root is the value of a parameter, and each further
qualifier is read out of the value before it.  A qualifier is read by the first strategy of the chain that
locates an accessor and whose accessor yields an acceptable result.  An accessor is passed over only if it needs
a truth value and gives something else, or if it is dynamic and finds no attribute; any other failure of
an accessor is final.
-/

namespace SqlTemplate

/-- What using an accessor comes to. -/
inductive Reading where
  | accepted (value : Value)
  /-- The next strategy of the chain is asked. -/
  | passedOver

/-- The fault that the failure of an accessor is for a path. -/
def Fault.ofAccessor (accessor path : String) (failure : Failure) : Run Fault := do
  return .accessorFailed accessor path failure.className (← Run.textOfFailure failure)

namespace Resolve

/-- A failure of an accessor, as a fault of the path that was to be resolved. -/
def refusal (accessor : Accessor) (path : String) (failure : Failure) : Run Reading := do
  if failure.isA .permissionError then
    let text ← Run.textOfFailure failure
    Run.fail (.fault (.accessDenied (.text accessor.name) accessor.name path text) (some failure))
  else if failure.isA .attributeError && accessor.dynamic then return .passedOver
  else if failure.isA .exception then
    Run.fail (.fault (← Fault.ofAccessor accessor.name path failure) (some failure))
  else Run.fail failure

/-- A result is a truth value.  The check looks at the class that an object says it has. -/
def isBool (value : Value) : Run Bool := do
  match value with
  | .bool _ => return true
  | _ => Run.askKind value 1; return false

/-- Uses an accessor. -/
def use (accessor : Accessor) (path : String) : Run Reading := do
  let reading ← Run.orElse (Reading.accepted <$> accessor.invoke) (refusal accessor path)
  match reading with
  | .passedOver => return .passedOver
  | .accepted value =>
    if accessor.requiresBool then
      if ← isBool value then return .accepted value else return .passedOver
    else return .accepted value

/-- Asks a strategy for an accessor; a member that is not public is a fault of the path. -/
def locate (strategy : Strategy) (value : Value) (qualifier path : String) :
    Run (Option Accessor) :=
  Run.orElse (strategy.locate value qualifier) fun failure => do
    match failure with
    | .inaccessible _ member reason =>
      Run.fail (.fault (← Run.denial member path reason) (some failure))
    | _ => Run.fail failure

/-- Reads a qualifier by the first strategy that can; `owner` is how the value was reached. -/
def readBy (value : Value) (owner qualifier path : String) : List Strategy → Run Value
  | [] => Run.fail (.fault (.noProperty qualifier owner path "") none)
  | strategy :: chain => do
    match ← locate strategy value qualifier path with
    | none => readBy value owner qualifier path chain
    | some accessor =>
      match ← use accessor path with
      | .accepted result => return result
      | .passedOver => readBy value owner qualifier path chain

/-- Reads a qualifier out of a value. -/
def segment (chain : List Strategy) (value : Value) (owner qualifier path : String) : Run Value :=
  match value with
  | .null =>
    Run.fail (.fault (.noProperty qualifier owner path ("The value of '" ++ owner ++ "' is None."))
      none)
  | _ => readBy value owner qualifier path chain

/-- Reads qualifiers one out of the other. -/
def follow (chain : List Strategy) (path : String) (value : Value) (owner : String) :
    List String → Run Value
  | [] => return value
  | qualifier :: more => do
    let next ← segment chain value owner qualifier path
    follow chain path next qualifier more

/-- The value that the parts of a path lead to. -/
def parts (chain : List Strategy) (invocation : Invocation) : List String → Run Value
  | [] => Run.fail (.ofMessage .indexError "tuple index out of range")
  | root :: more =>
    let path := ".".intercalate (root :: more)
    match invocation.argument root path with
    | .error fault => Run.fail (.fault fault none)
    | .ok value => follow chain path value root more

/-- The value of a placeholder. -/
def path (chain : List Strategy) (invocation : Invocation) (path : Path) : Run Value :=
  parts chain invocation path.parts

/-- The values of a template's placeholders, in order. -/
def all (chain : List Strategy) (invocation : Invocation) (template : Template) :
    Run (List Value) :=
  template.paths.mapM (path chain invocation)

end Resolve

end SqlTemplate
