import SqlTemplate.Object.Assign
import SqlTemplate.Object.Raise
import SqlTemplate.Text.UpperCase
/-!
# Running functions

A function that is called does a step: it logs the call, sets attributes, and then fails or gives a value.

`Run.inner` ties the knot between calling, reading and running, one level of nesting after the other, and fails
where the depth of the world is exceeded.  The operations on values that the rest of the library uses stand at the
end.
-/

namespace SqlTemplate

open Text

namespace Run

/-! ## Steps -/

/-- Does what a step ends in, given the first and the second parameter. -/
def conclude (inner : Inner) (step : Step) (receiver : Value) (argument : Option Value) :
    Run Value := do
  match step.outcome with
  | .fail kind arguments =>
    let arguments := arguments.map fun given => given.getD (argument.getD .null)
    fail (← makeFailure inner kind arguments)
  | .read name => do
    modify (·.noteRead receiver name)
    readBare inner receiver name
  | .count => return .int ((← get).done.count step.id)
  | .upper =>
    match argument with
    | some (.text given) => return .text (String.ofList (upper given.toList))
    | given => fail ((← get).missingAttribute (given.getD .null) "upper")
  | .give value => return value

/-- How a call stands in the log: with its second parameter if that is a text. -/
def logEntry (function : String) : Option Value → String
  | some (.text given) => function ++ ":" ++ given
  | _ => function

/-- Does a step of a function. -/
def perform (inner : Inner) (function : String) (step : Step) (receiver : Value)
    (argument : Option Value) : Run Value := do
  modify fun w => { w.log (logEntry function argument) with done := w.done ++ [step.id] }
  step.assignments.forM fun assignment => assign inner receiver assignment.1 assignment.2
  conclude inner step receiver argument

/-- Runs a function, given how functions it calls are called. -/
def runFunction (inner : Inner) (id : FunctionId) (arguments : List Value) : Run Value := do
  let f := (← get).function id
  match f.signature.frame arguments with
  | .error fault => fail (.typeError (fault.message f.name))
  | .ok frame =>
    let receiver := frame.head?.getD .null
    let argument := frame[1]?
    match f.action.select argument with
    | .perform step => perform inner f.name step receiver argument
    | .ordinary =>
      match argument with
      | some (.text name) => do
        modify (·.noteRead receiver name)
        readOrdinary inner receiver name
      | given =>
        fail (.typeError ("attribute name must be string, not " ++
          (← get).label 200 (given.getD .null)))

/-! ## Nesting -/

/-- Nesting goes too deep. -/
def nestedTooDeep {α : Type} : Run α :=
  fail (.ofMessage .recursionError "maximum recursion depth exceeded")

/-- How things are done with a number of levels of nesting left. -/
def inner : Nat → Inner
  | 0 =>
    { call := fun _ _ => nestedTooDeep
      read := fun _ _ => nestedTooDeep
      builtin := fun _ _ _ => nestedTooDeep
      special := fun _ _ _ _ => nestedTooDeep }
  | depth + 1 =>
    { call := fun f arguments => runFunction (inner depth) f arguments
      read := fun value name => readWith (inner depth) value name
      builtin := fun receiver name arguments => callBuiltin (inner depth) receiver name arguments
      special := fun id name member arguments => callMember (inner depth) id name member arguments }

/-- How things are done from the outside. -/
def outermost : Run Inner := do
  return inner (← get).depth

/-! ## The operations on values -/

/-- Calls a function. -/
def call (f : FunctionId) (arguments : List Value) : Run Value := do
  (← outermost).call f arguments

/-- Reads an attribute of a value. -/
def read (value : Value) (name : String) : Run Value := do
  readWith (← outermost) value name

/-- An attribute of a value, if the value has it. -/
def attribute? (value : Value) (name : String) : Run (Option Value) :=
  orElse (some <$> read value name) fun failure =>
    if failure.isA .attributeError then return none else fail failure

/-- Calls a value. -/
def callValue (f : Value) (arguments : List Value) : Run Value := do
  callWith (← outermost) f arguments

/-- What the class of an object has for an operation, as it is read through the object. -/
def readSpecial (id : ObjectId) (name : String) (member : Member) : Run Value := do
  readMember (← outermost) id name member

/-- Calls a member that the class of an object has for an operation. -/
def callSpecial (id : ObjectId) (name : String) (member : Member) (arguments : List Value) :
    Run Value := do
  callMember (← outermost) id name member arguments

/-- Sets an attribute of a value. -/
def setAttribute (target : Value) (name : String) (value : Value) : Run Unit := do
  assign (← outermost) target name value

/-- The item of a mapping under a key. -/
def item (value : Value) (key : Value) : Run Value := do
  itemWith (← outermost) value key

/-- A value counts as true. -/
def truth (value : Value) : Run Bool := do
  truthWith (← outermost) value

/-- The text of a value; an object may define it by a method. -/
def textOf (value : Value) : Run String := do
  textWith (← outermost) value

/-- A value as it stands in a message. -/
def shownOf (value : Value) : Run String := do
  shown (← outermost) value

/-- The text of a failure. -/
def textOfFailure (failure : Failure) : Run String := do
  let inner ← outermost
  return String.join (← (failure.pieces (← get)).mapM (pieceText inner))

/-- The fault of a path that leads to a member that is not public. -/
def denial (member : Value) (path : String) (reason : Value) : Run Fault := do
  denied (← outermost) member (.text path) reason

end Run

end SqlTemplate
