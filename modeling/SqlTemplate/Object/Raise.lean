import SqlTemplate.Object.Fail
import SqlTemplate.Object.Written
/-!
# Failing

A function of the world fails with a failure that is made of a class and arguments.  Making one may run code: a
class of the library's own, or one that inherits from it, puts the texts of its arguments into a message, and objects
may define these.
-/

namespace SqlTemplate

open Text

namespace Run

/-- The text of a piece. -/
def pieceText (inner : Inner) : TextPiece → Run String
  | .literal text => return text
  | .text value => textWith inner value
  | .shown value => shown inner value

/-- The reason at the end of a message: there is none if the value given for it does not count as true. -/
def reasonText (inner : Inner) (reason : Value) : Run String := do
  if ← truthWith inner reason then formatWith inner reason else return ""

/-- The refusal of a member that is not public, with all that it is told by. -/
def denied (inner : Inner) (member path reason : Value) : Run Fault := do
  let title ← formatWith inner member
  let path ← formatWith inner path
  return .accessDenied member title path (← reasonText inner reason)

/-- The text of a failure of a class of the library's own, from all its arguments. -/
def ownPieces (inner : Inner) : StandardFailure → List Value → Run (List TextPiece)
  | .templateSyntaxError, [message, _, .null] => return [.text message]
  | .templateSyntaxError, [message, _, position] => do
    let message ← formatWith inner message
    return [.literal (Fault.located message (← formatWith inner position))]
  | .unknownTypeError, [name, _] => do
    return [.literal (Fault.unknownType (← formatWith inner name) []).message]
  | .bindingCountError, [expected, actual] => do
    let expected ← formatWith inner expected
    return [.literal (Fault.countMessage expected (← formatWith inner actual))]
  | .unknownParameterError, [name, path, _] => do
    let name ← formatWith inner name
    return [.literal (Fault.unknownParameter name (← formatWith inner path) []).message]
  | .unresolvablePropertyError, [qualifier, owner, path, reason] => do
    let path ← formatWith inner path
    let qualifier ← formatWith inner qualifier
    let owner ← formatWith inner owner
    return [.literal (Fault.noProperty qualifier owner path (← reasonText inner reason)).message]
  | .accessorInvocationError, [accessor, path, cause] => do
    let accessor ← formatWith inner accessor
    let path ← formatWith inner path
    let kind := (← get).kindName cause
    return [.literal (Fault.accessorFailed accessor path kind (← formatWith inner cause)).message]
  | .accessDeniedError, [member, path, reason] => do
    return [.literal (← denied inner member path reason).message]
  | _, message :: _ => return [.text message]
  | _, [] => return []

/-- The failure of a class that is made as the library's own class `own` is, with all its arguments. -/
def ownFailure (inner : Inner) (kind : FailureClass) (own : StandardFailure) (arguments : List Value) :
    Run Failure := do
  match own, arguments with
  | .memberNotAccessible, [member, reason] => return .inaccessible kind member reason
  | _, _ =>
    let pieces ← ownPieces inner own arguments
    let arguments ←
      match Failure.emptiable? own with
      | some (index, empty) => do
        let given ← orOther inner (arguments.getD index .null) empty
        pure (arguments.set index given)
      | none => pure arguments
    return .made kind (kind.textOf pieces) (Failure.membersOf (← get) own arguments)

/-- Makes a failure of a class with arguments.  Fails if the class refuses them. -/
def makeFailure (inner : Inner) (kind : FailureClass) (arguments : List Value) : Run Failure := do
  match Failure.maker? kind with
  | some own =>
    match Failure.fitted own ((Failure.constructor? own).getD []) arguments with
    | .error refusal => fail refusal
    | .ok arguments => ownFailure inner kind own arguments
  | none =>
    match Failure.refusal? (← get) kind arguments with
    | some refusal => fail refusal
    | none => return .plain (Failure.actualClass kind arguments) arguments

end Run

end SqlTemplate
