import SqlTemplate.Named
import SqlTemplate.Object.Value
import SqlTemplate.Text.Quoted
/-!
# Signatures

A signature lists the parameters of a function in order, and with them what a call may look like.
A call is fitted to it in two ways.  `frame` is an actual call with positional arguments: it gives
the value of every parameter.  `bind` takes positional and keyword arguments and gives the named
arguments of the call, defaults included; it is what a call of a declared statement goes through.
The two report a misfit in words of their own.
-/

namespace SqlTemplate

open Text

/-- How a parameter takes arguments. -/
inductive ParameterKind where
  | positionalOnly
  | positional
  /-- Takes all further positional arguments, as a tuple. -/
  | rest
  | keywordOnly
  /-- Takes all further keyword arguments, as a mapping. -/
  | keywordRest
  deriving DecidableEq, Repr, Inhabited

/-- What a signature says about a parameter's or a result's type. -/
inductive TypeHint where
  | absent
  | nothing
  | type (name : String)
  /-- A hint that is only a text. -/
  | text (text : String)
  deriving DecidableEq, Repr, Inhabited

/-- A parameter of a function. -/
structure Parameter where
  name : String
  kind : ParameterKind
  default? : Option Value
  hint : TypeHint
  deriving Repr, Inhabited

namespace Parameter

/-- A parameter that may be passed by position or by name and has no default. -/
def plain (name : String) : Parameter :=
  ⟨name, .positional, none, .absent⟩

/-- A parameter takes one positional argument. -/
def takesPosition (p : Parameter) : Bool :=
  p.kind == .positionalOnly || p.kind == .positional

/-- The value a parameter has when no argument was given for it, if it can do without one. -/
def value? (p : Parameter) : Option Value :=
  match p.default?, p.kind with
  | some value, _ => some value
  | none, .rest => some (.tuple [])
  | none, .keywordRest => some (.mapping .plain [])
  | none, _ => none

end Parameter

/-- The parameters of a function and what it says of its result. -/
structure Signature where
  parameters : List Parameter
  returns : TypeHint
  deriving Repr, Inhabited

/-- Words in a list as a sentence has them: `a`, `a and b`, `a, b, and c`. -/
def enumeration : List String → String
  | [] => ""
  | [a] => a
  | [a, b] => a ++ " and " ++ b
  | words => ", ".intercalate words.dropLast ++ ", and " ++ words.getLastD ""

/-- Why an actual call does not fit a signature. -/
inductive CallFault where
  /-- More positional arguments than the signature takes, of which `optional` have defaults. -/
  | tooMany (takes optional given : Nat)
  | missing (keyword : Bool) (names : List String)
  deriving DecidableEq, Repr

/-- The message of a misfit of a call to the function of a name. -/
def CallFault.message (function : String) : CallFault → String
  | .tooMany takes optional given =>
    let range :=
      if optional = 0 then
        toString takes ++ " positional argument" ++ (if takes = 1 then "" else "s")
      else
        "from " ++ toString (takes - optional) ++ " to " ++ toString takes ++ " positional arguments"
    function ++ "() takes " ++ range ++ " but " ++ toString given ++
      (if given = 1 then " was given" else " were given")
  | .missing keyword names =>
    function ++ "() missing " ++ toString names.length ++ " required " ++
      (if keyword then "keyword-only" else "positional") ++ " argument" ++
      (if names.length = 1 then "" else "s") ++ ": " ++ enumeration (names.map quote)

namespace Signature

/-- The parameters that take one positional argument each. -/
def positions (s : Signature) : List Parameter :=
  s.parameters.filter (·.takesPosition)

/-- A signature takes any number of positional arguments. -/
def hasRest (s : Signature) : Bool :=
  s.parameters.any (·.kind == .rest)

/-- The names of parameters that need an argument. -/
def needed (parameters : List Parameter) : List String :=
  (parameters.filter (·.default?.isNone)).map (·.name)

/-- The values of the parameters in order, given the arguments for those that take positions. -/
def fill : List Parameter → List Value → List Value
  | [], _ => []
  | p :: more, arguments =>
    if p.takesPosition then
      match arguments with
      | value :: others => value :: fill more others
      | [] => p.value?.getD .null :: fill more []
    else if p.kind = .rest then .tuple arguments :: fill more []
    else p.value?.getD .null :: fill more arguments

/-- The value of every parameter in an actual call with positional arguments. -/
def frame (s : Signature) (arguments : List Value) : Except CallFault (List Value) :=
  let positions := s.positions
  let missing := needed (positions.drop arguments.length)
  let keywords := needed (s.parameters.filter (·.kind == .keywordOnly))
  if positions.length < arguments.length && !s.hasRest then
    let optional := positions.countP (·.default?.isSome)
    .error (.tooMany positions.length optional arguments.length)
  else if missing ≠ [] then .error (.missing false missing)
  else if keywords ≠ [] then .error (.missing true keywords)
  else .ok (fill s.parameters arguments)

end Signature

/-! ## Binding named arguments -/

/-- Why the arguments of a call cannot be bound to a signature. -/
inductive BindFault where
  | missing (name : String)
  | tooMany
  | repeated (name : String)
  /-- A parameter that is passed by position only was named. -/
  | positionalOnly (name : String)
  | unexpected (name : String)
  deriving DecidableEq, Repr

/-- The message of a fault. -/
def BindFault.message : BindFault → String
  | .missing name => "missing a required argument: " ++ quote name
  | .tooMany => "too many positional arguments"
  | .repeated name => "multiple values for argument " ++ quote name
  | .positionalOnly name =>
    quote name ++ " parameter is positional only, but was passed as a keyword"
  | .unexpected name => "got an unexpected keyword argument " ++ quote name

/-- Arguments by name, in order. -/
abbrev Arguments := List (String × Value)

namespace Arguments

/-- The arguments as a mapping. -/
def toMapping (arguments : Arguments) : Value :=
  .mapping .plain (arguments.map fun argument => (.text argument.1, argument.2))

end Arguments

namespace Signature

/-- Binds positional arguments to parameters in order.  Gives the arguments bound and the parameters
left for keywords: those from the first one that no positional argument reached. -/
def bindPositions (keywords : Arguments) :
    List Parameter → List Value → Except BindFault (Arguments × List Parameter)
  | [], [] => .ok ([], [])
  | [], _ :: _ => .error .tooMany
  | p :: more, [] =>
    if p.kind = .rest then .ok ([], more)
    else if hasName p.name keywords then
      if p.kind = .positionalOnly then .error (.positionalOnly p.name) else .ok ([], p :: more)
    else if p.kind = .keywordRest || p.default?.isSome then .ok ([], p :: more)
    else .error (.missing p.name)
  | p :: more, value :: values =>
    match p.kind with
    | .keywordRest => .error .tooMany
    | .keywordOnly => .error .tooMany
    | .rest => .ok ([(p.name, .tuple (value :: values))], more)
    | .positional =>
      if hasName p.name keywords then .error (.repeated p.name)
      else
        (bindPositions keywords more values).map fun (bound, left) =>
          ((p.name, value) :: bound, left)
    | .positionalOnly =>
      (bindPositions keywords more values).map fun (bound, left) => ((p.name, value) :: bound, left)

/-- Binds keyword arguments to parameters by name.  Gives the arguments bound and the keywords that no
parameter took. -/
def bindKeywords : List Parameter → Arguments → Except BindFault (Arguments × Arguments)
  | [], keywords => .ok ([], keywords)
  | p :: more, keywords =>
    if p.kind = .keywordRest || p.kind = .rest then bindKeywords more keywords
    else
      match keywords.lookup p.name with
      | some value =>
        if p.kind = .positionalOnly then .error (.positionalOnly p.name)
        else
          (bindKeywords more (withoutName p.name keywords)).map fun (bound, left) =>
            ((p.name, value) :: bound, left)
      | none =>
        if p.default?.isSome then bindKeywords more keywords else .error (.missing p.name)

/-- The named arguments of a call, in the order of the parameters and with defaults for those that
were not given. -/
def withDefaults (parameters : List Parameter) (bound : Arguments) : Arguments :=
  parameters.filterMap fun p =>
    match bound.lookup p.name with
    | some value => some (p.name, value)
    | none => p.value?.map fun value => (p.name, value)

/-- Binds the arguments of a call to a signature. -/
def bind (s : Signature) (positional : List Value) (keywords : Arguments) :
    Except BindFault Arguments := do
  let (byPosition, left) ← bindPositions keywords s.parameters positional
  let (byName, others) ← bindKeywords left keywords
  match others, left.find? (·.kind == .keywordRest) with
  | [], _ => .ok (withDefaults s.parameters (byPosition ++ byName))
  | _, some p =>
    .ok (withDefaults s.parameters (byPosition ++ byName ++ [(p.name, others.toMapping)]))
  | (name, _) :: _, none => .error (.unexpected name)

/-- A signature accepts a call without arguments. -/
def acceptsNothing (s : Signature) : Bool :=
  match s.bind [] [] with
  | .ok _ => true
  | .error _ => false

/-- The signature of a function that was read through a receiver: its first positional parameter is
taken.  Without one there is none, unless further positional arguments are taken anyway. -/
def afterReceiver? (s : Signature) : Option Signature :=
  match s.parameters with
  | [] => none
  | p :: more =>
    if p.takesPosition then some { s with parameters := more }
    else if p.kind = .rest then some s
    else none

end Signature

end SqlTemplate
