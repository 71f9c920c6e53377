import SqlTemplate.Object.Failure
/-!
# Invocations

A placeholder path starts at a parameter of the method that a statement belongs to.  `Method` is what is
known of the method: its name, its parameters, and its signature if it was declared as a function.  An
`Invocation` pairs it with the arguments of one call, by name.

The arguments are bound by the signature.  A method that is known by its parameters' names only takes
either positional arguments, one for each parameter, or positional and keyword arguments merged.
-/

namespace SqlTemplate

open Text

/-- A formal parameter and what is declared of its type. -/
structure FormalParameter where
  name : String
  hint : TypeHint
  deriving DecidableEq, Repr

/-- A method, as far as binding arguments needs it. -/
structure Method where
  name : String
  parameters : List FormalParameter
  signature? : Option Signature
  deriving Repr, Inhabited

namespace Method

/-- A method known by the names of its parameters. -/
def ofNames (name : String) (names : List String) : Method :=
  ⟨name, names.map fun parameter => ⟨parameter, .absent⟩, none⟩

/-- The method that a function with a signature declares. -/
def ofSignature (name : String) (signature : Signature) : Method :=
  ⟨name, signature.parameters.map fun p => ⟨p.name, p.hint⟩, some signature⟩

/-- The names of the parameters, in order. -/
def parameterNames (method : Method) : List String :=
  method.parameters.map (·.name)

/-- A method has a parameter of a name. -/
def hasParameter (method : Method) (name : String) : Bool :=
  method.parameters.any (·.name == name)

/-- Methods are the same if they agree in name and parameters; the signature is not compared. -/
def same (a b : Method) : Bool :=
  a.name == b.name && a.parameters == b.parameters

end Method

/-- A method and the arguments of one call. -/
structure Invocation where
  method : Method
  arguments : Arguments
  deriving Repr, Inhabited

/-- Why arguments cannot be bound to a method. -/
inductive InvocationFault where
  /-- A method known by its parameters' names got another number of arguments. -/
  | wrongCount (method : String) (takes given : Nat)
  | misfit (fault : BindFault)
  /-- A keyword is taken by the operation itself. -/
  | reserved (operation keyword : String)
  deriving DecidableEq, Repr

/-- The message of a fault. -/
def InvocationFault.message : InvocationFault → String
  | .wrongCount method takes given =>
    method ++ "() takes " ++ toString takes ++ " argument(s) but " ++ toString given ++ " were given"
  | .misfit fault => fault.message
  | .reserved operation keyword =>
    operation ++ "() got multiple values for argument " ++ quote keyword

namespace Invocation

/-- The invocation of a method with arguments by name. -/
def ofArguments (method : Method) (pairs : List (String × Value)) : Invocation :=
  ⟨method, namedOfList pairs⟩

/-- The invocation of a method with one argument for each parameter, in order. -/
def ofPositions (method : Method) (values : List Value) : Except InvocationFault Invocation :=
  if values.length = method.parameters.length then
    .ok (ofArguments method (method.parameterNames.zip values))
  else .error (.wrongCount method.name method.parameters.length values.length)

/-- The invocation of a method with positional and keyword arguments. -/
def bind (method : Method) (positional : List Value) (keywords : Arguments) :
    Except InvocationFault Invocation :=
  match method.signature? with
  | some signature =>
    match signature.bind positional keywords with
    | .ok arguments => .ok (ofArguments method arguments)
    | .error fault => .error (.misfit fault)
  | none =>
    if keywords.isEmpty then ofPositions method positional
    else .ok (ofArguments method (method.parameterNames.zip positional ++ keywords))

/-- Binding as a call with arbitrary keywords sees it: the names `method` and `cls` belong to the
operation. -/
def bindCall (method : Method) (positional : List Value) (keywords : Arguments) :
    Except InvocationFault Invocation :=
  match keywords.find? fun argument => argument.1 = "method" || argument.1 = "cls" with
  | some argument => .error (.reserved "InvocationContext.bind" argument.1)
  | none => bind method positional keywords

/-- The value of a parameter; `path` is what the message shows. -/
def argument (invocation : Invocation) (name path : String) : Except Fault Value :=
  match invocation.arguments.lookup name with
  | some value =>
    if invocation.method.hasParameter name then .ok value
    else .error (.unknownParameter name path invocation.method.parameterNames)
  | none => .error (.unknownParameter name path invocation.method.parameterNames)

end Invocation

end SqlTemplate
