import SqlTemplate.Session
import SqlTemplate.Validation
/-!
# Compiling and binding

`Job.compile` compiles a template or takes it from a cache; `Job.bindText` compiles a text and binds it
to an invocation at once.  A `Declared` statement is compiled and checked against its method when it is
declared, and bound at each call.
-/

namespace SqlTemplate

open Text

/-- The failure that a fault of parsing is, with the text it is about. -/
def ParseFault.toFailure (table : TypeTable) (source : String) : ParseFault → Failure
  | .malformed ⟨fault, position⟩ =>
    let cause :=
      match fault with
      | .badPath path => some (Failure.ofMessage .valueError path.message)
      | _ => none
    .fault (.badTemplate fault.message (some source) (some position)) cause
  | .badDeclaration fault =>
    .fault (.badTemplate ("Invalid placeholder in declared types: " ++ fault.message) (some source)
      none) (some (.ofMessage .valueError fault.message))
  | .unknownType name => .fault (.unknownType name table.knownNames) none

namespace Job

/-! ## Compiling -/

/-- Compiles a template anew. -/
def parse (table : TableId) (source : String) (types : List (String × String)) :
    Job CompiledTemplate := do
  let session ← get
  let table := session.table table
  match Template.parse table source types with
  | .error fault => throw (fault.toFailure table source)
  | .ok template =>
    set { session with compiled := session.compiled + 1 }
    return ⟨session.compiled, template⟩

/-- The key under which a compiled template is kept. -/
def keyOf (table : TableId) (source : String) (types : List (String × String)) : CacheKey :=
  .compilation source types table

/-- Gives what a cache has under a key, or what a job gives. -/
def getOrCompile (cache : CacheId) (key : CacheKey) (job : Job CompiledTemplate) :
    Job CompiledTemplate :=
  Cache.getOrCompute (Session.cachePlace cache) key job

/-- Compiles a template, or takes it from a cache. -/
def compileIn (cache : CacheId) (table : TableId) (source : String)
    (types : List (String × String)) : Job CompiledTemplate :=
  getOrCompile cache (keyOf table source types) (parse table source types)

/-- Compiles a template with the table and the cache in use. -/
def compile (source : String) (types : List (String × String)) : Job CompiledTemplate := do
  compileIn (← get).current Session.standardTable source types

/-! ## Binding -/

/-- Binds a template to an invocation, as settings say. -/
def bindTemplate (template : Template) (invocation : Invocation) (settings : Settings) :
    Job Statement := do
  let style ← style settings.paramstyle
  run (Statement.bind settings.paramstyle style (Strategy.standard settings.strictKeys) template
    invocation)

/-- Compiles a text and binds it to an invocation, as settings say. -/
def bindText (source : String) (types : List (String × String)) (invocation : Invocation)
    (settings : Settings) : Job Statement := do
  let compiled ← compile source types
  bindTemplate compiled.template invocation settings

end Job

/-! ## Declared statements -/

/-- A statement that belongs to a method. -/
structure Declared where
  method : Method
  template : Template
  paramstyle : String
  style : MarkerStyle
  chain : List Strategy

namespace Declared

/-- Declares the statement of a method: the template is compiled and checked first, and the marker style
is looked up then. -/
def declare (method : Method) (source : String) (types : List (String × String))
    (settings : Settings) : Job Declared := do
  let compiled ← Job.compile source types
  Job.ofFault (method.validate compiled.template)
  let style ← Job.style settings.paramstyle
  return ⟨method, compiled.template, settings.paramstyle, style,
    Strategy.standard settings.strictKeys⟩

/-- Binds the arguments of a call; the keyword `self` belongs to the statement itself. -/
def invocation (declared : Declared) (positional : List Value) (keywords : Arguments) :
    Except InvocationFault Invocation :=
  if hasName "self" keywords then .error (.reserved "SqlStatement.__call__" "self")
  else Invocation.bindCall declared.method positional keywords

/-- Calls the statement. -/
def call (declared : Declared) (positional : List Value) (keywords : Arguments) :
    Run Statement := do
  match declared.invocation positional keywords with
  | .error fault => Run.fail (.typeError fault.message)
  | .ok invocation =>
    Statement.bind declared.paramstyle declared.style declared.chain declared.template invocation

end Declared

end SqlTemplate
