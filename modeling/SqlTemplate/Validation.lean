import SqlTemplate.Invocation
import SqlTemplate.Template
/-!
# Validation

A template can be checked against a method before any call: the root of every placeholder has to be a
parameter of the method.  What comes after the root depends on the values of a call and is not
checked.
-/

namespace SqlTemplate

namespace Method

/-- The first placeholder of a template whose root is no parameter. -/
def unknownPath? (method : Method) (template : Template) : Option Path :=
  template.paths.find? fun path => !method.hasParameter path.root

/-- Checks a template; the fault names the first placeholder with an unknown root. -/
def validate (method : Method) (template : Template) : Except Fault Unit :=
  match method.unknownPath? template with
  | none => .ok ()
  | some path => .error (.unknownParameter path.root path.expression method.parameterNames)

/-- The roots that are no parameters, in order of first appearance. -/
def unknownParameters (method : Method) (template : Template) : List String :=
  template.parameterNames.filter fun name => !method.hasParameter name

end Method

end SqlTemplate
