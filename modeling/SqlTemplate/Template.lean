import SqlTemplate.Path
import SqlTemplate.SqlType
/-!
# Compiled templates

A compiled template is an annotated SQL statement cut into fragments: literal text, parameters
(written `{name.sub}`) that are bound as values, and substitutions (written `{sql: name.sub}`) whose
value becomes part of the SQL text.  A template keeps its source text and never holds anything of
an invocation, so it can be shared between calls.
-/

namespace SqlTemplate

/-- A piece of a compiled template. -/
inductive Fragment where
  /-- SQL text as it is written. -/
  | literal (text : String)
  /-- A value bound to a marker, with its declared type. -/
  | parameter (path : Path) (type : SqlType)
  /-- A value written into the SQL text. -/
  | substitution (path : Path)
  deriving DecidableEq

namespace Fragment

/-- The path of a fragment that takes a value. -/
def path? : Fragment → Option Path
  | literal _ => none
  | parameter path _ => some path
  | substitution path => some path

/-- A fragment takes a value at each call. -/
def takesValue (fragment : Fragment) : Bool :=
  fragment.path?.isSome

/-- A fragment stands for a marker and a binding. -/
def binds : Fragment → Bool
  | parameter _ _ => true
  | _ => false

/-- A fragment as it is written in a template. -/
def text : Fragment → String
  | literal text => text
  | parameter path _ => "\x7b" ++ path.expression ++ "\x7d"
  | substitution path => "\x7bsql: " ++ path.expression ++ "\x7d"

/-- What the hash of a fragment is made of. -/
def hashParts : Fragment → String ⊕ Path × Option Int
  | literal text => .inl text
  | parameter path type => .inr (path, some type.hash)
  | substitution path => .inr (path, none)

end Fragment

/-- An annotated SQL statement and its fragments. -/
structure Template where
  source : String
  fragments : List Fragment
  deriving DecidableEq

namespace Template

/-- The fragments that take a value, in order. -/
def valueFragments (template : Template) : List Fragment :=
  template.fragments.filter (·.takesValue)

/-- The paths of the values a call has to resolve, in order. -/
def paths (template : Template) : List Path :=
  template.fragments.filterMap (·.path?)

/-- The number of markers, and of bindings, of each rendered call. -/
def markerCount (template : Template) : Nat :=
  template.fragments.countP (·.binds)

/-- A list of names with one added at its end unless it is there. -/
def addName (names : List String) (name : String) : List String :=
  if name ∈ names then names else names ++ [name]

/-- The method parameters a template refers to, each once, in order of first appearance. -/
def parameterNames (template : Template) : List String :=
  (template.paths.map (·.root)).foldl addName []

/-- Two templates have the same hash.  Equal templates do, and so do templates that differ only in types
of the same hash. -/
def hashesLike (a b : Template) : Bool :=
  a.source == b.source && a.fragments.map (·.hashParts) == b.fragments.map (·.hashParts)

/-- The fragments written one after the other. -/
def text (template : Template) : String :=
  String.join (template.fragments.map (·.text))

end Template

end SqlTemplate
