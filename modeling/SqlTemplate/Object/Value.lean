import SqlTemplate.Number.Binary64
/-!
# Values

The values that a method is called with and that placeholders resolve to.  Numbers, texts and
containers are plain data.  Objects, their classes and functions have an identity and may change or
run code, so a value only refers to them: what a reference means is kept by the world.

A mapping keeps its entries in insertion order, with each key once.
-/

namespace SqlTemplate

/-- A reference to an object. -/
abbrev ObjectId := Nat

/-- A reference to a class. -/
abbrev ClassId := Nat

/-- A reference to a function. -/
abbrev FunctionId := Nat

/-- The built-in mappings. -/
inductive MappingKind where
  | plain
  | ordered
  /-- A read-only view of a plain mapping. -/
  | view
  deriving DecidableEq, Repr

/-- A value. -/
inductive Value where
  | null
  | bool (value : Bool)
  | int (value : Int)
  | real (value : Binary64)
  | text (value : String)
  | bytes (value : List UInt8)
  | list (items : List Value)
  | tuple (items : List Value)
  | mapping (kind : MappingKind) (entries : List (Value × Value))
  | object (id : ObjectId)
  | type (id : ClassId)
  | function (id : FunctionId)
  /-- A function that was read through a receiver and is called with it in front. -/
  | method (receiver : Value) (id : FunctionId)
  /-- A method that every value of a built-in kind has. -/
  | builtinMethod (receiver : Value) (name : String)
  /-- A computed property, as it is found in its class. -/
  | property (getter : FunctionId)
  /-- A declared place for an attribute, as it is found in its class, with the name of that class. -/
  | place (owner : String) (name : String)
  /-- Any other thing that stands in a class, by the name of its kind. -/
  | descriptor (kind : String)
  deriving Repr, Inhabited

namespace Value

/-- The name of the kind of a built-in mapping. -/
def mappingKindName : MappingKind → String
  | .plain => "dict"
  | .ordered => "OrderedDict"
  | .view => "mappingproxy"

/-- The integer that a value counts as when keys are compared. -/
def asInt? : Value → Option Int
  | bool b => some (if b then 1 else 0)
  | int i => some i
  | real x => x.toInt?
  | _ => none

mutual

/-- Two values are equal as keys: numbers by what they count, texts and byte strings by content,
tuples part by part, and references by identity. -/
def sameKey : Value → Value → Bool
  | null, null => true
  | bool a, bool b => a == b
  | bool a, int b => (if a then 1 else 0) == b
  | int a, bool b => a == (if b then 1 else 0)
  | int a, int b => a == b
  | real a, real b => a.sameNumber b
  | real a, bool b => a.toInt? == some (if b then 1 else 0)
  | real a, int b => a.toInt? == some b
  | bool a, real b => b.toInt? == some (if a then 1 else 0)
  | int a, real b => b.toInt? == some a
  | text a, text b => a == b
  | bytes a, bytes b => a == b
  | tuple as, tuple bs => sameKeys as bs
  | object a, object b => a == b
  | type a, type b => a == b
  | function a, function b => a == b
  | _, _ => false

/-- Two tuples are equal as keys part by part. -/
def sameKeys : List Value → List Value → Bool
  | [], [] => true
  | a :: as, b :: bs => sameKey a b && sameKeys as bs
  | _, _ => false

end

instance : BEq Value := ⟨sameKey⟩

/-- Entries of a mapping with one put in: it replaces the value of an equal key in its place, and a
new key comes last. -/
def put (key value : Value) : List (Value × Value) → List (Value × Value)
  | [] => [(key, value)]
  | entry :: rest =>
    if sameKey entry.1 key then (entry.1, value) :: rest else entry :: put key value rest

/-- The entries that a list of keys and values makes. -/
def entriesOf (pairs : List (Value × Value)) : List (Value × Value) :=
  pairs.foldl (fun entries pair => put pair.1 pair.2 entries) []

/-- The value under a key. -/
def entry? (key : Value) (entries : List (Value × Value)) : Option Value :=
  (entries.find? fun entry => sameKey entry.1 key).map (·.2)

end Value

end SqlTemplate
