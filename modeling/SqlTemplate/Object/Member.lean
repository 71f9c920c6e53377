import SqlTemplate.Object.World
import SqlTemplate.Text.Identifier
/-!
# Finding members

A member of a value is found without running anything: `World.member?` looks into the object's own
attributes and into its class and that class's ancestors.  What is found in the class comes before the
object's attributes when it governs them (a property, a slot, built-in data of the object, or an object that
takes part in both reading and setting), and after them otherwise.  `Member.isRoutine` tells the members that
are called from those that are read.

An object that stands in a class takes part in reading the attribute of its name if its own class defines
`__get__`, and in setting that attribute if its class defines `__set__` or `__delete__`.

Built-in values have members too.  Only the data among them and the routines that accessors may be
named like are listed; every other name is a routine or absent, which comes to the same for lookup.
-/

namespace SqlTemplate

open Text

namespace Member

/-- A member of a class that comes before the attributes of its objects, whatever objects stand there. -/
def governs : Member → Bool
  | property _ => true
  | slot => true
  | field => true
  | _ => false

/-- A member that is called, and so is no data of its object, whatever objects stand there. -/
def isRoutine : Member → Bool
  | value (.function _) => true
  | value (.method _ _) => true
  | value (.builtinMethod _ _) => true
  | static _ => true
  | classwide _ => true
  | lazy _ => true
  | routine => true
  | _ => false

end Member

/-! ## Slots -/

/-- The slots that stand for all further attributes and for weak references. -/
def specialSlots : List String := ["__dict__", "__weakref__"]

/-- The name of a slot of a class.  A slot that is private to the class, by two underscores in front and
not at the end, is named for the class, unless that has no other characters than underscores. -/
def slotName (className slot : String) : String :=
  let owner := className.toList.dropWhile (· == '_')
  let text := slot.toList
  let isOwn := ['_', '_'].isPrefixOf text && !(['_', '_'].isSuffixOf text)
  if isOwn && !owner.isEmpty then String.ofList ('_' :: owner ++ text) else slot

namespace Class

/-- The names of the places for attributes that a class declares. -/
def places (c : Class) : List String :=
  ((c.slots.getD []).filter fun slot => !specialSlots.contains slot).map (slotName c.name)

/-- The objects of a class have something, or would without a declaration of slots. -/
def provides (c : Class) (slot : String) : Bool :=
  match c.slots with
  | none => true
  | some slots => slots.contains slot

/-- The member a class itself has under a name.  A class that defines equality and no hash has none. -/
def member? (c : Class) (name : String) : Option Member :=
  match c.members.lookup name with
  | some member => some member
  | none =>
    if c.places.contains name then some .slot
    else if name = "__hash__" && hasName "__eq__" c.members then some (.value .null)
    else none

end Class

/-! ## Built-in members -/

/-- The routines of the built-in mapping that have a public name. -/
def mappingRoutines : List String :=
  ["clear", "copy", "fromkeys", "get", "items", "keys", "pop", "popitem", "setdefault", "update",
   "values"]

/-- The routines of the mapping protocol that have a public name. -/
def protocolRoutines : List String :=
  ["get", "items", "keys", "values"]

/-- The routines that every object has for the operations on all values. -/
def operatorRoutines : List String :=
  ["__delattr__", "__eq__", "__ge__", "__getattribute__", "__gt__", "__hash__", "__init__", "__le__",
   "__lt__", "__ne__", "__repr__", "__setattr__", "__str__"]

/-- The other routines that every object has. -/
def commonRoutines : List String :=
  ["__dir__", "__format__", "__getstate__", "__init_subclass__", "__new__", "__reduce__",
   "__reduce_ex__", "__sizeof__", "__subclasshook__"]

/-- The data that a class has as a value, besides its members. -/
def classFields : List String :=
  ["__abstractmethods__", "__annotations__", "__base__", "__bases__", "__basicsize__", "__class__",
   "__dict__", "__dictoffset__", "__doc__", "__flags__", "__itemsize__", "__module__", "__mro__",
   "__name__", "__qualname__", "__text_signature__", "__weakrefoffset__"]

/-- The data of a value of a built-in kind, private names first. -/
def Value.fields : Value → List String
  | .null => ["__class__", "__doc__"]
  | .bool _ => ["__class__", "__doc__", "real", "imag", "numerator", "denominator"]
  | .int _ => ["__class__", "__doc__", "real", "imag", "numerator", "denominator"]
  | .real _ => ["__class__", "__doc__", "real", "imag"]
  | .text _ => ["__class__", "__doc__"]
  | .bytes _ => ["__class__", "__doc__"]
  | .list _ => ["__class__", "__doc__", "__hash__"]
  | .tuple _ => ["__class__", "__doc__"]
  | .mapping .ordered _ => ["__class__", "__doc__", "__hash__", "__dict__"]
  | .mapping _ _ => ["__class__", "__doc__", "__hash__"]
  | .object _ => []
  | .type _ => classFields
  | .function _ =>
    ["__annotations__", "__builtins__", "__class__", "__closure__", "__code__", "__defaults__",
     "__dict__", "__doc__", "__globals__", "__kwdefaults__", "__module__", "__name__",
     "__qualname__"]
  | .method _ _ => ["__class__", "__doc__", "__func__", "__self__"]
  | .builtinMethod _ _ =>
    ["__class__", "__doc__", "__module__", "__name__", "__qualname__", "__self__",
     "__text_signature__"]
  | .property _ => ["__class__", "__doc__", "__isabstractmethod__", "fget", "fset", "fdel"]
  | .place _ _ | .descriptor _ =>
    ["__class__", "__doc__", "__name__", "__objclass__", "__qualname__"]

/-- The member of a value of a built-in kind under a name. -/
def Value.builtinMember? (value : Value) (name : String) : Option Member :=
  if value.fields.contains name then some .field
  else
    match value with
    | .real _ => if name = "is_integer" then some .routine else none
    | .mapping _ _ => if mappingRoutines.contains name then some .routine else none
    | _ => none

namespace World

/-! ## Members of classes -/

/-- A class and all it inherits from, the class first. -/
def lineage (w : World) (c : ClassId) : List ClassId :=
  c :: (w.classOf c).ancestors

/-- The member that a class defines or inherits under a name, built-in ones apart. -/
def ownMember? (w : World) (c : ClassId) (name : String) : Option Member :=
  (w.lineage c).findSome? fun k => (w.classOf k).member? name

/-- How a class comes to be one of mappings, if it is.  A declaration counts for less than what the class
extends or implements, and of these what it inherits counts first. -/
def mappingBase? (w : World) (c : ClassId) : Option MappingBase :=
  let bases := ((w.lineage c).filterMap fun k => (w.classOf k).mapping).reverse
  match bases.find? (· != .declared) with
  | some base => some base
  | none => bases.head?

/-- A class, or one it inherits from, implements the mapping protocol, whatever else it extends. -/
def implementsProtocol (w : World) (c : ClassId) : Bool :=
  (w.lineage c).any fun k => (w.classOf k).mapping = some .protocol

/-- Objects of a class may have any attributes. -/
def hasFreeAttributes (w : World) (c : ClassId) : Bool :=
  (w.lineage c).any fun k => (w.classOf k).provides "__dict__"

/-- The built-in mapping that a class itself is, if it is one. -/
def standard? (w : World) (c : ClassId) : Option MappingKind := (w.classOf c).standard

/-- A class starts from the built-in mapping, and no class it inherits from does. -/
def startsMapping (w : World) (c : Class) : Bool :=
  c.mapping = some .builtin && !(c.ancestors.any fun k => (w.classOf k).mapping = some .builtin)

/-- The objects of some class among several have something. -/
def anyProvides (w : World) (classes : List ClassId) (slot : String) : Bool :=
  classes.any fun k => (w.classOf k).provides slot

/-- A class adds something to what it is built on. -/
def adds (w : World) (c : Class) (slot : String) : Bool :=
  if w.startsMapping c then c.provides slot || w.anyProvides c.ancestors slot
  else c.provides slot && !w.anyProvides c.ancestors slot

/-- What the objects of a class have under the name of a special slot.  A class that adds a place has it itself, after
what it defines under the name.  Weak references to a built-in mapping are kept elsewhere. -/
def placeMember? (w : World) (c : ClassId) (slot : String) : Option Member :=
  (w.lineage c).findSome? fun k =>
    let c := w.classOf k
    let isElsewhere := c.standard.isSome && slot = "__weakref__"
    match c.member? slot with
    | some member => some member
    | none => if w.adds c slot && !isElsewhere then some .field else none

/-- The name of the class, of a class and all it inherits from, that declares a place for an attribute. -/
def declaring (w : World) (c : ClassId) (name : String) : String :=
  let declares := fun k => (w.classOf k).places.contains name
  (w.classOf (((w.lineage c).find? declares).getD c)).name

/-- There can be weak references to the objects of a class. -/
def hasWeakReferences (w : World) (c : ClassId) : Bool :=
  (w.lineage c).any fun k => (w.classOf k).provides "__weakref__"

/-- The slots that the objects of a class are said to have: those of the nearest class that declares any. -/
def declaredSlots? (w : World) (c : ClassId) : Option (List String) :=
  match (w.lineage c).findSome? fun k => (w.classOf k).slots with
  | some slots => some slots
  | none => if w.mappingBase? c = some .protocol then some [] else none

/-- Where a class is said to be defined: an implementation of the mapping protocol is where the kind of
such classes is. -/
def moduleName (w : World) (c : ClassId) : String :=
  if w.implementsProtocol c then "abc" else "__main__"

/-- The name of a class with where it is defined in front. -/
def fullName (w : World) (c : ClassId) : String :=
  let name := (w.classOf c).name
  match w.standard? c, (w.classOf c).member? "__module__" with
  | some .ordered, _ => "collections." ++ name
  | some _, _ => name
  | none, some (.value (.text "builtins")) => name
  | none, some (.value (.text place)) => place ++ "." ++ name
  | none, some _ => name
  | none, none => w.moduleName c ++ "." ++ name

/-- The built-in data of a class, by name. -/
def classConstants (w : World) (c : ClassId) : List (String × Value) :=
  let mapping :=
    match w.mappingBase? c with
    | some .builtin => [("__hash__", Value.null)]
    | some .protocol => [("__hash__", .null), ("__reversed__", .null)]
    | _ => []
  let protocol :=
    if w.implementsProtocol c then
      [("__abstractmethods__", Value.descriptor "frozenset"), ("_abc_impl", .descriptor "_abc_data")]
    else []
  let slots :=
    match w.declaredSlots? c, w.standard? c with
    | some slots, none => [("__slots__", Value.tuple (slots.map .text))]
    | _, _ => []
  let place :=
    if (w.standard? c).isSome then [] else [("__module__", Value.text (w.moduleName c))]
  [("__doc__", Value.null)] ++ place ++ mapping ++ protocol ++ slots

/-- The built-in routines of the objects of a class, of those for mappings only the public ones. -/
def objectRoutines (w : World) (c : ClassId) : List String :=
  let mapping :=
    match w.mappingBase? c with
    | some .builtin => mappingRoutines
    | some .protocol => protocolRoutines
    | _ => []
  mapping ++ operatorRoutines ++ commonRoutines

/-- The member that a class has under a name, built-in ones last. -/
def classMember? (w : World) (c : ClassId) (name : String) : Option Member :=
  let own :=
    if specialSlots.contains name then w.placeMember? c name else w.ownMember? c name
  match own with
  | some member => some member
  | none =>
    if name = "__class__" then some .field
    else if hasName name (w.classConstants c) then some .constant
    else if (w.objectRoutines c).contains name then some .routine
    else none

/-! ## Members of values -/

/-- The member that the class of an object defines or inherits under a name: where the methods are found that
operations on all values call. -/
def specialMember? (w : World) (value : Value) (name : String) : Option Member :=
  match value with
  | .object id => w.ownMember? (w.object id).kind name
  | _ => none

/-- A value that stands in a class takes part in reading the attribute of its name. -/
def isReader (w : World) (value : Value) : Bool :=
  (w.specialMember? value "__get__").isSome

/-- A value that stands in a class takes part in setting the attribute of its name. -/
def isSetter (w : World) (value : Value) : Bool :=
  (w.specialMember? value "__set__").isSome || (w.specialMember? value "__delete__").isSome

/-- A member of a class comes before the attributes of its objects. -/
def governs (w : World) : Member → Bool
  | .value value => w.isReader value && w.isSetter value
  | member => member.governs

/-- A class, or one it inherits from, has a member in front of the place of attributes, so that the attributes
of its objects are not found without running anything. -/
def hidesAttributes (w : World) (c : ClassId) : Bool :=
  (w.ownMember? c "__dict__").isSome

/-- The member of an object under a name. -/
def objectMember? (w : World) (id : ObjectId) (name : String) : Option Member :=
  let kind := (w.object id).kind
  let stored := if w.hidesAttributes kind then none else (w.attributesOf id).lookup name
  match w.classMember? kind name, stored with
  | some member, some stored => if w.governs member then some member else some (.value stored)
  | some member, none => some member
  | none, some stored => some (.value stored)
  | none, none => none

/-- The member of a value under a name, found without running anything. -/
def member? (w : World) (value : Value) (name : String) : Option Member :=
  match value with
  | .object id => w.objectMember? id name
  | .type c =>
    match w.classMember? c name with
    | some member => some member
    | none => value.builtinMember? name
  | _ => value.builtinMember? name

/-- The name of the kind of a value: that of its class for an object. -/
def kindName (w : World) : Value → String
  | .null => "NoneType"
  | .bool _ => "bool"
  | .int _ => "int"
  | .real _ => "float"
  | .text _ => "str"
  | .bytes _ => "bytes"
  | .list _ => "list"
  | .tuple _ => "tuple"
  | .mapping kind _ => Value.mappingKindName kind
  | .object id => (w.classOf (w.object id).kind).name
  | .type c => if w.implementsProtocol c then "ABCMeta" else "type"
  | .function _ => "function"
  | .method _ _ => "method"
  | .builtinMethod _ _ => "builtin_function_or_method"
  | .property _ => "property"
  | .place _ _ => "member_descriptor"
  | .descriptor kind => kind

/-- The name of the kind of a value in messages about what the kind does not support. -/
def formalName (w : World) : Value → String
  | .mapping .ordered _ => "collections.OrderedDict"
  | .object id =>
    if w.standard? (w.object id).kind = some .ordered then "collections.OrderedDict"
    else w.kindName (.object id)
  | value => w.kindName value

/-- The entries of a value that is a mapping and keeps entries. -/
def entriesOf? (w : World) : Value → Option (List (Value × Value))
  | .mapping _ entries => some entries
  | .object id =>
    match w.mappingBase? (w.object id).kind with
    | some .builtin => some (w.object id).entries
    | some .protocol => some (w.object id).entries
    | _ => none
  | _ => none

/-- A value counts as true, as far as its class has no say in it. -/
def isTrue (w : World) : Value → Bool
  | .null => false
  | .bool b => b
  | .int i => i != 0
  | .real x => x.isTrue
  | .text s => s != ""
  | .bytes b => !b.isEmpty
  | .list items => !items.isEmpty
  | .tuple items => !items.isEmpty
  | .mapping _ entries => !entries.isEmpty
  | .object id => ((w.entriesOf? (.object id)).map fun entries => !entries.isEmpty).getD true
  | _ => true

end World

end SqlTemplate
