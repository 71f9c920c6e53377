import SqlTemplate.Object.Access
/-!
# Setting attributes

An attribute of an object goes into its slot, or to an object in the class that takes part in setting it, or
among the attributes.  Two attributes are special: an object's class can be exchanged for one whose objects are
built alike, and the place of its attributes for another mapping.

How the objects of a class are built is told by what the class adds to those of the class it is built on: slots,
a place for attributes, and a place for weak references.
-/

namespace SqlTemplate

open Text

/-! ## How objects are built -/

/-- What a class adds to the objects of the one it is built on. -/
structure Addition where
  slots : List String
  hasPlace : Bool
  hasWeakReferences : Bool
  deriving DecidableEq, Repr

namespace Addition

/-- Nothing is added. -/
def isEmpty (addition : Addition) : Bool :=
  addition.slots.isEmpty && !addition.hasPlace && !addition.hasWeakReferences

end Addition

/-- What a class is built on. -/
inductive Ground where
  | object
  | mapping
  | protocol
  | extended (c : ClassId)
  deriving DecidableEq, Repr

/-- How objects are built: by an addition to a ground.  Classes that add nothing are left out. -/
structure Build where
  ground : Ground
  addition : Addition
  deriving DecidableEq, Repr

namespace World

/-- What a class adds to what it is built on. -/
def additionOf (w : World) (c : Class) : Addition where
  slots := c.places.mergeSort fun a b => decide (a ≤ b)
  hasPlace := w.adds c "__dict__"
  hasWeakReferences := w.adds c "__weakref__"

/-- How the objects of the first of some classes are built, each of which is built on the next. -/
def buildAlong (w : World) : List ClassId → Build
  | [] => ⟨.object, ⟨[], false, false⟩⟩
  | id :: more =>
    let c := w.classOf id
    let addition := w.additionOf c
    if w.startsMapping c then ⟨.mapping, addition⟩
    else if addition.isEmpty then buildAlong w more
    else
      match more with
      | parent :: _ => ⟨.extended parent, addition⟩
      | [] => ⟨if c.mapping = some .protocol then .protocol else .object, addition⟩

/-- How the objects of a class are built. -/
def buildOf (w : World) (c : ClassId) : Build :=
  w.buildAlong (w.lineage c)

end World

namespace Run

/-! ## Setting -/

/-- Exchanges the class of an object. -/
def setKind (id : ObjectId) (value : Value) : Run Unit := do
  let w ← get
  match value with
  | .type c =>
    let kind := (w.object id).kind
    if (w.standard? c).isSome || (w.standard? kind).isSome then
      fail World.fixedKind
    else if w.buildOf c = w.buildOf kind then
      modify (·.updateObject id fun o => { o with kind := c })
    else fail (World.otherLayout (w.classOf c).name (w.classOf kind).name)
  | _ => fail (w.notClass value)

/-- Exchanges the place of the attributes of an object. -/
def setPlace (id : ObjectId) (value : Value) : Run Unit := do
  let w ← get
  match value with
  | .mapping .view _ => fail (w.notPlace value)
  | .mapping kind entries =>
    let (place, w) := w.share kind entries
    set (w.setPlace id place)
  | .object place =>
    if w.mappingBase? (w.object place).kind = some .builtin then modify (·.setPlace id place)
    else fail (w.notPlace value)
  | _ => fail (w.notPlace value)

/-- The class that adds the place for weak references to the objects of a class: the first that does. -/
def weakOwner (w : World) (c : ClassId) : String :=
  let owner := (w.lineage c).reverse.find? fun k => (w.classOf k).provides "__weakref__"
  (w.classOf (owner.getD c)).name

/-- Sets an attribute of an object that is built in. -/
def setField (id : ObjectId) (name : String) (value : Value) : Run Unit := do
  if name = "__class__" then setKind id value
  else if name = "__dict__" then setPlace id value
  else
    let w ← get
    fail (World.fixedField (weakOwner w (w.object id).kind) name)

/-- Sets an attribute among those that an object may have freely. -/
def setFree (id : ObjectId) (name : String) (value : Value) (exists? : Bool) : Run Unit := do
  let w ← get
  if w.hasFreeAttributes (w.object id).kind then modify (·.setAttribute id name value)
  else fail (w.fixedAttribute (.object id) name exists?)

/-- The kind of numbers that some data of a number belongs to. -/
def numberKind? (target : Value) (name : String) : Option String :=
  if ["real", "imag", "numerator", "denominator"].all (· != name) then none
  else
    match target with
    | .bool _ => some "int"
    | .int _ => some "int"
    | .real _ => if name = "real" || name = "imag" then some "float" else none
    | _ => none

/-- Sets an attribute of a value of a built-in kind.  Only functions have any that can be set. -/
def assignBuiltin (target : Value) (name : String) (value : Value) : Run Unit := do
  let w ← get
  match name, value, numberKind? target name, target with
  | "__class__", .type _, _, _ => fail World.fixedKind
  | "__class__", _, _, _ => fail (w.notClass value)
  | _, _, some owner, _ => fail (World.fixedField owner name)
  | _, _, _, .function _ => return
  | _, _, _, _ => fail (w.fixedAttribute target name (target.builtinMember? name).isSome)

/-- Sets an attribute.  The attributes of a class are not set so. -/
def assign (inner : Inner) (target : Value) (name : String) (value : Value) : Run Unit := do
  let w ← get
  match target with
  | .object id =>
    match w.classMember? (w.object id).kind name with
    | some .slot => modify (·.updateObject id fun o => { o with slots := setNamed name value o.slots })
    | some (.property _) => fail (World.noSetter (w.kindName target) name)
    | some .field => setField id name value
    | some (.value (.object standing)) =>
      if w.isSetter (.object standing) then
        match w.specialMember? (.object standing) "__set__" with
        | some member =>
          let _ ← inner.special standing "__set__" member [target, value]
        | none => fail (.attributeError "__set__")
      else setFree id name value true
    | member => setFree id name value member.isSome
  | .type _ =>
    fail (.typeError ("can't apply this __setattr__ to " ++ w.kindName target ++ " object"))
  | _ => assignBuiltin target name value

end Run

end SqlTemplate
