import SqlTemplate.Object.Perform
/-!
# Declaring classes

A class is declared with its members, and not every declaration is allowed: the places that it declares have to be
names that nothing else in the class has, and the objects of the classes it inherits from have to be built in
ways that go together.

A declaration may run code.  An object that stands in the class is told its name there (`__set_name__`), and then the
classes that it inherits from are told of it (`__init_subclass__`).  The members of an implementation of the mapping
protocol are asked whether they are left to be defined (`__isabstractmethod__`).
-/

namespace SqlTemplate

open Text

namespace World

/-- Why a special slot cannot be declared, if the objects of a class have it already. -/
def repeatedSlot (slot : String) : Failure :=
  .typeError (slot ++ " slot disallowed: " ++
    if slot = "__dict__" then "we already got one"
    else "either we already got one, or __itemsize__ != 0")

/-- The first fault of declared slots, where the objects have the special slots `present` already. -/
def slotFault? (present : List String) : List String → Option Failure
  | [] => none
  | slot :: more =>
    if !isIdentifier slot.toList then some (.typeError "__slots__ must be identifiers")
    else if !specialSlots.contains slot then slotFault? present more
    else if present.contains slot then some (repeatedSlot slot)
    else slotFault? (slot :: present) more

/-- Why a class cannot be declared as it is: the objects it inherits from do not go together, a slot is at fault, or
a place has the name of a member. -/
def classFault? (w : World) (c : Class) : Option Failure :=
  let isMixed := w.startsMapping c && c.ancestors.any fun k => !(w.classOf k).places.isEmpty
  let present :=
    if w.startsMapping c then []
    else specialSlots.filter (w.anyProvides c.ancestors)
  if isMixed then some (.typeError "multiple bases have instance lay-out conflict")
  else
    match slotFault? present (c.slots.getD []) with
    | some failure => some failure
    | none =>
      (c.places.find? fun place => place = "__slots__" || hasName place c.members).map fun place =>
        .ofMessage .valueError (quote place ++ " in __slots__ conflicts with class variable")

end World

namespace Run

/-- Tells an object that stands in a class the name it has there. -/
def tellName (c : ClassId) (name : String) : Member → Run Unit
  | .value value@(.object id) => do
    match (← get).specialMember? value "__set_name__" with
    | none => return
    | some member =>
      orElse (do let _ ← callSpecial id "__set_name__" member [.type c, .text name]) fun _ => do
        let w ← get
        fail (.ofMessage .runtimeError ("Error calling __set_name__ on " ++ w.label 100 value ++
          " instance " ++ quote name ++ " in '" ++ clipped 100 (w.classOf c).name ++ "'"))
  | _ => return

/-- Tells the classes that a class inherits from of it. -/
def tellAncestors (c : ClassId) : Run Unit := do
  let w ← get
  let name := "__init_subclass__"
  let told := (w.classOf c).ancestors.findSome? fun k => (w.classOf k).member? name
  match told with
  | none => return
  | some (.value (.function f)) => let _ ← call f [.type c]
  | some (.classwide f) => let _ ← call f [.type c]
  | some (.static f) => let _ ← call f []
  | some member => let _ ← callValue (standing w c name member) []

/-- A value is left to be defined. -/
def isPending (value : Value) : Run Bool := do
  match ← attribute? value "__isabstractmethod__" with
  | some answer => truth answer
  | none => return false

/-- What an implementation of the mapping protocol has to define. -/
def protocolDuties : List String := ["__getitem__", "__iter__", "__len__"]

/-- The names of members that a class may have inherited as left to be defined. -/
def inheritedDuties (w : World) (c : Class) : List String :=
  let inherited := (c.ancestors.head?.map fun k => (w.classOf k).pending).getD []
  if c.mapping = some .protocol then inherited ++ protocolDuties else inherited

/-- The names of the members of a class that are left to be defined. -/
def pendingMembers (id : ClassId) : Run (List String) := do
  let w ← get
  let c := w.classOf id
  let own ← c.members.filterM fun member =>
    match member.2 with
    | .value value => isPending value
    | _ => return false
  let inherited ← (inheritedDuties w c).filterM fun name => do
    match ← attribute? (.type id) name with
    | some value => isPending value
    | none => return false
  return (own.map (·.1) ++ inherited).eraseDups

/-- Declares a class. -/
def declare (c : Class) : Run ClassId := do
  let w ← get
  match w.classFault? c with
  | some failure => fail failure
  | none =>
    let (id, w) := w.addClass c
    set w
    c.members.forM fun member => tellName id member.1 member.2
    tellAncestors id
    if (← get).mappingBase? id = some .protocol then
      let pending ← pendingMembers id
      modify (·.updateClass id fun c => { c with pending })
    return id

end Run

end SqlTemplate
