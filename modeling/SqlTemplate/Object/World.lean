import SqlTemplate.Object.Failure
/-!
# The world of objects

Values refer to objects, classes and functions, and the world holds what these are: the attributes of
the objects, the members of the classes, and what the functions do.  Resolving a placeholder may run
functions, and running them changes the world: attributes are set, computed values are stored, and
every call leaves an entry in the log.  What functions read is noted as well.  The state that a failing
run leaves behind stays.

A computation that may do this is a `Run`.
-/

namespace SqlTemplate

/-! ## Functions -/

/-- What a function that has been called does in the end. -/
inductive Outcome where
  /-- Fails with a failure of a class, which may be one that the code declares; an argument that is left out is the
  second parameter. -/
  | fail (kind : FailureClass) (arguments : List (Option Value))
  /-- Gives an attribute of the first parameter, read the ordinary way. -/
  | read (name : String)
  /-- Gives the number of times it has been done. -/
  | count
  /-- Gives the second parameter in upper case. -/
  | upper
  | give (value : Value)
  deriving Repr, Inhabited

/-- What a call of a function does once it is clear what it is called for. -/
structure Step where
  /-- Tells the steps of a world apart, for counting. -/
  id : Nat
  /-- Attributes of the first parameter that are set first. -/
  assignments : List (String × Value)
  outcome : Outcome
  deriving Repr, Inhabited

/-- What a function does. -/
inductive Action where
  /-- Depends on the second parameter. -/
  | choose (cases : List (String × Action)) (otherwise : Action)
  /-- Reads the attribute that the second parameter names, as if the function were not there.  Such a
  call is not logged. -/
  | ordinary
  | perform (step : Step)
  deriving Repr, Inhabited

/-- What an action comes down to. -/
inductive Choice where
  | ordinary
  | perform (step : Step)
  deriving Repr, Inhabited

mutual

/-- What an action comes down to for a second parameter. -/
def Action.select (argument : Option Value) : Action → Choice
  | .choose cases otherwise => Action.selectCase argument (Action.select argument otherwise) cases
  | .ordinary => .ordinary
  | .perform step => .perform step

/-- The choice of the first case for a second parameter, if there is one. -/
def Action.selectCase (argument : Option Value) (otherwise : Choice) :
    List (String × Action) → Choice
  | [] => otherwise
  | (text, action) :: more =>
    match argument with
    | some (.text given) =>
      if given = text then Action.select argument action
      else Action.selectCase argument otherwise more
    | _ => otherwise

end

/-- A function: its full name, which also marks its calls in the log, its signature, and what it
does. -/
structure Function where
  name : String
  signature : Signature
  action : Action
  deriving Repr, Inhabited

/-! ## Classes and objects -/

/-- What stands in a class under a name. -/
inductive Member where
  /-- A value.  A function among them is a method: read through an object, it takes the object as its
  first argument. -/
  | value (value : Value)
  /-- A function that takes no receiver. -/
  | static (function : FunctionId)
  /-- A function that takes the class as its receiver. -/
  | classwide (function : FunctionId)
  /-- A value computed at each reading. -/
  | property (getter : FunctionId)
  /-- A value computed at the first reading and then stored as an attribute. -/
  | lazy (getter : FunctionId)
  /-- A place for an attribute of each object. -/
  | slot
  /-- A method that is built in. -/
  | routine
  /-- A piece of built-in data that each object has. -/
  | field
  /-- A piece of built-in data that the class has. -/
  | constant
  deriving Repr, Inhabited

/-- How a class comes to be one of mappings. -/
inductive MappingBase where
  /-- It extends the built-in mapping. -/
  | builtin
  /-- It implements the mapping protocol: lookups go through its own item lookup. -/
  | protocol
  /-- It is only declared to be a mapping. -/
  | declared
  deriving DecidableEq, Repr

/-- A class. -/
structure Class where
  name : String
  /-- The classes it inherits from, the nearest first. -/
  ancestors : List ClassId
  members : List (String × Member)
  /-- The places for attributes that it declares, if it declares any.  Objects of a class without
  such a declaration, here or in an ancestor, may have any attributes. -/
  slots : Option (List String)
  mapping : Option MappingBase
  /-- The built-in mapping that the class itself is, if it is one. -/
  standard : Option MappingKind
  /-- The members that are left to be defined: there can be no objects of the class before. -/
  pending : List String
  deriving Repr, Inhabited

namespace Class

/-- A class with a name and members, and nothing else. -/
def ofMembers (name : String) (members : List (String × Member)) : Class :=
  ⟨name, [], members, none, none, none, []⟩

/-- The class of the built-in mappings of a kind.  Ordered ones have attributes like other objects. -/
def ofMappings (kind : MappingKind) : Class where
  name := Value.mappingKindName kind
  ancestors := []
  members := []
  slots := some (if kind = .ordered then ["__dict__", "__weakref__"] else [])
  mapping := some .builtin
  standard := some kind
  pending := []

end Class

/-- An object: its class, its attributes, what its slots hold, and the entries of a mapping. -/
structure Object where
  kind : ClassId
  /-- The attributes, as long as no other place holds them. -/
  attributes : List (String × Value)
  slots : List (String × Value)
  entries : List (Value × Value)
  /-- The mapping that holds the attributes, once there is one: others may see it and put entries into it. -/
  place : Option ObjectId
  deriving Repr, Inhabited

namespace Object

/-- An object of a class without any attributes. -/
def ofKind (kind : ClassId) : Object :=
  ⟨kind, [], [], [], none⟩

end Object

/-! ## The world -/

/-- All classes, functions and objects, and what has been done with them. -/
structure World where
  classes : List Class
  functions : List Function
  objects : List Object
  /-- The steps done so far. -/
  done : List Nat
  /-- The calls made so far. -/
  calls : List String
  /-- The attributes that functions have read of their first parameters so far. -/
  reads : List (Value × String)
  /-- How deep calls and containers may be nested. -/
  depth : Nat
  deriving Repr

namespace World

/-- A world without anything in it but the classes of the built-in mappings. -/
def empty : World := ⟨[.ofMappings .plain, .ofMappings .ordered], [], [], [], [], [], 985⟩

instance : Inhabited World := ⟨empty⟩

/-- The class that is referred to. -/
def classOf (w : World) (id : ClassId) : Class := w.classes.getD id default

/-- The function that is referred to. -/
def function (w : World) (id : FunctionId) : Function := w.functions.getD id default

/-- The object that is referred to. -/
def object (w : World) (id : ObjectId) : Object := w.objects.getD id default

/-- The world with a class added, and the reference to it. -/
def addClass (w : World) (c : Class) : ClassId × World :=
  (w.classes.length, { w with classes := w.classes ++ [c] })

/-- The world with a function added, and the reference to it. -/
def addFunction (w : World) (f : Function) : FunctionId × World :=
  (w.functions.length, { w with functions := w.functions ++ [f] })

/-- The world with an object added, and the reference to it. -/
def addObject (w : World) (o : Object) : ObjectId × World :=
  (w.objects.length, { w with objects := w.objects ++ [o] })

/-- The world with an object changed. -/
def updateObject (w : World) (id : ObjectId) (change : Object → Object) : World :=
  { w with objects := w.objects.modify id change }

/-- The world with a class changed. -/
def updateClass (w : World) (id : ClassId) (change : Class → Class) : World :=
  { w with classes := w.classes.modify id change }

/-- The world with a call added to the log. -/
def log (w : World) (entry : String) : World :=
  { w with calls := w.calls ++ [entry] }

/-- The world with a reading of an attribute noted. -/
def noteRead (w : World) (target : Value) (name : String) : World :=
  { w with reads := w.reads ++ [(target, name)] }

/-! ### Shared mappings and attributes -/

/-- The class of the built-in mappings of a kind that others may see. -/
def mappingClass : MappingKind → ClassId
  | .ordered => 1
  | _ => 0

/-- The world with a mapping that others may see, and the reference to it. -/
def share (w : World) (kind : MappingKind) (entries : List (Value × Value)) : ObjectId × World :=
  w.addObject { Object.ofKind (mappingClass kind) with entries }

/-- The entries of a mapping that have texts as keys, as attributes. -/
def namedEntries (entries : List (Value × Value)) : List (String × Value) :=
  entries.filterMap fun entry =>
    match entry.1 with
    | .text name => some (name, entry.2)
    | _ => none

/-- The attributes of an object. -/
def attributesOf (w : World) (id : ObjectId) : List (String × Value) :=
  match (w.object id).place with
  | none => (w.object id).attributes
  | some place => namedEntries (w.object place).entries

/-- The world with an attribute of an object set. -/
def setAttribute (w : World) (id : ObjectId) (name : String) (value : Value) : World :=
  match (w.object id).place with
  | none => w.updateObject id fun o => { o with attributes := setNamed name value o.attributes }
  | some place =>
    w.updateObject place fun o => { o with entries := Value.put (.text name) value o.entries }

/-- The world with a mapping as the place of the attributes of an object. -/
def setPlace (w : World) (id place : ObjectId) : World :=
  w.updateObject id fun o => { o with attributes := [], place := some place }

/-- The mapping that holds the attributes of an object, made if there is none yet. -/
def placeOf (w : World) (id : ObjectId) : ObjectId × World :=
  match (w.object id).place with
  | some place => (place, w)
  | none =>
    let entries := (w.object id).attributes.map fun entry => (Value.text entry.1, entry.2)
    let (place, w) := w.share .plain entries
    (place, w.setPlace id place)

end World

/-! ## Computations in the world -/

/-- A computation that may fail and may change the world; a failure keeps the changes. -/
abbrev Run := ExceptT Failure (StateM World)

namespace Run

/-- Runs a computation from a world. -/
def start {α : Type} (run : Run α) (w : World) : Except Failure α × World :=
  run w

/-- Fails. -/
def fail {α : Type} (failure : Failure) : Run α :=
  throw failure

/-- Does something, and something else if that fails. -/
def orElse {α : Type} (run : Run α) (handler : Failure → Run α) : Run α :=
  tryCatch run handler

end Run

end SqlTemplate
