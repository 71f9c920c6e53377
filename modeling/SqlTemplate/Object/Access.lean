import SqlTemplate.Object.Refusal
/-!
# Reading attributes and calling values

Reading an attribute of an object may run functions: a property computes its value at each reading, a
lazy member at its first, an object that stands in the class may take part in the reading, and a class may
intercept all readings (`__getattribute__`) or supply what ordinary lookup does not find (`__getattr__`).
Functions in turn read attributes.

The definitions here take the way this is done for what is nested inside as an argument, an `Inner`.
-/

namespace SqlTemplate

open Text

/-- How functions are called and attributes are read, one level further inside. -/
structure Inner where
  call : FunctionId → List Value → Run Value
  read : Value → String → Run Value
  /-- Calls a built-in method of a value by name. -/
  builtin : Value → String → List Value → Run Value
  /-- Calls a member that the class of an object has under a name, as a method of the object. -/
  special : ObjectId → String → Member → List Value → Run Value

namespace Run

/-! ## Calling values -/

/-- The class of an object that a class made is the class or inherits from it. -/
def isInstance (w : World) (value : Value) (c : ClassId) : Bool :=
  match value with
  | .object id => (w.lineage (w.object id).kind).contains c
  | _ => false

/-- The entries that a built-in mapping is made of from arguments: at most one, a mapping or something with no
items.  The characters of a text are no pairs of keys and values. -/
def entriesFor (w : World) : List Value → Except Failure (List (Value × Value))
  | [] => .ok []
  | [.text s] =>
    if s = "" then .ok []
    else
      .error (.ofMessage .valueError
        "dictionary update sequence element #0 has length 1; 2 is required")
  | [given] =>
    match w.entriesOf? given with
    | some entries => .ok entries
    | none => .error (.typeError (w.label 200 given ++ " object is not iterable"))
  | arguments =>
    .error (.typeError ("dict expected at most 1 argument, got " ++ toString arguments.length))

/-- Prepares an object that a class made: by its `__init__`, or else with the entries of a built-in mapping. -/
def prepare (inner : Inner) (id : ObjectId) (arguments : List Value) : Run Unit := do
  let w ← get
  let kind := (w.object id).kind
  match w.ownMember? kind "__init__" with
  | some member =>
    match ← inner.special id "__init__" member arguments with
    | .null => return
    | other =>
      fail (.typeError ("__init__() should return None, not " ++ (← get).label 200 other))
  | none =>
    if w.mappingBase? kind = some .builtin then
      let entries ← MonadExcept.ofExcept (entriesFor w arguments)
      modify (·.updateObject id fun o => { o with entries })

/-- A new object of a class, as it is before anything prepares it. -/
def newObject (c : ClassId) (entries : List (Value × Value)) : Run ObjectId := do
  let w ← get
  if !(w.classOf c).pending.isEmpty then fail (w.isAbstract c)
  else
    let (id, w) := w.addObject { Object.ofKind c with entries }
    set w
    return id

/-- Makes an object of a class.  The class may define how by `__new__`, and what that gives is prepared if it is
of the class. -/
def make (inner : Inner) (c : ClassId) (arguments : List Value) : Run Value := do
  let w ← get
  let makeBy := fun f => do
    let made ← inner.call f (.type c :: arguments)
    match made with
    | .object id =>
      if isInstance (← get) made c then prepare inner id arguments
      return made
    | _ => return made
  match w.ownMember? c "__new__" with
  | some (.value (.function f)) => makeBy f
  | some (.static f) => makeBy f
  | _ =>
    let isPlain := (w.ownMember? c "__init__").isNone && w.mappingBase? c != some .builtin
    if isPlain && !arguments.isEmpty then fail (w.takesNothing c)
    else
      let id ← newObject c []
      prepare inner id arguments
      return .object id

/-- Calls a value. -/
def callWith (inner : Inner) (f : Value) (arguments : List Value) : Run Value := do
  match f with
  | .function id => inner.call id arguments
  | .method receiver id => inner.call id (receiver :: arguments)
  | .builtinMethod receiver name => inner.builtin receiver name arguments
  | .type c => make inner c arguments
  | .object id =>
    let w ← get
    match w.specialMember? f "__call__" with
    | some member => inner.special id "__call__" member arguments
    | none => fail (w.notCallable f)
  | _ => fail ((← get).notCallable f)

/-! ## Members as values -/

/-- A built-in routine as it stands in a class. -/
def routineIn (name : String) : Value :=
  .descriptor (if operatorRoutines.contains name then "wrapper_descriptor" else "method_descriptor")

/-- A member of a class as it stands there. -/
def standing (w : World) (c : ClassId) (name : String) : Member → Value
  | .value value => value
  | .static _ => .descriptor "staticmethod"
  | .classwide _ => .descriptor "classmethod"
  | .property getter => .property getter
  | .lazy _ => .descriptor "cached_property"
  | .slot => .place (w.declaring c name) name
  | .routine => routineIn name
  | .field => .descriptor "getset_descriptor"
  | .constant => ((w.classConstants c).lookup name).getD .null

/-- What is read when a value stands in a class: an object there may take part in the reading.  There is a receiver
unless the class itself is read. -/
def readStanding (inner : Inner) (value : Value) (receiver : Option Value) (owner : ClassId) :
    Run Value := do
  let w ← get
  match value, receiver with
  | .function f, some receiver => return .method receiver f
  | .object id, _ =>
    let arguments := [value, receiver.getD .null, .type owner]
    match w.specialMember? value "__get__" with
    | some (.static f) => inner.call f arguments
    | some member =>
      callWith inner (standing w (w.object id).kind "__get__" member) arguments
    | none => return value
  | _, _ => return value

/-! ## Reading, as if nothing intercepted it -/

/-- A piece of built-in data of a value, the place of an object's attributes apart. -/
def readField (w : World) (value : Value) (name : String) : Value :=
  match value, name with
  | .object id, "__class__" => .type (w.object id).kind
  | .object _, _ => .null
  | .type c, "__class__" => .descriptor (w.kindName (.type c))
  | _, "__class__" => .descriptor "type"
  | .bool b, "real" => .int (if b then 1 else 0)
  | .bool b, "numerator" => .int (if b then 1 else 0)
  | .bool _, "imag" => .int 0
  | .bool _, "denominator" => .int 1
  | .int i, "real" => .int i
  | .int i, "numerator" => .int i
  | .int _, "imag" => .int 0
  | .int _, "denominator" => .int 1
  | .real x, "real" => .real x
  | .real _, "imag" => .real ⟨0⟩
  | .property getter, "fget" => .function getter
  | .function id, "__name__" => .text (w.function id).name
  | .type c, "__name__" => .text (w.classOf c).name
  | .type c, "__qualname__" => .text (w.classOf c).name
  | .type c, "__module__" => .text (w.moduleName c)
  | .type _, "__dict__" => .descriptor "mappingproxy"
  | .type _, "__weakref__" => .descriptor "getset_descriptor"
  | _, _ => .null

/-- The mapping that holds the attributes of an object. -/
def readPlace (id : ObjectId) : Run Value := do
  let (place, w) := (← get).placeOf id
  set w
  return .object place

/-- What stands for the absence of a value. -/
def absent : Value := .descriptor "object"

/-- A value stands for absence. -/
def isAbsent : Value → Bool
  | .descriptor "object" => true
  | _ => false

/-- Looks a name up in a place of attributes, by the lookup the place has. -/
def lookUp (inner : Inner) (place : Value) (name : String) : Run (Option Value) := do
  let found ← callWith inner (← inner.read place "get") [.text name, absent]
  return if isAbsent found then none else some found

/-- Sets the item of a value under a name. -/
def setItem (inner : Inner) (target : Value) (name : String) (value : Value) : Run Unit := do
  let w ← get
  match target with
  | .object id =>
    match w.specialMember? target "__setitem__" with
    | some member =>
      let _ ← inner.special id "__setitem__" member [.text name, value]
    | none =>
      if w.mappingBase? (w.object id).kind = some .builtin then
        modify (·.updateObject id fun o => { o with entries := Value.put (.text name) value o.entries })
      else fail (w.fixedItems target)
  | .mapping .plain _ => return
  | .mapping .ordered _ => return
  | _ => fail (w.fixedItems target)

/-- Reads a lazy member: its value is what the place of attributes has, and is computed and stored there
if that has none.  The place is asked twice, the second time when nothing else can change it. -/
def readLazy (inner : Inner) (id : ObjectId) (name : String) (getter : FunctionId) : Run Value := do
  let w ← get
  let receiver := Value.object id
  let place ← orElse (inner.read receiver "__dict__") fun failure =>
    fail (if failure.isA .attributeError then w.noPlace receiver name else failure)
  match ← lookUp inner place name with
  | some value => return value
  | none =>
    match ← lookUp inner place name with
    | some value => return value
    | none =>
      let value ← inner.call getter [receiver]
      orElse (setItem inner place name value) fun failure =>
        fail (if failure.isA .typeError then w.readOnlyPlace receiver name else failure)
      return value

/-- What is read of an object when lookup in its class gives a member. -/
def readMember (inner : Inner) (id : ObjectId) (name : String) (member : Member) : Run Value := do
  let w ← get
  let receiver := Value.object id
  let kind := (w.object id).kind
  match member with
  | .value value => readStanding inner value (some receiver) kind
  | .static f => return .function f
  | .classwide f => return .method (.type kind) f
  | .property getter => inner.call getter [receiver]
  | .lazy getter => readLazy inner id name getter
  | .slot =>
    match (w.object id).slots.lookup name with
    | some value => return value
    | none => fail (w.emptySlot receiver name)
  | .routine =>
    if operatorRoutines.contains name then return .descriptor "method-wrapper"
    else return .builtinMethod receiver name
  | .field => if name = "__dict__" then readPlace id else return readField w receiver name
  | .constant => return ((w.classConstants kind).lookup name).getD .null

/-- What is read of a class when lookup in it gives a member. -/
def readClassMember (inner : Inner) (c : ClassId) (name : String) (member : Member) : Run Value := do
  let w ← get
  match member with
  | .value value => readStanding inner value none c
  | .static f => return .function f
  | .classwide f => return .method (.type c) f
  | .field => return readField w (.type c) name
  | member => return standing w c name member

/-- Reads an attribute the ordinary way. -/
def readOrdinary (inner : Inner) (value : Value) (name : String) : Run Value := do
  let w ← get
  match value with
  | .object id =>
    match w.classMember? (w.object id).kind name, (w.attributesOf id).lookup name with
    | some member, some stored =>
      if w.governs member then readMember inner id name member else return stored
    | some member, none => readMember inner id name member
    | none, some stored => return stored
    | none, none => fail (w.missingAttribute value name)
  | .type c =>
    match w.member? value name with
    | some member => readClassMember inner c name member
    | none => fail (w.missingAttribute value name)
  | _ =>
    match value.builtinMember? name with
    | some .field => return readField w value name
    | some _ => return .builtinMethod value name
    | none => fail (w.missingAttribute value name)

/-- What a class has as a mere object under a name, besides its members. -/
def bareData? (w : World) (c : ClassId) (name : String) : Option Value :=
  if classFields.contains name then some (readField w (.type c) name)
  else if name = "__weakref__" && w.adds (w.classOf c) name then some (standing w c name .field)
  else if name = "__slots__" then (w.classOf c).slots.map fun slots => .tuple (slots.map .text)
  else none

/-- Reads an attribute as of a mere object: a class is taken for one whose attributes are its own members, as
they stand there. -/
def readBare (inner : Inner) (value : Value) (name : String) : Run Value := do
  let w ← get
  match value with
  | .type c =>
    let isFixed :=
      classFields.contains name && ["__annotations__", "__doc__", "__module__"].all (· != name)
    match (w.classOf c).member? name, bareData? w c name with
    | some member, _ => return if isFixed then readField w value name else standing w c name member
    | none, some data => return data
    | none, none =>
      fail (.attributeError (w.label 50 value ++ " object has no attribute '" ++ name ++ "'"))
  | _ => readOrdinary inner value name

/-! ## Reading -/

/-- Calls a member that the class of an object has for an operation, as a method of the object. -/
def callMember (inner : Inner) (id : ObjectId) (name : String) (member : Member)
    (arguments : List Value) : Run Value := do
  callWith inner (← readMember inner id name member) arguments

/-- Reads an attribute. -/
def readWith (inner : Inner) (value : Value) (name : String) : Run Value := do
  let w ← get
  match value with
  | .object id =>
    let kind := (w.object id).kind
    let first :=
      match w.ownMember? kind "__getattribute__" with
      | some member => callMember inner id "__getattribute__" member [.text name]
      | none => readOrdinary inner value name
    match w.ownMember? kind "__getattr__" with
    | none => first
    | some member =>
      orElse first fun failure =>
        if failure.isA .attributeError then
          callMember inner id "__getattr__" member [.text name]
        else fail failure
  | _ => readOrdinary inner value name

/-! ## Truth -/

/-- The integer that a value stands for where an integer is needed; the class of an object may define it. -/
def indexWith (inner : Inner) (value : Value) : Run Int := do
  match value with
  | .bool b => return if b then 1 else 0
  | .int i => return i
  | .object id =>
    let w ← get
    match w.specialMember? value "__index__" with
    | some member =>
      match ← callMember inner id "__index__" member [] with
      | .bool b => return if b then 1 else 0
      | .int i => return i
      | other =>
        fail (.typeError ("__index__ returned non-int (type " ++
          clipped 200 ((← get).formalName other) ++ ")"))
    | none => fail (w.notIndex value)
  | _ => fail ((← get).notIndex value)

/-- A value counts as true.  An object's class may define that by a method, or else define its length, which
must be a number that is not negative; an object without a length counts as true. -/
def truthWith (inner : Inner) (value : Value) : Run Bool := do
  let w ← get
  match value with
  | .object id =>
    match w.specialMember? value "__bool__", w.specialMember? value "__len__" with
    | some member, _ =>
      match ← callMember inner id "__bool__" member [] with
      | .bool b => return b
      | other =>
        fail (.typeError ("__bool__ should return bool, returned " ++ (← get).formalName other))
    | none, some member =>
      let length ← indexWith inner (← callMember inner id "__len__" member [])
      if length < 0 then fail (.ofMessage .valueError "__len__() should return >= 0")
      else if Int.pow 2 63 ≤ length then
        fail (.ofMessage .overflowError "cannot fit 'int' into an index-sized integer")
      else return length != 0
    | none, none => return w.isTrue value
  | _ => return w.isTrue value

/-- A value, or another one if it does not count as true. -/
def orOther (inner : Inner) (value other : Value) : Run Value := do
  if ← truthWith inner value then return value else return other

/-! ## Items and built-in methods -/

/-- The item of a mapping under a key, given how its methods are called. -/
def itemWith (inner : Inner) (value : Value) (key : Value) : Run Value := do
  let w ← get
  let missing := Failure.plain (.standard .keyError) [key]
  match value with
  | .mapping _ entries =>
    match Value.entry? key entries with
    | some found => return found
    | none => fail missing
  | .object id =>
    match w.specialMember? value "__getitem__" with
    | some member => callMember inner id "__getitem__" member [key]
    | none =>
      let o := w.object id
      match w.mappingBase? o.kind, Value.entry? key o.entries with
      | some .builtin, some found => return found
      | some .protocol, some found => return found
      | some .builtin, none =>
        match w.specialMember? value "__missing__" with
        | some member => callMember inner id "__missing__" member [key]
        | none => fail missing
      | some .protocol, none => fail missing
      | _, _ => fail (w.noItems value)
  | _ => fail (w.noItems value)

/-- What a built-in method does.  A mapping's `get` gives the second argument, or null, for an absent key;
that of a built-in mapping does not ask the methods of its class. -/
def callBuiltin (inner : Inner) (receiver : Value) (name : String) (arguments : List Value) :
    Run Value := do
  let w ← get
  let otherwise := (arguments[1]?).getD .null
  match receiver, name, arguments.head? with
  | .real x, "is_integer", none => return .bool x.isIntegral
  | .mapping _ entries, "get", some key => return (Value.entry? key entries).getD otherwise
  | .object id, "get", some key =>
    match w.mappingBase? (w.object id).kind with
    | some .builtin => return (Value.entry? key (w.object id).entries).getD otherwise
    | _ =>
      orElse (itemWith inner receiver key) fun failure =>
        if failure.isA .keyError then return otherwise else fail failure
  | _, _, none => fail (.typeError (name ++ " expected at least 1 argument, got 0"))
  | _, _, _ => fail (.typeError (name ++ "() cannot be called here"))

end Run

end SqlTemplate
