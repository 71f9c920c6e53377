import SqlTemplate.Object.Equality
/-!
# Mappings

Three operations are made on mappings: testing for a key, looking an item up, and asking for the value
of a key that may be absent.  For a built-in mapping they are pure.  An object's class may define each
of them by a method (`__contains__`, `__getitem__`, `get`), and what it does not define follows from how it
comes to be a mapping: an extension of the built-in mapping looks into its entries, an implementation
of the protocol goes through its item lookup, and a class that is only declared a mapping has nothing.

Whether an object is a mapping is asked of the class it says it has, and then of the class it has.
-/

namespace SqlTemplate

open Text

namespace Run

/-- What an object says its class is gets looked up among known classes: that takes a weak reference to it, and
then a hash. -/
def seekClass (said : Value) : Run Unit := do
  let w ← get
  let isWeak :=
    match said with
    | .mapping .ordered _ => true
    | .object id => w.hasWeakReferences (w.object id).kind
    | _ => false
  if isWeak then
    let _ ← hashOf said

/-- A value is a mapping. -/
def isMapping (value : Value) : Run Bool := do
  match value with
  | .mapping _ _ => return true
  | .object id =>
    match ← read value "__class__" with
    | .type said =>
      let w ← get
      return (w.mappingBase? said).isSome || (w.mappingBase? (w.object id).kind).isSome
    | said =>
      seekClass said
      fail (.typeError "issubclass() arg 1 must be a class")
  | _ => return false

/-! ## Searching -/

/-- Some value that `next` gives equals a key; at most `bound` of them are looked at. -/
def searchFrom (next : Nat → Run (Option Value)) (key : Value) (index : Nat) : Nat → Run Bool
  | 0 => return false
  | bound + 1 => do
    match ← next index with
    | none => return false
    | some found =>
      if ← equal found key then return true else searchFrom next key (index + 1) bound

/-- What a computation gives, or nothing if a failure of one of some classes ends it. -/
def endedBy (classes : List StandardFailure) (run : Run Value) : Run (Option Value) :=
  orElse (some <$> run) fun failure =>
    if classes.any failure.isA then return none else fail failure

/-- The item of an object under a number, as long as there are items. -/
def nextItem (id : ObjectId) (member : Member) (index : Nat) : Run (Option Value) :=
  endedBy [.indexError, .stopIteration] (callSpecial id "__getitem__" member [.int index])

/-- What an iterator gives next, as long as it gives something. -/
def nextGiven (id : ObjectId) (member : Member) (_ : Nat) : Run (Option Value) :=
  endedBy [.stopIteration] (callSpecial id "__next__" member [])

/-- What an iterator over an object gives equals a key.  The iterator has to be an object that gives values. -/
def searchIterator (id : ObjectId) (member : Member) (key : Value) : Run Bool := do
  let notIterable := (← get).notIterable (.object id)
  let iterator ← orElse (callSpecial id "__iter__" member []) fun failure =>
    fail (if failure.isA .typeError then notIterable else failure)
  let w ← get
  match iterator, w.specialMember? iterator "__next__" with
  | .object it, some next => searchFrom (nextGiven it next) key 0 w.depth
  | _, _ => fail notIterable

/-- A mapping has a key. -/
def hasKey (value : Value) (key : Value) : Run Bool := do
  let w ← get
  match value with
  | .mapping _ entries => return (Value.entry? key entries).isSome
  | .object id =>
    let o := w.object id
    match w.specialMember? value "__contains__" with
    | some member =>
      match ← readSpecial id "__contains__" member with
      | .null => fail (.typeError (w.label 200 value ++ " object is not a container"))
      | method => truth (← callValue method [key])
    | none =>
      match w.mappingBase? o.kind with
      | some .builtin => return (Value.entry? key o.entries).isSome
      | some .protocol =>
        orElse (do let _ ← item value key; return true) fun failure =>
          if failure.isA .keyError then return false else fail failure
      | _ =>
        match w.specialMember? value "__iter__", w.specialMember? value "__getitem__" with
        | some member, _ => searchIterator id member key
        | none, some member => searchFrom (nextItem id member) key 0 w.depth
        | none, none => fail (w.notIterable value)
  | _ => fail (w.notIterable value)

/-- The value of a mapping under a key, or what it gives for an absent one. -/
def valueOf (value : Value) (key : Value) : Run Value := do
  callValue (← read value "get") [key]

end Run

end SqlTemplate
