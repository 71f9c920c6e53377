import SqlTemplate.Object.Perform
/-!
# Equal keys

The keys of a mapping and of a cache are compared in two steps.  First their hashes are, which tell most unequal
keys apart at once, and then, if these agree, the keys themselves.  An object's class may define both steps,
by `__hash__` and `__eq__`.  What may change has no hash, and so is no key.

The hash of a value is a value again: the number for a number, and for most others a value that no other
value has for its hash.
-/

namespace SqlTemplate

open Text

/-- A key with its hash. -/
structure HashedKey where
  key : Value
  hash : Value
  deriving Repr

namespace Run

/-! ## Hashes -/

/-- Numbers have the same hash if they differ by a multiple of this. -/
def hashModulus : Nat := Nat.pow 2 61 - 1

/-- The hash of a number.  No hash is minus one. -/
def hashOfInt (i : Int) : Int :=
  let rest := Int.tmod i hashModulus
  if rest = -1 then -2 else rest

/-- The hash of an object; its class may define it. -/
def hashOfObject (id : ObjectId) : Run Value := do
  let w ← get
  let value := Value.object id
  match w.specialMember? value "__hash__" with
  | some member =>
    match ← readSpecial id "__hash__" member with
    | .null => fail (w.unhashable value)
    | method =>
      match ← callValue method [] with
      | .bool b => return .int (if b then 1 else 0)
      | .int i => return .int (if -Int.pow 2 63 ≤ i && i < Int.pow 2 63 && i != -1 then i else hashOfInt i)
      | _ => fail (.typeError "__hash__ method should return an integer")
  | none =>
    match w.mappingBase? (w.object id).kind with
    | some .builtin => fail (w.unhashable value)
    | some .protocol => fail (w.unhashable value)
    | _ => return value

mutual

/-- The hash of a value, if it has one. -/
def hashOf : Value → Run Value
  | .bool b => return .int (if b then 1 else 0)
  | .int i => return .int (hashOfInt i)
  | .real x => return ((x.toInt?.map fun i => Value.int (hashOfInt i)).getD (.real x))
  | .tuple items => return .tuple (← hashOfItems items)
  | .list items => do fail ((← get).unhashable (.list items))
  | .mapping kind entries => do fail ((← get).unhashable (.mapping kind entries))
  | .object id => hashOfObject id
  | value => return value

/-- The hashes of items. -/
def hashOfItems : List Value → Run (List Value)
  | [] => return []
  | item :: more => do
    let hash ← hashOf item
    return hash :: (← hashOfItems more)

end

/-! ## Equality -/

/-- The class of an object inherits from that of another one. -/
def isRefined (w : World) (id other : ObjectId) : Bool :=
  (w.classOf (w.object id).kind).ancestors.contains (w.object other).kind

/-- What the class of an object says about whether it equals a value, if it says anything. -/
def saysEqual? (id : ObjectId) (other : Value) : Run (Option Bool) := do
  match (← get).specialMember? (.object id) "__eq__" with
  | none => return none
  | some member => return some (← truth (← callSpecial id "__eq__" member [other]))

/-- An object equals a value, by what their classes say.  The class of the object comes first, unless that of the
other one inherits from it. -/
def objectEqual (id : ObjectId) (other : Value) : Run Bool := do
  match other with
  | .object otherId =>
    if id = otherId then return true
    else
      let (first, second) := if isRefined (← get) otherId id then (otherId, id) else (id, otherId)
      match ← saysEqual? first (.object second) with
      | some answer => return answer
      | none => return (← saysEqual? second (.object first)).getD false
  | _ => return (← saysEqual? id other).getD false

mutual

/-- Two values are equal. -/
def equal : Value → Value → Run Bool
  | .tuple items, .tuple others => equalItems items others
  | .object id, other => objectEqual id other
  | value, .object id => objectEqual id value
  | value, other => return Value.sameKey value other

/-- Two tuples are equal part by part. -/
def equalItems : List Value → List Value → Run Bool
  | [], [] => return true
  | item :: more, other :: others => do
    if ← equal item other then equalItems more others else return false
  | _, _ => return false

end

/-! ## Entries -/

/-- A key with its hash, if it has one. -/
def hashed (key : Value) : Run HashedKey := do
  return ⟨key, ← hashOf key⟩

/-- A key that is given equals one that is kept. -/
def isKept (kept given : HashedKey) : Run Bool := do
  if Value.sameKey kept.hash given.hash then equal kept.key given.key else return false

/-- Entries with one put in: it replaces the value of an equal key in its place, and a new key comes last. -/
def putHashed (given : HashedKey) (value : Value) :
    List (HashedKey × Value) → Run (List (HashedKey × Value))
  | [] => return [(given, value)]
  | entry :: more => do
    if ← isKept entry.1 given then return (entry.1, value) :: more
    else return entry :: (← putHashed given value more)

/-- The entries of the mapping that keys and values make. -/
def entriesOf (pairs : List (Value × Value)) : Run (List (Value × Value)) := do
  let entries ← pairs.foldlM (fun entries pair => do putHashed (← hashed pair.1) pair.2 entries) []
  return entries.map fun entry => (entry.1.key, entry.2)

end Run

end SqlTemplate
