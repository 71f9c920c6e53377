/-!
# Caches

A cache keeps what has been computed for a key, and when it is full it gives up what has not been used
for the longest time.  The entries stand in the order of their last use, the least recent one first.

`getOrCompute` looks a key up and computes what is not there.  The computation may use the cache
itself: it may look up other keys or the same one, and empty the cache.  When it is done, an entry
that has come to stand under the key in the meantime wins over its own result, so all that ask for a
key are given the same thing.  A computation that fails stores nothing.
-/

namespace SqlTemplate

/-- A cache of bounded size, least recently used entries first. -/
structure Cache (κ α : Type) where
  maxSize : Nat
  entries : List (κ × α)
  deriving Repr

namespace Cache

variable {κ α : Type} [BEq κ]

/-- The cache of a size with nothing in it. -/
def empty (maxSize : Nat) : Cache κ α := ⟨maxSize, []⟩

/-- The number of entries. -/
def size (cache : Cache κ α) : Nat := cache.entries.length

/-- The cache without its entries. -/
def clear (cache : Cache κ α) : Cache κ α := { cache with entries := [] }

/-- What stands under a key. -/
def get? (cache : Cache κ α) (key : κ) : Option α :=
  (cache.entries.find? (·.1 == key)).map (·.2)

/-- Something stands under a key. -/
def contains (cache : Cache κ α) (key : κ) : Bool :=
  (cache.get? key).isSome

/-- The entries with a use of a key: its entry comes last. -/
def moveToEnd (key : κ) : List (κ × α) → List (κ × α)
  | [] => []
  | entry :: more => if entry.1 == key then more ++ [entry] else entry :: moveToEnd key more

/-- The cache after a use of a key. -/
def touch (cache : Cache κ α) (key : κ) : Cache κ α :=
  { cache with entries := moveToEnd key cache.entries }

/-- Stores something under a key unless something stands there, makes the key the last one used, and
gives up the least recently used entries beyond the size.  Gives what stands under the key then. -/
def publish (cache : Cache κ α) (key : κ) (value : α) : α × Cache κ α :=
  let published := (cache.get? key).getD value
  let entries :=
    if cache.contains key then moveToEnd key cache.entries else cache.entries ++ [(key, value)]
  (published, { cache with entries := entries.drop (entries.length - cache.maxSize) })

end Cache

/-- Where a state keeps a part of it. -/
structure Place (σ β : Type) where
  get : σ → β
  set : β → σ → σ

namespace Place

/-- The state itself. -/
def whole {σ : Type} : Place σ σ := ⟨id, fun part _ => part⟩

/-- The state with the part changed. -/
def modify {σ β : Type} (place : Place σ β) (change : β → β) (state : σ) : σ :=
  place.set (change (place.get state)) state

end Place

namespace Cache

variable {κ α σ ε : Type} [BEq κ]

/-- Gives what the cache at a place has for a key, or else what a computation gives, and stores that.
A cache of size zero stores nothing. -/
def getOrCompute (place : Place σ (Cache κ α)) (key : κ) (compute : ExceptT ε (StateM σ) α) :
    ExceptT ε (StateM σ) α := do
  match (place.get (← get)).get? key with
  | some value =>
    modify (place.modify (·.touch key))
    return value
  | none =>
    let value ← compute
    if (place.get (← get)).maxSize = 0 then return value
    else
      let (published, cache) := (place.get (← get)).publish key value
      modify (place.set cache)
      return published

end Cache

end SqlTemplate
