import SqlTemplate.Object.Equality
/-!
# Cache keys

A compiled template is kept under the text it was compiled from, the types declared for it and the
table these types were looked up in.  The declared types count as a set: their order makes no
difference to the key.  Any value that has a hash may be a key as well.  Its class may say what it equals, so such
a key is first put in the form in which it is kept (`CacheKey.ofValue`).
-/

namespace SqlTemplate

/-- A reference to a type table. -/
abbrev TableId := Nat

/-- A key of the template cache. -/
inductive CacheKey where
  | value (key : HashedKey)
  | compilation (source : String) (types : List (String × String)) (table : TableId)
  deriving Repr

namespace CacheKey

/-- Two keys denote the same entry. -/
def same : CacheKey → CacheKey → Bool
  | value a, value b => a.hash == b.hash && a.key == b.key
  | compilation source types table, compilation source' types' table' =>
    source == source' && types.isPerm types' && table == table'
  | _, _ => false

instance : BEq CacheKey := ⟨same⟩

/-- The first of some keys that a key equals, or else the key itself. -/
def settle (given : HashedKey) : List CacheKey → Run CacheKey
  | [] => return .value given
  | .value kept :: more => do
    if ← Run.isKept kept given then return .value kept else settle given more
  | .compilation .. :: more => settle given more

/-- The key that a value is among the keys that are kept. -/
def ofValue (kept : List CacheKey) (value : Value) : Run CacheKey := do
  settle (← Run.hashed value) kept

end CacheKey

end SqlTemplate
