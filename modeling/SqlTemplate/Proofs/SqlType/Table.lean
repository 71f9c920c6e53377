import SqlTemplate.Proofs.Named
import SqlTemplate.SqlType.Table
/-!
# Names in a type table

Registering a name is for all spellings of it, and for no other name (`find?_register`). So a table that knows a name
knows it ever after, whatever is registered.
-/

namespace SqlTemplate.TypeTable

variable {table : TypeTable}

theorem get?_register (table : TypeTable) (name : String) (type : SqlType) (normal : String) :
    (table.register name type).get? normal = if normal = normalName name then some type else table.get? normal :=
  lookup_setNamed _ _ _ _

theorem find?_register (table : TypeTable) (name : String) (type : SqlType) (other : String) :
    (table.register name type).find? other
      = if normalName other = normalName name then some type else table.find? other :=
  get?_register table name type (normalName other)

/-- A table knows each of the names that another one knows. -/
def Knows (table known : TypeTable) : Prop :=
  ∀ name, (known.find? name).isSome = true → (table.find? name).isSome = true

theorem Knows.refl (table : TypeTable) : table.Knows table :=
  fun _ h => h

theorem Knows.trans {earlier later : TypeTable} (h : later.Knows table) (hearlier : table.Knows earlier) :
    later.Knows earlier :=
  fun name hname => h name (hearlier name hname)

theorem knows_register (table : TypeTable) (name : String) (type : SqlType) :
    (table.register name type).Knows table := by
  intro other hother
  rw [find?_register]
  split
  · rfl
  · exact hother

end SqlTemplate.TypeTable
