/-!
# Named things

Type names, arguments, attributes and members are kept as lists of pairs in which each name stands
once, in the order in which the names came in.  `List.lookup` finds the thing of a name; `setNamed` sets
it in its place.
-/

namespace SqlTemplate

/-- A list with the thing of a name set: it replaces the one it has in its place, and a new name comes
last. -/
def setNamed {α : Type} (name : String) (thing : α) : List (String × α) → List (String × α)
  | [] => [(name, thing)]
  | entry :: rest =>
    if entry.1 = name then (name, thing) :: rest else entry :: setNamed name thing rest

/-- A list without the thing of a name. -/
def withoutName {α : Type} (name : String) (entries : List (String × α)) : List (String × α) :=
  entries.filter (·.1 != name)

/-- A list has a thing of a name. -/
def hasName {α : Type} (name : String) (entries : List (String × α)) : Bool :=
  entries.any (·.1 == name)

/-- The list that names and things make when they are set one after the other. -/
def namedOfList {α : Type} (pairs : List (String × α)) : List (String × α) :=
  pairs.foldl (fun entries pair => setNamed pair.1 pair.2 entries) []

end SqlTemplate
