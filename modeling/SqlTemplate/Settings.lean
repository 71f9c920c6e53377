import SqlTemplate.Object.World
/-!
# Settings

The settings say how many compiled templates are kept, in which style values are marked, and whether a
key must be present in a mapping.  Their fields are declared: each has a name, the kind of what it takes,
and what it is if nothing is given for it.

To read named values by such a declaration is left to a validation library, a `Validation`.  It refuses
what does not fit a field and names that are no field.  Settings do not change once they are made.
-/

namespace SqlTemplate

/-! ## Declared fields -/

/-- What a field takes. -/
inductive FieldKind where
  /-- Integers that are not less than a bound. -/
  | integer (least : Int)
  | text
  | switch
  deriving DecidableEq, Repr

/-- What there is in a field of a kind. -/
abbrev FieldKind.Carrier : FieldKind → Type
  | integer least => { i : Int // least ≤ i }
  | text => String
  | switch => Bool

/-- A field. -/
structure Field where
  name : String
  kind : FieldKind
  default : kind.Carrier

/-- What there is in fields. -/
abbrev Record : List Field → Type
  | [] => Unit
  | field :: more => field.kind.Carrier × Record more

/-- What there is in fields if nothing is given for them. -/
def Record.defaults : (fields : List Field) → Record fields
  | [] => ()
  | field :: more => (field.default, defaults more)

/-- A validation library. -/
structure Validation where
  /-- Something that is wrong with what is given. -/
  Fault : Type
  /-- What named values put in fields, or all that is wrong with them.  Objects may be asked what they
  stand for, which runs code. -/
  read : (fields : List Field) → List (String × Value) → Run (Except (List Fault) (Record fields))

/-! ## Settings -/

/-- All settings. -/
structure Settings where
  /-- How many compiled templates are kept. -/
  cacheSize : Nat
  /-- The name of the marker style. -/
  paramstyle : String
  /-- A key must be present in a mapping. -/
  strictKeys : Bool
  deriving DecidableEq, Repr

/-- The settings that concern the resolving of placeholders only. -/
structure ResolverSettings where
  strictKeys : Bool
  deriving DecidableEq, Repr

/-- The field that says whether a key must be present in a mapping. -/
def Field.strictKeys : Field := ⟨"strict_mapping_keys", .switch, false⟩

namespace ResolverSettings

def fields : List Field := [.strictKeys]

/-- The settings with what there is in the fields. -/
def ofRecord (record : Record fields) : ResolverSettings :=
  ⟨record.1⟩

/-- The settings if nothing is given. -/
def standard : ResolverSettings :=
  ofRecord (.defaults fields)

/-- The settings that named values make. -/
def read (library : Validation) (given : List (String × Value)) :
    Run (Except (List library.Fault) ResolverSettings) := do
  return (← library.read fields given).map ofRecord

end ResolverSettings

namespace Settings

def fields : List Field :=
  [⟨"cache_max_size", .integer 0, ⟨512, by decide⟩⟩, ⟨"paramstyle", .text, "qmark"⟩, .strictKeys]

/-- The settings with what there is in the fields. -/
def ofRecord (record : Record fields) : Settings :=
  ⟨record.1.1.toNat, record.2.1, record.2.2.1⟩

/-- The settings if nothing is given. -/
def standard : Settings :=
  ofRecord (.defaults fields)

instance : Inhabited Settings := ⟨standard⟩

/-- The settings that named values make. -/
def read (library : Validation) (given : List (String × Value)) :
    Run (Except (List library.Fault) Settings) := do
  return (← library.read fields given).map ofRecord

/-- The settings that concern the resolving of placeholders. -/
def resolver (settings : Settings) : ResolverSettings :=
  ⟨settings.strictKeys⟩

end Settings

end SqlTemplate
