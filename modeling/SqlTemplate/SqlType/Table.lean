import SqlTemplate.Named
import SqlTemplate.SqlType
import SqlTemplate.Text.Blank
import SqlTemplate.Text.UpperCase
/-!
# Type names

A type is declared by name, and a name may be spelled in many ways: `varchar(40)`, ` VARCHAR `,
`character  varying`.  `normalName` brings the spellings together.  It drops a parenthesised argument
list at the end, makes every run of blanks between words one space, and takes the upper case of the
rest.  A `TypeTable` maps normal forms to types; registering a name replaces the entry of its normal
form.

An argument list starts at the first opening parenthesis that no line feed separates from the closing
one, which must be the last character that is not blank.
-/

namespace SqlTemplate

open Text

/-- What stands in front of the first opening parenthesis that has no line feed after it. -/
def beforeArguments : List Char → Option (List Char)
  | [] => none
  | c :: rest =>
    if c = '(' && !rest.contains '\n' then some [] else (beforeArguments rest).map (c :: ·)

/-- A type name without its argument list, if it has one. -/
def withoutArguments (name : List Char) : List Char :=
  match (trimEnd name).getLast? with
  | some ')' => (beforeArguments (trimEnd name).dropLast).getD name
  | _ => name

/-- The form in which spellings of one type name agree. -/
def normalName (name : String) : String :=
  String.ofList (upper ([' '].intercalate (words (withoutArguments name.toList))))

/-- A table from normal type names to types. -/
structure TypeTable where
  entries : List (String × SqlType)
  deriving DecidableEq, Repr

namespace TypeTable

/-- The common spellings that are no type's own name. -/
def commonAliases : List (String × SqlType) :=
  [("BOOL", .boolean), ("BYTEA", .varBinary), ("CHARACTER", .char), ("CHARACTER VARYING", .varChar),
   ("DATETIME", .timestamp), ("DEC", .decimal), ("DOUBLE PRECISION", .double), ("INT", .integer),
   ("INT2", .smallInt), ("INT4", .integer), ("INT8", .bigInt), ("NUMBER", .numeric),
   ("STRING", .varChar), ("TEXT", .longVarChar), ("VARCHAR2", .varChar), ("XML", .sqlXml)]

/-- The table every other one extends: each type but `unknown` by its own name, and the common
aliases. -/
def standard : TypeTable where
  entries := ((SqlType.all.erase .unknown).map fun type => (type.name, type)) ++ commonAliases

instance : Inhabited TypeTable := ⟨standard⟩

/-- The type stored under a normal name. -/
def get? (table : TypeTable) (normal : String) : Option SqlType :=
  table.entries.lookup normal

/-- The table with a name registered for a type, whatever the spelling of the name. -/
def register (table : TypeTable) (name : String) (type : SqlType) : TypeTable where
  entries := setNamed (normalName name) type table.entries

/-- The type that a declared name denotes. -/
def find? (table : TypeTable) (name : String) : Option SqlType :=
  table.get? (normalName name)

/-- The accepted names in ascending order. -/
def knownNames (table : TypeTable) : List String :=
  (table.entries.map (·.1)).mergeSort (fun a b => decide (a ≤ b))

end TypeTable

end SqlTemplate
