import SqlTemplate.Object.Access
import SqlTemplate.Template
import SqlTemplate.Text.Marked
import SqlTemplate.TextClause
/-!
# A database toolkit

The toolkit that clauses are made with knows a type by its class, and with it the generic types that it is or
refines.  A value for which no type is given gets one that fits it: plain data have types of their own, and any
other value may offer a type, which is then asked to fit itself to the value.

A name in a text is all of the word characters behind a colon; there is none where a further colon ends them.
When a clause is compiled, a backslash that has kept a colon from marking a name is dropped, unless a further
colon ends that name.
-/

namespace SqlTemplate

/-- The name of a generic type. -/
def GenericType.name : GenericType → String
  | bigInteger => "BigInteger"
  | boolean => "Boolean"
  | date => "Date"
  | dateTime => "DateTime"
  | float => "Float"
  | integer => "Integer"
  | largeBinary => "LargeBinary"
  | null => "NullType"
  | numeric => "Numeric"
  | smallInteger => "SmallInteger"
  | string => "String"
  | text => "Text"
  | time => "Time"
  | unicode => "Unicode"
  | unicodeText => "UnicodeText"

/-- The generic types that a generic type refines. -/
def GenericType.refined : GenericType → List GenericType
  | bigInteger | smallInteger => [integer]
  | float => [numeric]
  | text | unicode => [string]
  | unicodeText => [text, string]
  | _ => []

namespace Library

/-! ## Types -/

/-- A type: the name of its class, and the generic types that it is or refines. -/
structure TypeClass where
  name : String
  generics : List GenericType
  deriving DecidableEq, Repr

namespace TypeClass

/-- A generic type itself. -/
def ofGeneric (generic : GenericType) : TypeClass :=
  ⟨generic.name, generic :: generic.refined⟩

/-- The generic type that a named type is or refines.  Byte strings of a fixed or bounded length refine
none. -/
def genericOf? (name : String) : Option GenericType :=
  match name with
  | "BigInteger" | "BIGINT" => some .bigInteger
  | "Boolean" | "BOOLEAN" | "MatchType" => some .boolean
  | "Date" | "DATE" => some .date
  | "DateTime" | "DATETIME" | "TIMESTAMP" => some .dateTime
  | "Float" | "FLOAT" | "Double" | "DOUBLE" | "DOUBLE_PRECISION" | "REAL" => some .float
  | "Integer" | "INTEGER" | "INT" => some .integer
  | "LargeBinary" | "BLOB" => some .largeBinary
  | "NullType" | "NULLTYPE" => some .null
  | "Numeric" | "NUMERIC" | "DECIMAL" => some .numeric
  | "SmallInteger" | "SMALLINT" => some .smallInteger
  | "String" | "VARCHAR" | "CHAR" | "Enum" => some .string
  | "Text" | "TEXT" | "CLOB" => some .text
  | "Time" | "TIME" => some .time
  | "Unicode" | "NVARCHAR" | "NCHAR" => some .unicode
  | "UnicodeText" => some .unicodeText
  | _ => none

/-- The type of a name. -/
def ofName (name : String) : TypeClass :=
  match genericOf? name with
  | some generic => { ofGeneric generic with name }
  | none => ⟨name, []⟩

/-- The type that names describe: an array is followed by the type of its elements, which cannot be an array. -/
def ofNames : List String → Except Failure TypeClass
  | [] => .ok (ofGeneric .null)
  | "ARRAY" :: elements =>
    if elements.isEmpty then
      .error (.typeError "ARRAY.__init__() missing 1 required positional argument: 'item_type'")
    else
      match ofNames elements with
      | .error failure => .error failure
      | .ok ⟨"ARRAY", _⟩ =>
        .error (.ofMessage .valueError
          "Do not nest ARRAY types; ARRAY(basetype) handles multi-dimensional arrays of basetype")
      | .ok _ => .ok ⟨"ARRAY", []⟩
  | name :: _ => .ok (ofName name)

/-- The generic type that fits a plain datum. -/
def genericOfDatum? : Value → Option GenericType
  | .null => some .null
  | .bool _ => some .boolean
  | .int i => some (if i.natAbs < Nat.pow 2 31 then .integer else .bigInteger)
  | .real _ => some .float
  | .text s => some (if s.toList.all fun c => c.toNat < 128 then .string else .unicode)
  | .bytes _ => some .largeBinary
  | _ => none

/-- The type that fits a value. -/
def fitting (value : Value) : Run TypeClass := do
  match genericOfDatum? value with
  | some generic => return ofGeneric generic
  | none =>
    let offered ← Run.orElse (Run.read value "__sa_type_engine__") fun failure =>
      if failure.isA .attributeError then return .bool false else Run.fail failure
    match offered with
    | .bool false => return ofGeneric .null
    | offered =>
      let fitted ← Run.callValue (← Run.read offered "_resolve_for_literal") [value]
      let _ ← Run.read fitted "dialect_impl"
      return ⟨(← get).kindName fitted, []⟩

end TypeClass

/-- The column types of the toolkit. -/
def columnTypes : ColumnTypes where
  ColumnType := TypeClass
  isA type generic := type.generics.contains generic
  generic := TypeClass.ofGeneric

/-! ## Failures -/

/-- The class of failures for what the toolkit is not to be asked. -/
def argumentError : FailureClass :=
  .declared "ArgumentError" [.exception, .baseException] none (by decide)

/-- The class of failures for two columns of one name. -/
def duplicateColumnError : FailureClass :=
  .declared "DuplicateColumnError" [.exception, .baseException] none (by decide)

/-! ## Tables -/

/-- A table of a name with one more column, if this has a name of its own that is not blank. -/
def addColumn (name : String) (table : Table columnTypes) (column : Column columnTypes) :
    Except Failure (Table columnTypes) :=
  if column.name.isEmpty then
    .error (.plain argumentError
      [.text ("Column must be constructed with a non-blank name or assign a non-blank .name " ++
        "before adding to a Table.")])
  else if fresh : column.name ∈ table.columns.map (·.name) then
    .error (.plain duplicateColumnError
      [.text ("A column with name '" ++ column.name ++ "' is already present in table '" ++ name ++ "'.")])
  else
    .ok ⟨table.columns ++ [column], by
      rw [List.map_append, List.map_singleton, List.nodup_append]
      refine ⟨table.distinct, by simp, fun one hone other hother => ?_⟩
      rw [List.mem_singleton.mp hother]
      exact fun heq => fresh (heq ▸ hone)⟩

/-- The table that columns make. -/
def tableOf (name : String) (columns : List (Column columnTypes)) : Except Failure (Table columnTypes) :=
  columns.foldlM (addColumn name) ⟨[], .nil⟩

/-! ## Clauses -/

/-- A text and what there is for the names in it. -/
structure Clause where
  text : String
  values : List (BoundValue TypeClass)

namespace Clause

/-- The clause of a text: its names have no values yet. -/
def ofText (text : String) : Clause where
  text := text
  values := ((Text.markedNames (fun _ => none) text).foldl Template.addName []).map fun name =>
    ⟨name, .null, .ofGeneric .null⟩

/-- The names in a clause. -/
def names (clause : Clause) : List String :=
  clause.values.map (·.name)

/-- The failure to take a value for a name that is in no text. -/
def undefined (name : String) : Failure :=
  .plain argumentError
    [.text ("This text() construct doesn't define a bound parameter named " ++ Text.quote name)]

/-- A clause with new values in place of those that there are for their names. -/
def renew (clause : Clause) (given : List (BoundValue TypeClass)) : Clause :=
  { clause with values := clause.values.map fun had => (given.find? (·.name == had.name)).getD had }

/-- A clause with new values, if all their names are in it. -/
def withValues (clause : Clause) (given : List (BoundValue TypeClass)) : Except Failure Clause :=
  match given.find? fun new => !decide (new.name ∈ clause.names) with
  | some new => .error (undefined new.name)
  | none => .ok (clause.renew given)

/-- A text that follows a backslash is an escaped colon and name. -/
def startsEscaped : List Char → Bool
  | ':' :: rest => (rest.dropWhile Text.isWord).head? != some ':'
  | _ => false

/-- A text without the backslashes that escape colons. -/
def unescape : List Char → List Char
  | [] => []
  | c :: rest => if c = '\\' && startsEscaped rest then unescape rest else c :: unescape rest

/-- The text of a clause as a driver is given it. -/
def compiled (clause : Clause) : String :=
  String.ofList (unescape clause.text.toList)

end Clause

/-- The toolkit. -/
def toolkit : Toolkit where
  toColumnTypes := columnTypes
  bindValue name value type? := do
    match type? with
    | some type => return ⟨name, value, type⟩
    | none => return ⟨name, value, ← TypeClass.fitting value⟩
  Clause := Clause
  ofText := Clause.ofText
  withValues := Clause.withValues
  text := Clause.text
  values := Clause.values
  undefined := Clause.undefined

end Library

end SqlTemplate
