import SqlTemplate.Named
import SqlTemplate.SqlType
/-!
# Column types

A database toolkit describes columns by generic types such as `Integer` or `UnicodeText`, and by types of
particular databases, each of which refines a generic one.  The toolkit is a library of its own:
`ColumnTypes` has what is asked of its types.  `ColumnTypes.sqlType` and `ColumnTypes.columnType?` go from
one kind of types to the other; both lose detail, since many types of one side share a type of the other.

`Table.declaredTypes` reads the declared types of a parameter that holds a row off the columns of a table.
-/

namespace SqlTemplate

/-- The generic types of columns. -/
inductive GenericType where
  | bigInteger
  | boolean
  | date
  | dateTime
  | float
  | integer
  | largeBinary
  | null
  | numeric
  | smallInteger
  | string
  | text
  | time
  | unicode
  | unicodeText
  deriving DecidableEq, Repr

/-- The generic types for which there is a SQL type.  A type that refines another one comes before it. -/
def GenericType.sqlTypes : List (GenericType × SqlType) :=
  [(.boolean, .boolean), (.bigInteger, .bigInt), (.smallInteger, .smallInt), (.integer, .integer),
   (.float, .double), (.numeric, .numeric), (.dateTime, .timestamp), (.date, .date), (.time, .time),
   (.unicodeText, .longNVarChar), (.text, .longVarChar), (.unicode, .nVarChar), (.string, .varChar),
   (.largeBinary, .varBinary)]

/-- The generic type for a SQL type, if there is one. -/
def SqlType.genericType? : SqlType → Option GenericType
  | .bigInt => some .bigInteger
  | .binary => some .largeBinary
  | .bit => some .boolean
  | .blob => some .largeBinary
  | .boolean => some .boolean
  | .char => some .string
  | .clob => some .text
  | .date => some .date
  | .decimal => some .numeric
  | .double => some .float
  | .float => some .float
  | .integer => some .integer
  | .longNVarChar => some .unicodeText
  | .longVarBinary => some .largeBinary
  | .longVarChar => some .text
  | .nChar => some .unicode
  | .nClob => some .unicodeText
  | .null => some .null
  | .numeric => some .numeric
  | .nVarChar => some .unicode
  | .real => some .float
  | .smallInt => some .smallInteger
  | .time => some .time
  | .timestamp => some .dateTime
  | .tinyInt => some .smallInteger
  | .varBinary => some .largeBinary
  | .varChar => some .string
  | _ => none

/-- The column types of a toolkit. -/
structure ColumnTypes where
  ColumnType : Type
  /-- A type is of a generic type, or refines it. -/
  isA : ColumnType → GenericType → Bool
  /-- A generic type itself. -/
  generic : GenericType → ColumnType

namespace ColumnTypes

variable (types : ColumnTypes)

/-- The SQL type closest to a column type; there may be none. -/
def sqlType (type : types.ColumnType) : SqlType :=
  match GenericType.sqlTypes.find? fun entry => types.isA type entry.1 with
  | some entry => entry.2
  | none => .unknown

/-- The column type for a SQL type, if there is a generic one. -/
def columnType? (type : SqlType) : Option types.ColumnType :=
  type.genericType?.map types.generic

end ColumnTypes

/-! ## Tables -/

variable {types : ColumnTypes}

/-- A column of a table. -/
structure Column (types : ColumnTypes) where
  name : String
  type : types.ColumnType

/-- The SQL type closest to that of a column. -/
def Column.sqlType (column : Column types) : SqlType :=
  types.sqlType column.type

/-- A table: columns under names of their own. -/
structure Table (types : ColumnTypes) where
  columns : List (Column types)
  distinct : (columns.map (·.name)).Nodup

/-- The types declared for the columns of a table when a parameter holds a row of it.  Columns without a
SQL type are left out. -/
def Table.declaredTypes (table : Table types) (parameter : String) : List (String × String) :=
  namedOfList <| table.columns.filterMap fun column =>
    match column.sqlType with
    | .unknown => none
    | type => some (parameter ++ "." ++ column.name, type.name)

end SqlTemplate
