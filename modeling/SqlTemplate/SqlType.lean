/-!
# SQL types

The type codes that a binding may carry.  The numbers are the codes that drivers and bridges use for
these types; `unknown` marks a placeholder without a declared type and is no type a name can denote.
-/

namespace SqlTemplate

/-- A driver-level SQL type. -/
inductive SqlType where
  | unknown
  | array
  | bigInt
  | binary
  | bit
  | blob
  | boolean
  | char
  | clob
  | dataLink
  | date
  | decimal
  | distinct
  | double
  | float
  | integer
  | javaObject
  | longNVarChar
  | longVarBinary
  | longVarChar
  | nChar
  | nClob
  | null
  | numeric
  | nVarChar
  | other
  | real
  | ref
  | rowId
  | smallInt
  | sqlXml
  | struct
  | time
  | timestamp
  | tinyInt
  | varBinary
  | varChar
  deriving DecidableEq, Repr, Inhabited

namespace SqlType

/-- Every type, `unknown` first. -/
def all : List SqlType :=
  [.unknown, .array, .bigInt, .binary, .bit, .blob, .boolean, .char, .clob, .dataLink, .date,
   .decimal, .distinct, .double, .float, .integer, .javaObject, .longNVarChar, .longVarBinary,
   .longVarChar, .nChar, .nClob, .null, .numeric, .nVarChar, .other, .real, .ref, .rowId, .smallInt,
   .sqlXml, .struct, .time, .timestamp, .tinyInt, .varBinary, .varChar]

/-- The name of a type, in upper case. -/
def name : SqlType → String
  | unknown => "UNKNOWN"
  | array => "ARRAY"
  | bigInt => "BIGINT"
  | binary => "BINARY"
  | bit => "BIT"
  | blob => "BLOB"
  | boolean => "BOOLEAN"
  | char => "CHAR"
  | clob => "CLOB"
  | dataLink => "DATALINK"
  | date => "DATE"
  | decimal => "DECIMAL"
  | distinct => "DISTINCT"
  | double => "DOUBLE"
  | float => "FLOAT"
  | integer => "INTEGER"
  | javaObject => "JAVA_OBJECT"
  | longNVarChar => "LONGNVARCHAR"
  | longVarBinary => "LONGVARBINARY"
  | longVarChar => "LONGVARCHAR"
  | nChar => "NCHAR"
  | nClob => "NCLOB"
  | null => "NULL"
  | numeric => "NUMERIC"
  | nVarChar => "NVARCHAR"
  | other => "OTHER"
  | real => "REAL"
  | ref => "REF"
  | rowId => "ROWID"
  | smallInt => "SMALLINT"
  | sqlXml => "SQLXML"
  | struct => "STRUCT"
  | time => "TIME"
  | timestamp => "TIMESTAMP"
  | tinyInt => "TINYINT"
  | varBinary => "VARBINARY"
  | varChar => "VARCHAR"

/-- The numeric code of a type. -/
def code : SqlType → Int
  | unknown => -2147483648
  | array => 2003
  | bigInt => -5
  | binary => -2
  | bit => -7
  | blob => 2004
  | boolean => 16
  | char => 1
  | clob => 2005
  | dataLink => 70
  | date => 91
  | decimal => 3
  | distinct => 2001
  | double => 8
  | float => 6
  | integer => 4
  | javaObject => 2000
  | longNVarChar => -16
  | longVarBinary => -4
  | longVarChar => -1
  | nChar => -15
  | nClob => 2011
  | null => 0
  | numeric => 2
  | nVarChar => -9
  | other => 1111
  | real => 7
  | ref => 2006
  | rowId => -8
  | smallInt => 5
  | sqlXml => 2009
  | struct => 2002
  | time => 92
  | timestamp => 93
  | tinyInt => -6
  | varBinary => -3
  | varChar => 12

/-- The hash of a type: its code, except that −1 is no hash and becomes −2. -/
def hash (type : SqlType) : Int :=
  if type.code = -1 then -2 else type.code

/-- The type with a code. -/
def ofCode? (code : Int) : Option SqlType :=
  all.find? (·.code == code)

/-- The type of a name in its own spelling. -/
def ofName? (name : String) : Option SqlType :=
  all.find? (·.name == name)

end SqlType

end SqlTemplate
