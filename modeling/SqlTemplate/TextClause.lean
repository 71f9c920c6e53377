import SqlTemplate.ColumnType
import SqlTemplate.Statement
/-!
# Text clauses

A database toolkit makes clauses of SQL text in which bound values are marked by a colon and a name.  It
finds the names by itself, and takes values for them afterwards.  Like its column types, its clauses are
not described here: `Toolkit` has what is asked of them.

`TextClause.ofStatement` hands over a statement with named markers, giving every bound value the column
type of its declared type, or else leaving it to the toolkit to fit one to the value.
-/

namespace SqlTemplate

/-- A value for a name in a clause. -/
structure BoundValue (ColumnType : Type) where
  name : String
  value : Value
  type : ColumnType

/-- A database toolkit. -/
structure Toolkit extends ColumnTypes where
  /-- A value for a name, of a type or, if none is given, of one that fits the value.  Fitting may run
  code. -/
  bindValue : String → Value → Option ColumnType → Run (BoundValue ColumnType)
  Clause : Type
  /-- The clause of a text. -/
  ofText : String → Clause
  /-- A clause with values for names in it. -/
  withValues : Clause → List (BoundValue ColumnType) → Except Failure Clause
  /-- The text of a clause. -/
  text : Clause → String
  /-- What a clause has for the names in it. -/
  values : Clause → List (BoundValue ColumnType)
  /-- The failure to take a value for a name that is not in the clause. -/
  undefined : String → Failure

namespace TextClause

variable (toolkit : Toolkit)

/-- The value of a binding for its name. -/
def boundOf (name : String) (binding : Binding) : Run (BoundValue toolkit.ColumnType) :=
  toolkit.bindValue name binding.value (toolkit.columnType? binding.type)

/-- The clause of a statement with named markers. -/
def ofStatement (statement : Statement) : Run toolkit.Clause := do
  let bound ← (statement.names.zip statement.bindings).mapM fun entry =>
    boundOf toolkit entry.1 entry.2
  MonadExcept.ofExcept (toolkit.withValues (toolkit.ofText statement.sql) bound)

/-- The clause of a template for an invocation. -/
def bind (style : MarkerStyle) (chain : List Strategy) (template : Template)
    (invocation : Invocation) : Run toolkit.Clause := do
  ofStatement toolkit (← Statement.bind "named" style chain template invocation)

end TextClause

end SqlTemplate
