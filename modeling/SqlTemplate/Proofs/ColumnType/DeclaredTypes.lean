import Mathlib.Data.List.Nodup
import SqlTemplate.Library.Toolkit
import SqlTemplate.Proofs.Path.Padded
import SqlTemplate.Proofs.SqlType.Table
import SqlTemplate.Proofs.Template.Decoration
/-!
# Types declared by a table

The types of a table's columns are declared for the paths of a parameter that holds a row: for each column that has a SQL
type, the name of the parameter, a dot and the name of the column. The name of a column may be any text, and what is
written in this way is an expression like any other: it has to be a path, also if no placeholder asks for the column, and
blanks around a name do not tell it from the name without them.

So the declared types of a table compile just when the names of the columns that have types are expressions, and of the
columns that have the same name up to blanks the last one decides (`parse_declaredTypes`). Where all these names are
identifiers, every template compiles and every placeholder for a column has the column's own type.
-/

namespace SqlTemplate

open Text

variable {kinds : ColumnTypes}

/-- A column whose type has a SQL type. -/
def Column.IsTyped (column : Column kinds) : Prop := column.sqlType ≠ .unknown

/-! ## Names of types -/

/-- The table that every other one extends has each type under its own name. -/
theorem TypeTable.find?_standard {type : SqlType} (h : type ≠ .unknown) :
    TypeTable.standard.find? type.name = some type := by
  have hall : ∀ type ∈ SqlType.all.erase .unknown, TypeTable.standard.find? type.name = some type := by
    decide +kernel
  have hmem : type ∈ SqlType.all := by cases type <;> decide
  exact hall type ((List.mem_erase_of_ne h).mpr hmem)

namespace Path

/-- An expression is accepted if its parts are identifiers. -/
theorem exists_ofExpression_iff {expression : List Char} :
    (∃ path, ofExpression expression = .ok path) ↔ ∀ part ∈ split expression, isQualifier part = true := by
  simp only [ofExpression_eq_ok_iff]
  constructor
  · rintro ⟨path, hparts⟩
    exact hparts ▸ path.qualifiers
  · intro h
    exact ⟨⟨split expression, split_ne_nil expression, h⟩, rfl⟩

/-- An identifier has itself as its only part. -/
theorem split_of_isQualifier {part : String} (h : isQualifier part = true) : split part.toList = [part] := by
  have hnone : ∀ c ∈ ([] : List Char), isBlank c = true := by simp
  simpa using split_part hnone hnone h

end Path

/-! ## Entries of columns -/

namespace Column

/-- The expression for a column of the row that a parameter holds. -/
def expression (parameter : String) (column : Column kinds) : String := parameter ++ "." ++ column.name

/-- The declared type that a column makes, if it has one. -/
def declared? (parameter : String) (column : Column kinds) : Option (String × String) :=
  match column.sqlType with
  | .unknown => none
  | type => some (column.expression parameter, type.name)

theorem declared?_eq_some_iff {parameter : String} {column : Column kinds} {entry : String × String} :
    column.declared? parameter = some entry ↔
      column.IsTyped ∧ entry = (column.expression parameter, column.sqlType.name) := by
  rw [declared?, IsTyped]
  split
  · simp [*]
  · next type hne =>
    rw [Option.some.injEq]
    exact ⟨fun h => ⟨hne, h.symm⟩, fun h => h.2.symm⟩

/-- The parts of a column's expression are the parameter and the parts of the column's name. -/
theorem split_expression {parameter : String} (hparameter : isQualifier parameter = true) (column : Column kinds) :
    Path.split (column.expression parameter).toList = parameter :: Path.split column.name.toList := by
  have htext : (column.expression parameter).toList = parameter.toList ++ '.' :: column.name.toList := by
    simp [expression]
  rw [htext, Path.split_dot, Path.split_of_isQualifier hparameter]
  rfl

theorem exists_ofExpression_iff {parameter : String} (hparameter : isQualifier parameter = true) (column : Column kinds) :
    (∃ path, Path.ofExpression (column.expression parameter).toList = .ok path) ↔
      ∃ path, Path.ofExpression column.name.toList = .ok path := by
  rw [Path.exists_ofExpression_iff, Path.exists_ofExpression_iff, split_expression hparameter,
    List.forall_mem_cons]
  exact and_iff_right hparameter

theorem ofExpression_eq_ok_iff {parameter name : String} (hparameter : isQualifier parameter = true) {path : Path}
    (hpath : path.parts = [parameter, name]) (column : Column kinds) :
    Path.ofExpression (column.expression parameter).toList = .ok path ↔ Path.split column.name.toList = [name] := by
  rw [Path.ofExpression_eq_ok_iff, split_expression hparameter, hpath, List.cons.injEq, eq_comm (a := [name])]
  exact and_iff_right rfl

theorem expression_injective {parameter : String} {a b : Column kinds}
    (h : a.expression parameter = b.expression parameter) : a.name = b.name := by
  rw [← String.toList_inj] at h ⊢
  simpa [expression] using h

end Column

namespace Table

/-- A table's declared types are the entries of its columns, in their order. -/
theorem declaredTypes_eq (table : Table kinds) (parameter : String) :
    table.declaredTypes parameter = table.columns.filterMap (·.declared? parameter) := by
  have hdistinct : ((table.columns.filterMap (·.declared? parameter)).map (·.1)).Nodup := by
    have hnames := List.pairwise_map.mp table.distinct
    rw [List.Nodup, List.pairwise_map, List.pairwise_filterMap]
    apply hnames.imp
    intro a b hne entry hentry entry' hentry' hsame
    obtain ⟨-, rfl⟩ := Column.declared?_eq_some_iff.mp hentry
    obtain ⟨-, rfl⟩ := Column.declared?_eq_some_iff.mp hentry'
    exact hne (Column.expression_injective hsame)
  exact namedOfList_eq_self hdistinct

theorem mem_declaredTypes_iff {table : Table kinds} {parameter : String} {entry : String × String} :
    entry ∈ table.declaredTypes parameter ↔
      ∃ column ∈ table.columns, column.IsTyped ∧
        entry = (column.expression parameter, column.sqlType.name) := by
  simp only [declaredTypes_eq, List.mem_filterMap, Column.declared?_eq_some_iff]

/-- The names of all columns that have types are paths. -/
def NamesPaths (table : Table kinds) : Prop :=
  ∀ column ∈ table.columns, column.IsTyped → ∃ path, Path.ofExpression column.name.toList = .ok path

/-- The last column with a type that has a name, with or without blanks around it. -/
def LastNamed (table : Table kinds) (name : String) (last : Column kinds) : Prop :=
  ∃ before after, table.columns = before ++ last :: after ∧ last.IsTyped ∧
    Path.split last.name.toList = [name] ∧
    ∀ later ∈ after, later.IsTyped → Path.split later.name.toList ≠ [name]

section

variable {table : Table kinds} {types : TypeTable} {parameter : String}

/-- All entries of a table are accepted if the names of its columns are paths. -/
theorem forall_acceptedEntry_iff (hknows : types.Knows .standard) (hparameter : isQualifier parameter = true) :
    (∀ entry ∈ table.declaredTypes parameter, AcceptedEntry types entry) ↔ table.NamesPaths := by
  have haccepted {column : Column kinds} (htyped : column.IsTyped) :
      AcceptedEntry types (column.expression parameter, column.sqlType.name) ↔
        ∃ path, Path.ofExpression column.name.toList = .ok path := by
    have hname : (types.find? column.sqlType.name).isSome = true := by
      apply hknows
      rw [TypeTable.find?_standard htyped]
      rfl
    rw [AcceptedEntry, Column.exists_ofExpression_iff hparameter]
    exact and_iff_left (Option.isSome_iff_exists.mp hname)
  constructor
  · intro h column hcolumn htyped
    exact (haccepted htyped).mp (h _ (mem_declaredTypes_iff.mpr ⟨column, hcolumn, htyped, rfl⟩))
  · intro h entry hentry
    obtain ⟨column, hcolumn, htyped, rfl⟩ := mem_declaredTypes_iff.mp hentry
    exact (haccepted htyped).mpr (h column hcolumn htyped)

/-- The type that a table declares for a path with the name of a column is that of the last column of the name. -/
theorem exists_lastNamed (hparameter : isQualifier parameter = true) {path : Path} {type : SqlType} {name : String}
    (hpath : path.parts = [parameter, name])
    (h : DeclaresType types (table.declaredTypes parameter) path type)
    (hnamed : ∃ column ∈ table.columns, column.IsTyped ∧ Path.split column.name.toList = [name]) :
    ∃ last, table.LastNamed name last ∧ types.find? last.sqlType.name = some type := by
  cases h with
  | none hnone =>
    obtain ⟨column, hcolumn, htyped, hname⟩ := hnamed
    have hentry : (column.expression parameter, column.sqlType.name) ∈ table.declaredTypes parameter :=
      mem_declaredTypes_iff.mpr ⟨column, hcolumn, htyped, rfl⟩
    have hnot := hnone _ hentry
    exact absurd ((Column.ofExpression_eq_ok_iff hparameter hpath column).mpr hname) hnot
  | last hsplit hdenotes htype hlast =>
    -- the entries are split where a column is
    rw [declaredTypes_eq] at hsplit
    obtain ⟨front, back, hcolumns, -, hback⟩ := List.filterMap_eq_append_iff.mp hsplit
    obtain ⟨skipped, last, after, rfl, -, hentry, hafter⟩ := List.filterMap_eq_cons_iff.mp hback
    obtain ⟨htyped, rfl⟩ := Column.declared?_eq_some_iff.mp hentry
    refine ⟨last, ⟨front ++ skipped, after, ?_, htyped, ?_, ?_⟩, htype⟩
    · rw [hcolumns, List.append_assoc]
    · exact (Column.ofExpression_eq_ok_iff hparameter hpath last).mp hdenotes
    · intro later hlater hlaterTyped hname
      have hmem : (later.expression parameter, later.sqlType.name) ∈ after.filterMap (·.declared? parameter) :=
        List.mem_filterMap.mpr ⟨later, hlater, Column.declared?_eq_some_iff.mpr ⟨hlaterTyped, rfl⟩⟩
      rw [hafter] at hmem
      have hnot := hlast _ hmem
      exact hnot ((Column.ofExpression_eq_ok_iff hparameter hpath later).mpr hname)

/-- Where the names are identifiers, the last column of a name is the column of that name. -/
theorem LastNamed.eq {last column : Column kinds} (h : table.LastNamed column.name last)
    (hnames : ∀ column ∈ table.columns, column.IsTyped → isQualifier column.name = true)
    (hcolumn : column ∈ table.columns) : last = column := by
  obtain ⟨before, after, hcolumns, htyped, hname, -⟩ := h
  have hlast : last ∈ table.columns := by
    rw [hcolumns]
    simp
  rw [Path.split_of_isQualifier (hnames last hlast htyped), List.cons.injEq] at hname
  exact List.inj_on_of_nodup_map table.distinct hlast hcolumn hname.1

/-- The placeholders of a template for the columns of a table have the types of these columns. -/
def Types (types : TypeTable) (table : Table kinds) (parameter : String) (template : Template) : Prop :=
  ∀ column ∈ table.columns, column.IsTyped → ∀ path type, .parameter path type ∈ template.fragments →
    path.parts = [parameter, column.name] → types.find? column.sqlType.name = some type

/-- A template compiles with the declared types of a table if the names of the table's typed columns are paths. -/
theorem exists_parse_iff (hknows : types.Knows .standard) (hparameter : isQualifier parameter = true)
    {source : String} {plain : Template} (hplain : Template.parse types source [] = .ok plain) :
    (∃ template, Template.parse types source (table.declaredTypes parameter) = .ok template) ↔
      table.NamesPaths := by
  rw [exists_parse_iff_accepted, forall_acceptedEntry_iff hknows hparameter]
  exact and_iff_right ⟨plain, hplain⟩

theorem namesPaths_of_isQualifier
    (hnames : ∀ column ∈ table.columns, column.IsTyped → isQualifier column.name = true) : table.NamesPaths := by
  intro column hcolumn htyped
  have hname := hnames column hcolumn htyped
  rw [Path.exists_ofExpression_iff, Path.split_of_isQualifier hname, List.forall_mem_singleton]
  exact hname

/-- A parameter with the name of a typed column has the type of the last column of the name. -/
theorem type_of_parse (hparameter : isQualifier parameter = true) {source : String} {template : Template}
    (h : Template.parse types source (table.declaredTypes parameter) = .ok template) {column : Column kinds}
    (hcolumn : column ∈ table.columns) (htyped : column.IsTyped) {path : Path} {type : SqlType}
    (hmem : .parameter path type ∈ template.fragments) (hpath : path.parts = [parameter, column.name]) :
    ∃ last, table.LastNamed column.name last ∧ types.find? last.sqlType.name = some type := by
  obtain ⟨declarations, hdeclared⟩ := exists_declarationsOf_of_parse h
  have hdeclares := declaresType_typeOf hdeclared path
  rw [typeOf_of_parse h hdeclared hmem] at hdeclares
  have hname : isQualifier column.name = true := by
    apply path.qualifiers
    rw [hpath]
    simp
  exact exists_lastNamed hparameter hpath hdeclares
    ⟨column, hcolumn, htyped, Path.split_of_isQualifier hname⟩

end

/-- The declared types of a table compile with every template that compiles, for every parameter, just when the names of
all columns that have types are paths. Then a parameter with the name of such a column has the type of the last column of
this name, blanks around it aside. If the names are identifiers, then every template compiles and each parameter for a
column has the type of that column; in the table that every other one extends it is the column's own SQL type. -/
theorem parse_declaredTypes {types : TypeTable} (hknows : types.Knows .standard) {parameter : String}
    (hparameter : isQualifier parameter = true) {source : String} {plain : Template}
    (hplain : Template.parse types source [] = .ok plain) (table : Table kinds) :
    ((∃ template, Template.parse types source (table.declaredTypes parameter) = .ok template) ↔
        table.NamesPaths) ∧
      (∀ template, Template.parse types source (table.declaredTypes parameter) = .ok template →
        ∀ column ∈ table.columns, column.IsTyped → ∀ path type, .parameter path type ∈ template.fragments →
          path.parts = [parameter, column.name] →
          ∃ last, table.LastNamed column.name last ∧ types.find? last.sqlType.name = some type) ∧
      ((∀ column ∈ table.columns, column.IsTyped → isQualifier column.name = true) →
        ∃ template, Template.parse types source (table.declaredTypes parameter) = .ok template ∧
          table.Types types parameter template) ∧
      ∀ column : Column kinds, column.IsTyped →
        TypeTable.standard.find? column.sqlType.name = some column.sqlType := by
  refine ⟨exists_parse_iff hknows hparameter hplain, ?_, ?_, fun _ => TypeTable.find?_standard⟩
  · intro template h column hcolumn htyped path type hmem hpath
    exact type_of_parse hparameter h hcolumn htyped hmem hpath
  · intro hnames
    obtain ⟨template, h⟩ :=
      (exists_parse_iff hknows hparameter hplain).mpr (namesPaths_of_isQualifier hnames)
    refine ⟨template, h, ?_⟩
    intro column hcolumn htyped path type hmem hpath
    obtain ⟨last, hlast, htype⟩ := type_of_parse hparameter h hcolumn htyped hmem hpath
    rwa [hlast.eq hnames hcolumn] at htype

/-! ## Tables of a library -/

open Library

/-- A table with a column whose name is no identifier, but which has no type either: its other columns have their types
in a template. -/
theorem parse_declaredTypes_employees :
    let table : Table columnTypes :=
      ⟨[⟨"id", .ofGeneric .integer⟩, ⟨"first_name", .ofGeneric .string⟩, ⟨"home address", .ofGeneric .null⟩],
        by decide⟩
    let path (name : String) (h : isQualifier name = true) : Path := ⟨["emp", name], by simp, by simp [h]; decide⟩
    let fragments (id name : SqlType) : List Fragment :=
      [.literal "SELECT ", .parameter (path "id" (by decide)) id, .literal ", ",
        .parameter (path "first_name" (by decide)) name]
    let source := "SELECT \x7bemp.id\x7d, \x7b emp . first_name \x7d"
    Template.parse .standard source [] = .ok ⟨source, fragments .unknown .unknown⟩ ∧
      Template.parse .standard source (table.declaredTypes "emp") = .ok ⟨source, fragments .integer .varChar⟩ ∧
      table.Types .standard "emp" ⟨source, fragments .integer .varChar⟩ := by
  intro table path fragments source
  have hplain : Template.parse .standard source [] = .ok ⟨source, fragments .unknown .unknown⟩ := by
    decide +kernel
  have htyped : Template.parse .standard source (table.declaredTypes "emp")
      = .ok ⟨source, fragments .integer .varChar⟩ := by
    decide +kernel
  have hnames : ∀ column ∈ table.columns, column.sqlType ≠ .unknown → isQualifier column.name = true := by
    decide +kernel
  have hparameter : isQualifier "emp" = true := by decide
  obtain ⟨-, -, hidentifiers, -⟩ := parse_declaredTypes (.refl .standard) hparameter hplain table
  obtain ⟨template, h, htypes⟩ := hidentifiers hnames
  rw [htyped, Except.ok.injEq] at h
  exact ⟨hplain, htyped, h ▸ htypes⟩

/-- A column whose name is not a path keeps every template from compiling, and of two columns whose names differ only in
blanks the second one gives its type to the placeholder of the first. -/
theorem parse_declaredTypes_fails :
    let named : Table columnTypes := ⟨[⟨"first name", .ofGeneric .string⟩], by decide⟩
    let alike : Table columnTypes := ⟨[⟨"id", .ofGeneric .integer⟩, ⟨"id ", .ofGeneric .string⟩], by decide⟩
    let path : Path := ⟨["r", "id"], by simp, by decide⟩
    (Template.parse .standard "SELECT 1" [] = .ok ⟨"SELECT 1", [.literal "SELECT 1"]⟩ ∧
        Template.parse .standard "SELECT 1" (named.declaredTypes "emp")
          = .error (.badDeclaration (.badExpression "first name" "emp.first name"))) ∧
      Template.parse .standard "\x7br.id\x7d" (alike.declaredTypes "r")
        = .ok ⟨"\x7br.id\x7d", [.parameter path .varChar]⟩ ∧
      ¬ alike.Types .standard "r" ⟨"\x7br.id\x7d", [.parameter path .varChar]⟩ := by
  refine ⟨⟨by decide +kernel, by decide +kernel⟩, by decide +kernel, ?_⟩
  intro h
  have htype := h ⟨"id", .ofGeneric .integer⟩ (by simp) (by simp [Column.IsTyped]; decide) _ _
    (List.mem_singleton_self _) rfl
  exact absurd htype (by decide +kernel)

end Table

end SqlTemplate
