import Mathlib.Data.List.Forall2
import SqlTemplate.Proofs.Statement.Binding
import SqlTemplate.Proofs.TextClause.Laws
import SqlTemplate.Proofs.TextClause.MarkedNames
/-!
# Clauses of statements

A text clause is made of a statement with named markers in two steps. Each binding becomes a value with a column type, and
then each is handed over under its name, which has to be one of those that the clause has found in the text. What is
relied on of the toolkit is said by `Toolkit.Laws`.

`bind_outcome` is the main theorem. A clause comes out just when the names of all bindings are found, and it then carries
each binding with the column type of its declared type. It carries nothing else just when no other names are found. So it
is the text around the markers that decides, of which `KeepsApart` is enough to have all bindings found.
-/

namespace SqlTemplate

namespace TextClause

open Statement Text

variable {toolkit : Toolkit} {cut : List Char → Option (List Char)}

/-! ## Column types -/

section Typed

variable {name : String} {binding : Binding} {given : BoundValue toolkit.ColumnType} {w w' : World}

/-- What is handed over for a binding: its value, with the column type of its declared type if this has one. -/
structure HandedOver (toolkit : Toolkit) (name : String) (binding : Binding) (given : BoundValue toolkit.ColumnType) : Prop where
  name : given.name = name
  value : given.value = binding.value
  type : ∀ type, toolkit.columnType? binding.type = some type → given.type = type

theorem handedOver_of_boundOf (hlaws : toolkit.Laws cut)
    (h : (boundOf toolkit name binding).start w = (.ok given, w')) : HandedOver toolkit name binding given := by
  rw [boundOf] at h
  cases htype : toolkit.columnType? binding.type with
  | some type =>
    rw [htype, hlaws.bindValue_some] at h
    cases h
    exact ⟨rfl, rfl, fun other hother => Option.some.inj (htype.symm.trans hother)⟩
  | none =>
    rw [htype] at h
    obtain ⟨hname, hvalue⟩ := hlaws.bindValue_none _ _ _ _ _ h
    exact ⟨hname, hvalue, fun other hother => absurd (htype.symm.trans hother) (by simp)⟩

/-- A binding of a type that has a column type, or of a plain datum, is given one without running anything. -/
theorem exists_boundOf (hlaws : toolkit.Laws cut)
    (h : (binding.type.genericType?).isSome = true ∨ binding.value.isDatum = true) (name : String)
    (w : World) : ∃ given, (boundOf toolkit name binding).start w = (.ok given, w) := by
  rw [boundOf, ColumnTypes.columnType?]
  cases htype : binding.type.genericType? with
  | some generic =>
    rw [Option.map_some, hlaws.bindValue_some]
    exact ⟨_, rfl⟩
  | none =>
    have hdatum : binding.value.isDatum = true := h.resolve_left (by simp [htype])
    obtain ⟨type, hfitted⟩ := hlaws.bindValue_datum name _ hdatum
    rw [Option.map_none, hfitted]
    exact ⟨_, rfl⟩

end Typed

/-! ## Outcomes -/

/-- The bindings of a statement are given their column types, one after the other. -/
def HandsOver (toolkit : Toolkit) (statement : Statement) (w : World) (bound : List (BoundValue toolkit.ColumnType))
    (w' : World) : Prop :=
  Run.Makes (fun entry => boundOf toolkit entry.1 entry.2) (statement.names.zip statement.bindings) w bound w'

/-- A clause is of a text and has the names that are marked in it, and some of them have values. -/
structure HasValues (toolkit : Toolkit) (cut : List Char → Option (List Char)) (clause : toolkit.Clause)
    (sql : String) (bound : List (BoundValue toolkit.ColumnType)) : Prop where
  text : toolkit.text clause = sql
  nodup : (toolkit.names clause).Nodup
  mem_names_iff : ∀ name, name ∈ toolkit.names clause ↔ name ∈ markedNames cut sql
  values : ∀ given ∈ bound, given ∈ toolkit.values clause

/-- What comes of a statement that a clause is made of. -/
inductive Outcome (toolkit : Toolkit) (cut : List Char → Option (List Char)) (statement : Statement) (w : World) :
    Except Failure toolkit.Clause × World → Prop
  /-- A value does not get a column type. -/
  | untyped {failure : Failure} {w' : World}
      (hstops : Run.Stops (fun entry => boundOf toolkit entry.1 entry.2) (statement.names.zip statement.bindings) w
        failure w') :
      Outcome toolkit cut statement w (.error failure, w')
  /-- The name of a binding is not found; it is the first such name. -/
  | undefined {bound : List (BoundValue toolkit.ColumnType)} {before after : List String} {name : String} {w' : World}
      (hbound : HandsOver toolkit statement w bound w') (hsplit : statement.names = before ++ name :: after)
      (hbefore : ∀ other ∈ before, other ∈ markedNames cut statement.sql)
      (hname : name ∉ markedNames cut statement.sql) :
      Outcome toolkit cut statement w (.error (toolkit.undefined name), w')
  | carries {bound : List (BoundValue toolkit.ColumnType)} {clause : toolkit.Clause} {w' : World}
      (hbound : HandsOver toolkit statement w bound w')
      (hmarked : ∀ name ∈ statement.names, name ∈ markedNames cut statement.sql)
      (hclause : HasValues toolkit cut clause statement.sql bound) :
      Outcome toolkit cut statement w (.ok clause, w')

/-- A clause carries the bindings of a statement under their names, and nothing else. -/
structure Carries (toolkit : Toolkit) (clause : toolkit.Clause) (statement : Statement) : Prop where
  text : toolkit.text clause = statement.sql
  names : (toolkit.names clause).Perm statement.names
  handedOver : ∀ name binding, (name, binding) ∈ statement.names.zip statement.bindings →
    ∃ given ∈ toolkit.values clause, HandedOver toolkit name binding given

section Outcome

variable {statement : Statement} {bound : List (BoundValue toolkit.ColumnType)} {clause : toolkit.Clause} {w w' : World}

theorem forall₂_of_makes (hlaws : toolkit.Laws cut) {entries : List (String × Binding)}
    (h : Run.Makes (fun entry => boundOf toolkit entry.1 entry.2) entries w bound w') :
    List.Forall₂ (fun entry given => HandedOver toolkit entry.1 entry.2 given) entries bound := by
  induction h with
  | nil w => exact .nil
  | cons hfirst _ ih => exact .cons (handedOver_of_boundOf hlaws hfirst) ih

theorem map_name_of_forall₂ {entries : List (String × Binding)}
    (h : List.Forall₂ (fun entry given => HandedOver toolkit entry.1 entry.2 given) entries bound) :
    bound.map (·.name) = entries.map (·.1) := by
  induction h with
  | nil => rfl
  | cons hfirst _ ih => rw [List.map_cons, List.map_cons, hfirst.name, ih]

theorem exists_handedOver {entries : List (String × Binding)}
    (h : List.Forall₂ (fun entry given => HandedOver toolkit entry.1 entry.2 given) entries bound) {name : String}
    {binding : Binding} (hentry : (name, binding) ∈ entries) : ∃ given ∈ bound, HandedOver toolkit name binding given := by
  induction h with
  | nil => cases hentry
  | cons hfirst _ ih =>
    rcases List.mem_cons.mp hentry with rfl | hmore
    · exact ⟨_, List.mem_cons_self, hfirst⟩
    · obtain ⟨given, hgiven, hover⟩ := ih hmore
      exact ⟨given, List.mem_cons_of_mem _ hgiven, hover⟩

theorem HandsOver.names (hlaws : toolkit.Laws cut) (h : HandsOver toolkit statement w bound w')
    (hlength : statement.names.length = statement.bindings.length) : bound.map (·.name) = statement.names := by
  rw [map_name_of_forall₂ (forall₂_of_makes hlaws h), List.map_fst_zip (Nat.le_of_eq hlength)]

theorem start_ofStatement (h : HandsOver toolkit statement w bound w') :
    (ofStatement toolkit statement).start w
      = (toolkit.withValues (toolkit.ofText statement.sql) bound, w') := by
  have hend (result : Except Failure toolkit.Clause) :
      (MonadExcept.ofExcept result : Run toolkit.Clause).start w' = (result, w') := by
    cases result <;> rfl
  rw [ofStatement, Run.start_bind, Run.start_mapM_eq_ok.mpr h]
  exact hend _

/-- Values for names that are found in a text are taken by its clause. -/
theorem exists_hasValues (hlaws : toolkit.Laws cut) {text : String} (hnodup : (bound.map (·.name)).Nodup)
    (hmarked : ∀ given ∈ bound, given.name ∈ markedNames cut text) :
    ∃ clause, toolkit.withValues (toolkit.ofText text) bound = .ok clause ∧ HasValues toolkit cut clause text bound := by
  obtain ⟨clause, hclause, htext, hnames, hvalues⟩ := hlaws.withValues_ok (toolkit.ofText text) bound hnodup
    fun given hgiven => (hlaws.mem_names_iff _ _).mpr (hmarked given hgiven)
  refine ⟨clause, hclause, htext.trans (hlaws.text_ofText text), ?_, ?_, hvalues⟩
  · rw [hnames]
    exact hlaws.nodup_names text
  · rw [hnames]
    exact hlaws.mem_names_iff text

/-- Every statement with different names for its bindings has one of the outcomes. -/
theorem ofStatement_outcome (hlaws : toolkit.Laws cut) (hlength : statement.names.length = statement.bindings.length)
    (hnodup : statement.names.Nodup) (w : World) :
    Outcome toolkit cut statement w ((ofStatement toolkit statement).start w) := by
  rcases Run.makes_or_stops (fun entry => boundOf toolkit entry.1 entry.2) (statement.names.zip statement.bindings) w
    with ⟨bound, w', hbound⟩ | ⟨failure, w', hstops⟩
  · have hnames := HandsOver.names hlaws hbound hlength
    rw [start_ofStatement hbound]
    -- the first name that is not found decides, if there is one
    cases hfound : bound.find? fun given => !decide (given.name ∈ markedNames cut statement.sql) with
    | none =>
      have hmarked : ∀ given ∈ bound, given.name ∈ markedNames cut statement.sql := by
        simpa using hfound
      obtain ⟨clause, hmade, hclause⟩ := exists_hasValues hlaws (hnames ▸ hnodup) hmarked
      rw [hmade]
      refine .carries hbound ?_ hclause
      rw [← hnames, List.forall_mem_map]
      exact hmarked
    | some given =>
      obtain ⟨hgiven, before, after, rfl, hbefore⟩ := List.find?_eq_some_iff_append.mp hfound
      simp only [Bool.not_eq_true', decide_eq_false_iff_not, Bool.not_not, decide_eq_true_eq] at hgiven hbefore
      rw [List.map_append, List.map_cons] at hnames
      rw [hlaws.withValues_undefined _ before given after
        (fun other hother => (hlaws.mem_names_iff _ _).mpr (hbefore other hother))
        (mt (hlaws.mem_names_iff _ _).mp hgiven)]
      refine .undefined hbound hnames.symm ?_ hgiven
      rw [List.forall_mem_map]
      exact hbefore
  · have hrun : (ofStatement toolkit statement).start w = (.error failure, w') := by
      rw [ofStatement, Run.start_bind_eq_error]
      exact .inl (Run.start_mapM_eq_error.mpr hstops)
    rw [hrun]
    exact .untyped hstops

/-- A clause that has all bindings carries nothing else just when no other names are found. -/
theorem carries_iff (hlaws : toolkit.Laws cut) (hbound : HandsOver toolkit statement w bound w')
    (hnodup : statement.names.Nodup) (hmarked : ∀ name ∈ statement.names, name ∈ markedNames cut statement.sql)
    (hclause : HasValues toolkit cut clause statement.sql bound) :
    Carries toolkit clause statement ↔ ∀ name ∈ markedNames cut statement.sql, name ∈ statement.names := by
  constructor
  · intro h name hname
    rw [← h.names.mem_iff, hclause.mem_names_iff]
    exact hname
  · intro h
    refine ⟨hclause.text, ?_, fun name binding hentry => ?_⟩
    · rw [List.perm_ext_iff_of_nodup hclause.nodup hnodup]
      intro name
      rw [hclause.mem_names_iff]
      exact ⟨h name, hmarked name⟩
    · obtain ⟨given, hgiven, hover⟩ := exists_handedOver (forall₂_of_makes hlaws hbound) hentry
      exact ⟨given, hclause.values given hgiven, hover⟩

/-- Bindings of types that have a column type, and of plain data, are handed over without running anything. -/
theorem exists_handsOver (hlaws : toolkit.Laws cut) (h : ∀ binding ∈ statement.bindings,
      (binding.type.genericType?).isSome = true ∨ binding.value.isDatum = true) (w : World) :
    ∃ bound, HandsOver toolkit statement w bound w := by
  have hentries : ∀ entries : List (String × Binding), (∀ entry ∈ entries, entry.2 ∈ statement.bindings) →
      ∃ bound, Run.Makes (fun entry => boundOf toolkit entry.1 entry.2) entries w bound w := by
    intro entries hmem
    induction entries with
    | nil => exact ⟨[], .nil w⟩
    | cons entry entries ih =>
      obtain ⟨hfirst, hrest⟩ := List.forall_mem_cons.mp hmem
      obtain ⟨given, hgiven⟩ := exists_boundOf hlaws (h _ hfirst) entry.1 w
      obtain ⟨bound, hbound⟩ := ih hrest
      exact ⟨given :: bound, .cons hgiven hbound⟩
  exact hentries _ fun entry hentry => (List.of_mem_zip hentry).2

/-- The clause of a statement carries its bindings and nothing else just when these get their column types and the names
found in the text are those of the bindings. -/
theorem exists_carries_iff (hlaws : toolkit.Laws cut) (hlength : statement.names.length = statement.bindings.length)
    (hnodup : statement.names.Nodup) (w : World) :
    (∃ clause w', (ofStatement toolkit statement).start w = (.ok clause, w') ∧ Carries toolkit clause statement) ↔
      (∃ bound w', HandsOver toolkit statement w bound w') ∧
        ∀ name, name ∈ markedNames cut statement.sql ↔ name ∈ statement.names := by
  constructor
  · rintro ⟨clause, w', hrun, hcarries⟩
    have houtcome := ofStatement_outcome hlaws hlength hnodup w
    rw [hrun] at houtcome
    cases houtcome with
    | carries hbound hmarked hclause =>
      have honly := (carries_iff hlaws hbound hnodup hmarked hclause).mp hcarries
      exact ⟨⟨_, _, hbound⟩, fun name => ⟨honly name, hmarked name⟩⟩
  · rintro ⟨⟨bound, w', hbound⟩, hnames⟩
    have hgiven := HandsOver.names hlaws hbound hlength
    have hmarked : ∀ given ∈ bound, given.name ∈ markedNames cut statement.sql := by
      intro given hmem
      rw [hnames, ← hgiven]
      exact List.mem_map_of_mem hmem
    obtain ⟨clause, hmade, hclause⟩ := exists_hasValues hlaws (hgiven ▸ hnodup) hmarked
    refine ⟨clause, w', (start_ofStatement hbound).trans (by rw [hmade]), ?_⟩
    exact (carries_iff hlaws hbound hnodup (fun name => (hnames name).mpr) hclause).mpr fun name => (hnames name).mp

end Outcome

/-! ## Clauses of templates -/

section Bind

variable {chain : List Strategy} {template : Template} {invocation : Invocation} {statement : Statement}
  {w w₁ : World}

theorem start_bind_of_ok (h : (Statement.bind "named" .named chain template invocation).start w = (.ok statement, w₁)) :
    (bind toolkit .named chain template invocation).start w = (ofStatement toolkit statement).start w₁ := by
  rw [bind, Run.start_bind, h]

theorem names_of_bind (h : (Statement.bind "named" .named chain template invocation).start w = (.ok statement, w₁)) :
    statement.names = bindingNames statement.bindings.length := by
  obtain ⟨values, w₀, texts, -, -, rfl⟩ := start_bind_eq_ok.mp h
  rfl

/-- The statement is that of the values that the paths are resolved to, and of the texts of those that are substituted. -/
theorem eq_ofParts_of_bind (h : (Statement.bind "named" .named chain template invocation).start w = (.ok statement, w₁))
    {values : List Value} {texts : List String} {w₀ : World}
    (hvalues : Run.Makes (Resolve.path chain invocation) template.paths w values w₀)
    (htexts : Run.Makes Run.textOf (substituted template.fragments values) w₀ texts w₁) :
    statement = ofParts "named" .named (placed template.fragments values texts) := by
  have hstatement : (Statement.bind "named" .named chain template invocation).start w
      = (.ok (ofParts "named" .named (placed template.fragments values texts)), w₁) :=
    start_bind_eq_ok.mpr ⟨values, w₀, texts, hvalues, htexts, rfl⟩
  rw [h] at hstatement
  exact Except.ok.inj (congrArg Prod.fst hstatement)

/-- Where the texts of a template keep its markers apart, the names of all bindings are found in the statement. -/
theorem markedNames_of_keepsApart
    (h : (Statement.bind "named" .named chain template invocation).start w = (.ok statement, w₁))
    {values : List Value} {texts : List String} {w₀ : World}
    (hvalues : Run.Makes (Resolve.path chain invocation) template.paths w values w₀)
    (htexts : Run.Makes Run.textOf (substituted template.fragments values) w₀ texts w₁)
    (hapart : KeepsApart (around template.fragments texts)) :
    markedNames cut statement.sql = markedNames cut (around template.fragments texts).before
        ++ ((around template.fragments texts).behind.mapIdx fun index text =>
            bindingName index :: markedNames cut text).flatten ∧
      (around template.fragments texts).behind.length = statement.bindings.length := by
  have hsupplied := supplied_of_length (length_of_makes hvalues)
  have hlength := htexts.length_eq.trans (length_substituted hsupplied)
  have hverbatim : MarkerStyle.named.escape = none := rfl
  have hjoin := join_layoutFrom hverbatim hsupplied hlength 0
  simp only [Nat.zero_add] at hjoin
  obtain rfl := eq_ofParts_of_bind h hvalues htexts
  constructor
  · rw [← markedNames_around cut hapart, ← hjoin]
    rfl
  · rw [length_behind, ← length_bound hsupplied, ← filterMap_binding?_placed hsupplied hlength]
    rfl

/-- What comes of a template that is bound with named markers. The clause carries the bindings `p0`, `p1` and so on, each
with its value and the column type of its declared type, and nothing else, just when all bindings get a column type and
the names found in the text are those of the bindings. Otherwise it carries other names besides, or none comes out: a value
fails to give a column type, or the first name of a binding that is not found is reported.

Bindings of types that have a column type, and of plain data, always get one. If the texts of the template keep its markers
apart, then all bindings are found, and besides them the names that the texts mark themselves; so if they mark none, the
names found are those of the bindings. -/
theorem bind_outcome (hlaws : toolkit.Laws cut)
    (h : (Statement.bind "named" .named chain template invocation).start w = (.ok statement, w₁)) :
    Outcome toolkit cut statement w₁ ((bind toolkit .named chain template invocation).start w) ∧
      statement.names = bindingNames statement.bindings.length ∧
      ((∃ clause w', (bind toolkit .named chain template invocation).start w = (.ok clause, w') ∧
            Carries toolkit clause statement) ↔
        (∃ bound w', HandsOver toolkit statement w₁ bound w') ∧
          ∀ name, name ∈ markedNames cut statement.sql ↔ name ∈ statement.names) ∧
      ((∀ binding ∈ statement.bindings,
          (binding.type.genericType?).isSome = true ∨ binding.value.isDatum = true) →
        ∃ bound, HandsOver toolkit statement w₁ bound w₁) ∧
      ∀ values w₀ texts, Run.Makes (Resolve.path chain invocation) template.paths w values w₀ →
        Run.Makes Run.textOf (substituted template.fragments values) w₀ texts w₁ →
        KeepsApart (around template.fragments texts) →
        markedNames cut statement.sql = markedNames cut (around template.fragments texts).before
            ++ ((around template.fragments texts).behind.mapIdx fun index text =>
                bindingName index :: markedNames cut text).flatten ∧
          (markedNames cut (around template.fragments texts).before = [] →
            (∀ text ∈ (around template.fragments texts).behind, markedNames cut text = []) →
            markedNames cut statement.sql = statement.names) := by
  have hnames := names_of_bind h
  have hlength : statement.names.length = statement.bindings.length := by
    rw [hnames, length_bindingNames]
  have hnodup : statement.names.Nodup := hnames ▸ nodup_bindingNames _
  rw [start_bind_of_ok h]
  refine ⟨ofStatement_outcome hlaws hlength hnodup w₁, hnames, exists_carries_iff hlaws hlength hnodup w₁,
    fun htyped => exists_handsOver hlaws htyped w₁, ?_⟩
  intro values w₀ texts hvalues htexts hapart
  obtain ⟨hmarked, hbehind⟩ := markedNames_of_keepsApart h hvalues htexts hapart
  refine ⟨hmarked, fun hbefore hunmarked => ?_⟩
  rw [hmarked, hbefore, List.nil_append, hnames, ← hbehind]
  exact MarkerForm.row_of_empty _ hunmarked

end Bind

/-- A type behind two colons is no name, and two bindings are carried, of which one has a declared type. -/
theorem bind_outcome_cast :
    let invocation := Invocation.ofArguments (.ofNames "m" ["a", "b"]) [("a", .int 1), ("b", .text "x")]
    ∃ template statement,
      Template.parse .standard "SELECT c::date WHERE d = \x7ba\x7d OR e = \x7bb\x7d" [("a", "BIGINT")] = .ok template ∧
      (Statement.bind "named" .named (Strategy.standard false) template invocation).start .empty
        = (.ok statement, .empty) ∧
      statement.sql = "SELECT c::date WHERE d = :p0 OR e = :p1" ∧
      ∃ clause w', (bind Library.toolkit .named (Strategy.standard false) template invocation).start .empty = (.ok clause, w') ∧
        Carries Library.toolkit clause statement := by
  intro invocation
  let a : Path := ⟨["a"], by simp, by decide +kernel⟩
  let b : Path := ⟨["b"], by simp, by decide +kernel⟩
  let template : Template := ⟨"SELECT c::date WHERE d = \x7ba\x7d OR e = \x7bb\x7d",
    [.literal "SELECT c::date WHERE d = ", .parameter a .bigInt, .literal " OR e = ", .parameter b .unknown]⟩
  have hvalues : Run.Makes (Resolve.path (Strategy.standard false) invocation) template.paths .empty
      [.int 1, .text "x"] .empty :=
    .cons rfl (.cons rfl (.nil .empty))
  have htexts : Run.Makes Run.textOf (substituted template.fragments [.int 1, .text "x"]) .empty [] .empty :=
    .nil .empty
  have hbind : (Statement.bind "named" .named (Strategy.standard false) template invocation).start .empty
      = (.ok (ofParts "named" .named (placed template.fragments [.int 1, .text "x"] [])), .empty) :=
    start_bind_eq_ok.mpr ⟨_, .empty, [], hvalues, htexts, rfl⟩
  have hapart : KeepsApart (around template.fragments []) :=
    ⟨by decide +kernel, by decide +kernel, by decide +kernel⟩
  obtain ⟨-, -, hcarries, htyped, hmarked⟩ := bind_outcome Library.laws_toolkit hbind
  have hnames := (hmarked _ _ _ hvalues htexts hapart).2 (by decide +kernel) (by decide +kernel)
  obtain ⟨bound, hbound⟩ := htyped (by decide +kernel)
  exact ⟨template, _, by decide +kernel, hbind, by decide +kernel,
    hcarries.mpr ⟨⟨bound, .empty, hbound⟩, fun name => by rw [hnames]⟩⟩

/-- A name in the text is carried besides the binding. The binding itself is not found if a word goes on behind its marker,
or a cast stands there, and then no clause comes out. -/
theorem bind_outcome_fails :
    let invocation := Invocation.ofArguments (.ofNames "m" ["a"]) [("a", .int 1)]
    let statement (template : Template) : Option Statement :=
      ((Statement.bind "named" .named (Strategy.standard false) template invocation).start .empty).1.toOption
    let clause (template : Template) : Option Library.Clause :=
      ((bind Library.toolkit .named (Strategy.standard false) template invocation).start .empty).1.toOption
    let a : Path := ⟨["a"], by simp, by decide⟩
    let named : Template := ⟨":x \x7ba\x7d", [.literal ":x ", .parameter a .unknown]⟩
    let word : Template := ⟨"\x7ba\x7dx", [.parameter a .unknown, .literal "x"]⟩
    let cast : Template := ⟨"\x7ba\x7d::int", [.parameter a .unknown, .literal "::int"]⟩
    (Template.parse .standard ":x \x7ba\x7d" [] = .ok named ∧
      (statement named).map (fun made => (made.sql, made.names)) = some (":x :p0", ["p0"]) ∧
      (clause named).map (fun made => made.values.map (·.name)) = some ["x", "p0"]) ∧
    (Template.parse .standard "\x7ba\x7dx" [] = .ok word ∧
      (statement word).map (fun made => (made.sql, made.names)) = some (":p0x", ["p0"]) ∧
      (clause word).isNone = true) ∧
    Template.parse .standard "\x7ba\x7d::int" [] = .ok cast ∧
      (statement cast).map (fun made => (made.sql, made.names)) = some (":p0::int", ["p0"]) ∧
      (clause cast).isNone = true := by
  refine ⟨⟨?_, ?_, ?_⟩, ⟨?_, ?_, ?_⟩, ?_, ?_, ?_⟩
  all_goals decide +kernel

end SqlTemplate.TextClause
