import Mathlib.Data.List.Nodup
import SqlTemplate.Proofs.Named
import SqlTemplate.Proofs.Run
import SqlTemplate.Statement
/-!
# Rendered statements

Rendering goes once through the fragments of a template, with the values still to be used and the number of the
next marker. A parameter takes a value and a number, a substitution takes a value only. `Statement.IsRendering` says
what has to come out without a word about that pass: where each value goes by the count of the fragments in front,
and that names lead to the bindings they belong to. `render_statement` is the main theorem.

The texts of substituted values may run code, and they are all the code that rendering runs: `parts_eq` takes
them in front of everything else, in their order.
-/

namespace SqlTemplate

/-- A fragment whose value is written into the SQL text. -/
def Fragment.substitutes : Fragment → Bool
  | .substitution _ => true
  | _ => false

namespace Statement

/-! ## What goes where -/

/-- The values of the substitutions among fragments, when each fragment that takes a value has its own. -/
def substituted (fragments : List Fragment) (values : List Value) : List Value :=
  ((fragments.filter (·.takesValue)).zip values).filterMap fun
    | (.substitution _, value) => some value
    | _ => none

/-- The bindings of the parameters among fragments. -/
def bound (fragments : List Fragment) (values : List Value) : List Binding :=
  ((fragments.filter (·.takesValue)).zip values).filterMap fun
    | (.parameter _ type, value) => some ⟨value, type⟩
    | _ => none

section Consumption

variable (fragments : List Fragment) (values : List Value)

@[simp] theorem substituted_literal (text : String) :
    substituted (.literal text :: fragments) values = substituted fragments values :=
  rfl

@[simp] theorem substituted_parameter (path : Path) (type : SqlType) (value : Value) :
    substituted (.parameter path type :: fragments) (value :: values) = substituted fragments values :=
  rfl

@[simp] theorem substituted_substitution (path : Path) (value : Value) :
    substituted (.substitution path :: fragments) (value :: values)
      = value :: substituted fragments values :=
  rfl

@[simp] theorem bound_literal (text : String) :
    bound (.literal text :: fragments) values = bound fragments values :=
  rfl

@[simp] theorem bound_parameter (path : Path) (type : SqlType) (value : Value) :
    bound (.parameter path type :: fragments) (value :: values)
      = ⟨value, type⟩ :: bound fragments values :=
  rfl

@[simp] theorem bound_substitution (path : Path) (value : Value) :
    bound (.substitution path :: fragments) (value :: values) = bound fragments values :=
  rfl

end Consumption

/-- What stands for a fragment, given the fragments in front of it and the texts of all substituted values: literal text
and substituted text stand for themselves, and a marker is numbered by the parameters in front. -/
def contribution? {α : Type} (ofText : String → α) (ofMarker : Nat → α) (before : List Fragment)
    (texts : List String) : Fragment → Option α
  | .literal text => some (ofText text)
  | .parameter _ _ => some (ofMarker (before.countP (·.binds)))
  | .substitution _ => texts[before.countP (·.substitutes)]?.map ofText

/-- The type of the values of a fragment that is bound. -/
def boundType? : Fragment → Option SqlType
  | .parameter _ type => some type
  | _ => none

/-- The marker of the binding with a number, as drivers know it by the name of a common style. -/
def expectedMarker (paramstyle : String) (index : Nat) : String :=
  match paramstyle with
  | "qmark" => "?"
  | "numeric" => ":" ++ toString (index + 1)
  | "format" => "%s"
  | "named" => ":p" ++ toString index
  | "pyformat" => "%(p" ++ toString index ++ ")s"
  | _ => ""

/-- Text between markers, as drivers read it: those that take a format text for a statement read two percent signs
as one. -/
def expectedText (paramstyle : String) (text : String) : String :=
  match paramstyle with
  | "format" | "pyformat" =>
    String.ofList (text.toList.flatMap fun c => if c = '%' then ['%', '%'] else [c])
  | _ => text

/-- Names are told apart and each leads to the value of the binding with its number. -/
structure NamesBindings (statement : Statement) : Prop where
  names : statement.names
    = (List.range statement.bindings.length).map fun (index : Nat) => "p" ++ toString index
  distinct : statement.names.Nodup
  arguments : 1 ≤ statement.bindings.length → ∃ entries : List (String × Value),
    statement.arguments = .named entries ∧ (entries.map (·.1)).Nodup ∧
      entries.length = statement.bindings.length ∧
      ∀ (place : Nat) (name : String) (binding : Binding), statement.names[place]? = some name →
        statement.bindings[place]? = some binding → entries.lookup name = some binding.value

/-- A statement is what a template and values make in a common style, given the texts of the substituted values. -/
structure IsRendering (paramstyle : String) (template : Template) (values : List Value)
    (texts : List String) (statement : Statement) : Prop where
  sql : ∃ segments : List String,
    segments.map some = template.fragments.mapIdx (fun place fragment =>
      contribution? (expectedText paramstyle) (expectedMarker paramstyle)
        (template.fragments.take place) texts fragment) ∧
    statement.sql = String.join segments
  bindings : statement.bindings = bound template.fragments values
  count : statement.bindings.length = template.markerCount
  /-- The types are those of the parameters, in their order. -/
  types : statement.types = template.fragments.filterMap boundType?
  named : paramstyle = "named" ∨ paramstyle = "pyformat" → NamesBindings statement
  positional : paramstyle = "qmark" ∨ paramstyle = "numeric" ∨ paramstyle = "format" →
    statement.arguments = .positional (statement.bindings.map (·.value))

/-! ## The parts of a statement -/

/-- Values for fragments: one for each that takes a value. -/
inductive Supplied : List Fragment → List Value → Prop where
  | nil : Supplied [] []
  | literal (text : String) {fragments : List Fragment} {values : List Value} :
    Supplied fragments values → Supplied (.literal text :: fragments) values
  | parameter (path : Path) (type : SqlType) (value : Value) {fragments : List Fragment}
    {values : List Value} :
    Supplied fragments values → Supplied (.parameter path type :: fragments) (value :: values)
  | substitution (path : Path) (value : Value) {fragments : List Fragment} {values : List Value} :
    Supplied fragments values → Supplied (.substitution path :: fragments) (value :: values)

/-- It is enough to count the values. -/
theorem supplied_of_length {fragments : List Fragment} {values : List Value}
    (h : values.length = (fragments.filter (·.takesValue)).length) : Supplied fragments values := by
  induction fragments generalizing values with
  | nil =>
    obtain rfl : values = [] := by simpa using h
    exact .nil
  | cons fragment fragments ih =>
    cases fragment with
    | literal text => exact .literal text (ih h)
    | parameter path type =>
      obtain ⟨value, values, rfl⟩ := List.exists_cons_of_length_eq_add_one h
      exact .parameter path type value (ih (Nat.succ.inj h))
    | substitution path =>
      obtain ⟨value, values, rfl⟩ := List.exists_cons_of_length_eq_add_one h
      exact .substitution path value (ih (Nat.succ.inj h))

/-- The parts that fragments make with values and with the texts of those that are substituted. -/
def placed : List Fragment → List Value → List String → List StatementPart
  | .literal text :: more, values, texts => .text text :: placed more values texts
  | .parameter _ type :: more, value :: values, texts =>
    .bound ⟨value, type⟩ :: placed more values texts
  | .substitution _ :: more, _ :: values, text :: texts => .text text :: placed more values texts
  | _, _, _ => []

/-- Making the parts runs nothing but the texts of the substituted values, one after the other. -/
theorem parts_eq {fragments : List Fragment} {values : List Value} (h : Supplied fragments values) :
    parts fragments values
      = placed fragments values <$> (substituted fragments values).mapM Run.textOf := by
  induction h with
  | nil => simp [parts, placed, substituted]
  | literal text _ ih =>
    rw [parts, ih]
    simp [placed]
  | parameter path type value _ ih =>
    rw [parts, ih]
    simp [placed]
  | substitution path value _ ih =>
    -- the text of this value is taken before those of the fragments behind it
    rw [parts, ih]
    simp [placed]

theorem length_substituted {fragments : List Fragment} {values : List Value}
    (h : Supplied fragments values) :
    (substituted fragments values).length = fragments.countP (·.substitutes) := by
  induction h with
  | nil => rfl
  | literal text _ ih => exact ih
  | parameter path type value _ ih => exact ih
  | substitution path value _ ih =>
    rw [substituted_substitution, List.length_cons, ih, List.countP_cons_of_pos rfl]

theorem length_bound {fragments : List Fragment} {values : List Value}
    (h : Supplied fragments values) :
    (bound fragments values).length = fragments.countP (·.binds) := by
  induction h with
  | nil => rfl
  | literal text _ ih => exact ih
  | parameter path type value _ ih =>
    rw [bound_parameter, List.length_cons, ih, List.countP_cons_of_pos rfl]
  | substitution path value _ ih => exact ih

/-- The bindings have the types of the parameters. -/
theorem map_type_bound {fragments : List Fragment} {values : List Value}
    (h : Supplied fragments values) :
    (bound fragments values).map (·.type) = fragments.filterMap boundType? := by
  induction h with
  | nil => rfl
  | literal text _ ih => exact ih
  | parameter path type value _ ih =>
    rw [bound_parameter, List.map_cons, ih]
    rfl
  | substitution path value _ ih => exact ih

/-- Texts for a substitution and the fragments behind it start with the text of the substitution. -/
theorem exists_text {path : Path} {fragments : List Fragment} {texts : List String}
    (h : texts.length = (Fragment.substitution path :: fragments).countP (·.substitutes)) :
    ∃ text rest, texts = text :: rest ∧ rest.length = fragments.countP (·.substitutes) := by
  rw [List.countP_cons_of_pos rfl] at h
  obtain ⟨text, rest, rfl⟩ := List.exists_cons_of_length_eq_add_one h
  exact ⟨text, rest, rfl, Nat.succ.inj h⟩

/-- The bindings of the parts are those of the parameters. -/
theorem filterMap_binding?_placed {fragments : List Fragment} {values : List Value}
    (h : Supplied fragments values) {texts : List String}
    (htexts : texts.length = fragments.countP (·.substitutes)) :
    (placed fragments values texts).filterMap binding? = bound fragments values := by
  induction h generalizing texts with
  | nil => rfl
  | literal text _ ih => exact ih htexts
  | parameter path type value _ ih =>
    rw [bound_parameter, ← ih htexts]
    rfl
  | substitution path value _ ih =>
    obtain ⟨text, rest, rfl, hrest⟩ := exists_text htexts
    exact ih hrest

/-! ### One thing for each part

A statement's text is one reading of its parts among others: what a driver reads a text or a marker as comes from the
same parts, by the same counts. -/

/-- One thing for each part, by what a text and what the marker with a number stands for; `index` is the number of the
next marker. -/
def arrangeFrom {α : Type} (ofText : String → α) (ofMarker : Nat → α) (index : Nat) :
    List StatementPart → List α
  | [] => []
  | .text text :: more => ofText text :: arrangeFrom ofText ofMarker index more
  | .bound _ :: more => ofMarker index :: arrangeFrom ofText ofMarker (index + 1) more

/-- What stands for the parts behind some fragments. The number of the next marker is the number of parameters in
front, and the texts that are `used` are those of the substitutions in front. -/
theorem arrangeFrom_placed {α : Type} (ofText : String → α) (ofMarker : Nat → α)
    {fragments : List Fragment} {values : List Value} (h : Supplied fragments values)
    (before : List Fragment) (used : List String) {texts : List String}
    (hused : used.length = before.countP (·.substitutes))
    (htexts : texts.length = fragments.countP (·.substitutes)) :
    (arrangeFrom ofText ofMarker (before.countP (·.binds)) (placed fragments values texts)).map some
      = fragments.mapIdx fun place fragment =>
          contribution? ofText ofMarker (before ++ fragments.take place) (used ++ texts) fragment := by
  -- what has been laid out moves from `fragments` and `texts` to `before` and `used`
  induction h generalizing before used texts with
  | nil => rfl
  | @literal text fragments values _ ih =>
    have hrest := ih (before ++ [.literal text]) used
      (by simpa [Fragment.substitutes] using hused) htexts
    simp only [List.countP_append, List.append_assoc] at hrest
    rw [placed, arrangeFrom, List.map_cons, List.mapIdx_cons]
    exact congrArg₂ (· :: ·) rfl hrest
  | @parameter path type value fragments values _ ih =>
    have hrest := ih (before ++ [.parameter path type]) used
      (by simpa [Fragment.substitutes] using hused) htexts
    simp only [List.countP_append, List.append_assoc] at hrest
    rw [placed, arrangeFrom, List.map_cons, List.mapIdx_cons]
    refine congrArg₂ (· :: ·) ?_ hrest
    simp [contribution?]
  | @substitution path value fragments values _ ih =>
    obtain ⟨text, rest, rfl, hlength⟩ := exists_text htexts
    have hrest := ih (before ++ [.substitution path]) (used ++ [text])
      (by simpa [Fragment.substitutes] using hused) hlength
    simp only [List.countP_append, List.append_assoc] at hrest
    rw [placed, arrangeFrom, List.map_cons, List.mapIdx_cons]
    refine congrArg₂ (· :: ·) ?_ hrest
    simp [contribution?, ← hused]

/-- The texts of parts are what stands for them in the statement. -/
theorem layoutFrom_eq_arrangeFrom (style : MarkerStyle) (index : Nat) (parts : List StatementPart) :
    layoutFrom style index parts = arrangeFrom style.escaped (fun i => style.marker i) index parts := by
  induction parts generalizing index with
  | nil => rfl
  | cons part parts ih =>
    cases part with
    | text text => rw [layoutFrom, arrangeFrom, ih]
    | bound binding => rw [layoutFrom, arrangeFrom, ih]

/-! ## The names of bindings -/

/-- A number is written with digits only. -/
theorem isDigit_of_mem_toString {number : Nat} {c : Char}
    (h : c ∈ (toString (number : Int)).toList) : c.isDigit = true := by
  have hdigits : (toString (number : Int)).toList = Nat.toDigits 10 number := Nat.toList_repr
  rw [hdigits] at h
  exact Nat.isDigit_of_mem_toDigits (by decide) (by decide) h

/-- A binding is named by a letter and digits. -/
theorem eq_or_isDigit_of_mem_bindingName {index : Nat} {c : Char} (h : c ∈ (bindingName index).toList) :
    c = 'p' ∨ c.isDigit = true := by
  rw [bindingName, String.toList_append, List.mem_append] at h
  exact h.imp List.mem_singleton.mp isDigit_of_mem_toString

theorem bindingName_injective {a b : Nat} (h : bindingName a = bindingName b) : a = b := by
  have hdigits : Nat.toDigits 10 a = Nat.toDigits 10 b := by
    have htext : toString a = toString b := (String.append_right_inj "p").mp h
    simpa [← String.toList_inj] using htext
  rw [← Nat.ofDigitChars_toDigits (b := 10) (n := a) (by decide) (by decide), hdigits,
    Nat.ofDigitChars_toDigits (by decide) (by decide)]

theorem nodup_bindingNames (count : Nat) : (bindingNames count).Nodup :=
  List.nodup_range.map fun _ _ => bindingName_injective

theorem length_bindingNames (count : Nat) : (bindingNames count).length = count := by
  rw [bindingNames, List.length_map, List.length_range]

/-- Where values are passed by name, each is found under the name of its marker. -/
theorem namesBindings_ofParts (paramstyle : String) {style : MarkerStyle}
    (h : style.positional = false) (parts : List StatementPart) :
    NamesBindings (ofParts paramstyle style parts) := by
  set statement := ofParts paramstyle style parts with hstatement
  have hnames : statement.names = bindingNames statement.bindings.length := by
    simp [hstatement, ofParts, h]
  have hdistinct : statement.names.Nodup := hnames ▸ nodup_bindingNames _
  set values := statement.bindings.map (·.value) with hvalues
  have hlength : statement.names.length = values.length := by
    rw [hnames, length_bindingNames, hvalues, List.length_map]
  have hkeys : ((statement.names.zip values).map (·.1)).Nodup := by
    rw [List.map_fst_zip (Nat.le_of_eq hlength)]
    exact hdistinct
  refine ⟨hnames, hdistinct, fun hsome => ⟨statement.names.zip values, ?_, hkeys, ?_, ?_⟩⟩
  · have hfilled : statement.names.isEmpty = false := by
      rw [List.isEmpty_eq_false_iff, ← List.length_pos_iff, hnames, length_bindingNames]
      exact hsome
    -- the names are distinct, so no entry takes the place of another
    rw [arguments, hfilled, if_neg Bool.false_ne_true, namedOfList_eq_self hkeys]
  · rw [List.length_zip, hlength, Nat.min_self, hvalues, List.length_map]
  · intro place name binding hname hbinding
    exact lookup_zip hdistinct hname (by rw [hvalues, List.getElem?_map, hbinding]; rfl)

/-- Where values are passed by position, they are the values of the bindings. -/
theorem arguments_ofParts (paramstyle : String) {style : MarkerStyle}
    (h : style.positional = true) (parts : List StatementPart) :
    (ofParts paramstyle style parts).arguments
      = .positional ((ofParts paramstyle style parts).bindings.map (·.value)) := by
  simp [arguments, ofParts, h]

/-! ## Rendering -/

/-- There are five styles to begin with. -/
theorem standard_cases {paramstyle : String} {style : MarkerStyle}
    (h : MarkerStyles.standard.find paramstyle = .ok style) :
    (paramstyle = "qmark" ∧ style = .qmark) ∨ (paramstyle = "numeric" ∧ style = .numeric) ∨
      (paramstyle = "format" ∧ style = .format) ∨ (paramstyle = "named" ∧ style = .named) ∨
      (paramstyle = "pyformat" ∧ style = .pyformat) := by
  have hmem : (paramstyle, style) ∈ MarkerStyles.standard := by
    unfold MarkerStyles.find at h
    split at h
    · obtain rfl := Except.ok.inj h
      exact mem_of_lookup ‹_›
    · exact absurd h (by simp)
  simpa [MarkerStyles.standard] using hmem

/-- The common styles write the markers and the texts that drivers know. -/
theorem writes_expected {paramstyle : String} {style : MarkerStyle}
    (hstyle : MarkerStyles.standard.find paramstyle = .ok style) :
    (fun index : Nat => style.marker index) = expectedMarker paramstyle ∧
      style.escaped = expectedText paramstyle := by
  obtain ⟨rfl, rfl⟩ | ⟨rfl, rfl⟩ | ⟨rfl, rfl⟩ | ⟨rfl, rfl⟩ | ⟨rfl, rfl⟩ := standard_cases hstyle
  · exact ⟨funext MarkerStyle.marker_qmark, funext MarkerStyle.escaped_qmark⟩
  · exact ⟨funext MarkerStyle.marker_numeric, funext MarkerStyle.escaped_numeric⟩
  · exact ⟨funext MarkerStyle.marker_format, funext MarkerStyle.escaped_format⟩
  · exact ⟨funext MarkerStyle.marker_named, funext MarkerStyle.escaped_named⟩
  · exact ⟨funext MarkerStyle.marker_pyformat, funext MarkerStyle.escaped_pyformat⟩

/-- The parts of a template with given texts make a statement that is a rendering. -/
theorem isRendering_ofParts {paramstyle : String} {style : MarkerStyle}
    (hstyle : MarkerStyles.standard.find paramstyle = .ok style) {template : Template}
    {values : List Value} (hvalues : Supplied template.fragments values) {texts : List String}
    (htexts : texts.length = template.fragments.countP (·.substitutes)) :
    IsRendering paramstyle template values texts
      (ofParts paramstyle style (placed template.fragments values texts)) where
  sql := by
    obtain ⟨hmarker, htext⟩ := writes_expected hstyle
    refine ⟨layoutFrom style 0 (placed template.fragments values texts), ?_, rfl⟩
    rw [layoutFrom_eq_arrangeFrom, hmarker, htext]
    exact arrangeFrom_placed _ _ hvalues [] [] rfl htexts
  bindings := filterMap_binding?_placed hvalues htexts
  count := by
    rw [Template.markerCount, ← length_bound hvalues]
    exact congrArg List.length (filterMap_binding?_placed hvalues htexts)
  types := by
    rw [types, ← map_type_bound hvalues]
    exact congrArg (List.map (·.type)) (filterMap_binding?_placed hvalues htexts)
  named := by
    rintro (rfl | rfl)
    · obtain rfl := Except.ok.inj hstyle
      exact namesBindings_ofParts _ rfl _
    · obtain rfl := Except.ok.inj hstyle
      exact namesBindings_ofParts _ rfl _
  positional := by
    rintro (rfl | rfl | rfl)
    all_goals
      obtain rfl := Except.ok.inj hstyle
      exact arguments_ofParts _ rfl _

/-- With the right number of values rendering makes the statement of the parts, once the substituted values have their
texts. -/
theorem start_render (paramstyle : String) (style : MarkerStyle) {template : Template}
    {values : List Value} (hcount : values.length = template.valueFragments.length)
    {texts : List String} {w w' : World}
    (htexts : ((substituted template.fragments values).mapM Run.textOf).start w = (.ok texts, w')) :
    (render paramstyle style template values).start w
      = (.ok (ofParts paramstyle style (placed template.fragments values texts)), w') := by
  have hsupplied : Supplied template.fragments values := supplied_of_length hcount
  rw [render, if_neg (not_not.mpr hcount), parts_eq hsupplied, Run.start_bind_eq_ok]
  exact ⟨_, w', Run.start_map htexts, rfl⟩

/-- The texts of the substituted values are one for each substitution. -/
theorem length_texts {fragments : List Fragment} {values : List Value}
    (h : Supplied fragments values) {texts : List String} {w w' : World}
    (htexts : ((substituted fragments values).mapM Run.textOf).start w = (.ok texts, w')) :
    texts.length = fragments.countP (·.substitutes) :=
  (Run.length_of_mapM htexts).trans (length_substituted h)

/-- Rendering a template with values. With the wrong number of values nothing is run, and the fault has both numbers.
With the right number the texts of the substituted values are taken in order, and the statement is made of them. -/
theorem render_statement {paramstyle : String} {style : MarkerStyle}
    (hstyle : MarkerStyles.standard.find paramstyle = .ok style) (template : Template)
    (values : List Value) :
    (values.length ≠ template.valueFragments.length → ∀ w,
      (render paramstyle style template values).start w
        = (.error (.fault (.wrongCount template.valueFragments.length values.length) none), w)) ∧
    (values.length = template.valueFragments.length → ∀ texts w w',
      ((substituted template.fragments values).mapM Run.textOf).start w = (.ok texts, w') →
      ∃ statement, (render paramstyle style template values).start w = (.ok statement, w') ∧
        IsRendering paramstyle template values texts statement) := by
  constructor
  · intro hcount w
    rw [render, if_pos hcount, Run.start_fail]
  · intro hcount texts w w' htexts
    have hsupplied : Supplied template.fragments values := supplied_of_length hcount
    exact ⟨_, start_render paramstyle style hcount htexts,
      isRendering_ofParts hstyle hsupplied (length_texts hsupplied htexts)⟩

/-- A substitution between two parameters: it uses a value and no number, so the second parameter is `p1`. -/
theorem render_statement_pyformat :
    ∃ template : Template, template.valueFragments.length = 3 ∧
      (render "pyformat" .pyformat template [.null]).start .empty
        = (.error (.fault (.wrongCount 3 1) none), .empty) ∧
      ∃ statement,
        (render "pyformat" .pyformat template [.int 7, .text "LIKE '5%'", .null]).start .empty
          = (.ok statement, .empty) ∧
        IsRendering "pyformat" template [.int 7, .text "LIKE '5%'", .null] ["LIKE '5%'"] statement ∧
        statement.sql = "%% %(p0)sLIKE '5%%' = %(p1)s" ∧
        statement.types = [.longVarChar, .integer] ∧ statement.names = ["p0", "p1"] := by
  have hstyle : MarkerStyles.standard.find "pyformat" = .ok .pyformat := rfl
  let path : Path := ⟨["a"], by simp, by decide +kernel⟩
  let template : Template := ⟨"", [.literal "% ", .parameter path .longVarChar, .substitution path,
    .literal " = ", .parameter path .integer]⟩
  refine ⟨template, rfl, (render_statement hstyle template [.null]).1 (by decide) .empty, ?_⟩
  obtain ⟨statement, hrun, hrendering⟩ :=
    (render_statement hstyle template [.int 7, .text "LIKE '5%'", .null]).2 rfl _ .empty .empty rfl
  refine ⟨statement, hrun, hrendering, ?_⟩
  have hsome : ((render "pyformat" .pyformat template [.int 7, .text "LIKE '5%'", .null]).start
      .empty).1.toOption = some statement := congrArg (·.1.toOption) hrun
  obtain rfl := Option.some.inj hsome
  exact ⟨by decide +kernel, rfl, by decide +kernel⟩

end Statement

end SqlTemplate
