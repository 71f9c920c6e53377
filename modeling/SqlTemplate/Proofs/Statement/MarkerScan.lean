import SqlTemplate.Proofs.Statement.Rendering
import SqlTemplate.Template.Parser
/-!
# Markers found in a statement

In the styles that escape nothing a driver looks for markers by their form: a question mark, or a colon and the longest
label behind it. `MarkerForm.scan` finds all of them, and does not know which were written for a binding and which
stand in literal or substituted text.

A statement is a text in front of the markers and one text behind each of them (`around`). `scan_render` is the main
theorem: as long as no text behind a marker goes on with its label, the marker of every binding is found, in order,
and besides them just those that the texts hold themselves. So the markers found are those of the bindings exactly if
no text holds one. `scan_kept_texts` has the two ways in which a template makes the driver find others.
-/

namespace SqlTemplate

/-! ## The scan -/

/-- The form of the markers of a style. -/
structure MarkerForm where
  opening : Char
  /-- The characters of labels. -/
  isLabel : Char → Bool
  /-- The opening character is no marker by itself. -/
  labelled : Bool

namespace MarkerForm

/-- A question mark. -/
def qmark : MarkerForm := ⟨'?', fun _ => false, false⟩

/-- A colon and digits. -/
def numeric : MarkerForm := ⟨':', Char.isDigit, true⟩

/-- A colon and letters, digits and underscores. -/
def named : MarkerForm := ⟨':', fun c => c.isAlphanum || c == '_', true⟩

/-- The form of the markers of the styles that escape nothing. -/
def ofStyle? : String → Option MarkerForm
  | "qmark" => some qmark
  | "numeric" => some numeric
  | "named" => some named
  | _ => none

/-- The markers in a text from left to right, each with all of its label. -/
def scan (form : MarkerForm) : List Char → List String
  | [] => []
  | c :: rest =>
    let label := rest.takeWhile form.isLabel
    if c = form.opening ∧ (form.labelled = true → label ≠ []) then
      String.ofList (c :: label) :: form.scan rest
    else form.scan rest

/-- A text goes on with the label of a marker in front of it. -/
def continues (form : MarkerForm) (text : List Char) : Bool :=
  text.head?.any form.isLabel

/-- A text is a marker. -/
structure IsMarker (form : MarkerForm) (marker : String) : Prop where
  spelled : ∃ label : List Char, marker.toList = form.opening :: label ∧
    (∀ c ∈ label, form.isLabel c = true) ∧ (form.labelled = true → label ≠ [])
  apart : form.isLabel form.opening = false

variable {form : MarkerForm}

theorem continues_append {text rest : List Char} (htext : form.continues text = false)
    (hrest : form.continues rest = false) : form.continues (text ++ rest) = false := by
  cases text with
  | nil => exact hrest
  | cons c text => exact htext

/-- A label ends where a text does not go on with it. -/
theorem takeWhile_append_of_not_continues {rest : List Char} (h : form.continues rest = false)
    (text : List Char) :
    (text ++ rest).takeWhile form.isLabel = text.takeWhile form.isLabel := by
  induction text with
  | nil =>
    cases rest with
    | nil => rfl
    | cons c rest =>
      have hc : form.isLabel c = false := h
      rw [List.nil_append, List.takeWhile_cons_of_neg (by simp [hc]), List.takeWhile_nil]
  | cons c text ih =>
    rw [List.cons_append]
    by_cases hc : form.isLabel c = true
    · rw [List.takeWhile_cons_of_pos hc, List.takeWhile_cons_of_pos hc, ih]
    · rw [List.takeWhile_cons_of_neg hc, List.takeWhile_cons_of_neg hc]

/-- The markers in two texts are found apart unless the second goes on with a label. -/
theorem scan_append {rest : List Char} (h : form.continues rest = false) (text : List Char) :
    form.scan (text ++ rest) = form.scan text ++ form.scan rest := by
  induction text with
  | nil => rfl
  | cons c text ih =>
    rw [List.cons_append, scan, scan, takeWhile_append_of_not_continues h, ih]
    split
    · exact List.cons_append
    · rfl

/-- A label holds no marker. -/
theorem scan_label (h : form.isLabel form.opening = false) {label : List Char}
    (hlabel : ∀ c ∈ label, form.isLabel c = true) : form.scan label = [] := by
  induction label with
  | nil => rfl
  | cons c label ih =>
    have hc : c ≠ form.opening := by
      rintro rfl
      exact Bool.false_ne_true (h.symm.trans (hlabel _ List.mem_cons_self))
    rw [scan, if_neg fun hmarker => hc hmarker.1]
    exact ih fun d hd => hlabel d (List.mem_cons_of_mem c hd)

namespace IsMarker

variable {marker : String}

theorem continues (h : form.IsMarker marker) (rest : List Char) :
    form.continues (marker.toList ++ rest) = false := by
  obtain ⟨⟨label, hspelled, -, -⟩, hapart⟩ := h
  rw [hspelled]
  exact hapart

/-- A marker is found as it is. -/
theorem scan (h : form.IsMarker marker) : form.scan marker.toList = [marker] := by
  obtain ⟨⟨label, hspelled, hlabel, hsome⟩, hapart⟩ := h
  have hwhole : label.takeWhile form.isLabel = label := by
    rw [← List.append_nil label, List.takeWhile_append_of_pos hlabel, List.takeWhile_nil]
  rw [hspelled, MarkerForm.scan, hwhole, if_pos ⟨rfl, hsome⟩, scan_label hapart hlabel, ← hspelled,
    String.ofList_toList]

end IsMarker

/-! ## Markers and the texts behind them -/

section Row

variable {marker : Nat → String} (hmarker : ∀ index, form.IsMarker (marker index))
include hmarker

/-- Markers with texts behind them do not go on with the label of a marker in front. -/
theorem continues_row (behind : List String) :
    form.continues (String.join (behind.mapIdx fun index text => marker index ++ text)).toList
      = false := by
  cases behind with
  | nil => rfl
  | cons text behind =>
    rw [List.mapIdx_cons, String.join_cons, String.toList_append, String.toList_append,
      List.append_assoc]
    exact (hmarker 0).continues _

/-- Among markers with texts behind them, the markers are found and those in each text. -/
theorem scan_row {behind : List String}
    (hclear : ∀ text ∈ behind, form.continues text.toList = false) :
    form.scan (String.join (behind.mapIdx fun index text => marker index ++ text)).toList
      = (behind.mapIdx fun index text => marker index :: form.scan text.toList).flatten := by
  -- the marker in front is taken off, so that the others are numbered from one
  induction behind generalizing marker with
  | nil => rfl
  | cons text behind ih =>
    have hnext : ∀ index, form.IsMarker (marker (index + 1)) := fun index => hmarker (index + 1)
    have hrow := continues_row hnext behind
    have htext : form.continues text.toList = false := hclear text List.mem_cons_self
    have hbehind := ih hnext fun other hother => hclear other (List.mem_cons_of_mem text hother)
    rw [List.mapIdx_cons, List.mapIdx_cons, String.join_cons, String.toList_append,
      String.toList_append, List.append_assoc, scan_append (continues_append htext hrow),
      scan_append hrow, (hmarker 0).scan, hbehind]
    rfl

end Row

/-- Markers with those of the texts behind them are as many as the markers just when the texts have none. -/
theorem length_row {α : Type} (marker : Nat → α) (inner : String → List α) (behind : List String) :
    behind.length ≤ (behind.mapIdx fun index text => marker index :: inner text).flatten.length ∧
    ((behind.mapIdx fun index text => marker index :: inner text).flatten.length = behind.length ↔
      ∀ text ∈ behind, inner text = []) := by
  induction behind generalizing marker with
  | nil => simp
  | cons text behind ih =>
    obtain ⟨hle, heq⟩ := ih fun index => marker (index + 1)
    have hlength : ((text :: behind).mapIdx fun index text => marker index :: inner text).flatten.length
        = (behind.mapIdx fun index text => marker (index + 1) :: inner text).flatten.length
          + (inner text).length + 1 := by
      rw [List.mapIdx_cons, List.flatten_cons, List.length_append, List.length_cons]
      omega
    rw [hlength, List.length_cons, List.forall_mem_cons, ← heq, ← List.length_eq_zero_iff]
    omega

/-- Texts without markers leave the markers alone. -/
theorem row_of_empty {α : Type} (marker : Nat → α) {inner : String → List α} {behind : List String}
    (h : ∀ text ∈ behind, inner text = []) :
    (behind.mapIdx fun index text => marker index :: inner text).flatten
      = (List.range behind.length).map marker := by
  induction behind generalizing marker with
  | nil => rfl
  | cons text behind ih =>
    obtain ⟨htext, hbehind⟩ := List.forall_mem_cons.mp h
    rw [List.mapIdx_cons, List.flatten_cons, htext, ih _ hbehind, List.length_cons,
      List.range_succ_eq_map, List.map_cons, List.map_map]
    rfl

end MarkerForm

namespace Statement

/-! ## The texts around the markers of a statement -/

/-- The texts of a statement: the one in front of its markers, and the one behind each. -/
structure Surroundings where
  before : String
  behind : List String

/-- Text in front of a statement. -/
def Surroundings.prepend (text : String) (around : Surroundings) : Surroundings :=
  { around with before := text ++ around.before }

/-- The texts around the markers for fragments: literal text and the texts of substituted values run together. -/
def around : List Fragment → List String → Surroundings
  | [], _ => ⟨"", []⟩
  | .literal text :: more, texts => (around more texts).prepend text
  | .parameter _ _ :: more, texts =>
    let rest := around more texts
    ⟨"", rest.before :: rest.behind⟩
  | .substitution _ :: more, text :: texts => (around more texts).prepend text
  | .substitution _ :: more, [] => around more []

/-- Behind each marker there is one text. -/
theorem length_behind (fragments : List Fragment) (texts : List String) :
    (around fragments texts).behind.length = fragments.countP (·.binds) := by
  induction fragments generalizing texts with
  | nil => rfl
  | cons fragment fragments ih =>
    cases fragment with
    | literal text => exact ih texts
    | parameter path type =>
      rw [List.countP_cons_of_pos rfl, ← ih texts]
      rfl
    | substitution path =>
      cases texts with
      | nil => exact ih []
      | cons text texts => exact ih texts

/-- In a style that escapes nothing a statement is its texts with the markers between them. -/
theorem join_layoutFrom {style : MarkerStyle} (hstyle : style.escape = none)
    {fragments : List Fragment} {values : List Value} (h : Supplied fragments values)
    {texts : List String} (htexts : texts.length = fragments.countP (·.substitutes)) (first : Nat) :
    String.join (layoutFrom style first (placed fragments values texts))
      = (around fragments texts).before
        ++ String.join ((around fragments texts).behind.mapIdx fun index text =>
            style.marker (first + index : Nat) ++ text) := by
  have hverbatim (text : String) : style.escaped text = text :=
    MarkerStyle.escaped_of_verbatim text hstyle
  induction h generalizing texts first with
  | nil => rfl
  | literal text _ ih =>
    rw [placed, layoutFrom, String.join_cons, ih htexts, hverbatim, ← String.append_assoc]
    rfl
  | parameter path type value _ ih =>
    rw [placed, layoutFrom, String.join_cons, ih htexts, around]
    simp only [List.mapIdx_cons, String.join_cons, Nat.add_zero, String.empty_append,
      String.append_assoc, Nat.add_assoc, Nat.add_comm 1]
  | substitution path value _ ih =>
    obtain ⟨text, rest, rfl, hrest⟩ := exists_text htexts
    rw [placed, layoutFrom, String.join_cons, ih hrest, hverbatim, ← String.append_assoc]
    rfl

/-- Neither text in front of the markers nor text behind one holds a marker. -/
def Surroundings.Unmarked (around : Surroundings) (form : MarkerForm) : Prop :=
  form.scan around.before.toList = [] ∧ ∀ text ∈ around.behind, form.scan text.toList = []

end Statement

/-! ## The styles that escape nothing -/

namespace MarkerForm

/-- The markers of a style are of a form, and the style escapes nothing. -/
structure Fits (form : MarkerForm) (style : MarkerStyle) : Prop where
  verbatim : style.escape = none
  isMarker : ∀ index : Nat, form.IsMarker (style.marker index)

/-- A number is written with at least one digit. -/
theorem toString_ne_nil (number : Nat) : (toString (number : Int)).toList ≠ [] := by
  have hdigits : (toString (number : Int)).toList = Nat.toDigits 10 number := Nat.toList_repr
  rw [hdigits]
  exact Nat.toDigits_ne_nil

theorem fits_qmark : qmark.Fits .qmark where
  verbatim := rfl
  isMarker index := by
    refine ⟨⟨[], ?_, by simp, by simp [qmark]⟩, rfl⟩
    simp [MarkerStyle.marker, MarkerStyle.qmark, qmark]

theorem fits_numeric : numeric.Fits .numeric where
  verbatim := rfl
  isMarker index := by
    refine ⟨⟨(toString ((index + 1 : Nat) : Int)).toList, ?_, ?_, ?_⟩, by decide⟩
    · simp [MarkerStyle.marker, MarkerStyle.numeric, numeric]
    · intro c hc
      exact Statement.isDigit_of_mem_toString hc
    · intro _
      exact toString_ne_nil (index + 1)

theorem fits_named : named.Fits .named where
  verbatim := rfl
  isMarker index := by
    refine ⟨⟨(bindingName index).toList, ?_, ?_, ?_⟩, by decide⟩
    · simp [MarkerStyle.marker, MarkerStyle.named, named]
    · intro c hc
      rcases Statement.eq_or_isDigit_of_mem_bindingName hc with rfl | hdigit
      · decide
      · simp [named, Char.isAlphanum, hdigit]
    · intro _
      simp [bindingName]

theorem fits_of_ofStyle? {paramstyle : String} {form : MarkerForm} {style : MarkerStyle}
    (hform : ofStyle? paramstyle = some form)
    (hstyle : MarkerStyles.standard.find paramstyle = .ok style) : form.Fits style := by
  unfold ofStyle? at hform
  split at hform
  · obtain rfl := Option.some.inj hform
    obtain rfl := Except.ok.inj hstyle
    exact fits_qmark
  · obtain rfl := Option.some.inj hform
    obtain rfl := Except.ok.inj hstyle
    exact fits_numeric
  · obtain rfl := Option.some.inj hform
    obtain rfl := Except.ok.inj hstyle
    exact fits_named
  · exact absurd hform (by simp)

end MarkerForm

namespace Statement

/-- What a driver finds in a statement: the marker of each binding, in order, and the markers that the texts in front
and behind hold. -/
structure FindsMarkers (form : MarkerForm) (style : MarkerStyle) (template : Template)
    (values : List Value) (texts : List String) (statement : Statement) : Prop where
  bindings : statement.bindings = bound template.fragments values
  count : statement.bindings.length = template.markerCount
  behind : (around template.fragments texts).behind.length = template.markerCount
  found : form.scan statement.sql.toList
    = form.scan (around template.fragments texts).before.toList
      ++ ((around template.fragments texts).behind.mapIdx fun index text =>
          style.marker index :: form.scan text.toList).flatten
  /-- There are as many as bindings just when no text holds one. -/
  length : (form.scan statement.sql.toList).length = template.markerCount ↔
    (around template.fragments texts).Unmarked form
  /-- Then they are those of the bindings. -/
  inOrder : (around template.fragments texts).Unmarked form →
    form.scan statement.sql.toList
      = (List.range template.markerCount).map fun (index : Nat) => style.marker index

/-- Rendered in a style that escapes nothing, a template and values make a statement in which a driver finds the
markers of the bindings and those of the texts, if no text behind a marker goes on with its label. -/
theorem scan_render {paramstyle : String} {style : MarkerStyle} {form : MarkerForm}
    (hstyle : MarkerStyles.standard.find paramstyle = .ok style)
    (hform : MarkerForm.ofStyle? paramstyle = some form) (template : Template)
    (values : List Value) (hcount : values.length = template.valueFragments.length)
    {texts : List String} {w w' : World}
    (htexts : ((substituted template.fragments values).mapM Run.textOf).start w = (.ok texts, w'))
    (hclear : ∀ text ∈ (around template.fragments texts).behind,
      form.continues text.toList = false) :
    ∃ statement, (render paramstyle style template values).start w = (.ok statement, w') ∧
      FindsMarkers form style template values texts statement := by
  have hfits : form.Fits style := MarkerForm.fits_of_ofStyle? hform hstyle
  have hsupplied : Supplied template.fragments values := supplied_of_length hcount
  have hlength := length_texts hsupplied htexts
  set surroundings := around template.fragments texts with hsurroundings
  set statement := ofParts paramstyle style (placed template.fragments values texts) with hstatement
  have hsql : statement.sql.toList = surroundings.before.toList
      ++ (String.join (surroundings.behind.mapIdx fun index text =>
          style.marker (index : Nat) ++ text)).toList := by
    have hjoin := join_layoutFrom hfits.verbatim hsupplied hlength 0
    simp only [Nat.zero_add] at hjoin
    rw [← String.toList_append]
    exact congrArg String.toList hjoin
  have hbehind : surroundings.behind.length = template.markerCount :=
    length_behind template.fragments texts
  have hfound : form.scan statement.sql.toList = form.scan surroundings.before.toList
      ++ (surroundings.behind.mapIdx fun index text =>
          style.marker (index : Nat) :: form.scan text.toList).flatten := by
    rw [hsql, MarkerForm.scan_append (MarkerForm.continues_row hfits.isMarker _),
      MarkerForm.scan_row hfits.isMarker hclear]
  obtain ⟨hle, heq⟩ := MarkerForm.length_row (fun index : Nat => style.marker index)
    (fun text => form.scan text.toList) surroundings.behind
  have hbindings : statement.bindings = bound template.fragments values :=
    filterMap_binding?_placed hsupplied hlength
  refine ⟨statement, start_render paramstyle style hcount htexts,
    ⟨hbindings, ?_, hbehind, hfound, ?_, ?_⟩⟩
  · rw [hbindings, length_bound hsupplied, Template.markerCount]
  · show _ ↔ surroundings.Unmarked form
    rw [hfound, List.length_append, ← hbehind, Surroundings.Unmarked, ← heq,
      ← List.length_eq_zero_iff]
    omega
  · rintro ⟨hbefore, hafter⟩
    rw [hfound, hbefore, List.nil_append, ← hbehind]
    exact MarkerForm.row_of_empty _ hafter

/-- A type behind two colons is found, and so is a marker that a literal text and a substituted text make together. -/
theorem scan_render_casts :
    MarkerForm.ofStyle? "named" = some .named ∧ ∃ template : Template,
      (around template.fragments ["30"]).before = "SELECT a::date, '12:30' WHERE b = " ∧
      (around template.fragments ["30"]).behind = [" AND c = ", ""] ∧
      template.valueFragments.length = 3 ∧
      (∀ text ∈ (around template.fragments ["30"]).behind,
        MarkerForm.named.continues text.toList = false) ∧
      ∃ statement,
        (render "named" .named template [.int 30, .null, .bool true]).start .empty
          = (.ok statement, .empty) ∧
        FindsMarkers .named .named template [.int 30, .null, .bool true] ["30"] statement := by
  have hform : MarkerForm.ofStyle? "named" = some .named := rfl
  let path : Path := ⟨["a"], by simp, by decide +kernel⟩
  let template : Template := ⟨"", [.literal "SELECT a::date, '12:", .substitution path,
    .literal "' WHERE b = ", .parameter path .longVarChar, .literal " AND c = ",
    .parameter path .longVarChar]⟩
  have hclear : ∀ text ∈ (around template.fragments ["30"]).behind,
      MarkerForm.named.continues text.toList = false := by
    decide +kernel
  refine ⟨hform, template, by decide +kernel, by decide +kernel, rfl, hclear, ?_⟩
  exact scan_render rfl hform template [.int 30, .null, .bool true] rfl rfl hclear

/-- A question mark in an escape sequence is kept, so that two are found for one binding; and a digit behind a
numbered marker is kept, so that the marker of another binding is found. -/
theorem scan_kept_texts :
    let call : Template := ⟨"\x7b?= call next_id(\x7bseq\x7d)\x7d", [.literal "\x7b?= call next_id(",
      .parameter ⟨["seq"], by simp, by decide⟩ .unknown, .literal ")\x7d"]⟩
    let limit : Template := ⟨"LIMIT \x7bn\x7d0", [.literal "LIMIT ",
      .parameter ⟨["n"], by simp, by decide⟩ .unknown, .literal "0"]⟩
    (Template.parse .standard "\x7b?= call next_id(\x7bseq\x7d)\x7d" [] = .ok call ∧
      call.markerCount = 1 ∧ MarkerStyle.qmark.marker 0 = "?" ∧
      ((render "qmark" .qmark call [.int 7]).start .empty).1.toOption.map
        (fun statement => MarkerForm.qmark.scan statement.sql.toList) = some ["?", "?"]) ∧
    (Template.parse .standard "LIMIT \x7bn\x7d0" [] = .ok limit ∧
      limit.markerCount = 1 ∧ MarkerStyle.numeric.marker 0 = ":1" ∧
      ((render "numeric" .numeric limit [.int 7]).start .empty).1.toOption.map
        (fun statement => MarkerForm.numeric.scan statement.sql.toList) = some [":10"]) := by
  refine ⟨⟨?_, ?_, ?_, ?_⟩, ?_, ?_, ?_, ?_⟩
  all_goals decide +kernel

end Statement

end SqlTemplate
