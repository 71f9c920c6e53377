import SqlTemplate.Proofs.Path.Padded
/-!
# Joining and splitting

The parts of a path are joined with dots, and an expression is split at its dots. Each of the two takes back the other,
but for blanks around the parts, which joining puts nowhere and splitting drops (`Path.ofExpression_inverts_join`).

The two directions are not alike. Any expression at all is what it is split into, with blanks and dots put back
(`paddedJoin_split`): splitting takes only these away. The other way it matters that the parts are identifiers
(`PaddedJoin.split_eq`), because only then is every dot and every outer blank of the joined text one that was put there.
-/

namespace SqlTemplate

open Text

/-! ## Putting back the blanks -/

/-- Any text is a padded part whose name is what trimming leaves. -/
theorem exists_paddedPart (text : List Char) :
    ∃ part : PaddedPart, part.text = text ∧ part.name = String.ofList (trim text) := by
  obtain ⟨front, back, hfront, hback, htext⟩ := exists_blanks_trim text
  refine ⟨⟨front, String.ofList (trim text), back, hfront, hback⟩, ?_, rfl⟩
  rw [PaddedPart.text, String.toList_ofList, ← htext]

theorem exists_paddedParts (texts : List (List Char)) :
    ∃ padded : List PaddedPart, padded.map (·.text) = texts ∧
      padded.map (·.name) = texts.map fun text => String.ofList (trim text) := by
  induction texts with
  | nil => exact ⟨[], rfl, rfl⟩
  | cons text texts ih =>
    obtain ⟨padded, htexts, hnames⟩ := ih
    obtain ⟨part, htext, hname⟩ := exists_paddedPart text
    refine ⟨part :: padded, ?_, ?_⟩
    · rw [List.map_cons, htext, htexts]
    · rw [List.map_cons, List.map_cons, hname, hnames]

/-! ## Joining with blanks -/

/-- An expression is made by joining parts with dots and adding any blanks at both ends and around the dots. -/
def PaddedJoin (parts : List String) (expression : List Char) : Prop :=
  ∃ padded : List PaddedPart, padded.map (·.name) = parts ∧ paddedPath padded = expression

/-- Every expression is a join of what it is split into. -/
theorem paddedJoin_split (expression : List Char) : PaddedJoin (Path.split expression) expression := by
  obtain ⟨padded, htexts, hnames⟩ := exists_paddedParts (expression.splitOn '.')
  refine ⟨padded, ?_, ?_⟩
  · rw [hnames, Path.split_eq]
  · rw [paddedPath, htexts, List.intercalate_splitOn]

/-- A join of identifiers is split into just these. -/
theorem PaddedJoin.split_eq {parts : List String} {expression : List Char} (h : PaddedJoin parts expression)
    (hne : parts ≠ []) (hparts : ∀ part ∈ parts, isQualifier part = true) : Path.split expression = parts := by
  obtain ⟨padded, rfl, rfl⟩ := h
  have hpadded : padded ≠ [] := by
    rintro rfl
    exact hne rfl
  exact split_paddedPath hpadded fun part hpart => hparts part.name (List.mem_map_of_mem hpart)

/-! ## The path of an expression -/

namespace Path

variable {parts : List String}

/-- An expression denotes the path of what it is split into if these are identifiers. -/
theorem map_parts_ofExpression_eq_ok_iff {expression : List Char} :
    (ofExpression expression).map (·.parts) = .ok parts ↔
      split expression = parts ∧ ∀ part ∈ parts, isQualifier part = true := by
  constructor
  · intro h
    cases hpath : ofExpression expression with
    | error fault =>
      rw [hpath] at h
      cases h
    | ok path =>
      rw [hpath] at h
      obtain rfl : path.parts = parts := Except.ok.inj h
      exact ⟨(ofExpression_eq_ok_iff.mp hpath).symm, path.qualifiers⟩
  · rintro ⟨rfl, hparts⟩
    have hpath : ofExpression expression = .ok ⟨split expression, split_ne_nil expression, hparts⟩ :=
      ofExpression_eq_ok_iff.mpr rfl
    rw [hpath]
    rfl

/-- Identifiers joined with dots alone denote the path of just these. -/
theorem ofExpression_intercalate (hne : parts ≠ []) (hparts : ∀ part ∈ parts, isQualifier part = true) :
    ofExpression (".".intercalate parts).toList = .ok ⟨parts, hne, hparts⟩ :=
  ofExpression_expression ⟨parts, hne, hparts⟩

/-- Splitting is the inverse of joining. An expression denotes the path of some parts exactly if these are identifiers,
at least one, and it is made by joining them with dots and adding any blanks at both ends and around the dots. When parts
are joined with dots alone they are found again exactly if they are identifiers, at least one. And when the path of an
accepted expression is written as the join of its parts, that denotes the same path again; a refused expression has the
same fault on both sides. -/
theorem ofExpression_inverts_join (expression : List Char) (parts : List String) :
    ((ofExpression expression).map (·.parts) = .ok parts ↔
        (parts ≠ [] ∧ ∀ part ∈ parts, isQualifier part = true) ∧ PaddedJoin parts expression) ∧
      ((ofExpression (".".intercalate parts).toList).map (·.parts) = .ok parts ↔
        parts ≠ [] ∧ ∀ part ∈ parts, isQualifier part = true) ∧
      (ofExpression expression >>= fun path => ofExpression path.expression.toList) = ofExpression expression := by
  refine ⟨?_, ?_, ?_⟩
  · rw [map_parts_ofExpression_eq_ok_iff]
    constructor
    · rintro ⟨rfl, hparts⟩
      exact ⟨⟨split_ne_nil expression, hparts⟩, paddedJoin_split expression⟩
    · rintro ⟨⟨hne, hparts⟩, hjoin⟩
      exact ⟨hjoin.split_eq hne hparts, hparts⟩
  · constructor
    · intro h
      obtain ⟨hsplit, hparts⟩ := map_parts_ofExpression_eq_ok_iff.mp h
      refine ⟨?_, hparts⟩
      rw [← hsplit]
      exact split_ne_nil _
    · rintro ⟨hne, hparts⟩
      rw [ofExpression_intercalate hne hparts]
      rfl
  · cases ofExpression expression with
    | error fault => rfl
    | ok path => exact ofExpression_expression path

/-- Two identifiers with blanks of several kinds around them, a no-break space among these. -/
theorem ofExpression_padded_identifiers :
    (["addr", "größe"] ≠ [] ∧ ∀ part ∈ ["addr", "größe"], isQualifier part = true) ∧
      PaddedJoin ["addr", "größe"] " addr\t.\u00a0größe\n".toList ∧
      (ofExpression " addr\t.\u00a0größe\n".toList).map (·.parts) = .ok ["addr", "größe"] ∧
      (ofExpression (".".intercalate ["addr", "größe"]).toList).map (·.parts) = .ok ["addr", "größe"] := by
  have hparts : ["addr", "größe"] ≠ [] ∧ ∀ part ∈ ["addr", "größe"], isQualifier part = true := by
    decide +kernel
  have hjoin : PaddedJoin ["addr", "größe"] " addr\t.\u00a0größe\n".toList :=
    ⟨[⟨[' '], "addr", ['\t'], List.all_eq_true.mp rfl, List.all_eq_true.mp rfl⟩,
      ⟨['\u00a0'], "größe", ['\n'], List.all_eq_true.mp rfl, List.all_eq_true.mp rfl⟩], rfl, by decide +kernel⟩
  obtain ⟨hpadded, hplain, -⟩ := ofExpression_inverts_join " addr\t.\u00a0größe\n".toList ["addr", "größe"]
  exact ⟨hparts, hjoin, hpadded.mpr ⟨hparts, hjoin⟩, hplain.mpr hparts⟩

end Path

end SqlTemplate
