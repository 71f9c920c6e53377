import Mathlib.Data.List.TakeWhile
import SqlTemplate.Path
/-!
# Splitting expressions

An expression denotes a path when its parts, cut at the dots and trimmed, are identifiers. Two facts about this
are needed to tell the expressions that are accepted from those that are not:

* `ofExpression_eq_ok_iff`: an accepted expression denotes the path of exactly its parts;
* `isIdentifierContinue_of_mem`: whatever is neither a blank nor a dot ends up in a part, so an accepted expression
  holds no other characters than blanks, dots and those of identifiers.
-/

namespace SqlTemplate

open Text

/-! ## Characters that are kept -/

theorem mem_trimStart {c : Char} {text : List Char} (hc : c ∈ text) (hblank : ¬ isBlank c = true) :
    c ∈ trimStart text := by
  rw [← List.takeWhile_append_dropWhile (p := isBlank) (l := text)] at hc
  rcases List.mem_append.mp hc with h | h
  · exact absurd (List.mem_takeWhile_imp h) hblank
  · exact h

theorem mem_trim {c : Char} {text : List Char} (hc : c ∈ text) (hblank : ¬ isBlank c = true) :
    c ∈ trim text := by
  have hstart : c ∈ (trimStart text).reverse := List.mem_reverse.mpr (mem_trimStart hc hblank)
  exact List.mem_reverse.mpr (mem_trimStart hstart hblank)

theorem mem_splitAt {separator c : Char} {text : List Char} (hc : c ∈ text) (hne : c ≠ separator) :
    ∃ piece ∈ splitAt separator text, c ∈ piece := by
  induction text with
  | nil => simp at hc
  | cons d rest ih =>
    rw [splitAt]
    rcases List.mem_cons.mp hc with rfl | hrest
    · rw [if_neg hne]
      cases splitAt separator rest with
      | nil => exact ⟨[c], by simp, by simp⟩
      | cons piece more => exact ⟨c :: piece, by simp, by simp⟩
    · obtain ⟨piece, hpiece, hmem⟩ := ih hrest
      split
      · exact ⟨piece, List.mem_cons_of_mem _ hpiece, hmem⟩
      · cases hsplit : splitAt separator rest with
        | nil => simp [hsplit] at hpiece
        | cons first more =>
          rw [hsplit] at hpiece
          rcases List.mem_cons.mp hpiece with rfl | hmore
          · exact ⟨d :: piece, by simp, by simp [hmem]⟩
          · exact ⟨piece, by simp [hmore], hmem⟩

namespace Path

/-- A character that is neither a blank nor a dot stands in one of the parts. -/
theorem mem_split {c : Char} {expression : List Char} (hc : c ∈ expression)
    (hblank : ¬ isBlank c = true) (hdot : c ≠ '.') :
    ∃ part ∈ split expression, c ∈ part.toList := by
  obtain ⟨piece, hpiece, hmem⟩ := mem_splitAt (mem_trim hc hblank) hdot
  refine ⟨String.ofList (trim piece), List.mem_map_of_mem hpiece, ?_⟩
  rw [String.toList_ofList]
  exact mem_trim hmem hblank

/-! ## Accepted expressions -/

/-- An accepted expression denotes the path of its parts. -/
theorem ofExpression_eq_ok_iff {expression : List Char} {path : Path} :
    ofExpression expression = .ok path ↔ path.parts = split expression := by
  rw [ofExpression]
  split
  · next part hbad =>
    constructor
    · intro h
      cases h
    · intro hparts
      have hnone : badPart? path.parts = none := by
        simpa [badPart?, List.find?_eq_none] using path.qualifiers
      rw [hparts, hbad] at hnone
      cases hnone
  · rw [Except.ok.injEq, eq_comm, Path.mk.injEq]

end Path

theorem isIdentifierContinue_of_isIdentifier {text : List Char} (h : isIdentifier text = true)
    {c : Char} (hc : c ∈ text) : isIdentifierContinue c = true := by
  cases text with
  | nil => simp at hc
  | cons d rest =>
    rw [isIdentifier, Bool.and_eq_true, List.all_eq_true] at h
    rcases List.mem_cons.mp hc with rfl | hrest
    · rw [isIdentifierContinue, h.1, Bool.true_or]
    · exact h.2 c hrest

namespace Path

/-- An accepted expression holds only blanks, dots and characters of identifiers. -/
theorem isIdentifierContinue_of_mem {expression : List Char} {path : Path}
    (h : ofExpression expression = .ok path) {c : Char} (hc : c ∈ expression)
    (hblank : ¬ isBlank c = true) (hdot : c ≠ '.') : isIdentifierContinue c = true := by
  obtain ⟨part, hpart, hmem⟩ := mem_split hc hblank hdot
  rw [← ofExpression_eq_ok_iff.mp h] at hpart
  exact isIdentifierContinue_of_isIdentifier (path.qualifiers part hpart) hmem

/-- A colon stands in no accepted expression. -/
theorem colon_not_mem {expression : List Char} {path : Path}
    (h : ofExpression expression = .ok path) : ':' ∉ expression := by
  intro hc
  have hcontinue := isIdentifierContinue_of_mem h hc (by decide) (by decide)
  exact absurd hcontinue (by decide +kernel)

theorem ofExpression_nil_ne_ok (path : Path) : ofExpression [] ≠ .ok path := by
  intro h
  have hparts : path.parts = [""] := ofExpression_eq_ok_iff.mp h
  have hqualifier : isQualifier "" = true := path.qualifiers "" (by simp [hparts])
  exact absurd hqualifier (by decide)

end Path

end SqlTemplate
