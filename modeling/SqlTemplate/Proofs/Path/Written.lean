import SqlTemplate.Proofs.Path.Split
import SqlTemplate.Proofs.Text.Words
/-!
# Written paths

A path is written as its parts with dots between them. Written like that it is an expression, and the path which
that expression denotes is the path itself (`Path.ofExpression_expression`): the parts hold neither the dots at
which an expression is cut nor the blanks that are dropped around every part.
-/

namespace SqlTemplate

open Text

/-! ## Characters of identifiers -/

/-- No identifier holds a blank. -/
theorem not_isBlank_of_isIdentifierContinue {c : Char} (h : isIdentifierContinue c = true) :
    ¬ isBlank c = true := by
  -- there are few blanks, so each of them is looked up in the tables of the identifiers
  have hcodes : ∀ range ∈ blankRanges, ∀ code ∈ List.range' range.1 (range.2 + 1 - range.1),
      (inRanges identifierStartRanges code || inRanges identifierExtenderRanges code) = false := by
    decide +kernel
  intro hblank
  obtain ⟨range, hrange, hin⟩ := List.any_eq_true.mp hblank
  rw [Bool.and_eq_true, decide_eq_true_eq, decide_eq_true_eq] at hin
  have hcode : c.toNat ∈ List.range' range.1 (range.2 + 1 - range.1) := by
    rw [List.mem_range'_1]
    omega
  have hnone : isIdentifierContinue c = false := hcodes range hrange c.toNat hcode
  rw [hnone] at h
  exact Bool.false_ne_true h

/-! ## Cutting and trimming -/

/-- A text without blanks at its ends is left as it is. -/
theorem trim_eq_self {text : List Char} (hfirst : ∀ c ∈ text.head?, ¬ isBlank c = true)
    (hlast : ∀ c ∈ text.getLast?, ¬ isBlank c = true) : trim text = text := by
  have hkept : ∀ text : List Char, (∀ c ∈ text.head?, ¬ isBlank c = true) →
      text.dropWhile isBlank = text := by
    intro text hhead
    cases text with
    | nil => rfl
    | cons c rest => exact List.dropWhile_cons_of_neg (hhead c rfl)
  have hstart : trimStart text = text := hkept text hfirst
  have hend : text.reverse.dropWhile isBlank = text.reverse :=
    hkept text.reverse (by rwa [List.head?_reverse])
  rw [trim, hstart, trimEnd, hend, List.reverse_reverse]

theorem trim_of_forall {text : List Char} (h : ∀ c ∈ text, ¬ isBlank c = true) : trim text = text :=
  trim_eq_self (fun c hc => h c (List.mem_of_mem_head? hc)) fun c hc => h c (List.mem_of_mem_getLast? hc)

/-- Cutting at a separator is the cut of the library. -/
theorem splitAt_eq_splitOn (separator : Char) (text : List Char) :
    splitAt separator text = text.splitOn separator := by
  induction text with
  | nil => simp [splitAt]
  | cons c rest ih =>
    rw [splitAt, List.splitOn_cons_eq_if_modifyHead, ih]
    by_cases hc : c = separator
    · simp [hc]
    · rw [if_neg hc, if_neg (by simpa using hc)]
      cases hrest : rest.splitOn separator with
      | nil => exact absurd hrest (by simp)
      | cons piece more => rfl

namespace Path

/-! ## The expression of a path -/

/-- The characters of a part go on an identifier. -/
theorem isIdentifierContinue_of_mem_part {path : Path} {part : String} (hpart : part ∈ path.parts)
    {c : Char} (hc : c ∈ part.toList) : isIdentifierContinue c = true :=
  isIdentifierContinue_of_isIdentifier (path.qualifiers part hpart) hc

theorem toList_expression (path : Path) :
    path.expression.toList = ['.'].intercalate (path.parts.map String.toList) := by
  rw [expression, String.toList_intercalate]
  rfl

/-- A written path holds only characters of identifiers and dots. -/
theorem isIdentifierContinue_of_mem_expression {path : Path} {c : Char}
    (hc : c ∈ path.expression.toList) : isIdentifierContinue c = true ∨ c = '.' := by
  rw [toList_expression] at hc
  rcases mem_intercalate hc with hdot | ⟨part, hpart, hmem⟩
  · exact .inr (List.mem_singleton.mp hdot)
  · obtain ⟨name, hname, rfl⟩ := List.mem_map.mp hpart
    exact .inl (isIdentifierContinue_of_mem_part hname hmem)

theorem not_isBlank_of_mem_expression {path : Path} {c : Char} (hc : c ∈ path.expression.toList) :
    ¬ isBlank c = true := by
  rcases isIdentifierContinue_of_mem_expression hc with hc | rfl
  · exact not_isBlank_of_isIdentifierContinue hc
  · decide

/-- A path has the parts that are cut out of it as it is written. -/
theorem split_expression (path : Path) : split path.expression.toList = path.parts := by
  have htrim : trim path.expression.toList = path.expression.toList :=
    trim_of_forall fun c hc => not_isBlank_of_mem_expression hc
  have hdots : ∀ part ∈ path.parts.map String.toList, '.' ∉ part := by
    intro part hpart hdot
    obtain ⟨name, hname, rfl⟩ := List.mem_map.mp hpart
    exact absurd (isIdentifierContinue_of_mem_part hname hdot) (by decide +kernel)
  have hcut : splitAt '.' path.expression.toList = path.parts.map String.toList := by
    rw [splitAt_eq_splitOn, toList_expression]
    exact List.splitOn_intercalate '.' hdots (by simpa using path.nonempty)
  have hparts : ∀ part ∈ path.parts, String.ofList (trim part.toList) = part := by
    intro part hpart
    rw [trim_of_forall fun c hc =>
      not_isBlank_of_isIdentifierContinue (isIdentifierContinue_of_mem_part hpart hc),
      String.ofList_toList]
  calc split path.expression.toList
      = (path.parts.map String.toList).map fun part => String.ofList (trim part) := by
        rw [split, htrim, hcut]
    _ = path.parts.map id := by
        rw [List.map_map]
        exact List.map_congr_left hparts
    _ = path.parts := List.map_id path.parts

/-- A path is denoted by the way it is written. -/
theorem ofExpression_expression (path : Path) : ofExpression path.expression.toList = .ok path :=
  ofExpression_eq_ok_iff.mpr (split_expression path).symm

theorem expression_ne_nil (path : Path) : path.expression.toList ≠ [] := by
  intro hempty
  have hdenoted := ofExpression_expression path
  rw [hempty] at hdenoted
  exact ofExpression_nil_ne_ok path hdenoted

end Path

end SqlTemplate
