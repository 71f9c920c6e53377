import SqlTemplate.Proofs.Path.Written
/-!
# Blanks around the parts of a path

An expression is trimmed as a whole before it is cut at its dots, and every part is trimmed again. The first trimming
changes nothing of the outcome (`Path.split_eq`), because blanks at an end of the expression are blanks at an end of its
first or its last part. So an expression is split by splitting what stands on both sides of any dot in it
(`Path.split_dot`), and a path that is written with blanks around its parts has just these parts (`split_paddedPath`).
-/

namespace SqlTemplate

open Text

/-! ## Blanks at the ends -/

/-- A text is what trimming leaves of it, between blanks. -/
theorem exists_blanks_trim (text : List Char) :
    ∃ front back, (∀ c ∈ front, isBlank c = true) ∧ (∀ c ∈ back, isBlank c = true) ∧
      text = front ++ trim text ++ back := by
  obtain ⟨back, hback, htext⟩ := exists_trimEnd_append (trimStart text)
  refine ⟨text.takeWhile isBlank, back, fun c hc => List.mem_takeWhile_imp hc, hback, ?_⟩
  rw [trim, List.append_assoc, ← htext, trimStart, List.takeWhile_append_dropWhile]

theorem trim_blanks_append {blanks : List Char} (h : ∀ c ∈ blanks, isBlank c = true) (text : List Char) :
    trim (blanks ++ text) = trim text := by
  rw [trim, trim, trimStart, trimStart, List.dropWhile_append_of_pos h]

theorem trim_append_blanks {blanks : List Char} (h : ∀ c ∈ blanks, isBlank c = true) (text : List Char) :
    trim (text ++ blanks) = trim text := by
  have hnone : blanks.dropWhile isBlank = [] := List.dropWhile_eq_nil_iff.mpr h
  rw [trim, trim, trimStart, trimStart, List.dropWhile_append]
  split
  -- there is nothing but blanks
  · next hempty =>
    rw [hnone, List.isEmpty_iff.mp hempty]
  · exact trimEnd_append_blanks h _

theorem trim_padded {front text back : List Char} (hfront : ∀ c ∈ front, isBlank c = true)
    (hback : ∀ c ∈ back, isBlank c = true) : trim (front ++ text ++ back) = trim text := by
  rw [trim_append_blanks hback, trim_blanks_append hfront]

theorem dot_not_mem_blanks {blanks : List Char} (h : ∀ c ∈ blanks, isBlank c = true) : '.' ∉ blanks :=
  fun hdot => absurd (h '.' hdot) (by decide)

/-! ## Cutting a longer text -/

/-- What is put in front of a text without a separator goes to its first piece. -/
theorem exists_splitOn_append_left {separator : Char} {front : List Char} (h : separator ∉ front)
    (text : List Char) :
    ∃ first more, text.splitOn separator = first :: more ∧
      (front ++ text).splitOn separator = (front ++ first) :: more := by
  obtain ⟨first, more, hsplit⟩ := List.exists_cons_of_ne_nil (List.splitOn_ne_nil separator text)
  refine ⟨first, more, hsplit, ?_⟩
  induction front with
  | nil => exact hsplit
  | cons c front ih =>
    obtain ⟨hc, hfront⟩ : separator ≠ c ∧ separator ∉ front := by simpa using h
    have hne : (c == separator) = false := beq_eq_false_iff_ne.mpr (Ne.symm hc)
    rw [List.cons_append, List.splitOn_cons_eq_if_modifyHead, hne, ih hfront]
    rfl

/-- What is put behind a text without a separator goes to its last piece. -/
theorem exists_splitOn_append_right {separator : Char} {back : List Char} (h : separator ∉ back)
    (text : List Char) :
    ∃ init last, text.splitOn separator = init ++ [last] ∧
      (text ++ back).splitOn separator = init ++ [last ++ back] := by
  induction text with
  | nil => exact ⟨[], [], by simp, by simpa using List.splitOn_eq_singleton h⟩
  | cons c text ih =>
    obtain ⟨init, last, htext, hlonger⟩ := ih
    rw [List.cons_append, List.splitOn_cons_eq_if_modifyHead, List.splitOn_cons_eq_if_modifyHead, htext, hlonger]
    cases c == separator with
    | true => exact ⟨[] :: init, last, rfl, rfl⟩
    | false =>
      cases init with
      | nil => exact ⟨[], c :: last, rfl, rfl⟩
      | cons piece init => exact ⟨(c :: piece) :: init, last, rfl, rfl⟩

namespace Path

/-! ## The parts of a longer expression -/

/-- Trimming the expression as a whole makes no difference to its parts. -/
theorem split_eq (expression : List Char) :
    split expression = (expression.splitOn '.').map fun part => String.ofList (trim part) := by
  obtain ⟨front, back, hfront, hback, htext⟩ := exists_blanks_trim expression
  obtain ⟨init, last, hinside, hbehind⟩ :=
    exists_splitOn_append_right (dot_not_mem_blanks hback) (trim expression)
  obtain ⟨first, more, hcut, hwhole⟩ :=
    exists_splitOn_append_left (dot_not_mem_blanks hfront) (trim expression ++ back)
  rw [split, splitAt_eq_splitOn, hinside]
  conv_rhs => rw [htext, List.append_assoc, hwhole]
  rw [hbehind] at hcut
  cases init with
  | nil =>
    obtain ⟨rfl, rfl⟩ := List.cons.inj hcut
    rw [List.nil_append, List.map_singleton, List.map_singleton, ← List.append_assoc, trim_padded hfront hback]
  | cons piece init =>
    rw [List.cons_append] at hcut
    obtain ⟨rfl, rfl⟩ := List.cons.inj hcut
    rw [List.cons_append, List.map_cons, List.map_cons, List.map_append, List.map_append, List.map_singleton,
      List.map_singleton, trim_blanks_append hfront, trim_append_blanks hback]

theorem split_trim (expression : List Char) : split (trim expression) = split expression := by
  rw [split_eq, split, splitAt_eq_splitOn]

/-- An expression is split on both sides of a dot by itself. -/
theorem split_dot (left right : List Char) : split (left ++ '.' :: right) = split left ++ split right := by
  rw [split_eq, split_eq, split_eq, List.splitOn_append_cons_self, List.map_append]

/-- What has neither dots nor, at its ends, blanks is one part, whatever blanks are put around it. -/
theorem split_part {front back : List Char} {part : String} (hfront : ∀ c ∈ front, isBlank c = true)
    (hback : ∀ c ∈ back, isBlank c = true) (hpart : isQualifier part = true) :
    split (front ++ part.toList ++ back) = [part] := by
  have hcontinue : ∀ c ∈ part.toList, isIdentifierContinue c = true :=
    fun c hc => isIdentifierContinue_of_isIdentifier hpart hc
  have hdot : '.' ∉ front ++ part.toList ++ back := by
    rw [List.mem_append, List.mem_append, not_or, not_or]
    refine ⟨⟨dot_not_mem_blanks hfront, fun hdot => ?_⟩, dot_not_mem_blanks hback⟩
    exact absurd (hcontinue '.' hdot) (by decide +kernel)
  have htrim : trim part.toList = part.toList :=
    trim_of_forall fun c hc => not_isBlank_of_isIdentifierContinue (hcontinue c hc)
  rw [split_eq, List.splitOn_eq_singleton hdot, List.map_singleton, trim_padded hfront hback, htrim,
    String.ofList_toList]

end Path

/-! ## Padded paths -/

/-- A part of a path as it may be written, with blanks on both sides. -/
structure PaddedPart where
  before : List Char
  name : String
  after : List Char
  blank_before : ∀ c ∈ before, isBlank c = true
  blank_after : ∀ c ∈ after, isBlank c = true

/-- A padded part, written. -/
def PaddedPart.text (part : PaddedPart) : List Char :=
  part.before ++ part.name.toList ++ part.after

/-- Padded parts, written with dots between them. -/
def paddedPath (parts : List PaddedPart) : List Char :=
  ['.'].intercalate (parts.map (·.text))

@[simp] theorem paddedPath_singleton (part : PaddedPart) : paddedPath [part] = part.text := by
  simp [paddedPath]

@[simp] theorem paddedPath_cons_cons (part next : PaddedPart) (more : List PaddedPart) :
    paddedPath (part :: next :: more) = part.text ++ '.' :: paddedPath (next :: more) := by
  rw [paddedPath, List.map_cons, List.map_cons, List.intercalate_cons_cons, ← List.map_cons, ← paddedPath,
    List.append_assoc, List.singleton_append]

/-- A path that is written with blanks around its parts has these parts. -/
theorem split_paddedPath {parts : List PaddedPart} (hne : parts ≠ [])
    (h : ∀ part ∈ parts, isQualifier part.name = true) :
    Path.split (paddedPath parts) = parts.map (·.name) := by
  induction parts with
  | nil => exact absurd rfl hne
  | cons part parts ih =>
    obtain ⟨hpart, hparts⟩ := List.forall_mem_cons.mp h
    have hfirst : Path.split part.text = [part.name] :=
      Path.split_part part.blank_before part.blank_after hpart
    cases parts with
    | nil => rw [paddedPath_singleton, hfirst, List.map_singleton]
    | cons next more =>
      rw [paddedPath_cons_cons, Path.split_dot, hfirst, ih (List.cons_ne_nil _ _) hparts]
      rfl

theorem isQualifier_of_map_name {path : Path} {parts : List PaddedPart}
    (hparts : parts.map (·.name) = path.parts) : ∀ part ∈ parts, isQualifier part.name = true := by
  intro part hpart
  apply path.qualifiers
  rw [← hparts]
  exact List.mem_map_of_mem hpart

/-- Whatever blanks are put around the parts of a path, it is the same path. -/
theorem ofExpression_paddedPath {path : Path} {parts : List PaddedPart}
    (hparts : parts.map (·.name) = path.parts) : Path.ofExpression (paddedPath parts) = .ok path := by
  have hne : parts ≠ [] := by
    rintro rfl
    exact path.nonempty hparts.symm
  rw [Path.ofExpression_eq_ok_iff, split_paddedPath hne (isQualifier_of_map_name hparts), hparts]

/-- The parts of a path with no blanks around them. -/
def unpadded (path : Path) : List PaddedPart :=
  path.parts.map fun name => ⟨[], name, [], by simp, by simp⟩

theorem map_name_unpadded (path : Path) : (unpadded path).map (·.name) = path.parts := by
  rw [unpadded, List.map_map]
  exact List.map_id path.parts

theorem paddedPath_unpadded (path : Path) : paddedPath (unpadded path) = path.expression.toList := by
  rw [Path.toList_expression, paddedPath, unpadded, List.map_map]
  congr 1
  exact List.map_congr_left fun name _ => by simp [PaddedPart.text]

end SqlTemplate
