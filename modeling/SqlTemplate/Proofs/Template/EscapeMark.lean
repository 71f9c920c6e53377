import Mathlib.Data.List.TakeWhile
import Mathlib.Tactic.Set
import SqlTemplate.Template.Parser
/-!
# What opens an escape sequence

A brace opens an escape sequence when the text behind it starts with an *escape mark*: blanks and then
either `?=`, or a keyword in any case and one blank. `opensEscape` finds this out by looking at all of the
text that is left of the template. The main facts are

* `opensEscape_iff`: what it finds is a mark at the start of that text;
* `StartsEscape.append` and `startsEscape_append_brace_iff`: a mark holds no brace, so the answer is the same
  for the whole rest of a template and for what stands in front of the next brace.
-/

namespace SqlTemplate

open Text

/-- A character that is a brace. -/
def IsBrace (c : Char) : Prop := c = '{' ∨ c = '}'

/-- A text without braces. -/
def BraceFree (text : List Char) : Prop := ∀ c ∈ text, ¬ IsBrace c

/-- The texts that make a brace in front of them open an escape sequence. -/
inductive EscapeMark : List Char → Prop where
  | returning {blanks : List Char} (hblanks : ∀ c ∈ blanks, isBlank c = true) :
    EscapeMark (blanks ++ ['?', '='])
  | keyword {blanks word : List Char} {blank : Char} (hblanks : ∀ c ∈ blanks, isBlank c = true)
    (hword : word.map Char.toLower ∈ escapeKeywords) (hblank : isBlank blank = true) :
    EscapeMark (blanks ++ (word ++ [blank]))

/-- A text with an escape mark at its start. -/
def StartsEscape (text : List Char) : Prop := ∃ mark, EscapeMark mark ∧ mark <+: text

/-! ## Characters of a mark -/

theorem not_isAlpha_of_isBlank {c : Char} (h : isBlank c = true) : c.isAlpha = false := by
  simp only [isBlank, inRanges, blankRanges, List.any_cons, List.any_nil, Bool.or_eq_true,
    Bool.and_eq_true, decide_eq_true_eq, Bool.or_false] at h
  rw [Bool.eq_false_iff]
  intro halpha
  have hcode : c.toNat = c.val.toNat := rfl
  rcases (Bool.or_eq_true _ _).mp halpha with hupper | hlower
  · have hrange : 65 ≤ c.val.toNat ∧ c.val.toNat ≤ 90 := of_decide_eq_true hupper
    omega
  · obtain ⟨hfirst, hlast⟩ := (Bool.and_eq_true _ _).mp hlower
    have hrange : 97 ≤ c.val.toNat ∧ c.val.toNat ≤ 122 := ⟨of_decide_eq_true hfirst, of_decide_eq_true hlast⟩
    omega

theorem not_isBrace_of_isBlank {c : Char} (h : isBlank c = true) : ¬ IsBrace c := by
  rintro (rfl | rfl) <;> exact absurd h (by decide)

theorem not_isBrace_of_isAlpha {c : Char} (h : c.isAlpha = true) : ¬ IsBrace c := by
  rintro (rfl | rfl) <;> exact absurd h (by decide)

/-- Only capital letters have another lower case. -/
theorem eq_or_isUpper_of_toLower (c : Char) : c.toLower = c ∨ c.isUpper = true := by
  by_cases hupper : c.val ≥ 'A'.val ∧ c.val ≤ 'Z'.val
  · exact .inr (decide_eq_true hupper)
  · exact .inl (dif_neg hupper)

/-- A keyword is made of letters, and of at least one. -/
theorem letters_of_mem_escapeKeywords {word : List Char}
    (h : word.map Char.toLower ∈ escapeKeywords) :
    word ≠ [] ∧ ∀ c ∈ word, c.isAlpha = true := by
  have hletters : ∀ keyword ∈ escapeKeywords, keyword ≠ [] ∧ keyword.all Char.isAlpha = true := by
    decide
  obtain ⟨hne, hall⟩ := hletters _ h
  refine ⟨fun hnil => hne (by simp [hnil]), fun c hc => ?_⟩
  have hletter : c.toLower.isAlpha = true := List.all_eq_true.mp hall _ (List.mem_map_of_mem hc)
  rcases eq_or_isUpper_of_toLower c with hsame | hupper
  · rwa [hsame] at hletter
  · exact (Bool.or_eq_true _ _).mpr (.inl hupper)

theorem EscapeMark.braceFree {mark : List Char} (h : EscapeMark mark) : BraceFree mark := by
  intro c hc
  cases h with
  | returning hblanks =>
    rcases List.mem_append.mp hc with hc | hc
    · exact not_isBrace_of_isBlank (hblanks c hc)
    · simp only [List.mem_cons, List.not_mem_nil, or_false] at hc
      rcases hc with rfl | rfl <;> simp [IsBrace]
  | keyword hblanks hword hblank =>
    simp only [List.mem_append, List.mem_singleton] at hc
    rcases hc with hc | hc | rfl
    · exact not_isBrace_of_isBlank (hblanks c hc)
    · exact not_isBrace_of_isAlpha ((letters_of_mem_escapeKeywords hword).2 c hc)
    · exact not_isBrace_of_isBlank hblank

/-! ## The test for a mark -/

theorem startsReturningCall_iff (text : List Char) :
    startsReturningCall text = true ↔
      ∃ blanks, (∀ c ∈ blanks, isBlank c = true) ∧ blanks ++ ['?', '='] <+: text := by
  rw [startsReturningCall, List.isPrefixOf_iff_prefix, trimStart]
  constructor
  · rintro ⟨rest, hrest⟩
    refine ⟨text.takeWhile isBlank, fun c hc => List.mem_takeWhile_imp hc, rest, ?_⟩
    rw [List.append_assoc, hrest, List.takeWhile_append_dropWhile]
  · rintro ⟨blanks, hblanks, rest, rfl⟩
    rw [List.append_assoc, List.dropWhile_append_of_pos hblanks]
    exact ⟨rest, by rw [List.cons_append, List.dropWhile_cons_of_neg (by decide)]⟩

theorem startsKeyword_iff (text : List Char) :
    startsKeyword text = true ↔
      ∃ blanks word blank, (∀ c ∈ blanks, isBlank c = true) ∧
        word.map Char.toLower ∈ escapeKeywords ∧ isBlank blank = true ∧
        blanks ++ (word ++ [blank]) <+: text := by
  simp only [startsKeyword, trimStart, Bool.and_eq_true, List.contains_iff_mem, Option.any_eq_true]
  constructor
  · rintro ⟨hword, blank, hhead, hblank⟩
    set body := text.dropWhile isBlank with hbody
    obtain ⟨rest, hrest⟩ := List.head?_eq_some_iff.mp hhead
    refine ⟨text.takeWhile isBlank, body.takeWhile Char.isAlpha, blank,
      fun c hc => List.mem_takeWhile_imp hc, hword, hblank, rest, ?_⟩
    calc text.takeWhile isBlank ++ (body.takeWhile Char.isAlpha ++ [blank]) ++ rest
        = text.takeWhile isBlank ++ (body.takeWhile Char.isAlpha ++ blank :: rest) := by simp
      _ = text := by
        rw [← hrest, List.takeWhile_append_dropWhile, hbody, List.takeWhile_append_dropWhile]
  · rintro ⟨blanks, word, blank, hblanks, hword, hblank, rest, rfl⟩
    obtain ⟨hne, hletters⟩ := letters_of_mem_escapeKeywords hword
    -- a letter is no blank, so the blanks end where the word starts and the word ends where a blank follows
    have hbody : (blanks ++ (word ++ [blank]) ++ rest).dropWhile isBlank = word ++ blank :: rest := by
      obtain ⟨c, more, rfl⟩ := List.exists_cons_of_ne_nil hne
      have hc : ¬ isBlank c = true := fun hc => by
        simpa [not_isAlpha_of_isBlank hc] using hletters c (by simp)
      simp only [List.append_assoc, List.dropWhile_append_of_pos hblanks, List.cons_append,
        List.dropWhile_cons_of_neg hc, List.nil_append]
    have hstop : ¬ blank.isAlpha = true := by simp [not_isAlpha_of_isBlank hblank]
    rw [hbody, List.takeWhile_append_of_pos hletters, List.dropWhile_append_of_pos hletters,
      List.takeWhile_cons_of_neg hstop, List.dropWhile_cons_of_neg hstop, List.append_nil]
    exact ⟨hword, blank, rfl, hblank⟩

/-- The test for an escape sequence is the test for a mark. -/
theorem opensEscape_iff (text : List Char) : opensEscape text = true ↔ StartsEscape text := by
  rw [opensEscape, Bool.or_eq_true, startsReturningCall_iff, startsKeyword_iff]
  constructor
  · rintro (⟨blanks, hblanks, hpre⟩ | ⟨blanks, word, blank, hblanks, hword, hblank, hpre⟩)
    · exact ⟨_, .returning hblanks, hpre⟩
    · exact ⟨_, .keyword hblanks hword hblank, hpre⟩
  · rintro ⟨mark, hmark, hpre⟩
    cases hmark with
    | returning hblanks => exact .inl ⟨_, hblanks, hpre⟩
    | keyword hblanks hword hblank => exact .inr ⟨_, _, _, hblanks, hword, hblank, hpre⟩

/-! ## How far a mark reaches -/

theorem StartsEscape.append {text : List Char} (h : StartsEscape text) (more : List Char) :
    StartsEscape (text ++ more) := by
  obtain ⟨mark, hmark, hpre⟩ := h
  exact ⟨mark, hmark, hpre.trans (List.prefix_append text more)⟩

/-- A mark never reaches past a brace. -/
theorem startsEscape_append_brace_iff {c : Char} (hc : IsBrace c) (text rest : List Char) :
    StartsEscape (text ++ c :: rest) ↔ StartsEscape text := by
  refine ⟨?_, fun h => h.append _⟩
  rintro ⟨mark, hmark, hpre⟩
  have hnot : c ∉ mark := fun hmem => hmark.braceFree c hmem hc
  -- the mark and the text up to the brace are both at the start, and the longer one holds the other
  have hupto : text ++ [c] <+: text ++ c :: rest := ⟨rest, by simp⟩
  rcases List.prefix_or_prefix_of_prefix hpre hupto with h | h
  · rcases List.prefix_concat_iff.mp h with rfl | h
    · exact absurd (by simp) hnot
    · exact ⟨mark, hmark, h⟩
  · exact absurd (h.subset (by simp)) hnot

end SqlTemplate
