import Mathlib.Data.Nat.ModEq
import SqlTemplate.Proofs.Named
import SqlTemplate.Text.Blank
import SqlTemplate.Text.UpperCase
/-!
# Upper case forms

The characters of an upper case form are their own upper case forms (`upper_upper`), and blanks and parentheses neither
have other forms nor appear in the form of another character. Both are facts about the table of forms. To look up every
mapped character there would take long, so the runs of the table are compared with each other instead: the code points of
a run and of its forms are at one distance from one another, and miss another run if they lie outside its bounds, or
between its code points because the distance does not fit.
-/

namespace SqlTemplate.Text

/-! ## Code points at one distance -/

namespace CaseRun

/-- The code points from `first` to `last`. -/
def between (first last : Nat) : CaseRun :=
  ⟨first, last, 1, 0⟩

/-- The code points that a run maps to. -/
def image (run : CaseRun) : CaseRun :=
  ⟨(run.first + run.shift).toNat, (run.last + run.shift).toNat, run.stride, 0⟩

/-- The code points of a run are none of another one. -/
def misses (run other : CaseRun) : Bool :=
  Nat.blt run.last other.first || Nat.blt other.last run.first ||
    ((Nat.beq run.first run.last || Nat.beq (run.stride % other.stride) 0) &&
      !Nat.beq (run.first % other.stride) (other.first % other.stride))

theorem covers_iff {run : CaseRun} {n : Nat} :
    run.covers n = true ↔ run.first ≤ n ∧ n ≤ run.last ∧ run.stride ∣ n - run.first := by
  simp [covers, Nat.dvd_iff_mod_eq_zero, and_assoc]

theorem not_covers_of_misses {run other : CaseRun} (h : run.misses other = true) {n : Nat}
    (hn : run.covers n = true) : other.covers n = false := by
  obtain ⟨hfirst, hlast, hstride⟩ := covers_iff.mp hn
  by_contra hother
  obtain ⟨hfirst', hlast', hstride'⟩ := covers_iff.mp (eq_true_of_ne_false hother)
  simp only [misses, Bool.or_eq_true, Bool.and_eq_true, Bool.not_eq_true', ← Bool.not_eq_true, Nat.blt_eq,
    Nat.beq_eq] at h
  obtain (hbelow | habove) | ⟨hfits, hapart⟩ := h
  · omega
  · omega
  · -- both runs lead to the code point by steps of the other's stride
    apply hapart
    have hrest' : n % other.stride = other.first % other.stride :=
      ((Nat.modEq_iff_dvd' hfirst').mpr hstride').symm
    rw [← hrest']
    rcases hfits with hsingle | hdivides
    · have hn : n = run.first := by omega
      rw [hn]
    · exact (Nat.modEq_iff_dvd' hfirst).mpr ((Nat.dvd_of_mod_eq_zero hdivides).trans hstride)

end CaseRun

/-! ## The table of forms -/

/-- The code points that have another form. -/
def mappedRuns : List CaseRun :=
  upperCaseRuns ++ upperCaseExpansions.map fun entry => .between entry.1 entry.1

/-- The code points of the forms of others. -/
def formRuns : List CaseRun :=
  upperCaseRuns.map (·.image) ++
    upperCaseExpansions.flatMap fun entry => entry.2.map fun n => .between n n

/-- Blanks and parentheses. -/
def separatorRuns : List CaseRun :=
  .between '('.toNat ')'.toNat :: blankRanges.map fun range => .between range.1 range.2

theorem formRuns_miss : (formRuns.all fun run => (mappedRuns ++ separatorRuns).all run.misses) = true := by
  decide +kernel

theorem mappedRuns_miss : (mappedRuns.all fun run => separatorRuns.all run.misses) = true := by
  decide +kernel

theorem upperCaseRuns_start : ∀ run ∈ upperCaseRuns, 0 ≤ run.first + run.shift := by
  decide +kernel

theorem covers_between_iff {first last n : Nat} :
    (CaseRun.between first last).covers n = true ↔ first ≤ n ∧ n ≤ last := by
  rw [CaseRun.covers_iff, ← and_assoc]
  exact and_iff_left (one_dvd _)

theorem covers_between (n : Nat) : (CaseRun.between n n).covers n = true :=
  covers_between_iff.mpr ⟨Nat.le_refl n, Nat.le_refl n⟩

theorem covers_image {run : CaseRun} (hrun : run ∈ upperCaseRuns) {n : Nat} (h : run.covers n = true) :
    run.image.covers (n + run.shift).toNat = true := by
  obtain ⟨hfirst, hlast, hstride⟩ := CaseRun.covers_iff.mp h
  have hstart := upperCaseRuns_start run hrun
  have hdistance : (n + run.shift).toNat - (run.first + run.shift).toNat = n - run.first := by omega
  rw [CaseRun.covers_iff, CaseRun.image, hdistance]
  exact ⟨Int.toNat_le_toNat (by omega), Int.toNat_le_toNat (by omega), hstride⟩

theorem not_covers_separator {separator run : CaseRun} (hseparator : separator ∈ separatorRuns)
    (hrun : run ∈ mappedRuns) {n : Nat} (h : run.covers n = true) : separator.covers n = false :=
  CaseRun.not_covers_of_misses
    (List.all_eq_true.mp (List.all_eq_true.mp mappedRuns_miss run hrun) separator hseparator) h

theorem not_covers_form {other run : CaseRun} (hother : other ∈ mappedRuns ++ separatorRuns)
    (hrun : run ∈ formRuns) {n : Nat} (h : run.covers n = true) : other.covers n = false :=
  CaseRun.not_covers_of_misses
    (List.all_eq_true.mp (List.all_eq_true.mp formRuns_miss run hrun) other hother) h

/-! ## Characters -/

/-- A character is neither a blank nor a parenthesis. -/
def IsLetterlike (c : Char) : Prop :=
  isBlank c = false ∧ c ≠ '(' ∧ c ≠ ')'

/-- A character is the upper case form of itself, and neither a blank nor a parenthesis. -/
def IsCapital (c : Char) : Prop :=
  upperChar c = [c] ∧ IsLetterlike c

theorem isLetterlike_of_not_covers {c : Char}
    (h : ∀ separator ∈ separatorRuns, separator.covers c.toNat = false) : IsLetterlike c := by
  have hparentheses : ¬ ('('.toNat ≤ c.toNat ∧ c.toNat ≤ ')'.toNat) := by
    rw [← covers_between_iff, h _ List.mem_cons_self]
    exact Bool.false_ne_true
  refine ⟨?_, ?_, ?_⟩
  · rw [isBlank, inRanges, List.any_eq_false]
    intro range hrange
    have hmem : CaseRun.between range.1 range.2 ∈ separatorRuns :=
      List.mem_cons_of_mem _ (List.mem_map_of_mem hrange)
    rw [← Bool.decide_and, decide_eq_true_eq, ← covers_between_iff, h _ hmem]
    exact Bool.false_ne_true
  · rintro rfl
    exact hparentheses (by decide)
  · rintro rfl
    exact hparentheses (by decide)

/-- Of the characters of ASCII, just the small letters have another form. -/
theorem toUpper_ascii : ∀ n < 128, (Char.ofNat n).toUpper = Char.ofNat n ∨
    (97 ≤ n ∧ n ≤ 122 ∧ (Char.ofNat n).toUpper = Char.ofNat (n + -32 : Int).toNat) := by
  decide +kernel

/-- A character that has another form is in the table, and so are the characters of the form. -/
theorem upperChar_eq_self_or (c : Char) : upperChar c = [c] ∨ ∃ run ∈ mappedRuns, run.covers c.toNat = true ∧
    ∀ d ∈ upperChar c, ∃ form ∈ formRuns, ∃ n, form.covers n = true ∧ d = Char.ofNat n := by
  have himage {run : CaseRun} (hrun : run ∈ upperCaseRuns) (hcovers : run.covers c.toNat = true)
      (hform : upperChar c = [Char.ofNat (c.toNat + run.shift).toNat]) :
      ∃ run ∈ mappedRuns, run.covers c.toNat = true ∧
        ∀ d ∈ upperChar c, ∃ form ∈ formRuns, ∃ n, form.covers n = true ∧ d = Char.ofNat n := by
    refine ⟨run, List.mem_append_left _ hrun, hcovers, fun d hd => ?_⟩
    rw [hform, List.mem_singleton] at hd
    exact ⟨run.image, List.mem_append_left _ (List.mem_map_of_mem hrun), _, covers_image hrun hcovers, hd⟩
  by_cases hascii : c.toNat < 128
  · have hform : upperChar c = [c.toUpper] := by rw [upperChar, if_pos hascii]
    have hcases := toUpper_ascii c.toNat hascii
    rw [Char.ofNat_toNat] at hcases
    rcases hcases with hself | ⟨hfirst, hlast, hsmall⟩
    · exact .inl (by rw [hform, hself])
    · have hrun : (⟨97, 122, 1, -32⟩ : CaseRun) ∈ upperCaseRuns := List.mem_cons_self
      refine .inr (himage hrun ?_ (by rw [hform, hsmall]))
      rw [CaseRun.covers_iff]
      exact ⟨hfirst, hlast, one_dvd _⟩
  · cases hexpansion : upperCaseExpansions.lookup c.toNat with
    | some expansion =>
      have hform : upperChar c = expansion.map Char.ofNat := by rw [upperChar, if_neg hascii, hexpansion]
      have hentry : (c.toNat, expansion) ∈ upperCaseExpansions := mem_of_lookup hexpansion
      refine .inr ⟨.between c.toNat c.toNat, List.mem_append_right _ (List.mem_map.mpr ⟨_, hentry, rfl⟩),
        covers_between _, fun d hd => ?_⟩
      rw [hform, List.mem_map] at hd
      obtain ⟨n, hn, rfl⟩ := hd
      refine ⟨.between n n, List.mem_append_right _ (List.mem_flatMap.mpr ⟨_, hentry, ?_⟩), n, covers_between n, rfl⟩
      exact List.mem_map_of_mem hn
    | none =>
      cases hrun : upperCaseRuns.find? (·.covers c.toNat) with
      | some run =>
        have hcovers : run.covers c.toNat = true := by simpa using List.find?_some hrun
        refine .inr (himage (List.mem_of_find?_eq_some hrun) hcovers ?_)
        rw [upperChar, if_neg hascii, hexpansion, hrun]
      | none => exact .inl (by rw [upperChar, if_neg hascii, hexpansion, hrun])

/-- A character that appears in the form of another is the form of itself. -/
theorem isCapital_ofNat {form : CaseRun} (hform : form ∈ formRuns) {n : Nat} (h : form.covers n = true) :
    IsCapital (Char.ofNat n) := by
  by_cases hvalid : n.isValidChar
  · have hcode : (Char.ofNat n).toNat = n := by
      rw [Char.ofNat, dif_pos hvalid]
      rfl
    have hmisses : ∀ other ∈ mappedRuns ++ separatorRuns, other.covers (Char.ofNat n).toNat = false := by
      intro other hother
      rw [hcode]
      exact not_covers_form hother hform h
    refine ⟨?_, isLetterlike_of_not_covers fun other hother => hmisses other (List.mem_append_right _ hother)⟩
    rcases upperChar_eq_self_or (Char.ofNat n) with hself | ⟨run, hrun, hcovers, -⟩
    · exact hself
    · rw [hmisses run (List.mem_append_left _ hrun)] at hcovers
      cases hcovers
  · have hdefault : Char.ofNat n = '\x00' := by
      rw [Char.ofNat, dif_neg hvalid]
      rfl
    rw [hdefault]
    exact ⟨by decide, by decide, by decide, by decide⟩

/-- A character is its own upper case form, or the form consists of characters that are. Blanks and parentheses are
their own forms and appear in no other. -/
theorem upperChar_cases (c : Char) :
    upperChar c = [c] ∨ (IsLetterlike c ∧ ∀ d ∈ upperChar c, IsCapital d) := by
  rcases upperChar_eq_self_or c with hself | ⟨run, hrun, hcovers, hforms⟩
  · exact .inl hself
  · refine .inr ⟨isLetterlike_of_not_covers fun separator hseparator =>
      not_covers_separator hseparator hrun hcovers, fun d hd => ?_⟩
    obtain ⟨form, hform, n, hn, rfl⟩ := hforms d hd
    exact isCapital_ofNat hform hn

theorem upperChar_of_mem_upperChar {c d : Char} (h : d ∈ upperChar c) : upperChar d = [d] := by
  rcases upperChar_cases c with hself | ⟨-, hforms⟩
  · have hd := h
    rw [hself, List.mem_singleton] at hd
    rw [hd, hself]
  · exact (hforms d h).1

/-- A blank or a parenthesis comes from itself alone. -/
theorem eq_of_mem_upperChar {c d : Char} (h : d ∈ upperChar c) (hd : ¬ IsLetterlike d) : d = c := by
  rcases upperChar_cases c with hself | ⟨-, hforms⟩
  · rwa [hself, List.mem_singleton] at h
  · exact absurd (hforms d h).2 hd

theorem upperChar_of_not_isLetterlike {c : Char} (h : ¬ IsLetterlike c) : upperChar c = [c] :=
  (upperChar_cases c).resolve_right fun hforms => h hforms.1

/-- Each character that becomes several ones becomes at least one. -/
theorem expansion_ne_nil : ∀ entry ∈ upperCaseExpansions, entry.2 ≠ [] := by
  decide +kernel

/-- The upper case form of a character is not empty. -/
theorem upperChar_ne_nil (c : Char) : upperChar c ≠ [] := by
  unfold upperChar
  by_cases hascii : c.toNat < 128
  · rw [if_pos hascii]
    exact List.cons_ne_nil _ _
  · rw [if_neg hascii]
    cases hexpansion : upperCaseExpansions.lookup c.toNat with
    | some expansion =>
      have hentry : (c.toNat, expansion) ∈ upperCaseExpansions := mem_of_lookup hexpansion
      exact mt List.map_eq_nil_iff.mp (expansion_ne_nil _ hentry)
    | none =>
      cases upperCaseRuns.find? (·.covers c.toNat) with
      | some run => exact List.cons_ne_nil _ _
      | none => exact List.cons_ne_nil _ _

/-! ## Texts -/

@[simp] theorem upper_nil : upper [] = [] :=
  rfl

theorem upper_append (front back : List Char) : upper (front ++ back) = upper front ++ upper back :=
  List.flatMap_append

/-- An upper case form has itself as its upper case form. -/
theorem upper_upper (text : List Char) : upper (upper text) = upper text := by
  have hfixed : ∀ c ∈ upper text, upperChar c = [c] := by
    intro c hc
    obtain ⟨d, -, hcd⟩ := List.mem_flatMap.mp hc
    exact upperChar_of_mem_upperChar hcd
  rw [upper, List.flatMap_def, List.map_congr_left hfixed, ← List.flatMap_def, List.flatMap_singleton']

end SqlTemplate.Text
