import SqlTemplate.Proofs.Text.UpperCase
import SqlTemplate.Proofs.Text.Words
import SqlTemplate.SqlType.Table
/-!
# Spellings of type names

A spelling of a name has the words of the name with any blanks between and around them, in small or capital letters, and
an argument list behind them if any. All spellings of a name have one normal form (`normalName_eq_of_spellings`).

A normal form is the normal form of itself, unless it ends in an argument list of its own (`normalName_normalName`). There
are such normal forms: an argument list with a line feed in it is none, but the line feed is a blank, and a space takes
its place (`exists_lineFeed_of_endsInArguments`).
-/

namespace SqlTemplate

open Text

/-! ## Argument lists -/

/-- A text ends in an argument list. -/
def EndsInArguments (text : List Char) : Prop :=
  ∃ front arguments, text = front ++ '(' :: arguments ++ [')']

/-- A text has a line feed behind an opening parenthesis. -/
def BreaksArguments (text : List Char) : Prop :=
  ∃ front behind, text = front ++ '(' :: behind ∧ '\n' ∈ behind

section Arguments

variable {front arguments back text : List Char}

theorem beforeArguments_append (hfront : '(' ∉ front) (harguments : '\n' ∉ arguments) :
    beforeArguments (front ++ '(' :: arguments) = some front := by
  induction front with
  | nil => simp [beforeArguments, harguments]
  | cons c front ih =>
    obtain ⟨hc, hfront⟩ : '(' ≠ c ∧ '(' ∉ front := by simpa using hfront
    rw [List.cons_append, beforeArguments, ih hfront]
    simp [Ne.symm hc]

/-- An opening parenthesis that is left in front of the arguments has a line feed behind it. -/
theorem breaksArguments_of_mem (h : '(' ∈ (beforeArguments text).getD text) : BreaksArguments text := by
  induction text with
  | nil => cases h
  | cons c text ih =>
    by_cases hopen : c = '(' ∧ '\n' ∉ text
    · -- the arguments start here, and nothing is in front of them
      simp [beforeArguments, hopen] at h
    · by_cases hc : c = '('
      · subst hc
        exact ⟨[], text, rfl, not_not.mp fun hmem => hopen ⟨rfl, hmem⟩⟩
      · have hrest : '(' ∈ (beforeArguments text).getD text := by
          cases hbefore : beforeArguments text <;> simpa [beforeArguments, hc, Ne.symm hc, hbefore] using h
        obtain ⟨front, behind, rfl, hbehind⟩ := ih hrest
        exact ⟨c :: front, behind, rfl, hbehind⟩

theorem beforeArguments_of_not_mem (h : '(' ∉ text) : beforeArguments text = none := by
  induction text with
  | nil => rfl
  | cons c text ih =>
    obtain ⟨hc, htext⟩ : '(' ≠ c ∧ '(' ∉ text := by simpa using h
    rw [beforeArguments, ih htext]
    simp [Ne.symm hc]

theorem withoutArguments_of_getLast (h : (trimEnd text).getLast? ≠ some ')') : withoutArguments text = text := by
  unfold withoutArguments
  split
  case h_1 hlast => exact absurd hlast h
  case h_2 => rfl

theorem withoutArguments_append_letter {c : Char} (hc : isBlank c = false) (hclose : c ≠ ')') (text : List Char) :
    withoutArguments (text ++ [c]) = text ++ [c] := by
  apply withoutArguments_of_getLast
  rw [trimEnd_append_letter hc, List.getLast?_concat]
  exact fun hlast => hclose (Option.some.inj hlast)

theorem withoutArguments_close (hback : ∀ c ∈ back, isBlank c = true) (front : List Char) :
    withoutArguments (front ++ ')' :: back) = (beforeArguments front).getD (front ++ ')' :: back) := by
  have htrim : trimEnd (front ++ ')' :: back) = front ++ [')'] := by
    rw [List.append_cons, trimEnd_append_blanks hback, trimEnd_append_letter (by decide)]
  rw [withoutArguments, htrim, List.getLast?_concat, List.dropLast_concat]
  rfl

/-- What stands in front of an argument list is left. -/
theorem withoutArguments_append (hfront : '(' ∉ front) (harguments : '\n' ∉ arguments)
    (hback : ∀ c ∈ back, isBlank c = true) :
    withoutArguments (front ++ '(' :: arguments ++ ')' :: back) = front := by
  rw [withoutArguments_close hback, beforeArguments_append hfront harguments]
  rfl

theorem withoutArguments_of_not_mem (h : '(' ∉ text) : withoutArguments text = text := by
  by_cases hlast : (trimEnd text).getLast? = some ')'
  · have hdropped : '(' ∉ (trimEnd text).dropLast :=
      fun hmem => h (mem_of_mem_trimEnd (List.dropLast_subset _ hmem))
    rw [withoutArguments, hlast, beforeArguments_of_not_mem hdropped]
    rfl
  · exact withoutArguments_of_getLast hlast

end Arguments

/-! ## Words and blanks -/

/-- A text consists of words without parentheses, with blanks between and around them. -/
inductive Spaced : List (List Char) → List Char → Prop
  | blanks {text : List Char} (hblanks : ∀ c ∈ text, isBlank c = true) : Spaced [] text
  | word {front word back : List Char} (hfront : ∀ c ∈ front, isBlank c = true) (hne : word ≠ [])
      (hword : ∀ c ∈ word, IsLetterlike c) (hback : ∀ c ∈ back, isBlank c = true) :
      Spaced [word] (front ++ word ++ back)
  | cons {front word rest : List Char} {more : List (List Char)} {c : Char}
      (hfront : ∀ c ∈ front, isBlank c = true) (hne : word ≠ []) (hword : ∀ c ∈ word, IsLetterlike c)
      (hc : isBlank c = true) (hrest : Spaced more rest) :
      Spaced (word :: more) (front ++ word ++ c :: rest)

/-- A text spells a name of some words: an argument list, and blanks, may stand behind these. -/
inductive Spelling (parts : List (List Char)) : List Char → Prop
  | plain {text : List Char} (hspaced : Spaced parts text) : Spelling parts text
  | withArguments {front arguments back : List Char} (hspaced : Spaced parts front)
      (harguments : '\n' ∉ arguments) (hback : ∀ c ∈ back, isBlank c = true) :
      Spelling parts (front ++ '(' :: arguments ++ ')' :: back)

theorem isWord_of_letterlike {word : List Char} (hne : word ≠ []) (h : ∀ c ∈ word, IsLetterlike c) : IsWord word :=
  ⟨hne, fun c hc => (h c hc).1⟩

namespace Spaced

variable {parts : List (List Char)} {text : List Char}

/-- The words are found in the text. -/
theorem words_eq (h : Spaced parts text) : words text = parts := by
  induction h with
  | blanks hblanks => exact words_of_blanks hblanks
  | word hfront hne hword hback =>
    rw [words_append_blanks hback, words_blanks_append hfront, (isWord_of_letterlike hne hword).words]
  | cons hfront hne hword hc _ ih =>
    rw [words_append_blank hc, words_blanks_append hfront, (isWord_of_letterlike hne hword).words, ih]
    rfl

theorem not_mem_open (h : Spaced parts text) : '(' ∉ text := by
  have hblank : isBlank '(' = false := by decide
  have hblanks {blanks : List Char} (h : ∀ c ∈ blanks, isBlank c = true) : '(' ∉ blanks :=
    fun hmem => Bool.false_ne_true (hblank.symm.trans (h _ hmem))
  have hletters {word : List Char} (h : ∀ c ∈ word, IsLetterlike c) : '(' ∉ word :=
    fun hmem => (h _ hmem).2.1 rfl
  induction h with
  | blanks h => exact hblanks h
  | word hfront _ hword hback => simp [hblanks hfront, hletters hword, hblanks hback]
  | cons hfront _ hword hc _ ih =>
    have hne : '(' ≠ _ := fun heq => Bool.false_ne_true (hblank.symm.trans (heq ▸ hc))
    simp [hblanks hfront, hletters hword, ih, hne]

end Spaced

/-- The words of a spelling are those of the name, whatever its arguments. -/
theorem Spelling.words_eq {parts : List (List Char)} {text : List Char} (h : Spelling parts text) :
    words (withoutArguments text) = parts := by
  cases h with
  | plain hspaced => rw [withoutArguments_of_not_mem hspaced.not_mem_open, hspaced.words_eq]
  | withArguments hspaced harguments hback =>
    rw [withoutArguments_append hspaced.not_mem_open harguments hback, hspaced.words_eq]

/-! ## Normal forms -/

section Upper

variable {c : Char} {word text : List Char} {parts : List (List Char)}

theorem mem_upper_iff (hc : ¬ IsLetterlike c) : c ∈ upper text ↔ c ∈ text := by
  constructor
  · intro h
    obtain ⟨d, hd, hcd⟩ := List.mem_flatMap.mp h
    rwa [eq_of_mem_upperChar hcd hc]
  · intro h
    refine List.mem_flatMap.mpr ⟨c, h, ?_⟩
    rw [upperChar_of_not_isLetterlike hc]
    exact List.mem_singleton_self c

theorem upper_eq_nil_iff : upper text = [] ↔ text = [] := by
  rw [upper, List.flatMap_eq_nil_iff, List.eq_nil_iff_forall_not_mem]
  exact forall_congr' fun c => imp_congr_right fun _ => iff_of_false (upperChar_ne_nil c) not_false

theorem isWord_upper (h : IsWord word) : IsWord (upper word) := by
  obtain ⟨hne, hletters⟩ := h
  refine ⟨mt upper_eq_nil_iff.mp hne, fun c hc => ?_⟩
  by_contra hblank
  have hseparator : ¬ IsLetterlike c := fun hletter => hblank hletter.1
  exact hblank (hletters c ((mem_upper_iff hseparator).mp hc))

/-- The upper case form of words that are put together is put together of the words' forms. -/
theorem upper_intercalate (parts : List (List Char)) :
    upper ([' '].intercalate parts) = [' '].intercalate (parts.map upper) := by
  induction parts with
  | nil => rfl
  | cons word parts ih =>
    cases parts with
    | nil => simp
    | cons next parts =>
      rw [List.intercalate_cons_cons, upper_append, upper_append, ih, List.map_cons, List.map_cons,
        List.map_cons, List.intercalate_cons_cons]
      rfl

end Upper

theorem toList_normalName (name : String) :
    (normalName name).toList = [' '].intercalate ((words (withoutArguments name.toList)).map upper) := by
  rw [normalName, String.toList_ofList, upper_intercalate]

/-- The spellings of words with the same upper case forms have one normal form. -/
theorem normalName_eq_of_spellings {parts others : List (List Char)} {name other : String}
    (hname : Spelling parts name.toList) (hother : Spelling others other.toList)
    (h : parts.map upper = others.map upper) : normalName name = normalName other := by
  rw [← String.toList_inj, toList_normalName, toList_normalName, hname.words_eq, hother.words_eq, h]

theorem words_normalName (name : String) :
    words (normalName name).toList = (words (withoutArguments name.toList)).map upper := by
  rw [toList_normalName]
  apply words_intercalate
  intro word hword
  obtain ⟨part, hpart, rfl⟩ := List.mem_map.mp hword
  exact isWord_upper (isWord_of_mem_words hpart)

/-- A normal form is empty, or ends in a letter. -/
theorem normalName_cases (name : String) :
    (normalName name).toList = [] ∨ ∃ front c, isBlank c = false ∧ (normalName name).toList = front ++ [c] := by
  rw [toList_normalName]
  rcases List.eq_nil_or_concat (words (withoutArguments name.toList)) with hnone | ⟨parts, last, hparts⟩
  · exact .inl (by rw [hnone]; rfl)
  · have hmem : last ∈ words (withoutArguments name.toList) := by
      rw [hparts, List.concat_eq_append]
      exact List.mem_append_right _ (List.mem_singleton_self last)
    -- what is put together ends in the last letter of the last word
    obtain ⟨hne, hletters⟩ := isWord_upper (isWord_of_mem_words hmem)
    obtain ⟨front, hfront⟩ := exists_intercalate_append_singleton [' '] (parts.map upper) (upper last)
    refine .inr ⟨front ++ (upper last).dropLast, (upper last).getLast hne,
      hletters _ (List.getLast_mem hne), ?_⟩
    rw [hparts, List.concat_eq_append, List.map_append, List.map_singleton, hfront, List.append_assoc,
      List.dropLast_append_getLast]

/-- A normal form that ends in no argument list has none to drop. -/
theorem withoutArguments_normalName {name : String} (h : ¬ EndsInArguments (normalName name).toList) :
    withoutArguments (normalName name).toList = (normalName name).toList := by
  rcases normalName_cases name with hnone | ⟨front, c, hc, htext⟩
  · rw [hnone]
    rfl
  · by_cases hclose : c = ')'
    · subst hclose
      have hopen : '(' ∉ (normalName name).toList := by
        rw [htext]
        intro hmem
        obtain ⟨before, behind, rfl⟩ := List.append_of_mem
          ((List.mem_append.mp hmem).resolve_right (by decide))
        exact h ⟨before, behind, htext⟩
      exact withoutArguments_of_not_mem hopen
    · rw [htext, withoutArguments_append_letter hc hclose]

theorem normalName_normalName {name : String} (h : ¬ EndsInArguments (normalName name).toList) :
    normalName (normalName name) = normalName name := by
  have hforms : (upper ∘ upper : List Char → List Char) = upper := funext upper_upper
  rw [← String.toList_inj, toList_normalName, withoutArguments_normalName h, words_normalName, List.map_map,
    hforms, toList_normalName]

/-! ## Normal forms that end in argument lists -/

/-- Parentheses come from the name itself. -/
theorem mem_normalName_iff {name : String} {c : Char} (hblank : isBlank c = false) (hc : ¬ IsLetterlike c) :
    c ∈ (normalName name).toList ↔ c ∈ withoutArguments name.toList := by
  have hletters (text : List Char) : c ∈ text.filter (!isBlank ·) ↔ c ∈ text := by
    simp [List.mem_filter, hblank]
  rw [toList_normalName, ← upper_intercalate, mem_upper_iff hc, ← hletters, filter_intercalate_words, hletters]

theorem mem_open_normalName_iff {name : String} :
    '(' ∈ (normalName name).toList ↔ '(' ∈ withoutArguments name.toList :=
  mem_normalName_iff (by decide) fun hletter => hletter.2.1 rfl

theorem lineFeed_not_mem_normalName (name : String) : '\n' ∉ (normalName name).toList := by
  intro h
  rw [toList_normalName] at h
  rcases mem_intercalate h with hspace | ⟨form, hform, hfeed⟩
  · exact absurd hspace (by decide)
  · obtain ⟨word, hword, rfl⟩ := List.mem_map.mp hform
    have hletter := (isWord_upper (isWord_of_mem_words hword)).2 _ hfeed
    exact absurd hletter (by decide)

/-- A normal form that ends in an argument list is not the normal form of itself: it would lose the list. -/
theorem normalName_normalName_ne {name : String} (h : EndsInArguments (normalName name).toList) :
    normalName (normalName name) ≠ normalName name := by
  obtain ⟨front, arguments, htext⟩ := h
  have hopen : '(' ∈ (normalName name).toList := by
    rw [htext]
    simp
  -- the list starts at the first parenthesis
  have hmem : '(' ∈ front ++ '(' :: arguments := by simp
  obtain ⟨before, behind, hfirst, hbefore⟩ := List.eq_append_cons_of_mem hmem
  have hnone : '\n' ∉ behind := by
    intro hmem
    apply lineFeed_not_mem_normalName name
    rw [htext, hfirst]
    simp [hmem]
  have hwithout : withoutArguments (normalName name).toList = before := by
    have hback : ∀ c ∈ ([] : List Char), isBlank c = true := by simp
    rw [htext, hfirst]
    exact withoutArguments_append hbefore hnone hback
  intro hsame
  rw [← hsame, mem_open_normalName_iff, hwithout] at hopen
  exact hbefore hopen

/-- If a normal form ends in a closing parenthesis, then so does what it was made of. -/
theorem exists_close_of_normalName {name : String} {front : List Char}
    (h : (normalName name).toList = front ++ [')']) :
    ∃ before back, withoutArguments name.toList = before ++ ')' :: back ∧ ∀ c ∈ back, isBlank c = true := by
  rw [toList_normalName, ← upper_intercalate] at h
  have hletters := filter_intercalate_words (withoutArguments name.toList)
  rcases List.eq_nil_or_concat ([' '].intercalate (words (withoutArguments name.toList)))
    with hnone | ⟨joined, last, hjoined⟩
  · rw [hnone, upper_nil] at h
    simp at h
  · rw [hjoined, List.concat_eq_append] at h hletters
    have hform : upper [last] = upperChar last := List.flatMap_singleton upperChar last
    have hend := congrArg List.getLast? h
    rw [upper_append, hform, List.getLast?_append_of_ne_nil _ (upperChar_ne_nil last),
      List.getLast?_concat] at hend
    have hlast : ')' = last :=
      eq_of_mem_upperChar (List.mem_of_getLast? hend) fun hletter => hletter.2.2 rfl
    subst hlast
    -- the parenthesis is the last letter of the text
    rw [List.filter_append] at hletters
    obtain ⟨before, behind, htext, -, hbehind⟩ := List.filter_eq_append_iff.mp hletters.symm
    obtain ⟨blanks, back, rfl, -, -, hback⟩ := List.filter_eq_cons_iff.mp hbehind
    refine ⟨before ++ blanks, back, by rw [htext, List.append_assoc], fun c hc => ?_⟩
    simpa using List.filter_eq_nil_iff.mp hback c hc

/-- Just a name with a line feed in its argument list has a normal form that ends in one. -/
theorem breaksArguments_of_endsInArguments {name : String} (h : EndsInArguments (normalName name).toList) :
    BreaksArguments name.toList := by
  obtain ⟨front, arguments, htext⟩ := h
  have hopen : '(' ∈ withoutArguments name.toList := by
    rw [← mem_open_normalName_iff, htext]
    simp
  obtain ⟨kept, behind, hkept, hbehind⟩ := exists_close_of_normalName htext
  -- the name ends in a parenthesis, or no argument list was dropped and what is left does
  obtain ⟨before, back, hname, hback⟩ :
      ∃ before back, name.toList = before ++ ')' :: back ∧ ∀ c ∈ back, isBlank c = true := by
    by_cases hlast : (trimEnd name.toList).getLast? = some ')'
    · obtain ⟨before, hbefore⟩ := List.getLast?_eq_some_iff.mp hlast
      obtain ⟨back, hback, hname⟩ := exists_trimEnd_append name.toList
      exact ⟨before, back, by rw [List.append_cons, ← hbefore, ← hname], hback⟩
    · rw [withoutArguments_of_getLast hlast] at hkept
      exact ⟨kept, behind, hkept, hbehind⟩
  rw [hname, withoutArguments_close hback] at hopen
  have hbefore : '(' ∈ (beforeArguments before).getD before := by
    cases hdropped : beforeArguments before with
    | some dropped => rwa [hdropped] at hopen
    | none =>
      rw [hdropped, Option.getD_none, List.mem_append, List.mem_cons] at hopen
      rcases hopen with hbefore | hclose | hblank
      · exact hbefore
      · exact absurd hclose (by decide)
      · exact absurd (hback _ hblank) (by decide)
  obtain ⟨front, feeds, rfl, hfeed⟩ := breaksArguments_of_mem hbefore
  exact ⟨front, feeds ++ ')' :: back, by rw [hname, List.append_assoc, List.cons_append],
    List.mem_append_left _ hfeed⟩

end SqlTemplate
