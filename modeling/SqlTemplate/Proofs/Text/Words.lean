import Mathlib.Data.List.Basic
import Mathlib.Data.List.TakeWhile
import SqlTemplate.Text.Blank
/-!
# Words of a text

The words of a text are found on both sides of any blank in it (`words_append_blank`), and what is known of words
follows from that: letters without a blank among them are one word, and words that are put together with spaces are
found again (`words_intercalate`). Both ways the letters of a text stay the same (`filter_intercalate_words`).
-/

namespace SqlTemplate.Text

/-- A word is not empty and holds no blank. -/
def IsWord (word : List Char) : Prop :=
  word ≠ [] ∧ ∀ c ∈ word, isBlank c = false

/-! ## Blanks at the end -/

section End

variable {text back : List Char} {c : Char}

/-- A text is what is left of it, and blanks. -/
theorem exists_trimEnd_append (text : List Char) :
    ∃ back, (∀ c ∈ back, isBlank c = true) ∧ text = trimEnd text ++ back := by
  refine ⟨(text.reverse.takeWhile isBlank).reverse,
    fun c hc => List.mem_takeWhile_imp (List.mem_reverse.mp hc), ?_⟩
  rw [trimEnd, ← List.reverse_append, List.takeWhile_append_dropWhile, List.reverse_reverse]

theorem trimEnd_append_blanks (h : ∀ c ∈ back, isBlank c = true) (text : List Char) :
    trimEnd (text ++ back) = trimEnd text := by
  have hreversed : ∀ c ∈ back.reverse, isBlank c = true := fun c hc => h c (List.mem_reverse.mp hc)
  rw [trimEnd, trimEnd, List.reverse_append, List.dropWhile_append_of_pos hreversed]

theorem trimEnd_append_letter (hc : isBlank c = false) (text : List Char) :
    trimEnd (text ++ [c]) = text ++ [c] := by
  rw [trimEnd, List.reverse_append, List.reverse_singleton, List.singleton_append,
    List.dropWhile_cons_of_neg (by simp [hc]), List.reverse_cons, List.reverse_reverse]

/-- The characters that are left when blanks are dropped from the end are in the text. -/
theorem mem_of_mem_trimEnd (h : c ∈ trimEnd text) : c ∈ text :=
  List.mem_reverse.mp ((List.dropWhile_sublist _).subset (List.mem_reverse.mp h))

end End

/-! ## Words from the front -/

section Front

variable {c d : Char} {text : List Char}

theorem words_cons_blank (hc : isBlank c = true) (text : List Char) : words (c :: text) = words text := by
  conv_lhs => unfold words
  exact if_pos hc

theorem words_singleton (hc : isBlank c = false) : words [c] = [[c]] := by
  unfold words
  exact if_neg (Bool.eq_false_iff.mp hc)

/-- A letter in front of a blank is a word. -/
theorem words_letter_blank (hc : isBlank c = false) (hd : isBlank d = true) (text : List Char) :
    words (c :: d :: text) = [c] :: words text := by
  conv_lhs => unfold words
  rw [if_neg (Bool.eq_false_iff.mp hc), words_cons_blank hd]
  cases words text with
  | nil => rfl
  | cons word more => exact if_pos hd

/-- A letter in front of another one belongs to the word of that one. -/
theorem words_letter_letter (hc : isBlank c = false) (hd : isBlank d = false) {word : List Char}
    {more : List (List Char)} (h : words (d :: text) = word :: more) :
    words (c :: d :: text) = (c :: word) :: more := by
  conv_lhs => unfold words
  rw [if_neg (Bool.eq_false_iff.mp hc), h]
  exact if_neg (Bool.eq_false_iff.mp hd)

/-- A text that starts with a letter has a first word, which starts with it. -/
theorem exists_words_letter (hc : isBlank c = false) (text : List Char) :
    ∃ word more, words (c :: text) = (c :: word) :: more := by
  induction text generalizing c with
  | nil => exact ⟨[], [], words_singleton hc⟩
  | cons d text ih =>
    cases hd : isBlank d with
    | true => exact ⟨[], _, words_letter_blank hc hd text⟩
    | false =>
      obtain ⟨word, more, hwords⟩ := ih hd
      exact ⟨_, _, words_letter_letter hc hd hwords⟩

end Front

/-! ## Words on both sides -/

/-- The words of a text are those in front of a blank and those behind it. -/
theorem words_append_blank {c : Char} (hc : isBlank c = true) (front back : List Char) :
    words (front ++ c :: back) = words front ++ words back := by
  induction front with
  | nil => exact words_cons_blank hc back
  | cons d front ih =>
    cases hd : isBlank d with
    | true => rw [List.cons_append, words_cons_blank hd, words_cons_blank hd, ih]
    | false =>
      cases front with
      | nil =>
        rw [words_singleton hd]
        exact words_letter_blank hd hc back
      | cons e front =>
        cases he : isBlank e with
        | true =>
          rw [List.cons_append, words_cons_blank he, words_cons_blank he] at ih
          rw [words_letter_blank hd he, List.cons_append, List.cons_append, words_letter_blank hd he, ih]
          rfl
        | false =>
          obtain ⟨word, more, hwords⟩ := exists_words_letter he front
          have hboth : words (e :: (front ++ c :: back)) = (e :: word) :: (more ++ words back) := by
            rw [← List.cons_append, ih, hwords]
            rfl
          rw [words_letter_letter hd he hwords]
          exact words_letter_letter hd he hboth

theorem words_append_blanks {blanks : List Char} (h : ∀ c ∈ blanks, isBlank c = true) (text : List Char) :
    words (text ++ blanks) = words text := by
  induction blanks generalizing text with
  | nil => rw [List.append_nil]
  | cons c blanks ih =>
    obtain ⟨hc, hblanks⟩ := List.forall_mem_cons.mp h
    have hnone : words blanks = [] := by simpa [words] using ih hblanks []
    rw [words_append_blank hc, hnone, List.append_nil]

theorem words_blanks_append {blanks : List Char} (h : ∀ c ∈ blanks, isBlank c = true) (text : List Char) :
    words (blanks ++ text) = words text := by
  induction blanks with
  | nil => rfl
  | cons c blanks ih =>
    obtain ⟨hc, hblanks⟩ := List.forall_mem_cons.mp h
    rw [List.cons_append, words_cons_blank hc, ih hblanks]

theorem words_of_blanks {blanks : List Char} (h : ∀ c ∈ blanks, isBlank c = true) : words blanks = [] :=
  words_append_blanks h []

/-- Letters without a blank among them are one word. -/
theorem IsWord.words {word : List Char} (h : IsWord word) : words word = [word] := by
  obtain ⟨hne, hletters⟩ := h
  induction word with
  | nil => exact absurd rfl hne
  | cons c word ih =>
    obtain ⟨hc, hword⟩ := List.forall_mem_cons.mp hletters
    cases word with
    | nil => exact words_singleton hc
    | cons d word =>
      exact words_letter_letter hc (hword d List.mem_cons_self) (ih (List.cons_ne_nil _ _) hword)

theorem isWord_of_mem_words {text word : List Char} (h : word ∈ words text) : IsWord word := by
  induction text generalizing word with
  | nil => cases h
  | cons c text ih =>
    cases hc : isBlank c with
    | true =>
      rw [words_cons_blank hc] at h
      exact ih h
    | false =>
      cases text with
      | nil =>
        rw [words_singleton hc] at h
        obtain rfl := List.mem_singleton.mp h
        exact ⟨List.cons_ne_nil _ _, by simpa using hc⟩
      | cons d text =>
        cases hd : isBlank d with
        | true =>
          rw [words_letter_blank hc hd] at h
          rcases List.mem_cons.mp h with rfl | hmore
          · exact ⟨List.cons_ne_nil _ _, by simpa using hc⟩
          · exact ih (by rwa [words_cons_blank hd])
        | false =>
          obtain ⟨first, more, hwords⟩ := exists_words_letter hd text
          rw [words_letter_letter hc hd hwords] at h
          rw [hwords] at ih
          rcases List.mem_cons.mp h with rfl | hmore
          · obtain ⟨-, hletters⟩ := ih List.mem_cons_self
            exact ⟨List.cons_ne_nil _ _, List.forall_mem_cons.mpr ⟨hc, hletters⟩⟩
          · exact ih (List.mem_cons_of_mem _ hmore)

/-- The words hold the characters of a text that are not blank, and no others. -/
theorem flatten_words (text : List Char) : (words text).flatten = text.filter (!isBlank ·) := by
  induction text with
  | nil => rfl
  | cons c text ih =>
    cases hc : isBlank c with
    | true => rw [words_cons_blank hc, ih, List.filter_cons_of_neg (by simp [hc])]
    | false =>
      rw [List.filter_cons_of_pos (by simp [hc]), ← ih]
      cases text with
      | nil => rw [words_singleton hc]; rfl
      | cons d text =>
        cases hd : isBlank d with
        | true =>
          rw [words_letter_blank hc hd, words_cons_blank hd]
          rfl
        | false =>
          obtain ⟨word, more, hwords⟩ := exists_words_letter hd text
          rw [words_letter_letter hc hd hwords, hwords]
          rfl

/-! ## Words put together -/

/-- Words with spaces between them are found again. -/
theorem words_intercalate {parts : List (List Char)} (h : ∀ word ∈ parts, IsWord word) :
    words ([' '].intercalate parts) = parts := by
  induction parts with
  | nil => rfl
  | cons word parts ih =>
    obtain ⟨hword, hparts⟩ := List.forall_mem_cons.mp h
    cases parts with
    | nil => simpa using hword.words
    | cons next parts =>
      rw [List.intercalate_cons_cons, List.append_assoc, List.singleton_append,
        words_append_blank (by decide), hword.words, ih hparts]
      rfl

/-- The letters of a text are those of its words that are put together. -/
theorem filter_intercalate_words (text : List Char) :
    ([' '].intercalate (words text)).filter (!isBlank ·) = text.filter (!isBlank ·) := by
  rw [← flatten_words, ← flatten_words, words_intercalate fun word => isWord_of_mem_words]

/-- What is put together ends with its last part. -/
theorem exists_intercalate_append_singleton (separator : List Char) (parts : List (List Char))
    (last : List Char) : ∃ front, separator.intercalate (parts ++ [last]) = front ++ last := by
  induction parts with
  | nil => exact ⟨[], by simp⟩
  | cons part parts ih =>
    obtain ⟨front, hfront⟩ := ih
    obtain ⟨next, more, hcons⟩ := List.exists_cons_of_ne_nil (l := parts ++ [last]) (by simp)
    refine ⟨part ++ separator ++ front, ?_⟩
    rw [List.cons_append, hcons, List.intercalate_cons_cons, ← hcons, hfront]
    simp

/-- What is put together holds nothing but the separator and the parts. -/
theorem mem_intercalate {separator : List Char} {parts : List (List Char)} {c : Char}
    (h : c ∈ separator.intercalate parts) : c ∈ separator ∨ ∃ part ∈ parts, c ∈ part := by
  induction parts with
  | nil => cases h
  | cons part parts ih =>
    cases parts with
    | nil => exact .inr ⟨part, List.mem_singleton_self part, by simpa using h⟩
    | cons next parts =>
      rw [List.intercalate_cons_cons, List.mem_append, List.mem_append] at h
      rcases h with (hpart | hseparator) | hrest
      · exact .inr ⟨part, List.mem_cons_self, hpart⟩
      · exact .inl hseparator
      · refine (ih hrest).imp_right ?_
        rintro ⟨other, hother, hmem⟩
        exact ⟨other, List.mem_cons_of_mem part hother, hmem⟩

end SqlTemplate.Text
