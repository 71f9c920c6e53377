import SqlTemplate.Proofs.Path.Padded
import SqlTemplate.Proofs.Template.Placeholder
import SqlTemplate.Proofs.Template.Reading
/-!
# Blanks between the braces of a placeholder

Blanks at the ends of a placeholder and around its dots make no difference, with one exception: a blank right behind the
first part makes the braces those of an escape sequence if that part is spelled like a keyword of escape sequences.
`parse_paddedPath` is the main theorem and `parse_padded_keyword` shows the exception, `d` with a blank behind it.

Which of the two it is comes down to the first word between the braces and to what stands behind it
(`startsEscape_iff_of_isIdentifier`): a word ends where the letters end, so only a part that is letters throughout can
be a keyword, and then the next character decides.
-/

namespace SqlTemplate

open Text

/-! ## The first word between the braces -/

/-- A text that starts with an identifier starts with a keyword if the identifier is one, in any case, and a blank is
next. -/
theorem startsKeyword_append_iff {name : List Char} (hname : isIdentifier name = true) {rest : List Char}
    (hrest : ∀ c ∈ rest.head?, c.isAlpha = false) :
    startsKeyword (name ++ rest) = true ↔
      name.map Char.toLower ∈ escapeKeywords ∧ ∃ c ∈ rest.head?, isBlank c = true := by
  have hcontinue : ∀ c ∈ name, ¬ isBlank c = true :=
    fun c hc => not_isBlank_of_isIdentifierContinue (isIdentifierContinue_of_isIdentifier hname hc)
  have htrim : trimStart (name ++ rest) = name ++ rest := by
    cases name with
    | nil => cases hname
    | cons c name => exact List.dropWhile_cons_of_neg (hcontinue c List.mem_cons_self)
  simp only [startsKeyword, htrim, Bool.and_eq_true, List.contains_iff_mem, Option.any_eq_true]
  by_cases hletters : ∀ c ∈ name, c.isAlpha = true
  -- the word is the whole name
  · have hstop : rest.takeWhile Char.isAlpha = [] ∧ rest.dropWhile Char.isAlpha = rest := by
      cases rest with
      | nil => exact ⟨rfl, rfl⟩
      | cons c rest =>
        have hc : ¬ c.isAlpha = true := by simp [hrest c rfl]
        exact ⟨List.takeWhile_cons_of_neg hc, List.dropWhile_cons_of_neg hc⟩
    rw [List.takeWhile_append_of_pos hletters, List.dropWhile_append_of_pos hletters, hstop.1, hstop.2,
      List.append_nil]
    rfl
  -- the word ends inside the name, where no blank follows
  · have hleft : name.dropWhile Char.isAlpha ≠ [] := fun hnil => hletters (List.dropWhile_eq_nil_iff.mp hnil)
    obtain ⟨c, more, hmore⟩ := List.exists_cons_of_ne_nil hleft
    have hc : c ∈ name := by
      apply (List.dropWhile_sublist Char.isAlpha).subset
      rw [hmore]
      exact List.mem_cons_self
    have hbehind : (name ++ rest).dropWhile Char.isAlpha = c :: (more ++ rest) := by
      rw [List.dropWhile_append, hmore]
      rfl
    constructor
    · rintro ⟨-, d, hd, hblank⟩
      rw [hbehind] at hd
      obtain rfl : c = d := by simpa using hd
      exact absurd hblank (hcontinue c hc)
    · rintro ⟨hkeyword, -⟩
      exact absurd (letters_of_mem_escapeKeywords hkeyword).2 hletters

/-- A brace in front of an identifier opens an escape sequence if the identifier is spelled like a keyword, in any case,
and a blank follows. -/
theorem startsEscape_iff_of_isIdentifier {blanks name rest : List Char}
    (hblanks : ∀ c ∈ blanks, isBlank c = true) (hname : isIdentifier name = true)
    (hrest : ∀ c ∈ rest.head?, c.isAlpha = false) :
    StartsEscape (blanks ++ (name ++ rest)) ↔
      name.map Char.toLower ∈ escapeKeywords ∧ ∃ c ∈ rest.head?, isBlank c = true := by
  have hskip : trimStart (blanks ++ (name ++ rest)) = trimStart (name ++ rest) :=
    List.dropWhile_append_of_pos hblanks
  have hreturning : startsReturningCall (name ++ rest) = false := by
    cases name with
    | nil => cases hname
    | cons c name =>
      have hc := isIdentifierContinue_of_isIdentifier hname (List.mem_cons_self (a := c))
      have htrim : trimStart (c :: name ++ rest) = c :: (name ++ rest) :=
        List.dropWhile_cons_of_neg (not_isBlank_of_isIdentifierContinue hc)
      have hne : ('?' == c) = false := by
        rw [beq_eq_false_iff_ne]
        rintro rfl
        exact absurd hc (by decide +kernel)
      rw [startsReturningCall, htrim, List.isPrefixOf, hne, Bool.false_and]
  have hsame : opensEscape (blanks ++ (name ++ rest)) = startsKeyword (name ++ rest) := by
    rw [opensEscape, startsReturningCall, startsKeyword, hskip, ← startsReturningCall, hreturning,
      Bool.false_or, startsKeyword]
  rw [← opensEscape_iff, hsame, startsKeyword_append_iff hname hrest]

/-! ## Padded paths between braces -/

/-- The first of some padded parts is spelled like a keyword, in any case, and has a blank behind it. -/
def StartsWithKeyword (parts : List PaddedPart) : Prop :=
  ∃ first ∈ parts.head?, first.name.toList.map Char.toLower ∈ escapeKeywords ∧ first.after ≠ []

/-- What stands behind the name of the first part. -/
theorem exists_paddedPath_eq (first : PaddedPart) (more : List PaddedPart) :
    ∃ tail, (∀ c ∈ tail.head?, c = '.') ∧
      paddedPath (first :: more) = first.before ++ (first.name.toList ++ (first.after ++ tail)) := by
  cases more with
  | nil => exact ⟨[], by simp, by simp [PaddedPart.text]⟩
  | cons next more => exact ⟨'.' :: paddedPath (next :: more), by simp, by simp [PaddedPart.text]⟩

section

variable {path : Path} {parts : List PaddedPart}

theorem startsEscape_paddedPath_iff (hparts : parts.map (·.name) = path.parts) :
    StartsEscape (paddedPath parts) ↔ StartsWithKeyword parts := by
  cases parts with
  | nil => exact absurd hparts.symm path.nonempty
  | cons first more =>
    have hname : isIdentifier first.name.toList = true :=
      isQualifier_of_map_name hparts first List.mem_cons_self
    obtain ⟨tail, htail, hpath⟩ := exists_paddedPath_eq first more
    have hblank : (∃ c ∈ (first.after ++ tail).head?, isBlank c = true) ↔ first.after ≠ [] := by
      cases hafter : first.after with
      | nil =>
        simp only [List.nil_append, ne_eq, not_true_eq_false, iff_false]
        rintro ⟨c, hc, hblank⟩
        obtain rfl := htail c hc
        exact absurd hblank (by decide)
      | cons c after =>
        have hc : isBlank c = true := first.blank_after c (by simp [hafter])
        simp [hc]
    have hrest : ∀ c ∈ (first.after ++ tail).head?, c.isAlpha = false := by
      intro c hc
      rw [List.head?_append, Option.mem_def, Option.or_eq_some_iff] at hc
      rcases hc with hafter | ⟨-, htails⟩
      · exact not_isAlpha_of_isBlank (first.blank_after c (List.mem_of_mem_head? hafter))
      · rw [htail c htails]
        rfl
    rw [hpath, startsEscape_iff_of_isIdentifier first.blank_before hname hrest, hblank]
    simp [StartsWithKeyword]

/-- A padded path holds no braces. -/
theorem paddedPath_braceFree (hparts : parts.map (·.name) = path.parts) : BraceFree (paddedPath parts) := by
  intro c hc
  rcases mem_intercalate hc with hdot | ⟨text, htext, hmem⟩
  · rw [List.mem_singleton.mp hdot]
    rintro (h | h) <;> exact absurd h (by decide)
  · obtain ⟨part, hpart, rfl⟩ := List.mem_map.mp htext
    rw [PaddedPart.text, List.mem_append, List.mem_append] at hmem
    rcases hmem with (hbefore | hname) | hafter
    · exact not_isBrace_of_isBlank (part.blank_before c hbefore)
    · have hcontinue := isIdentifierContinue_of_isIdentifier (isQualifier_of_map_name hparts part hpart) hname
      rintro (rfl | rfl) <;> exact absurd hcontinue (by decide +kernel)
    · exact not_isBrace_of_isBlank (part.blank_after c hafter)

end

/-! ## Compiling what stands between braces -/

/-- Text between braces. -/
def inBraces (text : List Char) : String :=
  String.ofList ('{' :: (text ++ ['}']))

/-- Text without braces is read one character after the other. -/
theorem reads_chars {text : List Char} (h : BraceFree text) (declarations : Declarations)
    (ahead : List Char) (position : Nat) (opens : List Nat) :
    Reads declarations ahead position opens text (text.map .char) opens := by
  induction text generalizing position with
  | nil => exact .done
  | cons c text ih =>
    obtain ⟨hc, htext⟩ := List.forall_mem_cons.mp h
    exact .char hc (ih htext (position + 1))

theorem gatherAfter_chars (run text : List Char) :
    gatherAfter run (text.map .char) = literalBefore (text.reverse ++ run) [] := by
  induction text generalizing run with
  | nil => rfl
  | cons c text ih =>
    rw [List.map_cons, gatherAfter, ih]
    simp

section

variable {table : TypeTable} {types : List (String × String)} {declarations : Declarations} {body : List Char}

/-- A placeholder by itself is the fragment that its body denotes. -/
theorem parse_inBraces_placeholder (hdeclared : declarationsOf table types = .ok declarations)
    (hbody : BraceFree body) (hmark : ¬ StartsEscape body) {fragment : Fragment}
    (hfragment : placeholder declarations body = .ok fragment) :
    Template.parse table (inBraces body) types = .ok ⟨inBraces body, [fragment]⟩ := by
  refine parse_eq_ok_iff.mpr ⟨declarations, [.hole fragment], hdeclared, ?_, rfl⟩
  rw [inBraces, String.toList_ofList]
  exact .hole hbody hmark hfragment .done

/-- An escape sequence by itself that holds no braces is literal text. -/
theorem parse_inBraces_escape (hdeclared : declarationsOf table types = .ok declarations)
    (hbody : BraceFree body) (hmark : StartsEscape body) :
    Template.parse table (inBraces body) types = .ok ⟨inBraces body, [.literal (inBraces body)]⟩ := by
  refine parse_eq_ok_iff.mpr ⟨declarations, ('{' :: (body ++ ['}'])).map .char, hdeclared, ?_, ?_⟩
  · rw [inBraces, String.toList_ofList, List.map_cons, List.map_append]
    have hahead : StartsEscape (body ++ ['}'] ++ []) := by
      rw [List.append_assoc]
      exact hmark.append _
    have hinside : Reads declarations (['}'] ++ []) 1 [0] body (body.map .char) [0] :=
      reads_chars hbody declarations _ 1 [0]
    exact .escape hahead (hinside.append (.close .done))
  · rw [gather, gatherAfter_chars, literalBefore, List.append_nil, if_neg (by simp), List.reverse_reverse, inBraces]

/-- A path between braces compiles to one parameter of that path, with the type that is declared for it, whatever blanks
stand at the ends and around the dots, and so as it does without them; except that it compiles to literal text if the
first part is spelled like a keyword of escape sequences and has a blank behind it. -/
theorem parse_paddedPath {path : Path} {parts : List PaddedPart}
    (hdeclared : declarationsOf table types = .ok declarations)
    (hparts : parts.map (·.name) = path.parts) :
    (¬ StartsWithKeyword parts →
        Template.parse table (inBraces (paddedPath parts)) types
          = .ok ⟨inBraces (paddedPath parts), [.parameter path (declarations.typeOf path)]⟩) ∧
      (StartsWithKeyword parts →
        Template.parse table (inBraces (paddedPath parts)) types
          = .ok ⟨inBraces (paddedPath parts), [.literal (inBraces (paddedPath parts))]⟩) ∧
      Template.parse table (inBraces path.expression.toList) types
        = .ok ⟨inBraces path.expression.toList, [.parameter path (declarations.typeOf path)]⟩ := by
  have hplaceholder : ∀ {parts : List PaddedPart}, parts.map (·.name) = path.parts → ¬ StartsWithKeyword parts →
      Template.parse table (inBraces (paddedPath parts)) types
        = .ok ⟨inBraces (paddedPath parts), [.parameter path (declarations.typeOf path)]⟩ := by
    intro parts hparts hkeyword
    have hmark : ¬ StartsEscape (paddedPath parts) := (startsEscape_paddedPath_iff hparts).not.mpr hkeyword
    apply parse_inBraces_placeholder hdeclared (paddedPath_braceFree hparts) hmark
    refine placeholder_eq_ok_iff.mpr (.inl ⟨path, ?_, rfl⟩)
    rw [Path.ofExpression_eq_ok_iff, Path.split_trim, ← Path.ofExpression_eq_ok_iff]
    exact ofExpression_paddedPath hparts
  refine ⟨hplaceholder hparts, fun hkeyword => ?_, ?_⟩
  · exact parse_inBraces_escape hdeclared (paddedPath_braceFree hparts)
      ((startsEscape_paddedPath_iff hparts).mpr hkeyword)
  · -- without blanks no part has one behind it
    have hnone : ¬ StartsWithKeyword (unpadded path) := by
      rintro ⟨first, hfirst, -, hafter⟩
      obtain ⟨name, -, rfl⟩ := List.mem_map.mp (List.mem_of_mem_head? hfirst)
      exact hafter rfl
    rw [← paddedPath_unpadded]
    exact hplaceholder (map_name_unpadded path) hnone

end

/-- Blanks of several kinds at the ends and around the dot, and a type that is declared for the path without them. -/
theorem parse_paddedPath_blanks :
    let path : Path := ⟨["ts", "n"], by simp, by decide +kernel⟩
    let parts : List PaddedPart :=
      [⟨[' '], "ts", [], List.all_eq_true.mp rfl, List.all_eq_true.mp rfl⟩,
        ⟨['\t'], "n", ['\n', ' '], List.all_eq_true.mp rfl, List.all_eq_true.mp rfl⟩]
    declarationsOf .standard [("ts.n", "text")] = .ok [(path, .longVarChar)] ∧
      parts.map (·.name) = path.parts ∧ ¬ StartsWithKeyword parts ∧
      Template.parse .standard "\x7b ts.\tn\n \x7d" [("ts.n", "text")]
        = .ok ⟨"\x7b ts.\tn\n \x7d", [.parameter path .longVarChar]⟩ := by
  intro path parts
  have hdeclared : declarationsOf .standard [("ts.n", "text")] = .ok [(path, .longVarChar)] := by decide +kernel
  have hparts : parts.map (·.name) = path.parts := rfl
  have hkeyword : ¬ StartsWithKeyword parts := by simp [StartsWithKeyword, parts]
  exact ⟨hdeclared, hparts, hkeyword, (parse_paddedPath hdeclared hparts).1 hkeyword⟩

/-- A part that is spelled like a keyword, with a blank behind it: the same path is a parameter without the blank, and
with it there is only literal text. -/
theorem parse_padded_keyword :
    let path : Path := ⟨["d"], by simp, by decide +kernel⟩
    let parts : List PaddedPart := [⟨[], "d", [' '], List.all_eq_true.mp rfl, List.all_eq_true.mp rfl⟩]
    parts.map (·.name) = path.parts ∧ inBraces (paddedPath parts) = "\x7bd \x7d" ∧
      Template.parse .standard "\x7bd\x7d" [] = .ok ⟨"\x7bd\x7d", [.parameter path .unknown]⟩ ∧
      Template.parse .standard "\x7bd \x7d" [] = .ok ⟨"\x7bd \x7d", [.literal "\x7bd \x7d"]⟩ ∧
      ¬ ∃ template, Template.parse .standard (inBraces (paddedPath parts)) [] = .ok template ∧
        template.fragments = [.parameter path .unknown] := by
  intro path parts
  have hsource : inBraces (paddedPath parts) = "\x7bd \x7d" := rfl
  have hliteral : Template.parse .standard "\x7bd \x7d" [] = .ok ⟨"\x7bd \x7d", [.literal "\x7bd \x7d"]⟩ := by
    decide +kernel
  refine ⟨rfl, hsource, by decide +kernel, hliteral, ?_⟩
  rintro ⟨template, htemplate, hfragments⟩
  rw [hsource, hliteral, Except.ok.injEq] at htemplate
  subst htemplate
  cases hfragments

end SqlTemplate
