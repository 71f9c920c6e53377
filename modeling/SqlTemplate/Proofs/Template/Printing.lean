import SqlTemplate.Proofs.Path.Written
import SqlTemplate.Proofs.Template.Segments
/-!
# Printed templates

A template is printed as its fragments one after the other, where a placeholder is written anew: no blanks around the
dots, and one spelling of the mark of a substitution. So the printed text is in general another text than the source.
Compiled with the same declared types it gives the same fragments again (`parse_text`).

The scan of the printed text follows the scan of the source piece by piece (`Reads.print`). Literal text is printed as
it is, so the two differ only between the braces of a placeholder, and no decision looks past a brace: an escape
sequence is told by what stands in front of the next brace (`Reads.startsEscape_print_iff`). The new body of
a placeholder has to be read as a placeholder, and as the same one (`placeholder_print`).
-/

namespace SqlTemplate

open Text

variable {declarations : Declarations} {ahead text : List Char} {position : Nat} {opens opens' : List Nat}
  {pieces : List Piece}

/-! ## Printed pieces -/

/-- A piece as it is written in a template. -/
def Piece.print : Piece → List Char
  | .char c => [c]
  | .hole fragment => fragment.text.toList

/-- What pieces come to when they are written one after the other. -/
def printPieces (pieces : List Piece) : List Char :=
  pieces.flatMap Piece.print

@[simp] theorem printPieces_nil : printPieces [] = [] := rfl

@[simp] theorem printPieces_cons (piece : Piece) (pieces : List Piece) :
    printPieces (piece :: pieces) = piece.print ++ printPieces pieces := rfl

/-- Gathering keeps what is printed. -/
theorem print_gatherAfter (run : List Char) (pieces : List Piece) :
    (gatherAfter run pieces).flatMap (fun fragment => fragment.text.toList)
      = run.reverse ++ printPieces pieces := by
  have hbefore : ∀ (run : List Char) (fragments : List Fragment),
      (literalBefore run fragments).flatMap (fun fragment => fragment.text.toList)
        = run.reverse ++ fragments.flatMap fun fragment => fragment.text.toList := by
    intro run fragments
    by_cases hrun : run = []
    · simp [literalBefore, hrun]
    · simp [literalBefore, hrun, Fragment.text]
  induction pieces generalizing run with
  | nil => rw [gatherAfter, hbefore, List.flatMap_nil, printPieces_nil]
  | cons piece pieces ih =>
    cases piece with
    | char c => simp [gatherAfter, ih, Piece.print]
    | hole fragment => simp [gatherAfter, hbefore, ih, Piece.print]

/-- A template is printed as its pieces are. -/
theorem text_gather (source : String) (pieces : List Piece) :
    (Template.mk source (gather pieces)).text.toList = printPieces pieces := by
  rw [Template.text, String.toList_join, List.flatMap_map]
  exact print_gatherAfter [] pieces

/-! ## Printed placeholders -/

/-- What stands between the braces of a printed fragment that takes a value. -/
def Fragment.body : Fragment → List Char
  | .literal _ => []
  | .parameter path _ => path.expression.toList
  | .substitution path => substitutionMark ++ ' ' :: path.expression.toList

theorem printPieces_hole {fragment : Fragment} (hvalue : fragment.takesValue = true)
    (pieces : List Piece) :
    printPieces (.hole fragment :: pieces) = '{' :: (fragment.body ++ '}' :: printPieces pieces) := by
  cases fragment with
  | literal text => cases hvalue
  | parameter path type => simp [Piece.print, Fragment.text, Fragment.body]
  | substitution path => simp [Piece.print, Fragment.text, Fragment.body, substitutionMark]

/-- A blank in front of an expression makes no difference. -/
theorem Path.split_cons_blank {blank : Char} (hblank : isBlank blank = true) (expression : List Char) :
    Path.split (blank :: expression) = Path.split expression := by
  rw [Path.split, Path.split, trim, trim, trimStart, List.dropWhile_cons_of_pos hblank, trimStart]

theorem Path.ofExpression_cons_blank {blank : Char} (hblank : isBlank blank = true) (path : Path) :
    Path.ofExpression (blank :: path.expression.toList) = .ok path := by
  rw [Path.ofExpression_eq_ok_iff, Path.split_cons_blank hblank, Path.split_expression]

/-- The body of a printed placeholder holds no brace. -/
theorem Fragment.body_braceFree (fragment : Fragment) : BraceFree fragment.body := by
  have hexpression : ∀ path : Path, BraceFree path.expression.toList := by
    rintro path c hc (rfl | rfl)
    · exact absurd (Path.isIdentifierContinue_of_mem_expression hc) (by decide +kernel)
    · exact absurd (Path.isIdentifierContinue_of_mem_expression hc) (by decide +kernel)
  cases fragment with
  | literal text => simp [Fragment.body, BraceFree]
  | parameter path type => exact hexpression path
  | substitution path =>
    have hmark : BraceFree (substitutionMark ++ [' ']) := by simp [BraceFree, IsBrace, substitutionMark]
    intro c hc
    rw [Fragment.body, List.append_cons] at hc
    exact (List.mem_append.mp hc).elim (hmark c) (hexpression path c)

/-- Every escape mark holds a question mark or a blank. -/
theorem EscapeMark.exists_mem {mark : List Char} (h : EscapeMark mark) :
    ∃ c ∈ mark, c = '?' ∨ isBlank c = true := by
  cases h with
  | returning hblanks => exact ⟨'?', by simp, .inl rfl⟩
  | @keyword blanks word blank hblanks hword hblank => exact ⟨blank, by simp, .inr hblank⟩

/-- The body of a printed placeholder does not make its brace open an escape sequence. -/
theorem Fragment.not_startsEscape_body (fragment : Fragment) : ¬ StartsEscape fragment.body := by
  cases fragment with
  | literal text =>
    rw [← opensEscape_iff, Fragment.body]
    decide
  | parameter path type =>
    rintro ⟨mark, hmark, hprefix⟩
    obtain ⟨c, hc, hcase⟩ := hmark.exists_mem
    have hmem : c ∈ path.expression.toList := hprefix.subset hc
    rcases hcase with rfl | hblank
    · exact absurd (Path.isIdentifierContinue_of_mem_expression hmem) (by decide +kernel)
    · exact Path.not_isBlank_of_mem_expression hmem hblank
  | substitution path =>
    -- the word behind the brace is the mark, which is no keyword
    have hclosed : opensEscape (substitutionMark ++ ' ' :: path.expression.toList) = false := rfl
    rw [← opensEscape_iff, Fragment.body, hclosed]
    exact Bool.false_ne_true

/-- The body of a printed placeholder denotes the fragment that was printed. -/
theorem placeholder_print {body : List Char} {fragment : Fragment}
    (h : placeholder declarations body = .ok fragment) :
    placeholder declarations fragment.body = .ok fragment := by
  rcases placeholder_eq_ok_iff.mp h with ⟨path, -, rfl⟩ | ⟨mark, expression, path, -, -, -, rfl⟩
  · have htrim : trim path.expression.toList = path.expression.toList :=
      trim_of_forall fun c hc => Path.not_isBlank_of_mem_expression hc
    refine placeholder_eq_ok_iff.mpr (.inl ⟨path, ?_, rfl⟩)
    rw [Fragment.body, htrim, Path.ofExpression_expression]
  · have hfirst : ∀ c ∈ (Fragment.substitution path).body.head?, ¬ isBlank c = true := by
      rintro c ⟨rfl⟩
      decide
    have hlast : ∀ c ∈ (Fragment.substitution path).body.getLast?, ¬ isBlank c = true := by
      rw [Fragment.body, List.append_cons, List.getLast?_append_of_ne_nil _ path.expression_ne_nil]
      exact fun c hc => Path.not_isBlank_of_mem_expression (List.mem_of_mem_getLast? hc)
    have htrim : trim (Fragment.substitution path).body = substitutionMark ++ ' ' :: path.expression.toList :=
      trim_eq_self hfirst hlast
    refine placeholder_eq_ok_iff.mpr
      (.inr ⟨substitutionMark, ' ' :: path.expression.toList, path, htrim, by decide, ?_, rfl⟩)
    exact Path.ofExpression_cons_blank (by decide) path

/-! ## Reading the printed text -/

/-- Up to the first brace the printed text is the text that was read. -/
theorem Reads.exists_front (h : Reads declarations ahead position opens text pieces opens') :
    ∃ front, (text = front ∧ printPieces pieces = front) ∨
      ∃ c more more', IsBrace c ∧ text = front ++ c :: more ∧ printPieces pieces = front ++ c :: more' := by
  induction h with
  | done => exact ⟨[], .inl ⟨rfl, rfl⟩⟩
  | @char _ _ _ c _ _ hc _ ih =>
    obtain ⟨front, ⟨htext, hprint⟩ | ⟨brace, more, more', hbrace, htext, hprint⟩⟩ := ih
    · exact ⟨c :: front, .inl ⟨congrArg (c :: ·) htext, congrArg (c :: ·) hprint⟩⟩
    · exact ⟨c :: front, .inr ⟨brace, more, more', hbrace, congrArg (c :: ·) htext,
        congrArg (c :: ·) hprint⟩⟩
  | close _ _ => exact ⟨[], .inr ⟨_, _, _, .inr rfl, rfl, rfl⟩⟩
  | escape _ _ _ => exact ⟨[], .inr ⟨_, _, _, .inl rfl, rfl, rfl⟩⟩
  | hole _ _ hfragment _ _ =>
    exact ⟨[], .inr ⟨_, _, _, .inl rfl, rfl, printPieces_hole (takesValue_of_placeholder hfragment) _⟩⟩

/-- A brace in front of the printed text opens an escape sequence if it does in front of the text that was read. -/
theorem Reads.startsEscape_print_iff (h : Reads declarations ahead position opens text pieces opens') :
    StartsEscape (printPieces pieces ++ ahead) ↔ StartsEscape (text ++ ahead) := by
  obtain ⟨front, ⟨htext, hprint⟩ | ⟨c, more, more', hc, htext, hprint⟩⟩ := h.exists_front
  · rw [htext, hprint]
  · rw [htext, hprint, List.append_assoc, List.append_assoc, List.cons_append, List.cons_append,
      startsEscape_append_brace_iff hc, startsEscape_append_brace_iff hc]

/-- The printed text is read into the same pieces. The offsets are others, so it is only known how many escape
sequences are open. -/
theorem Reads.print (h : Reads declarations ahead position opens text pieces opens')
    (position' : Nat) {stack : List Nat} (hstack : stack.length = opens.length) :
    ∃ stack', stack'.length = opens'.length ∧
      Reads declarations ahead position' stack (printPieces pieces) pieces stack' := by
  induction h generalizing position' stack with
  | done => exact ⟨stack, hstack, .done⟩
  | char hc _ ih =>
    obtain ⟨stack', hlength, hreads⟩ := ih (position' + 1) hstack
    exact ⟨stack', hlength, .char hc hreads⟩
  | @close _ innermost outer _ _ _ _ ih =>
    obtain ⟨innermost', outer', rfl⟩ : ∃ innermost' outer', stack = innermost' :: outer' :=
      List.exists_cons_of_length_eq_add_one hstack
    have houter : outer'.length = outer.length := Nat.succ.inj hstack
    obtain ⟨stack', hlength, hreads⟩ := ih (position' + 1) houter
    exact ⟨stack', hlength, .close hreads⟩
  | @escape _ opens _ _ _ hmark hrest ih =>
    have hopened : (position' :: stack).length = opens.length + 1 := congrArg (· + 1) hstack
    obtain ⟨stack', hlength, hreads⟩ := ih (position' + 1) hopened
    exact ⟨stack', hlength, .escape (hrest.startsEscape_print_iff.mpr hmark) hreads⟩
  | @hole _ _ _ _ _ _ fragment _ _ hfragment _ ih =>
    obtain ⟨stack', hlength, hreads⟩ := ih (position' + fragment.body.length + 2) hstack
    rw [printPieces_hole (takesValue_of_placeholder hfragment)]
    exact ⟨stack', hlength, .hole fragment.body_braceFree fragment.not_startsEscape_body
      (placeholder_print hfragment) hreads⟩

/-! ## Compiled templates -/

/-- A template that is printed and compiled again with the same declared types has the same fragments, with the same
types, and is printed the same. -/
theorem parse_text {table : TypeTable} {types : List (String × String)} {source : String}
    {template : Template} (h : Template.parse table source types = .ok template) :
    ∃ again, Template.parse table template.text types = .ok again ∧
      again.fragments = template.fragments ∧ again.text = template.text := by
  obtain ⟨declarations, pieces, hdeclared, hreads, rfl⟩ := parse_eq_ok_iff.mp h
  obtain ⟨stack, hlength, hprinted⟩ := hreads.print 0 rfl
  obtain rfl : stack = [] := List.eq_nil_of_length_eq_zero hlength
  have htext := text_gather source pieces
  refine ⟨⟨(Template.mk source (gather pieces)).text, gather pieces⟩, ?_, rfl, rfl⟩
  refine parse_eq_ok_iff.mpr ⟨declarations, pieces, hdeclared, ?_, rfl⟩
  rwa [htext]

/-- A parameter with blanks in it inside of an escape sequence, and a substitution with its mark in capitals: the printed
text is not the source, and has the same fragments. -/
theorem parse_text_respelled :
    ∃ template, Template.parse .standard "\x7bfn U(\x7b e . n\x7d)\x7d \x7bSQL:c\x7d" [("e.n", "text")]
        = .ok template ∧
      template.text = "\x7bfn U(\x7be.n\x7d)\x7d \x7bsql: c\x7d" ∧
      ∃ again, Template.parse .standard template.text [("e.n", "text")] = .ok again ∧
        again.fragments = template.fragments ∧ again.text = template.text := by
  have h : Template.parse .standard "\x7bfn U(\x7b e . n\x7d)\x7d \x7bSQL:c\x7d" [("e.n", "text")]
      = .ok ⟨"\x7bfn U(\x7b e . n\x7d)\x7d \x7bSQL:c\x7d",
          [.literal "\x7bfn U(", .parameter ⟨["e", "n"], by simp, by decide +kernel⟩ .longVarChar,
            .literal ")\x7d ", .substitution ⟨["c"], by simp, by decide +kernel⟩]⟩ := by
    decide +kernel
  exact ⟨_, h, by decide +kernel, parse_text h⟩

end SqlTemplate
