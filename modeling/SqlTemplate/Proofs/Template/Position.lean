import SqlTemplate.Proofs.Template.Reading
import SqlTemplate.Session.Compile
/-!
# Where a template is refused

A template that is refused is refused at a brace. The offset that is told comes from three places: from where the scan
stands, from where it stood when it met the brace of a placeholder, and, at the end of the text, from the stack of open
escape sequences.

`parse_error_pointsAt` is the main theorem: the brace is one that the text in front of it does not account for. That
text would be accepted, once the escape sequences that it leaves open are closed; so nothing before the brace is wrong.
Only a brace inside a placeholder is told with an offset behind that of a brace which is not accounted for either: then
it is the text in front of the placeholder that would be accepted.

Two facts carry this. Nothing that was read in front of a brace depends on what is behind it (`Reads.cut`), so the text
may be cut there. And an offset on the stack is that of a brace in front of which the stack was what it is below that
offset (`Reads.exists_opening`).
-/

namespace SqlTemplate

open Text

variable {declarations : Declarations}

/-! ## Cutting a text at a brace -/

/-- What was read in front of a brace is read in front of anything else, too. -/
theorem Reads.cut {brace : Char} (hbrace : IsBrace brace) {behind text : List Char} {position : Nat}
    {opens opens' : List Nat} {pieces : List Piece}
    (h : Reads declarations (brace :: behind) position opens text pieces opens') (ahead : List Char) :
    Reads declarations ahead position opens text pieces opens' := by
  induction h with
  | done => exact .done
  | char hc _ ih => exact .char hc ih
  | close _ ih => exact .close ih
  | escape hmark _ ih =>
    -- the mark stands in front of the brace, so it is there whatever follows
    rw [startsEscape_append_brace_iff hbrace] at hmark
    exact .escape (hmark.append ahead) ih
  | hole hbody hmark hfragment _ ih => exact .hole hbody hmark hfragment ih

/-- Closing braces, as many as there are open escape sequences, are read to the end. -/
theorem reads_closing (declarations : Declarations) (opens : List Nat) (position : Nat) :
    Reads declarations [] position opens (List.replicate opens.length '}')
      (List.replicate opens.length (.char '}')) [] := by
  induction opens generalizing position with
  | nil => exact .done
  | cons innermost outer ih => exact .close (ih (position + 1))

/-- A text is accepted, without declared types, once some closing braces are put behind it. -/
def AcceptedWhenClosed (table : TypeTable) (text : List Char) : Prop :=
  ∃ count template,
    Template.parse table (String.ofList (text ++ List.replicate count '}')) [] = .ok template

/-- A text that is read in front of a brace is accepted once it is closed. -/
theorem Reads.acceptedWhenClosed {brace : Char} (hbrace : IsBrace brace) {behind text : List Char}
    {opens : List Nat} {pieces : List Piece} (h : Reads [] (brace :: behind) 0 [] text pieces opens)
    (table : TypeTable) : AcceptedWhenClosed table text := by
  have hclosing := reads_closing [] opens (0 + text.length)
  have hreads := (h.cut hbrace (List.replicate opens.length '}' ++ [])).append hclosing
  rw [← String.toList_ofList (l := text ++ _)] at hreads
  exact ⟨opens.length, _, parse_eq_ok_iff.mpr ⟨[], _, rfl, hreads, rfl⟩⟩

/-! ## The stack of open escape sequences -/

/-- The innermost open escape sequence was open from the start, or else its offset is that of a brace of the text, in
front of which the stack was the one below it. -/
theorem Reads.exists_opening {ahead text : List Char} {position innermost : Nat} {opens outer : List Nat}
    {pieces : List Piece} (h : Reads declarations ahead position opens text pieces (innermost :: outer)) :
    innermost :: outer <:+ opens ∨
      ∃ front inside pieces', text = front ++ '{' :: inside ∧ innermost = position + front.length ∧
        Reads declarations ('{' :: (inside ++ ahead)) position opens front pieces' outer := by
  generalize hopens : innermost :: outer = opens' at h
  induction h with
  | done => exact .inl (hopens ▸ List.suffix_rfl)
  | @char _ _ _ c _ _ hc _ ih =>
    rcases ih hopens with hsuffix | ⟨front, inside, pieces', rfl, rfl, hfront⟩
    · exact .inl hsuffix
    · exact .inr ⟨c :: front, inside, _, rfl, by simp; omega, .char hc hfront⟩
  | @close _ _ outer' _ _ _ _ ih =>
    rcases ih hopens with hsuffix | ⟨front, inside, pieces', rfl, rfl, hfront⟩
    · exact .inl (hsuffix.trans (List.suffix_cons _ _))
    · exact .inr ⟨'}' :: front, inside, _, rfl, by simp; omega, .close hfront⟩
  | @escape position opens _ text _ hmark _ ih =>
    rcases ih hopens with hsuffix | ⟨front, inside, pieces', rfl, rfl, hfront⟩
    · -- the sequence that is opened here may be the innermost one
      rcases List.suffix_cons_iff.mp hsuffix with hsame | hsuffix
      · obtain ⟨rfl, rfl⟩ := List.cons.inj (hopens.trans hsame)
        exact .inr ⟨[], text, [], rfl, rfl, .done⟩
      · exact .inl hsuffix
    · refine .inr ⟨'{' :: front, inside, _, rfl, by simp; omega, .escape ?_ hfront⟩
      simpa using hmark
  | @hole _ _ _ body _ _ _ hbody hmark hfragment _ ih =>
    rcases ih hopens with hsuffix | ⟨front, inside, pieces', rfl, rfl, hfront⟩
    · exact .inl hsuffix
    · refine .inr ⟨'{' :: (body ++ '}' :: front), inside, _, by simp, ?_, .hole hbody hmark hfragment hfront⟩
      rw [add_length_hole]

/-! ## Offsets of faults -/

/-- What is wrong with the text between the braces of a placeholder: there is none, or it is no path. -/
theorem fault_of_placeholder {body : List Char} {fault : TemplateFault}
    (h : placeholder declarations body = .error fault) :
    fault = .emptyPlaceholder ∨ ∃ path, fault = .badPath path := by
  unfold placeholder at h
  dsimp only at h
  split at h
  · cases h
    exact .inl rfl
  · split at h
    · split at h
      · cases h
      · cases h
        exact .inr ⟨_, rfl⟩
    · split at h
      · cases h
      · cases h
        exact .inr ⟨_, rfl⟩

/-- A brace at an offset is the first one inside a placeholder, in front of which a text would be accepted. -/
structure IsNestedAt (table : TypeTable) (text : List Char) (position : Nat) (start : Nat) : Prop where
  nested : text[position]? = some '{'
  opening : text[start]? = some '{'
  start_lt : start < position
  between : ∀ i c, start < i → i < position → text[i]? = some c → ¬ IsBrace c
  /-- The brace in front is that of no escape sequence. -/
  mark : opensEscape (text.drop (start + 1)) = false
  front : AcceptedWhenClosed table (text.take start)

/-- A fault is told with the offset of a brace, and the text in front of that would be accepted. -/
structure PointsAt (table : TypeTable) (text : List Char) (fault : LocatedFault) : Prop where
  brace : ∃ c, text[fault.position]? = some c ∧ IsBrace c
  front : fault.fault ≠ .nestedOpen → AcceptedWhenClosed table (text.take fault.position)
  nested : fault.fault = .nestedOpen → ∃ start, IsNestedAt table text fault.position start

section

variable {table : TypeTable} {front rest : List Char} {brace : Char} {opens : List Nat} {pieces : List Piece}

/-- A fault at the brace behind a text that was read points at it. -/
theorem Reads.pointsAt (h : Reads [] (brace :: rest) 0 [] front pieces opens) (hbrace : IsBrace brace)
    {kind : TemplateFault} (hkind : kind ≠ .nestedOpen) (table : TypeTable) :
    PointsAt table (front ++ brace :: rest) ⟨kind, front.length⟩ := by
  refine ⟨⟨brace, by simp, hbrace⟩, fun _ => ?_, fun hnested => absurd hnested hkind⟩
  rw [List.take_left]
  exact h.acceptedWhenClosed hbrace table

/-- So does a brace inside a placeholder behind such a text. -/
theorem Reads.pointsAt_nested {body : List Char}
    (h : Reads [] ('{' :: (body ++ '{' :: rest)) 0 [] front pieces opens) (hbody : BraceFree body)
    (hmark : ¬ StartsEscape body) (table : TypeTable) :
    PointsAt table (front ++ '{' :: (body ++ '{' :: rest)) ⟨.nestedOpen, front.length + body.length + 1⟩ := by
  have hfound : (front ++ '{' :: (body ++ '{' :: rest))[front.length + body.length + 1]? = some '{' := by
    have hoffset : front.length + body.length + 1 - front.length = body.length + 1 := by omega
    rw [List.getElem?_append_right (by omega), hoffset, List.getElem?_cons_succ,
      List.getElem?_append_right (Nat.le_refl _), Nat.sub_self]
    rfl
  refine ⟨⟨'{', hfound, .inl rfl⟩, fun hkind => absurd rfl hkind,
    fun _ => ⟨front.length, hfound, by simp, ?_, ?_, ?_, ?_⟩⟩
  · show front.length < front.length + body.length + 1
    omega
  · -- what stands in between is a character of the body
    intro i c hstart hend hc
    have hend : i < front.length + body.length + 1 := hend
    obtain ⟨k, rfl⟩ : ∃ k, i = front.length + (k + 1) := ⟨i - front.length - 1, by omega⟩
    have hlt : k < body.length := by omega
    rw [List.getElem?_append_right (by omega), Nat.add_sub_cancel_left, List.getElem?_cons_succ,
      List.getElem?_append_left hlt] at hc
    exact hbody c (List.mem_of_getElem? hc)
  · have hdrop : (front ++ '{' :: (body ++ '{' :: rest)).drop (front.length + 1) = body ++ '{' :: rest := by
      rw [← List.drop_drop, List.drop_left]
      rfl
    rw [hdrop, ← Bool.not_eq_true, opensEscape_iff, startsEscape_append_brace_iff (.inl rfl)]
    exact hmark
  · rw [List.take_left]
    exact h.acceptedWhenClosed (.inl rfl) table

/-- What is told of a place where the scan is blocked points at a brace. -/
theorem Blocks.pointsAt {ahead : List Char} {fault : LocatedFault} (h : Blocks [] front.length opens ahead fault)
    (hfront : Reads [] ahead 0 [] front pieces opens) (table : TypeTable) : PointsAt table (front ++ ahead) fault := by
  cases h with
  | unclosedEscape =>
    -- the brace is not at the end, but where the stack says, and the stack was empty at the start
    rcases hfront.exists_opening with hsuffix | ⟨before, inside, pieces', rfl, rfl, hbefore⟩
    · simp at hsuffix
    · rw [Nat.zero_add, List.append_assoc]
      exact hbefore.pointsAt (.inl rfl) (by simp) table
  | unmatchedClose => exact hfront.pointsAt (.inr rfl) (by simp) table
  | unclosedPlaceholder => exact hfront.pointsAt (.inl rfl) (by simp) table
  | nestedOpen hbody hmark => exact hfront.pointsAt_nested hbody hmark table
  | badBody hbody hmark hfault =>
    refine hfront.pointsAt (.inl rfl) ?_ table
    rcases fault_of_placeholder hfault with rfl | ⟨path, rfl⟩
    · simp
    · simp

end

/-- A text that is refused, without declared types, is malformed, and what is told of it points at a brace. -/
theorem parse_error_pointsAt {table : TypeTable} {source : String} {fault : ParseFault}
    (h : Template.parse table source [] = .error fault) :
    ∃ located cause, fault = .malformed located ∧
      fault.toFailure table source
        = .fault (.badTemplate located.fault.message (some source) (some located.position)) cause ∧
      PointsAt table source.toList located := by
  have hdeclared : declarationsOf table [] = .ok [] := rfl
  cases hscan : scan [] 0 [] source.toList with
  | ok pieces =>
    have haccepted := parse_eq_ok_iff.mpr ⟨[], pieces, hdeclared, scan_eq_ok_iff.mp hscan, rfl⟩
    rw [h] at haccepted
    cases haccepted
  | error located =>
    have hmalformed := parse_eq_malformed_iff.mpr ⟨[], hdeclared, hscan⟩
    rw [h] at hmalformed
    obtain rfl := Except.error.inj hmalformed
    obtain ⟨front, ahead, pieces, opens, hsource, hreads, hblocks⟩ := scan_eq_error_iff.mp hscan
    rw [Nat.zero_add] at hblocks
    rw [hsource]
    exact ⟨located, _, rfl, rfl, hblocks.pointsAt hreads table⟩

/-- A brace in a placeholder, behind an escape sequence that is still open, and an escape sequence in another one: the
texts in front are accepted with one more brace. -/
theorem parse_error_pointsAt_open :
    let nested := "\x7bfn f(\x7ba\x7bb\x7d"
    let escaped := "\x7bfn f(\x7bts 'x'"
    (Template.parse .standard nested [] = .error (.malformed ⟨.nestedOpen, 8⟩) ∧
      PointsAt .standard nested.toList ⟨.nestedOpen, 8⟩) ∧
    Template.parse .standard escaped [] = .error (.malformed ⟨.unclosedEscape, 6⟩) ∧
      PointsAt .standard escaped.toList ⟨.unclosedEscape, 6⟩ := by
  intro nested escaped
  have hnested : Template.parse .standard nested [] = .error (.malformed ⟨.nestedOpen, 8⟩) := by decide +kernel
  have hescaped : Template.parse .standard escaped [] = .error (.malformed ⟨.unclosedEscape, 6⟩) := by decide +kernel
  obtain ⟨located, -, hlocated, -, hpoints⟩ := parse_error_pointsAt hnested
  obtain ⟨located', -, hlocated', -, hpoints'⟩ := parse_error_pointsAt hescaped
  cases hlocated
  cases hlocated'
  exact ⟨⟨hnested, hpoints⟩, hescaped, hpoints'⟩

end SqlTemplate
