import SqlTemplate.Proofs.Template.Segments
/-!
# Templates one after the other

Compiling is compositional. A text that is accepted leaves no escape sequence open, so whatever stands behind it is
read as if it stood alone, with its offsets shifted; and a text that is refused for something in it, and not for
something that is missing at its end, is refused whatever is put behind it. Both hold only because nothing that has
been decided depends on text behind the next brace (`Reads.extend`, `Blocks.extend`).

The fragments of both texts are joined by `joinFragments`, which merges literal text at the seam.
-/

namespace SqlTemplate

/-! ## Joining fragments -/

/-- The fragments of two texts that stand one after the other: a literal at the end of the first and one at the
start of the second become one. -/
def joinFragments : List Fragment → List Fragment → List Fragment
  | [], right => right
  | [.literal a], .literal b :: right => .literal (a ++ b) :: right
  | fragment :: left, right => fragment :: joinFragments left right

theorem joinFragments_cons {fragment : Fragment} (hvalue : fragment.takesValue = true)
    (left right : List Fragment) :
    joinFragments (fragment :: left) right = fragment :: joinFragments left right := by
  cases fragment with
  | literal text => cases hvalue
  | parameter path type => simp [joinFragments]
  | substitution path => simp [joinFragments]

/-- A literal that is not the last fragment is none of the seam. -/
theorem joinFragments_literal_cons (text : String) {fragment : Fragment} (left right : List Fragment) :
    joinFragments (.literal text :: fragment :: left) right
      = .literal text :: joinFragments (fragment :: left) right := by
  simp [joinFragments]

theorem joinFragments_literal {fragments : List Fragment}
    (hhead : ∀ fragment ∈ fragments.head?, fragment.takesValue = true) (text : String) :
    joinFragments [.literal text] fragments = .literal text :: fragments := by
  cases fragments with
  | nil => simp [joinFragments]
  | cons fragment more =>
    cases fragment with
    | literal other => cases hhead _ rfl
    | parameter path type => simp [joinFragments]
    | substitution path => simp [joinFragments]

/-! ## Gathering in parts -/

/-- A run of literal text may be cut in two. -/
theorem literalBefore_append {fragments : List Fragment}
    (hhead : ∀ fragment ∈ fragments.head?, fragment.takesValue = true) (run more : List Char) :
    literalBefore (more ++ run) fragments
      = joinFragments (literalBefore run []) (literalBefore more fragments) := by
  by_cases hrun : run = []
  · subst hrun
    simp [literalBefore, joinFragments]
  · by_cases hmore : more = []
    · subst hmore
      simp [literalBefore, hrun, joinFragments_literal hhead]
    · simp [literalBefore, hrun, hmore, joinFragments]

/-- What is gathered after a run is what is gathered without it, joined to the run. -/
theorem gatherAfter_append_run {pieces : List Piece}
    (h : ∀ fragment, .hole fragment ∈ pieces → fragment.takesValue = true) (run more : List Char) :
    gatherAfter (more ++ run) pieces
      = joinFragments (literalBefore run []) (gatherAfter more pieces) := by
  induction pieces generalizing more with
  | nil => exact literalBefore_append (by simp) run more
  | cons piece pieces ih =>
    have hpieces := ih fun fragment hmem => h fragment (List.mem_cons_of_mem _ hmem)
    cases piece with
    | char c => exact hpieces (c :: more)
    | hole fragment => exact literalBefore_append (by simpa using h fragment (by simp)) run more

theorem joinFragments_literalBefore {fragment : Fragment} (hvalue : fragment.takesValue = true)
    (run : List Char) (left right : List Fragment) :
    joinFragments (literalBefore run (fragment :: left)) right
      = literalBefore run (fragment :: joinFragments left right) := by
  rw [literalBefore, literalBefore]
  split
  · exact joinFragments_cons hvalue left right
  · rw [joinFragments_literal_cons, joinFragments_cons hvalue]

/-- The fragments of two lists of pieces are the joined fragments of each. -/
theorem gatherAfter_append {pieces pieces' : List Piece}
    (h : ∀ fragment, .hole fragment ∈ pieces → fragment.takesValue = true)
    (h' : ∀ fragment, .hole fragment ∈ pieces' → fragment.takesValue = true) (run : List Char) :
    gatherAfter run (pieces ++ pieces') = joinFragments (gatherAfter run pieces) (gather pieces') := by
  induction pieces generalizing run with
  | nil => exact gatherAfter_append_run h' run []
  | cons piece pieces ih =>
    have hpieces := ih fun fragment hmem => h fragment (List.mem_cons_of_mem _ hmem)
    cases piece with
    | char c => exact hpieces (c :: run)
    | hole fragment =>
      rw [List.cons_append, gatherAfter, gatherAfter, hpieces [],
        joinFragments_literalBefore (h fragment (by simp))]

/-! ## Settled faults -/

/-- A fault of something that stands in the text, which no more text can mend. The others are about a closing
brace that is missing so far. -/
def TemplateFault.IsSettled : TemplateFault → Prop
  | .unmatchedClose => True
  | .nestedOpen => True
  | .emptyPlaceholder => True
  | .badPath _ => True
  | .unclosedPlaceholder => False
  | .unclosedEscape => False

theorem Blocks.extend {declarations : Declarations} {position : Nat} {opens : List Nat}
    {text : List Char} {fault : LocatedFault} (h : Blocks declarations position opens text fault)
    (hsettled : fault.fault.IsSettled) (more : List Char) :
    Blocks declarations position opens (text ++ more) fault := by
  cases h with
  | unclosedEscape => exact absurd hsettled id
  | unmatchedClose => exact .unmatchedClose
  | unclosedPlaceholder => exact absurd hsettled id
  | nestedOpen hbody hmark hrest =>
    rw [List.cons_append, List.append_assoc, List.cons_append]
    exact .nestedOpen hbody hmark (List.mem_append_left more hrest)
  | badBody hbody hmark hfault =>
    rw [List.cons_append, List.append_assoc, List.cons_append]
    exact .badBody hbody hmark hfault

/-! ## Offsets -/

/-- Reading does not depend on where a text starts. -/
theorem Reads.shift {declarations : Declarations} {ahead text : List Char} {position : Nat}
    {opens opens' : List Nat} {pieces : List Piece}
    (h : Reads declarations ahead position opens text pieces opens') (offset : Nat) :
    Reads declarations ahead (offset + position) (opens.map (offset + ·)) text pieces
      (opens'.map (offset + ·)) := by
  induction h with
  | done => exact .done
  | char hc _ ih => exact .char hc ih
  | close _ ih => exact .close ih
  | escape hmark _ ih => exact .escape hmark ih
  | hole hbody hmark hfragment _ ih =>
    refine .hole hbody hmark hfragment ?_
    simpa only [Nat.add_assoc] using ih

/-- The fault of a place moves with the place. -/
theorem Blocks.shift {declarations : Declarations} {text : List Char} {position : Nat}
    {opens : List Nat} {fault : LocatedFault} (h : Blocks declarations position opens text fault)
    (offset : Nat) :
    Blocks declarations (offset + position) (opens.map (offset + ·)) text
      ⟨fault.fault, offset + fault.position⟩ := by
  cases h with
  | unclosedEscape => exact .unclosedEscape
  | unmatchedClose => exact .unmatchedClose
  | unclosedPlaceholder hbody hmark hrest => exact .unclosedPlaceholder hbody hmark hrest
  | @nestedOpen _ body rest hbody hmark hrest =>
    have hblocks : Blocks declarations (offset + position) (opens.map (offset + ·))
        ('{' :: (body ++ '{' :: rest)) ⟨.nestedOpen, offset + position + body.length + 1⟩ :=
      .nestedOpen hbody hmark hrest
    simpa only [Nat.add_assoc] using hblocks
  | badBody hbody hmark hfault => exact .badBody hbody hmark hfault

theorem scan_shift_error {declarations : Declarations} {text : List Char} {fault : LocatedFault}
    (h : scan declarations 0 [] text = .error fault) (offset : Nat) :
    scan declarations offset [] text = .error ⟨fault.fault, offset + fault.position⟩ := by
  obtain ⟨done, ahead, pieces, opens', rfl, hreads, hblocks⟩ := scan_eq_error_iff.mp h
  -- the blocked place is reached again, on a stack with every offset moved
  refine scan_eq_error_iff.mpr ⟨done, ahead, pieces, opens'.map (offset + ·), rfl, ?_, ?_⟩
  · simpa using hreads.shift offset
  · simpa using hblocks.shift offset

/-! ## Texts one after the other -/

/-- A settled fault is the fault of every longer text. -/
theorem scan_append_of_settled {declarations : Declarations} {first : List Char}
    {fault : LocatedFault} (hsettled : fault.fault.IsSettled)
    (h : scan declarations 0 [] first = .error fault) (second : List Char) :
    scan declarations 0 [] (first ++ second) = .error fault := by
  obtain ⟨done, ahead, pieces, opens', rfl, hreads, hblocks⟩ := scan_eq_error_iff.mp h
  exact scan_eq_error_iff.mpr ⟨done, ahead ++ second, pieces, opens', by simp,
    hreads.extend second, hblocks.extend hsettled second⟩

/-- A fault behind an accepted text is the fault it would be alone, moved by the length of that text. -/
theorem scan_append_of_error {declarations : Declarations} {first second : List Char}
    {pieces : List Piece} {fault : LocatedFault} (hfirst : Reads declarations [] 0 [] first pieces [])
    (h : scan declarations 0 [] second = .error fault) :
    scan declarations 0 [] (first ++ second)
      = .error ⟨fault.fault, first.length + fault.position⟩ := by
  have hreads : Reads declarations second 0 [] first pieces [] := by simpa using hfirst.extend second
  rw [scan_of_reads hreads, Nat.zero_add, scan_shift_error h]
  rfl

/-- Two accepted texts are accepted one after the other, with the pieces of both. -/
theorem reads_append {declarations : Declarations} {first second : List Char}
    {pieces pieces' : List Piece} (hfirst : Reads declarations [] 0 [] first pieces [])
    (hsecond : Reads declarations [] 0 [] second pieces' []) :
    Reads declarations [] 0 [] (first ++ second) (pieces ++ pieces') [] := by
  have hmoved : Reads declarations [] (0 + first.length) [] second pieces' [] := by
    simpa using hsecond.shift first.length
  have hreads : Reads declarations (second ++ []) 0 [] first pieces [] := hfirst.extend (second ++ [])
  exact hreads.append hmoved

/-- Compiling is compositional. Two accepted texts compile together to their joined fragments; a fault of the second
text alone is a fault of both together, moved by the length of the first; and a settled fault of the first text
stays as it is. -/
theorem parse_append (table : TypeTable) (types : List (String × String)) (first second : String) :
    (∀ a b, Template.parse table first types = .ok a → Template.parse table second types = .ok b →
        Template.parse table (first ++ second) types
          = .ok ⟨first ++ second, joinFragments a.fragments b.fragments⟩) ∧
      (∀ a fault position, Template.parse table first types = .ok a →
        Template.parse table second types = .error (.malformed ⟨fault, position⟩) →
        Template.parse table (first ++ second) types
          = .error (.malformed ⟨fault, first.length + position⟩)) ∧
      ∀ fault position, fault.IsSettled →
        Template.parse table first types = .error (.malformed ⟨fault, position⟩) →
        Template.parse table (first ++ second) types = .error (.malformed ⟨fault, position⟩) := by
  refine ⟨fun a b ha hb => ?_, fun a fault position ha hb => ?_, fun fault position hsettled ha => ?_⟩
  · obtain ⟨declarations, pieces, hdeclared, hfirst, rfl⟩ := parse_eq_ok_iff.mp ha
    obtain ⟨declarations', pieces', hdeclared', hsecond, rfl⟩ := parse_eq_ok_iff.mp hb
    obtain rfl : declarations = declarations' := by simpa [hdeclared] using hdeclared'
    refine parse_eq_ok_iff.mpr ⟨declarations, pieces ++ pieces', hdeclared, ?_, ?_⟩
    · simpa using reads_append hfirst hsecond
    · have hgather := gatherAfter_append (takesValue_of_reads hfirst) (takesValue_of_reads hsecond) []
      exact congrArg (Template.mk (first ++ second)) hgather.symm
  · obtain ⟨declarations, pieces, hdeclared, hfirst, rfl⟩ := parse_eq_ok_iff.mp ha
    obtain ⟨declarations', hdeclared', hsecond⟩ := parse_eq_malformed_iff.mp hb
    obtain rfl : declarations = declarations' := by simpa [hdeclared] using hdeclared'
    refine parse_eq_malformed_iff.mpr ⟨declarations, hdeclared, ?_⟩
    simpa [← String.length_toList] using scan_append_of_error hfirst hsecond
  · obtain ⟨declarations, hdeclared, hfirst⟩ := parse_eq_malformed_iff.mp ha
    refine parse_eq_malformed_iff.mpr ⟨declarations, hdeclared, ?_⟩
    simpa using scan_append_of_settled hsettled hfirst second.toList

/-- Literal text that ends in an escape sequence and literal text behind it; a placeholder that the second text leaves
open; a brace that the first text opens inside a placeholder. -/
theorem parse_append_instances :
    Template.parse .standard ("\x7bd 'x'\x7d" ++ " y \x7ba\x7d") []
        = .ok ⟨"\x7bd 'x'\x7d y \x7ba\x7d",
          [.literal "\x7bd 'x'\x7d y ", .parameter ⟨["a"], by simp, by decide⟩ .unknown]⟩ ∧
      Template.parse .standard ("\x7ba\x7d" ++ "b\x7bc") []
        = .error (.malformed ⟨.unclosedPlaceholder, 3 + 1⟩) ∧
      Template.parse .standard ("\x7ba\x7bb\x7d" ++ "\x7d\x7d") [] = .error (.malformed ⟨.nestedOpen, 2⟩) := by
  refine ⟨?_, ?_, ?_⟩
  · refine (parse_append .standard [] "\x7bd 'x'\x7d" " y \x7ba\x7d").1
      ⟨"\x7bd 'x'\x7d", [.literal "\x7bd 'x'\x7d"]⟩
      ⟨" y \x7ba\x7d", [.literal " y ", .parameter ⟨["a"], by simp, by decide +kernel⟩ .unknown]⟩ ?_ ?_
    · decide +kernel
    · decide +kernel
  · exact (parse_append .standard [] "\x7ba\x7d" "b\x7bc").2.1
      ⟨"\x7ba\x7d", [.parameter ⟨["a"], by simp, by decide +kernel⟩ .unknown]⟩ .unclosedPlaceholder 1
      (by decide +kernel) (by decide +kernel)
  · exact (parse_append .standard [] "\x7ba\x7bb\x7d" "\x7d\x7d").2.2 .nestedOpen 2 trivial
      (by decide +kernel)

end SqlTemplate
