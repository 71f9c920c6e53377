import Mathlib.Data.List.Chain
import Mathlib.Data.List.Forall2
import SqlTemplate.Proofs.Template.Placeholder
import SqlTemplate.Proofs.Template.Reading
/-!
# The text behind the fragments

Compiling loses nothing of a template's text. Literal text is kept as runs of single characters that are gathered
only in front of a placeholder and at the end, and the braces of escape sequences are part of the runs.
`parse_segments` says that the fragments nevertheless stand for consecutive segments that make up the whole source,
and that the runs are as long as they can be: none is empty and no two are neighbours.

The invariant is that of a gathering in progress: the run so far and the text still to be read make up what the
fragments to come spell (`GatherSpells`).
-/

namespace SqlTemplate

open Text

/-- A piece of a template's text is what a fragment stands for. -/
def Spells : Fragment → List Char → Prop
  | .literal text, segment => segment = text.toList
  | .parameter path _, segment =>
    ∃ body, segment = '{' :: (body ++ ['}']) ∧ BraceFree body ∧
      Path.ofExpression (trim body) = .ok path
  | .substitution path, segment =>
    ∃ body mark expression, segment = '{' :: (body ++ ['}']) ∧ BraceFree body ∧
      trim body = mark ++ expression ∧ mark.map Char.toLower = substitutionMark ∧
      Path.ofExpression expression = .ok path

theorem spells_of_placeholder {declarations : Declarations} {body : List Char} {fragment : Fragment}
    (hbody : BraceFree body) (h : placeholder declarations body = .ok fragment) :
    Spells fragment ('{' :: (body ++ ['}'])) := by
  rcases placeholder_eq_ok_iff.mp h with
    ⟨path, hpath, rfl⟩ | ⟨mark, expression, path, hcontent, hmark, hpath, rfl⟩
  · exact ⟨body, rfl, hbody, hpath⟩
  · exact ⟨body, mark, expression, rfl, hbody, hcontent, hmark, hpath⟩

/-! ## Segments of gathered fragments -/

theorem literalBefore_spells (run : List Char) {fragments : List Fragment}
    {segments : List (List Char)} (h : List.Forall₂ Spells fragments segments) :
    ∃ segments', List.Forall₂ Spells (literalBefore run fragments) segments' ∧
      segments'.flatten = run.reverse ++ segments.flatten := by
  rw [literalBefore]
  split
  · next hrun =>
    obtain rfl : run = [] := List.isEmpty_iff.mp hrun
    exact ⟨segments, h, by simp⟩
  · exact ⟨run.reverse :: segments, .cons (by simp [Spells]) h, by simp⟩

/-- Gathered after any run of literal text, pieces become fragments that spell the run and a text. -/
def GatherSpells (pieces : List Piece) (text : List Char) : Prop :=
  ∀ run, ∃ segments, List.Forall₂ Spells (gatherAfter run pieces) segments ∧
    segments.flatten = run.reverse ++ text

theorem GatherSpells.char {pieces : List Piece} {text : List Char} (h : GatherSpells pieces text)
    (c : Char) : GatherSpells (.char c :: pieces) (c :: text) := by
  intro run
  simpa [gatherAfter] using h (c :: run)

/-- The fragments of what has been read spell the text that was read. -/
theorem gatherSpells_of_reads {declarations : Declarations} {ahead text : List Char} {position : Nat}
    {opens opens' : List Nat} {pieces : List Piece}
    (h : Reads declarations ahead position opens text pieces opens') : GatherSpells pieces text := by
  -- characters only make the run longer, so the cases differ where a placeholder ends it
  induction h with
  | done =>
    intro run
    rw [gatherAfter]
    simpa using literalBefore_spells run .nil
  | char _ _ ih => exact ih.char _
  | close _ ih => exact ih.char _
  | escape _ _ ih => exact ih.char _
  | hole hbody _ hfragment _ ih =>
    intro run
    obtain ⟨segments, hsegments, hflat⟩ := ih []
    obtain ⟨segments', hsegments', hflat'⟩ :=
      literalBefore_spells run (.cons (spells_of_placeholder hbody hfragment) hsegments)
    refine ⟨segments', hsegments', ?_⟩
    rw [hflat', List.flatten_cons, hflat]
    simp

/-! ## Runs of literal text -/

/-- Literal text has been gathered as far as possible. -/
structure Gathered (fragments : List Fragment) : Prop where
  nonempty : ∀ text, .literal text ∈ fragments → text ≠ ""
  separate : fragments.IsChain fun a b => a.takesValue = true ∨ b.takesValue = true

/-- In gathered fragments no two literals stand side by side. -/
theorem Gathered.ne_literals {fragments : List Fragment} (h : Gathered fragments)
    (before after : List Fragment) (a b : String) :
    fragments ≠ before ++ .literal a :: .literal b :: after := by
  rintro rfl
  have hpair : [Fragment.literal a, .literal b].IsChain
      fun a b => a.takesValue = true ∨ b.takesValue = true :=
    h.separate.infix ⟨before, after, by simp⟩
  simp [Fragment.takesValue, Fragment.path?] at hpair

theorem Gathered.nil : Gathered [] := ⟨by simp, .nil⟩

theorem Gathered.cons {fragment : Fragment} {fragments : List Fragment}
    (hvalue : fragment.takesValue = true) (h : Gathered fragments) : Gathered (fragment :: fragments) where
  nonempty text hmem := by
    rcases List.mem_cons.mp hmem with rfl | hmem
    · cases hvalue
    · exact h.nonempty text hmem
  separate := h.separate.cons fun _ _ => .inl hvalue

/-- A run may stand in front of gathered fragments that do not start with literal text. -/
theorem Gathered.literalBefore (run : List Char) {fragments : List Fragment} (h : Gathered fragments)
    (hhead : ∀ fragment ∈ fragments.head?, fragment.takesValue = true) :
    Gathered (literalBefore run fragments) := by
  rw [SqlTemplate.literalBefore]
  split
  · exact h
  · next hrun =>
    refine ⟨fun text hmem => ?_, h.separate.cons fun fragment hfragment => .inr (hhead fragment hfragment)⟩
    rcases List.mem_cons.mp hmem with htext | hmem
    · rintro rfl
      obtain rfl : run = [] := by simpa using htext.symm
      simp at hrun
    · exact h.nonempty text hmem

theorem gatherAfter_gathered {pieces : List Piece}
    (h : ∀ fragment, .hole fragment ∈ pieces → fragment.takesValue = true) (run : List Char) :
    Gathered (gatherAfter run pieces) := by
  induction pieces generalizing run with
  | nil => exact Gathered.nil.literalBefore run (by simp)
  | cons piece pieces ih =>
    have hpieces := ih fun fragment hmem => h fragment (List.mem_cons_of_mem _ hmem)
    cases piece with
    | char c => exact hpieces (c :: run)
    | hole fragment =>
      have hvalue := h fragment (by simp)
      exact ((hpieces []).cons hvalue).literalBefore run (by simpa using hvalue)

/-- What is read between braces takes a value. -/
theorem takesValue_of_reads {declarations : Declarations} {ahead text : List Char} {position : Nat}
    {opens opens' : List Nat} {pieces : List Piece}
    (h : Reads declarations ahead position opens text pieces opens') (fragment : Fragment)
    (hmem : .hole fragment ∈ pieces) : fragment.takesValue = true := by
  induction h with
  | done => simp at hmem
  | char _ _ ih => exact ih (by simpa using hmem)
  | close _ ih => exact ih (by simpa using hmem)
  | escape _ _ ih => exact ih (by simpa using hmem)
  | hole _ _ hfragment _ ih =>
    rcases List.mem_cons.mp hmem with heq | hmem
    · injection heq with heq
      exact heq ▸ takesValue_of_placeholder hfragment
    · exact ih hmem

/-! ## Compiled templates -/

/-- A compiled template keeps its source, and its fragments stand for consecutive segments of it; literal text is
gathered into runs that are never empty and never neighbours. -/
theorem parse_segments {table : TypeTable} {types : List (String × String)} {source : String}
    {template : Template} (h : Template.parse table source types = .ok template) :
    template.source = source ∧
      (∃ segments, List.Forall₂ Spells template.fragments segments ∧
        segments.flatten = source.toList) ∧
      (∀ text, .literal text ∈ template.fragments → text ≠ "") ∧
      ∀ before after a b, template.fragments ≠ before ++ .literal a :: .literal b :: after := by
  obtain ⟨declarations, pieces, -, hreads, rfl⟩ := parse_eq_ok_iff.mp h
  have hgathered : Gathered (gather pieces) := gatherAfter_gathered (takesValue_of_reads hreads) []
  obtain ⟨segments, hspells, hflat⟩ := gatherSpells_of_reads hreads []
  exact ⟨rfl, ⟨segments, hspells, hflat⟩, hgathered.nonempty, hgathered.ne_literals⟩

/-- A parameter inside of an escape sequence and a substitution behind it: the braces of the escape sequence go to the
literal text on both sides of the parameter. -/
theorem parse_segments_nested :
    ∃ template, Template.parse .standard "A \x7bfn U( \x7be. n \x7d )\x7d \x7bSQL: c\x7d" [("e.n", "text")]
        = .ok template ∧
      template.fragments.length = 4 ∧
      (∃ segments, List.Forall₂ Spells template.fragments segments ∧
        segments.flatten = "A \x7bfn U( \x7be. n \x7d )\x7d \x7bSQL: c\x7d".toList) ∧
      ∀ before after a b, template.fragments ≠ before ++ .literal a :: .literal b :: after := by
  have h : Template.parse .standard "A \x7bfn U( \x7be. n \x7d )\x7d \x7bSQL: c\x7d" [("e.n", "text")]
      = .ok ⟨"A \x7bfn U( \x7be. n \x7d )\x7d \x7bSQL: c\x7d",
          [.literal "A \x7bfn U( ", .parameter ⟨["e", "n"], by simp, by decide +kernel⟩ .longVarChar,
            .literal " )\x7d ", .substitution ⟨["c"], by simp, by decide +kernel⟩]⟩ := by
    decide +kernel
  obtain ⟨-, hsegments, -, hliterals⟩ := parse_segments h
  exact ⟨_, h, rfl, hsegments, hliterals⟩

end SqlTemplate
