import SqlTemplate.Proofs.Template.EscapeMark
/-!
# How a template is read

`scan` goes through a template with the offsets of the open escape sequences as its stack. Here the same is
said by rules that build no result on the way:

* `Reads` tells how a piece of text takes the scan from one stack to another, given the text ahead of it;
* `Blocks` tells in front of which texts the scan cannot go on, and with what fault.

Every text is read up to its end or up to a place that blocks (`reads_until_end`), and both tell what `scan`
gives (`scan_of_reads`, `scan_of_blocks`), so `scan_eq_ok_iff` and `scan_eq_error_iff` put the rules in the place
of the scan. A piece that is read stays read whatever is put behind the text (`Reads.extend`), because
an escape mark is never taken back by more text.
-/

namespace SqlTemplate

open Text

variable {declarations : Declarations}

/-! ## The rules -/

/-- With `ahead` behind it, a text that starts at an offset is read into pieces, and the stack of open escape
sequences changes from the first list of offsets to the second. -/
inductive Reads (declarations : Declarations) (ahead : List Char) :
    Nat → List Nat → List Char → List Piece → List Nat → Prop where
  | done {position : Nat} {opens : List Nat} : Reads declarations ahead position opens [] [] opens
  | char {position : Nat} {opens opens' : List Nat} {c : Char} {text : List Char} {pieces : List Piece}
    (hc : ¬ IsBrace c) (rest : Reads declarations ahead (position + 1) opens text pieces opens') :
    Reads declarations ahead position opens (c :: text) (.char c :: pieces) opens'
  | close {position innermost : Nat} {outer opens' : List Nat} {text : List Char} {pieces : List Piece}
    (rest : Reads declarations ahead (position + 1) outer text pieces opens') :
    Reads declarations ahead position (innermost :: outer) ('}' :: text) (.char '}' :: pieces) opens'
  | escape {position : Nat} {opens opens' : List Nat} {text : List Char} {pieces : List Piece}
    (hmark : StartsEscape (text ++ ahead))
    (rest : Reads declarations ahead (position + 1) (position :: opens) text pieces opens') :
    Reads declarations ahead position opens ('{' :: text) (.char '{' :: pieces) opens'
  | hole {position : Nat} {opens opens' : List Nat} {body text : List Char} {pieces : List Piece}
    {fragment : Fragment} (hbody : BraceFree body) (hmark : ¬ StartsEscape body)
    (hfragment : placeholder declarations body = .ok fragment)
    (rest : Reads declarations ahead (position + body.length + 2) opens text pieces opens') :
    Reads declarations ahead position opens ('{' :: (body ++ '}' :: text)) (.hole fragment :: pieces)
      opens'

/-- At an offset and with a stack of open escape sequences, the scan cannot read on in a text. -/
inductive Blocks (declarations : Declarations) :
    Nat → List Nat → List Char → LocatedFault → Prop where
  | unclosedEscape {position innermost : Nat} {outer : List Nat} :
    Blocks declarations position (innermost :: outer) [] ⟨.unclosedEscape, innermost⟩
  | unmatchedClose {position : Nat} {rest : List Char} :
    Blocks declarations position [] ('}' :: rest) ⟨.unmatchedClose, position⟩
  | unclosedPlaceholder {position : Nat} {opens : List Nat} {body rest : List Char}
    (hbody : BraceFree body) (hmark : ¬ StartsEscape body)
    (hrest : rest = [] ∨ ∃ more, rest = '{' :: more ∧ '}' ∉ more) :
    Blocks declarations position opens ('{' :: (body ++ rest)) ⟨.unclosedPlaceholder, position⟩
  | nestedOpen {position : Nat} {opens : List Nat} {body rest : List Char}
    (hbody : BraceFree body) (hmark : ¬ StartsEscape body) (hrest : '}' ∈ rest) :
    Blocks declarations position opens ('{' :: (body ++ '{' :: rest))
      ⟨.nestedOpen, position + body.length + 1⟩
  | badBody {position : Nat} {opens : List Nat} {body rest : List Char} {fault : TemplateFault}
    (hbody : BraceFree body) (hmark : ¬ StartsEscape body)
    (hfault : placeholder declarations body = .error fault) :
    Blocks declarations position opens ('{' :: (body ++ '}' :: rest)) ⟨fault, position⟩

/-! ## Reading in parts -/

/-- The offset behind a placeholder and a text. -/
theorem add_length_hole (position : Nat) (body text : List Char) :
    position + ('{' :: (body ++ '}' :: text)).length = position + body.length + 2 + text.length := by
  simp only [List.length_cons, List.length_append]
  omega

theorem Reads.append {ahead first second : List Char} {position : Nat} {opens middle opens' : List Nat}
    {pieces pieces' : List Piece}
    (hfirst : Reads declarations (second ++ ahead) position opens first pieces middle)
    (hsecond : Reads declarations ahead (position + first.length) middle second pieces' opens') :
    Reads declarations ahead position opens (first ++ second) (pieces ++ pieces') opens' := by
  induction hfirst with
  | done => simpa using hsecond
  | char hc _ ih =>
    refine .char hc (ih ?_)
    simpa [Nat.add_assoc, Nat.add_comm 1] using hsecond
  | close _ ih =>
    refine .close (ih ?_)
    simpa [Nat.add_assoc, Nat.add_comm 1] using hsecond
  | escape hmark _ ih =>
    refine .escape (by simpa using hmark) (ih ?_)
    simpa [Nat.add_assoc, Nat.add_comm 1] using hsecond
  | hole hbody hmark hfragment _ ih =>
    rw [List.cons_append, List.append_assoc, List.cons_append]
    refine .hole hbody hmark hfragment (ih ?_)
    rwa [add_length_hole] at hsecond

/-- What has been read stays read when more text is put behind everything. -/
theorem Reads.extend {ahead text : List Char} {position : Nat} {opens opens' : List Nat}
    {pieces : List Piece} (h : Reads declarations ahead position opens text pieces opens')
    (more : List Char) : Reads declarations (ahead ++ more) position opens text pieces opens' := by
  induction h with
  | done => exact .done
  | char hc _ ih => exact .char hc ih
  | close _ ih => exact .close ih
  | escape hmark _ ih => exact .escape (by simpa using hmark.append more) ih
  | hole hbody hmark hfragment _ ih => exact .hole hbody hmark hfragment ih

/-- A text is brace-free up to its end or up to its first brace. -/
theorem exists_braceFree_append (text : List Char) :
    ∃ body rest, text = body ++ rest ∧ BraceFree body ∧
      (rest = [] ∨ ∃ c more, rest = c :: more ∧ IsBrace c) := by
  induction text with
  | nil => exact ⟨[], [], rfl, by simp [BraceFree], .inl rfl⟩
  | cons c text ih =>
    by_cases hc : IsBrace c
    · exact ⟨[], c :: text, rfl, by simp [BraceFree], .inr ⟨c, text, rfl, hc⟩⟩
    · obtain ⟨body, rest, rfl, hbody, hrest⟩ := ih
      exact ⟨c :: body, rest, rfl, by simpa [BraceFree] using ⟨hc, hbody⟩, hrest⟩

/-- What comes of a brace that opens no escape sequence: a placeholder is read, or the scan is blocked. -/
theorem hole_or_blocks (declarations : Declarations) (position : Nat) (opens : List Nat)
    {text : List Char} (hmark : ¬ StartsEscape text) :
    (∃ body rest fragment, text = body ++ '}' :: rest ∧ BraceFree body ∧ ¬ StartsEscape body ∧
        placeholder declarations body = .ok fragment) ∨
      ∃ fault, Blocks declarations position opens ('{' :: text) fault := by
  obtain ⟨body, rest, rfl, hbody, hrest⟩ := exists_braceFree_append text
  have hbodymark : ¬ StartsEscape body := fun h => hmark (h.append rest)
  rcases hrest with rfl | ⟨c, more, rfl, rfl | rfl⟩
  · exact .inr ⟨_, .unclosedPlaceholder hbody hbodymark (.inl rfl)⟩
  · -- a second brace is a fault of its own only if a closing one follows
    by_cases hclosed : '}' ∈ more
    · exact .inr ⟨_, .nestedOpen hbody hbodymark hclosed⟩
    · exact .inr ⟨_, .unclosedPlaceholder hbody hbodymark (.inr ⟨more, rfl, hclosed⟩)⟩
  · cases hfragment : placeholder declarations body with
    | ok fragment => exact .inl ⟨body, more, fragment, rfl, hbody, hbodymark, hfragment⟩
    | error fault => exact .inr ⟨_, .badBody hbody hbodymark hfragment⟩

/-- Every text is read to its end, or up to a place where the scan is blocked. -/
theorem reads_until_end (declarations : Declarations) (text : List Char) (position : Nat)
    (opens : List Nat) :
    ∃ done ahead pieces opens', text = done ++ ahead ∧
      Reads declarations ahead position opens done pieces opens' ∧
      ((ahead = [] ∧ opens' = []) ∨
        ∃ fault, Blocks declarations (position + done.length) opens' ahead fault) := by
  -- a placeholder is read in one step, so the induction is on the length and not on the text
  induction hn : text.length using Nat.strong_induction_on generalizing text position opens with
  | _ n ih =>
    subst hn
    cases text with
    | nil =>
      cases opens with
      | nil => exact ⟨[], [], [], [], rfl, .done, .inl ⟨rfl, rfl⟩⟩
      | cons innermost outer =>
        exact ⟨[], [], [], innermost :: outer, rfl, .done, .inr ⟨_, .unclosedEscape⟩⟩
    | cons c text =>
      -- one character is read, and the rest by the hypothesis, whatever the stack is by then
      have step : ∀ opens, ∃ done ahead pieces opens', text = done ++ ahead ∧
          Reads declarations ahead (position + 1) opens done pieces opens' ∧
          ((ahead = [] ∧ opens' = []) ∨
            ∃ fault, Blocks declarations (position + (c :: done).length) opens' ahead fault) := by
        intro opens
        obtain ⟨done, ahead, pieces, opens', rfl, hreads, hend⟩ :=
          ih text.length (by simp) text (position + 1) opens rfl
        refine ⟨done, ahead, pieces, opens', rfl, hreads, ?_⟩
        rwa [List.length_cons, Nat.add_comm done.length, ← Nat.add_assoc]
      by_cases hclose : c = '}'
      · subst hclose
        cases opens with
        | nil => exact ⟨[], _, [], [], rfl, .done, .inr ⟨_, .unmatchedClose⟩⟩
        | cons innermost outer =>
          obtain ⟨done, ahead, pieces, opens', rfl, hreads, hend⟩ := step outer
          exact ⟨'}' :: done, ahead, _, opens', rfl, .close hreads, hend⟩
      · by_cases hopen : c = '{'
        · subst hopen
          by_cases hmark : StartsEscape text
          · obtain ⟨done, ahead, pieces, opens', rfl, hreads, hend⟩ := step (position :: opens)
            exact ⟨'{' :: done, ahead, _, opens', rfl, .escape hmark hreads, hend⟩
          · rcases hole_or_blocks declarations position opens hmark with
              ⟨body, rest, fragment, rfl, hbody, hbodymark, hfragment⟩ | hblocks
            · obtain ⟨done, ahead, pieces, opens', rfl, hreads, hend⟩ :=
                ih rest.length (by simp; omega) rest (position + body.length + 2) opens rfl
              refine ⟨'{' :: (body ++ '}' :: done), ahead, _, opens', by simp,
                .hole hbody hbodymark hfragment hreads, ?_⟩
              rwa [add_length_hole]
            · exact ⟨[], _, [], opens, rfl, .done, .inr hblocks⟩
        · obtain ⟨done, ahead, pieces, opens', rfl, hreads, hend⟩ := step opens
          exact ⟨c :: done, ahead, _, opens', rfl, .char (by simp [IsBrace, *]) hreads, hend⟩

/-! ## What the scan gives -/

section Scan

variable (declarations) (position : Nat) (opens : List Nat)

theorem scan_char {c : Char} (hc : ¬ IsBrace c) (text : List Char) :
    scan declarations position opens (c :: text)
      = (scan declarations (position + 1) opens text).map (.char c :: ·) := by
  obtain ⟨hopen, hclose⟩ := not_or.mp hc
  rw [scan.eq_def]
  simp only [if_neg hclose, if_neg hopen]

theorem scan_close (innermost : Nat) (text : List Char) :
    scan declarations position (innermost :: opens) ('}' :: text)
      = (scan declarations (position + 1) opens text).map (.char '}' :: ·) := by
  rw [scan.eq_def]
  simp only [if_pos]

theorem scan_escape {text : List Char} (h : StartsEscape text) :
    scan declarations position opens ('{' :: text)
      = (scan declarations (position + 1) (position :: opens) text).map (.char '{' :: ·) := by
  rw [scan.eq_def]
  simp only [if_neg (show ¬ '{' = '}' by decide), if_pos, (opensEscape_iff text).mpr h]

/-- Inside a placeholder everything up to a brace goes to the body. -/
theorem scanPlaceholder_append {text : List Char} (h : BraceFree text) (start : Nat)
    (body rest : List Char) :
    scanPlaceholder declarations position opens start body (text ++ rest)
      = scanPlaceholder declarations (position + text.length) opens start (text.reverse ++ body) rest := by
  induction text generalizing position body with
  | nil => simp
  | cons c text ih =>
    obtain ⟨hc, htext⟩ := List.forall_mem_cons.mp h
    obtain ⟨hopen, hclose⟩ := not_or.mp hc
    rw [List.cons_append, scanPlaceholder, if_neg hclose, if_neg hopen, ih _ htext]
    simp [Nat.add_assoc, Nat.add_comm 1]

/-- A brace that opens no escape sequence starts a placeholder, whose body reaches to the next brace. -/
theorem scan_placeholder {body rest : List Char} (hbody : BraceFree body)
    (hmark : ¬ StartsEscape (body ++ rest)) :
    scan declarations position opens ('{' :: (body ++ rest))
      = scanPlaceholder declarations (position + 1 + body.length) opens position body.reverse rest := by
  have hescape : ¬ opensEscape (body ++ rest) = true := (opensEscape_iff _).not.mpr hmark
  rw [scan.eq_def]
  simp only [if_neg (show ¬ '{' = '}' by decide), if_pos, if_neg hescape]
  rw [scanPlaceholder_append _ _ _ hbody, List.append_nil]

end Scan

theorem map_append_cons (result : Except LocatedFault (List Piece)) (piece : Piece)
    (pieces : List Piece) :
    (result.map (pieces ++ ·)).map (piece :: ·) = result.map (piece :: pieces ++ ·) := by
  cases result <;> rfl

/-- The scan of a text that starts with a piece that is read goes on behind the piece. -/
theorem scan_of_reads {ahead text : List Char} {position : Nat} {opens opens' : List Nat}
    {pieces : List Piece} (h : Reads declarations ahead position opens text pieces opens') :
    scan declarations position opens (text ++ ahead)
      = (scan declarations (position + text.length) opens' ahead).map (pieces ++ ·) := by
  induction h with
  | @done position opens =>
    cases hscan : scan declarations position opens ahead <;> simp [hscan, Except.map]
  | char hc _ ih =>
    rw [List.cons_append, scan_char _ _ _ hc, ih, map_append_cons, List.length_cons,
      ← Nat.add_assoc, Nat.add_right_comm]
  | close _ ih =>
    rw [List.cons_append, scan_close, ih, map_append_cons, List.length_cons, ← Nat.add_assoc,
      Nat.add_right_comm]
  | escape hmark _ ih =>
    rw [List.cons_append, scan_escape _ _ _ hmark, ih, map_append_cons, List.length_cons,
      ← Nat.add_assoc, Nat.add_right_comm]
  | @hole position _ _ body text _ _ hbody hmark hfragment _ ih =>
    -- the scan looks for a mark in all that is ahead, the rule only in the body
    have hahead : ¬ StartsEscape (body ++ '}' :: (text ++ ahead)) := by
      rwa [startsEscape_append_brace_iff (.inr rfl)]
    have hnext : position + 1 + body.length + 1 = position + body.length + 2 := by omega
    rw [List.cons_append, List.append_assoc, List.cons_append, scan_placeholder _ _ _ hbody hahead,
      scanPlaceholder, if_pos rfl, List.reverse_reverse, hfragment]
    simp only
    rw [hnext, ih, map_append_cons, add_length_hole]

theorem scan_of_blocks {position : Nat} {opens : List Nat} {text : List Char} {fault : LocatedFault}
    (h : Blocks declarations position opens text fault) :
    scan declarations position opens text = .error fault := by
  cases h with
  | unclosedEscape => rw [scan.eq_def]
  | unmatchedClose =>
    rw [scan.eq_def]
    simp only [if_pos]
  | @unclosedPlaceholder _ body rest hbody hmark hrest =>
    rcases hrest with rfl | ⟨more, rfl, hmore⟩
    · rw [scan_placeholder _ _ _ hbody (by simpa using hmark), scanPlaceholder]
    · rw [scan_placeholder _ _ _ hbody (by rwa [startsEscape_append_brace_iff (.inl rfl)]),
        scanPlaceholder, if_neg (by decide), if_pos rfl, if_neg (by simpa using hmore)]
  | nestedOpen hbody hmark hrest =>
    rw [scan_placeholder _ _ _ hbody (by rwa [startsEscape_append_brace_iff (.inl rfl)]),
      scanPlaceholder, if_neg (by decide), if_pos rfl, if_pos (by simpa using hrest)]
    simp [Nat.add_assoc, Nat.add_comm 1]
  | badBody hbody hmark hfault =>
    rw [scan_placeholder _ _ _ hbody (by rwa [startsEscape_append_brace_iff (.inr rfl)]),
      scanPlaceholder, if_pos rfl, List.reverse_reverse, hfault]

/-- The scan gives the pieces that the rules read to the end of the text, with nothing left open. -/
theorem scan_eq_ok_iff {position : Nat} {opens : List Nat} {text : List Char} {pieces : List Piece} :
    scan declarations position opens text = .ok pieces ↔
      Reads declarations [] position opens text pieces [] := by
  constructor
  · intro hscan
    obtain ⟨done, ahead, read, opens', rfl, hreads, hend⟩ :=
      reads_until_end declarations text position opens
    rw [scan_of_reads hreads] at hscan
    rcases hend with ⟨rfl, rfl⟩ | ⟨fault, hblocks⟩
    · obtain rfl : read = pieces := by simpa [scan, Except.map] using hscan
      simpa using hreads
    · simp [scan_of_blocks hblocks, Except.map] at hscan
  · intro hreads
    simpa [scan, Except.map] using scan_of_reads hreads

/-- The scan fails with the fault of the place where the rules are blocked. -/
theorem scan_eq_error_iff {position : Nat} {opens : List Nat} {text : List Char}
    {fault : LocatedFault} :
    scan declarations position opens text = .error fault ↔
      ∃ done ahead pieces opens', text = done ++ ahead ∧
        Reads declarations ahead position opens done pieces opens' ∧
        Blocks declarations (position + done.length) opens' ahead fault := by
  constructor
  · intro hscan
    obtain ⟨done, ahead, read, opens', rfl, hreads, hend⟩ :=
      reads_until_end declarations text position opens
    rw [scan_of_reads hreads] at hscan
    rcases hend with ⟨rfl, rfl⟩ | ⟨fault', hblocks⟩
    · simp [scan, Except.map] at hscan
    · obtain rfl : fault' = fault := by simpa [scan_of_blocks hblocks, Except.map] using hscan
      exact ⟨done, ahead, read, opens', rfl, hreads, hblocks⟩
  · rintro ⟨done, ahead, pieces, opens', rfl, hreads, hblocks⟩
    simp [scan_of_reads hreads, scan_of_blocks hblocks, Except.map]

/-! ## Compiling -/

section Parse

variable {table : TypeTable} {types : List (String × String)} {source : String}

/-- A fault of the declared types is no fault of a template's text. -/
theorem declarationsOf_ne_malformed (table : TypeTable) (types : List (String × String))
    (fault : LocatedFault) : declarationsOf table types ≠ .error (.malformed fault) := by
  have hentry : ∀ entry, declaration table entry ≠ .error (.malformed fault) := by
    intro entry
    rw [declaration]
    split
    · simp
    · split <;> simp
  rw [declarationsOf]
  induction types with
  | nil => simp [pure, Except.pure]
  | cons entry types ih =>
    rw [List.mapM_cons]
    cases hfirst : declaration table entry with
    | error first =>
      have hne := hentry entry
      simpa [hfirst, bind, Except.bind] using hne
    | ok first =>
      cases hmore : types.mapM (declaration table) with
      | error more => simpa [hmore, bind, Except.bind] using ih
      | ok more => simp [bind, Except.bind, pure, Except.pure]

/-- Compiling gives the fragments of the pieces that are read, if the declared types are all right. -/
theorem parse_eq_ok_iff {template : Template} :
    Template.parse table source types = .ok template ↔
      ∃ declarations pieces, declarationsOf table types = .ok declarations ∧
        Reads declarations [] 0 [] source.toList pieces [] ∧ template = ⟨source, gather pieces⟩ := by
  simp only [Template.parse, Template.ofText, ← scan_eq_ok_iff]
  cases declarationsOf table types with
  | error fault => simp
  | ok declarations =>
    cases hscan : scan declarations 0 [] source.toList <;> simp [hscan, Except.map, eq_comm]

/-- Compiling finds a text malformed where the scan fails, if the declared types are all right. -/
theorem parse_eq_malformed_iff {fault : LocatedFault} :
    Template.parse table source types = .error (.malformed fault) ↔
      ∃ declarations, declarationsOf table types = .ok declarations ∧
        scan declarations 0 [] source.toList = .error fault := by
  have hne := declarationsOf_ne_malformed table types fault
  simp only [Template.parse, Template.ofText]
  cases hdeclared : declarationsOf table types with
  | error declared => simpa [hdeclared] using hne
  | ok declarations =>
    cases hscan : scan declarations 0 [] source.toList <;> simp [hscan, Except.map]

end Parse

end SqlTemplate
