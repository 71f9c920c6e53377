import SqlTemplate.Proofs.Secrecy.Reading
/-!
# Texts tell no secret

The text of a value is put together from what the value leads to and from what methods give, and neither is a secret. So
making a failure, which takes the texts of its arguments, is secure as well.
-/

namespace SqlTemplate.Run

variable {S : Secrets} {V : Scope} {pre : Prop} {inner : Inner}

theorem secure_deeper {α : Type} {levels left : Nat} {inside : Nat → Run α} {post : Scope → α → Prop}
    (h : ∀ left, Secure S V pre (inside left) post) :
    Secure S V pre (deeper levels left inside) post := by
  unfold deeper
  split
  · exact .fail fun _ => Failure.within_ofMessage .recursionError _
  · exact h _

/-! ## Values inside containers -/

section

variable {reference : Nat → Value → Run String}

mutual

theorem secure_shownWith
    (hr : ∀ V left value, Secure S V (value.Within V) (reference left value) Anything) :
    ∀ V left value, Secure S V (value.Within V) (shownWith reference left value) Anything
  | V, left, .list items => by
    unfold shownWith
    refine secure_deeper fun left => .bind (secure_shownItems hr V left items) fun _ _ _ => .pure fun _ => trivial
  | V, left, .tuple items => by
    unfold shownWith
    refine secure_deeper fun left => .bind (secure_shownItems hr V left items) fun _ _ _ => .pure fun _ => trivial
  | V, left, .mapping kind entries => by
    unfold shownWith
    refine secure_deeper fun left => .bind (secure_shownEntries hr V left entries) fun _ _ _ => .pure fun _ => trivial
  | V, left, .null | V, left, .bool _ | V, left, .int _ | V, left, .real _ | V, left, .text _
  | V, left, .bytes _ => by
    unfold shownWith
    exact secure_deeper fun _ => .pure fun _ => trivial
  | V, left, .object id => hr V left (.object id)
  | V, left, .type c => hr V left (.type c)
  | V, left, .function id => hr V left (.function id)
  | V, left, .method receiver id => hr V left (.method receiver id)
  | V, left, .builtinMethod receiver name => hr V left (.builtinMethod receiver name)
  | V, left, .property getter => hr V left (.property getter)
  | V, left, .place owner name => hr V left (.place owner name)
  | V, left, .descriptor kind => hr V left (.descriptor kind)

theorem secure_shownItems
    (hr : ∀ V left value, Secure S V (value.Within V) (reference left value) Anything) :
    ∀ V left items, Secure S V (Value.AllWithin V items) (shownItems reference left items) Anything
  | V, left, [] => .pure fun _ => trivial
  | V, left, item :: more => by
    unfold shownItems
    refine .bind (.of (secure_shownWith hr V left item) And.left) fun V' hV text => ?_
    refine .bind (.of (secure_shownItems hr V' left more) fun hpre => ?_) fun _ _ _ => .pure fun _ => trivial
    exact Value.allWithin_of_le hV more hpre.1.2

theorem secure_shownEntries
    (hr : ∀ V left value, Secure S V (value.Within V) (reference left value) Anything) :
    ∀ V left entries,
      Secure S V (Value.EntriesWithin V entries) (shownEntries reference left entries) Anything
  | V, left, [] => .pure fun _ => trivial
  | V, left, (key, value) :: more => by
    unfold shownEntries
    refine .bind (.of (secure_shownWith hr V left key) And.left) fun V' hV keyText => ?_
    refine .bind (.of (secure_shownWith hr V' left value) fun hpre => hpre.1.2.1.mono hV) fun V'' hV' valueText => ?_
    refine .bind (.of (secure_shownEntries hr V'' left more) fun hpre => ?_) fun _ _ _ => .pure fun _ => trivial
    exact Value.entriesWithin_of_le (hV.trans hV') more hpre.1.1.2.2

end

end

/-! ## References -/

theorem secure_givenText (hi : inner.IsSecure S) (id : ObjectId) (name complaint : String) (member : Member) :
    Secure S V (V.seen id ∧ member.Within V ∧ S.Spares id name)
      (givenText inner id name complaint member) Anything := by
  refine .bind (.of (secure_callMember hi id name member []) ?_) fun V' hV made => ?_
  · exact fun ⟨hid, hmember, hname⟩ => ⟨hid, hmember, hname, nofun⟩
  · split
    · exact .pure fun _ => trivial
    · exact .refuse fun hpre w w' h => by rw [h.formalName hpre.2]

theorem secure_shownReference (hi : inner.IsSecure S) (around : List ObjectId) (objects left : Nat)
    (value : Value) :
    Secure S V (value.Within V) (shownReference inner around objects left value) Anything := by
  induction objects generalizing V around left value with
  | zero => exact .fail fun _ => Failure.within_ofMessage .recursionError _
  | succ objects ih =>
    unfold shownReference
    refine .get_bind (fun w => ?_) fun hv w w' h => ?_
    · split
      · rename_i id
        extract_lets
        split
        · rename_i member hmember
          refine secure_deeper fun _ => .of (secure_givenText hi id _ _ member) fun ⟨hv, w', h⟩ => ?_
          exact ⟨hv, h.within_specialMember? hmember, S.spares_of_mem id (by decide) (by decide)⟩
        · split
          · exact secure_deeper fun _ => .pure fun _ => trivial
          · split
            · exact .pure fun _ => trivial
            · refine secure_deeper fun left => ?_
              extract_lets
              refine .bind (.of (secure_shownEntries (fun V left value => ih _ left value) V left _) ?_)
                fun _ _ _ => .pure fun _ => trivial
              exact fun ⟨hv, w', h⟩ => Value.entriesWithin_iff.mpr (h.seen id hv).within_entries
      all_goals exact secure_deeper fun _ => .pure fun _ => trivial
    · have hname : w'.fullName = w.fullName := World.eq_of_classes World.fullName (fun _ => rfl) h.classes
      dsimp only
      split
      · simp only [h.kind hv, h.standard?, h.specialMember? hv, h.mappingBase?, h.classOf, (h.seen _ hv).entries]
      · rw [hname]
      · rw [h.function]
      · rfl
      · rfl
      · rfl
      · rw [h.kindName hv]

theorem secure_shownWithin (hi : inner.IsSecure S) (left : Nat) (value : Value) :
    Secure S V (value.Within V) (shownWithin inner left value) Anything :=
  secure_shownWith (fun _ left value => secure_shownReference hi [] _ left value) V left value

theorem secure_shown (hi : inner.IsSecure S) (value : Value) :
    Secure S V (value.Within V) (shown inner value) Anything := by
  refine .get_bind (fun w => ?_) fun _ w w' h => by rw [h.depth]
  exact (secure_shownWithin hi w.depth value).of And.left

/-! ## Texts of values -/

theorem secure_textWith (hi : inner.IsSecure S) (value : Value) :
    Secure S V (value.Within V) (textWith inner value) Anything := by
  refine .get_bind (fun w => ?_) fun hv w w' h => ?_
  · split
    · exact .pure fun _ => trivial
    · exact secure_deeper fun left => .of (secure_shownWithin hi left _) And.left
    · rename_i id
      have hgiven {name : String} {member : Member} (hname : name ∈ consulted) (hdict : name ≠ "__dict__")
          (hmember : w.specialMember? (.object id) name = some member) :
          Secure S V ((Value.object id).Within V ∧ ∃ w', World.Alike S V w w')
            (givenText inner id name "__str__" member) Anything :=
        (secure_givenText hi id name _ member).of fun ⟨hid, _, h⟩ =>
          ⟨hid, h.within_specialMember? hmember, S.spares_of_mem id hname hdict⟩
      split
      · rename_i member hmember
        exact hgiven (by decide) (by decide) hmember
      · rename_i member _ hmember
        exact hgiven (by decide) (by decide) hmember
      · exact (secure_shown hi _).of And.left
    · exact (secure_shown hi _).of And.left
  · cases value with
    | object id => simp only [h.specialMember? hv]
    | mapping kind entries => cases kind <;> simp only [h.depth]
    | _ => rfl

theorem secure_formatWith (hi : inner.IsSecure S) (value : Value) :
    Secure S V (value.Within V) (formatWith inner value) Anything := by
  refine .get_bind (fun w => ?_) fun hv w w' h => by simp only [h.specialMember? hv]
  split
  · rename_i id member hmember
    refine .bind (secure_callSpecialMember hi (by decide) (by decide) hmember ?_) fun V' hV made => ?_
    · exact fun hv => ⟨hv, by simp [Value.Within]⟩
    · split
      · exact .pure fun _ => trivial
      · exact .refuse fun hpre w w' h => by rw [h.formalName hpre.2]
  · exact (secure_textWith hi _).of And.left

/-! ## Failures -/

theorem secure_pieceText (hi : inner.IsSecure S) (piece : TextPiece) :
    Secure S V (piece.Within V) (pieceText inner piece) Anything := by
  cases piece with
  | literal text => exact .pure fun _ => trivial
  | text value => exact secure_textWith hi value
  | shown value => exact secure_shown hi value

theorem secure_reasonText (hi : inner.IsSecure S) (reason : Value) :
    Secure S V (reason.Within V) (reasonText inner reason) Anything := by
  refine .bind (secure_truthWith hi reason) fun V' hV isTrue => ?_
  split
  · exact (secure_formatWith hi reason).of fun ⟨hreason, _⟩ => hreason.mono hV
  · exact .pure fun _ => trivial

theorem secure_denied (hi : inner.IsSecure S) (member path reason : Value) :
    Secure S V (member.Within V ∧ path.Within V ∧ reason.Within V) (denied inner member path reason)
      Anything := by
  refine .bind (.of (secure_formatWith hi member) And.left) fun V₁ hV₁ title => ?_
  refine .bind (.of (secure_formatWith hi path) fun hpre => hpre.1.2.1.mono hV₁) fun V₂ hV₂ path => ?_
  refine .bind (.of (secure_reasonText hi reason) ?_) fun _ _ _ => .pure fun _ => trivial
  exact fun hpre => hpre.1.1.2.2.mono (hV₁.trans hV₂)

/-- The pieces of a text that are put together are within a scope. -/
def PiecesWithin (V : Scope) (pieces : List TextPiece) : Prop :=
  ∀ piece ∈ pieces, piece.Within V

theorem piecesWithin_literal (text : String) : PiecesWithin V [.literal text] := by
  simp [PiecesWithin, TextPiece.Within]

theorem secure_ownPieces (hi : inner.IsSecure S) (own : StandardFailure) (arguments : List Value) :
    Secure S V (∀ a ∈ arguments, a.Within V) (ownPieces inner own arguments) PiecesWithin := by
  have hliteral {α : Type} {V' : Scope} {pre : Prop} {run : Run α} {text : α → String}
      (h : Secure S V' pre run Anything) :
      Secure S V' pre (do return [TextPiece.literal (text (← run))]) PiecesWithin :=
    h.bind fun _ _ _ => .pure fun _ => piecesWithin_literal _
  unfold ownPieces
  split
  · exact .pure fun ha => by simpa [PiecesWithin, TextPiece.Within] using ha _ (by simp)
  · rename_i message _ position _
    refine .bind (.of (secure_formatWith hi message) fun ha => ha _ (by simp)) fun V' hV text => ?_
    exact hliteral (.of (secure_formatWith hi position) fun hpre => (hpre.1 _ (by simp)).mono hV)
  · rename_i name _
    exact hliteral (.of (secure_formatWith hi name) fun ha => ha _ (by simp))
  · rename_i expected actual
    refine .bind (.of (secure_formatWith hi expected) fun ha => ha _ (by simp)) fun V' hV text => ?_
    exact hliteral (.of (secure_formatWith hi actual) fun hpre => (hpre.1 _ (by simp)).mono hV)
  · rename_i name path _
    refine .bind (.of (secure_formatWith hi name) fun ha => ha _ (by simp)) fun V' hV text => ?_
    exact hliteral (.of (secure_formatWith hi path) fun hpre => (hpre.1 _ (by simp)).mono hV)
  · rename_i qualifier owner path reason
    refine .bind (.of (secure_formatWith hi path) fun ha => ha _ (by simp)) fun V₁ hV₁ _ => ?_
    refine .bind (.of (secure_formatWith hi qualifier) fun hpre => (hpre.1 _ (by simp)).mono hV₁)
      fun V₂ hV₂ _ => ?_
    refine .bind (.of (secure_formatWith hi owner) fun hpre => (hpre.1.1 _ (by simp)).mono (hV₁.trans hV₂))
      fun V₃ hV₃ _ => ?_
    exact hliteral (.of (secure_reasonText hi reason) fun hpre =>
      (hpre.1.1.1 _ (by simp)).mono (hV₁.trans (hV₂.trans hV₃)))
  · rename_i accessor path cause
    refine .bind (.of (secure_formatWith hi accessor) fun ha => ha _ (by simp)) fun V₁ hV₁ _ => ?_
    refine .bind (.of (secure_formatWith hi path) fun hpre => (hpre.1 _ (by simp)).mono hV₁)
      fun V₂ hV₂ _ => ?_
    have hcause (ha : ∀ a ∈ [accessor, path, cause], a.Within V) : cause.Within V₂ :=
      (ha _ (by simp)).mono (hV₁.trans hV₂)
    refine .get_bind (fun w => ?_) fun hpre w w' h => by rw [h.kindName (hcause hpre.1.1)]
    exact hliteral (.of (secure_formatWith hi cause) fun hpre => hcause hpre.1.1.1)
  · rename_i member path reason
    exact hliteral (.of (secure_denied hi member path reason) fun ha =>
      ⟨ha _ (by simp), ha _ (by simp), ha _ (by simp)⟩)
  · exact .pure fun ha => by simpa [PiecesWithin, TextPiece.Within] using ha _ (by simp)
  · exact .pure fun _ => by simp [PiecesWithin]

theorem countOf_alike {w w' : World} (h : World.Alike S V w w') {value : Value} (hv : value.Within V) :
    Failure.countOf w' value = Failure.countOf w value := by
  unfold Failure.countOf Failure.items?
  split
  all_goals try rfl
  rw [h.entriesOf? hv]

theorem membersOf_alike {w w' : World} (h : World.Alike S V w w') (own : StandardFailure)
    {arguments : List Value} (ha : ∀ a ∈ arguments, a.Within V) :
    Failure.membersOf w' own arguments = Failure.membersOf w own arguments := by
  unfold Failure.membersOf
  split
  all_goals try rfl
  · rw [countOf_alike h (ha _ (by simp))]
  · rw [h.kindName (ha _ (by simp))]

theorem secure_ownFailure (hi : inner.IsSecure S) (kind : FailureClass) (own : StandardFailure)
    (arguments : List Value) :
    Secure S V (∀ a ∈ arguments, a.Within V) (ownFailure inner kind own arguments) Failure.Within := by
  unfold ownFailure
  split
  · exact .pure fun ha => ⟨ha _ (by simp), ha _ (by simp)⟩
  · refine .bind (secure_ownPieces hi own arguments) fun V₁ hV₁ pieces => ?_
    have hmade (V' : Scope) (given : List Value) : Secure S V'
        ((∀ a ∈ given, a.Within V') ∧ PiecesWithin V' pieces)
        (do return .made kind (kind.textOf pieces) (Failure.membersOf (← get) own given)) Failure.Within := by
      refine .get_bind (fun w => .pure fun ⟨⟨_, hpieces⟩, _⟩ => Failure.within_textOf hpieces)
        fun ⟨ha, _⟩ w w' h => ?_
      rw [membersOf_alike h own ha]
    have hargument (index : Nat) (ha : ∀ a ∈ arguments, a.Within V) :
        (arguments.getD index .null).Within V := by
      rw [List.getD_eq_getElem?_getD]
      exact Value.within_getD_null fun v hv => ha v (List.mem_of_getElem? hv)
    extract_lets finish
    split
    · rename_i index empty hempty
      refine .bind (.of (secure_orOther hi _ empty) fun ⟨ha, _⟩ =>
        ⟨(hargument index ha).mono hV₁, Failure.within_emptiable? hempty⟩) fun V₂ hV₂ given => ?_
      refine (hmade V₂ (arguments.set index given)).of fun ⟨⟨ha, hpieces⟩, hgiven⟩ => ⟨fun a hmem => ?_, ?_⟩
      · rcases List.mem_or_eq_of_mem_set hmem with hmem | rfl
        · exact (ha a hmem).mono (hV₁.trans hV₂)
        · exact hgiven
      · exact fun piece hpiece => (hpieces piece hpiece).mono hV₂
    · exact (hmade V₁ arguments).of fun ⟨ha, hpieces⟩ => ⟨fun a hmem => (ha a hmem).mono hV₁, hpieces⟩

theorem items?_alike {w w' : World} (h : World.Alike S V w w') {value : Value} (hv : value.Within V) :
    Failure.items? w' value = Failure.items? w value := by
  cases value with
  | object id => simp only [Failure.items?, h.entriesOf? hv]
  | _ => rfl

/-- The text of a failure is put together in the same way in both worlds. -/
theorem pieces_alike {w w' : World} (h : World.Alike S V w w') {failure : Failure} (hf : failure.Within V) :
    failure.pieces w' = failure.pieces w := by
  cases failure with
  | plain kind arguments =>
    have hsyntax : Failure.syntaxPieces w' arguments = Failure.syntaxPieces w arguments := by
      unfold Failure.syntaxPieces
      split
      · rename_i place
        rw [items?_alike h (hf place (by simp))]
      · rfl
    simp only [Failure.pieces, Failure.plainPieces, Failure.standardPieces, hsyntax]
  | _ => rfl

theorem argumentRefusal?_alike {w w' : World} (h : World.Alike S V w w') (owner : String) (number : Nat)
    {value : Value} (hv : value.Within V) (type : Failure.ArgumentType) :
    Failure.argumentRefusal? w' owner number value type =
      Failure.argumentRefusal? w owner number value type := by
  have hkind : Failure.argumentKind w' value = Failure.argumentKind w value := by
    cases value with
    | null => rfl
    | _ => simp only [Failure.argumentKind, h.formalName hv]
  unfold Failure.argumentRefusal?
  simp only [hkind, World.notIndex, h.label 200 hv]

theorem fixedRefusal?_alike {w w' : World} (h : World.Alike S V w w') (kind : FailureClass)
    {arguments : List Value} (ha : ∀ a ∈ arguments, a.Within V) (types : List Failure.ArgumentType) :
    Failure.fixedRefusal? w' kind arguments types = Failure.fixedRefusal? w kind arguments types := by
  unfold Failure.fixedRefusal?
  extract_lets taker owner
  split
  · rfl
  · rw [← List.head?_filterMap, ← List.head?_filterMap]
    refine congrArg List.head? (List.filterMap_congr fun entry hentry => ?_)
    have hmem : entry.1 ∈ arguments.zip types := List.fst_mem_of_mem_zipIdx hentry
    exact argumentRefusal?_alike h owner _ (ha _ (List.of_mem_zip hmem).1) _

theorem groupRefusal_alike {w w' : World} (h : World.Alike S V w w') {members : Value}
    (hv : members.Within V) : Failure.groupRefusal w' members = Failure.groupRefusal w members := by
  have hsequence : Failure.isSequence w' members = Failure.isSequence w members := by
    cases members with
    | object id => simp only [Failure.isSequence, h.mappingBase?, h.ownMember?, h.kind hv]
    | _ => rfl
  rw [Failure.groupRefusal, Failure.groupRefusal, hsequence, items?_alike h hv]

/-- A class refuses the same arguments in both worlds. -/
theorem refusal?_alike {w w' : World} (h : World.Alike S V w w') (kind : FailureClass)
    {arguments : List Value} (ha : ∀ a ∈ arguments, a.Within V) :
    Failure.refusal? w' kind arguments = Failure.refusal? w kind arguments := by
  unfold Failure.refusal?
  simp only [fixedRefusal?_alike h kind ha]
  split
  · split
    · rfl
    · have hsubject := ha _ (List.mem_cons_of_mem _ List.mem_cons_self)
      simp only [groupRefusal_alike h hsubject, h.label 100 hsubject]
    · rfl
  · split
    · have hplace := ha _ (List.mem_cons_of_mem _ List.mem_cons_self)
      simp only [Failure.placeRefusal?, items?_alike h hplace, h.label 200 hplace]
    · rename_i progress _
      have hprogress : Failure.progressRefusal? w' progress = Failure.progressRefusal? w progress := by
        cases progress with
        | real x =>
          have hreal : (Value.real x).Within V := trivial
          exact argumentRefusal?_alike h "" 3 hreal .index
        | _ => rfl
      rw [hprogress]
    · rfl

theorem secure_makeFailure (hi : inner.IsSecure S) (kind : FailureClass) (arguments : List Value) :
    Secure S V (∀ a ∈ arguments, a.Within V) (makeFailure inner kind arguments) Failure.Within := by
  unfold makeFailure
  split
  · rename_i own _
    have hnamed : ∀ argument ∈ (Failure.constructor? own).getD [], ∀ value ∈ argument.2, value.Within V := by
      cases hconstructor : Failure.constructor? own with
      | none => simp
      | some named => exact Failure.within_constructor? hconstructor
    split
    · rename_i refusal hrefusal
      exact .fail fun _ => Failure.within_of_fitted_eq_error hrefusal
    · rename_i fit hfit
      exact (secure_ownFailure hi kind own fit).of fun ha => Failure.within_fitted hnamed ha hfit
  · refine .get_bind (fun w => ?_) fun ha w w' h => by rw [refusal?_alike h kind ha]
    split
    · rename_i refusal hrefusal
      exact .fail fun _ => Failure.within_refusal? hrefusal
    · exact .pure fun ⟨ha, _⟩ => ha

end SqlTemplate.Run
