import SqlTemplate.Proofs.Named
import SqlTemplate.Object.Perform
import Mathlib.Order.Basic
/-!
# What values refer to

A value leads to objects, directly or by its parts. A `Scope` says which objects values may lead to, and `Value.Within`
that a value leads to no others. Whatever is put together from values within a scope is within it: the entries of a
mapping, the arguments of a call, the pieces of a failure's text.

A scope also knows of mappings that no value leads to: those that hold the attributes of an object for its own use.
-/

namespace SqlTemplate

/-- The objects that values may lead to, and the mappings that hold the attributes of an object apart from those. -/
structure Scope where
  seen : ObjectId → Prop
  /-- A mapping is held for an object: it is where the object's attributes are, or were. -/
  held : ObjectId → ObjectId → Prop

namespace Scope

/-- Nothing is seen. -/
instance : Inhabited Scope := ⟨⟨fun _ => False, fun _ _ => False⟩⟩

/-- A scope grows when objects are made and when they come to be seen. -/
instance : Preorder Scope where
  le V V' := (∀ id, V.seen id → V'.seen id) ∧ ∀ owner place, V.held owner place → V'.held owner place
  le_refl V := ⟨fun _ h => h, fun _ _ h => h⟩
  le_trans _ _ _ h h' := ⟨fun _ hid => h'.1 _ (h.1 _ hid), fun _ _ hp => h'.2 _ _ (h.2 _ _ hp)⟩

/-- The scope in which an object is seen besides. -/
def see (V : Scope) (new : ObjectId) : Scope :=
  { V with seen := fun id => V.seen id ∨ id = new }

/-- The scope in which a mapping is held for an object besides. -/
def hold (V : Scope) (owner place : ObjectId) : Scope :=
  { V with held := fun o p => V.held o p ∨ o = owner ∧ p = place }

theorem le_see (V : Scope) (new : ObjectId) : V ≤ V.see new :=
  ⟨fun _ h => .inl h, fun _ _ h => h⟩

theorem le_hold (V : Scope) (owner place : ObjectId) : V ≤ V.hold owner place :=
  ⟨fun _ h => h, fun _ _ h => .inl h⟩

end Scope

variable {V V' : Scope}

/-! ## Values -/

mutual

/-- All objects that a value leads to are seen. -/
def Value.Within (V : Scope) : Value → Prop
  | .object id => V.seen id
  | .list items => Value.AllWithin V items
  | .tuple items => Value.AllWithin V items
  | .mapping _ entries => Value.EntriesWithin V entries
  | .method receiver _ => Value.Within V receiver
  | .builtinMethod receiver _ => Value.Within V receiver
  | _ => True

/-- All items are within a scope. -/
def Value.AllWithin (V : Scope) : List Value → Prop
  | [] => True
  | item :: more => Value.Within V item ∧ Value.AllWithin V more

/-- All keys and values of entries are within a scope. -/
def Value.EntriesWithin (V : Scope) : List (Value × Value) → Prop
  | [] => True
  | (key, value) :: more =>
    Value.Within V key ∧ Value.Within V value ∧ Value.EntriesWithin V more

end

namespace Value

theorem allWithin_iff {items : List Value} : AllWithin V items ↔ ∀ v ∈ items, v.Within V := by
  induction items with
  | nil => simp [AllWithin]
  | cons item items ih => simp [AllWithin, ih]

theorem entriesWithin_iff {entries : List (Value × Value)} :
    EntriesWithin V entries ↔ ∀ entry ∈ entries, entry.1.Within V ∧ entry.2.Within V := by
  induction entries with
  | nil => simp [EntriesWithin]
  | cons entry entries ih => simp [EntriesWithin, ih, and_assoc]

theorem within_list {items : List Value} : (list items).Within V ↔ ∀ v ∈ items, v.Within V :=
  allWithin_iff

theorem within_tuple {items : List Value} : (tuple items).Within V ↔ ∀ v ∈ items, v.Within V :=
  allWithin_iff

theorem within_mapping {kind : MappingKind} {entries : List (Value × Value)} :
    (mapping kind entries).Within V ↔ ∀ entry ∈ entries, entry.1.Within V ∧ entry.2.Within V :=
  entriesWithin_iff

mutual

theorem within_of_le (h : V ≤ V') : ∀ value : Value, value.Within V → value.Within V'
  | .object _, hv => h.1 _ hv
  | .list items, hv => allWithin_of_le h items hv
  | .tuple items, hv => allWithin_of_le h items hv
  | .mapping _ entries, hv => entriesWithin_of_le h entries hv
  | .method receiver _, hv => within_of_le h receiver hv
  | .builtinMethod receiver _, hv => within_of_le h receiver hv
  | .null, _ | .bool _, _ | .int _, _ | .real _, _ | .text _, _ | .bytes _, _ | .type _, _
  | .function _, _ | .property _, _ | .place _ _, _ | .descriptor _, _ => trivial

theorem allWithin_of_le (h : V ≤ V') : ∀ items : List Value, AllWithin V items → AllWithin V' items
  | [], _ => trivial
  | item :: more, hv => ⟨within_of_le h item hv.1, allWithin_of_le h more hv.2⟩

theorem entriesWithin_of_le (h : V ≤ V') :
    ∀ entries : List (Value × Value), EntriesWithin V entries → EntriesWithin V' entries
  | [], _ => trivial
  | (key, value) :: more, hv =>
    ⟨within_of_le h key hv.1, within_of_le h value hv.2.1, entriesWithin_of_le h more hv.2.2⟩

end

/-- What is within a scope stays within it when it grows. -/
theorem Within.mono {value : Value} (hv : value.Within V) (h : V ≤ V') : value.Within V' :=
  within_of_le h value hv

theorem within_of_entry?_eq_some {key found : Value} {entries : List (Value × Value)}
    (h : ∀ entry ∈ entries, entry.1.Within V ∧ entry.2.Within V) (hfound : entry? key entries = some found) :
    found.Within V := by
  rw [ entry?, Option.map_eq_some_iff] at hfound
  obtain ⟨entry, hentry, rfl⟩ := hfound
  exact (h entry (List.mem_of_find?_eq_some hentry)).2

theorem within_put {key value : Value} {entries : List (Value × Value)}
    (h : ∀ entry ∈ entries, entry.1.Within V ∧ entry.2.Within V) (hkey : key.Within V)
    (hvalue : value.Within V) : ∀ entry ∈ put key value entries, entry.1.Within V ∧ entry.2.Within V := by
  induction entries with
  | nil => simpa [put] using ⟨hkey, hvalue⟩
  | cons first entries ih =>
    rw [List.forall_mem_cons] at h
    rw [put]
    split
    · exact List.forall_mem_cons.mpr ⟨⟨h.1.1, hvalue⟩, h.2⟩
    · exact List.forall_mem_cons.mpr ⟨h.1, ih h.2⟩

theorem within_getD_null {value? : Option Value} (h : ∀ v ∈ value?, v.Within V) :
    (value?.getD .null).Within V := by
  cases value? with
  | none => trivial
  | some value => exact h value rfl

end Value

/-! ## Functions -/

/-- The default of a parameter is within a scope. -/
def Parameter.Within (V : Scope) (p : Parameter) : Prop :=
  ∀ value ∈ p.default?, value.Within V

/-- All values that a step gives, sets or fails with are within a scope. -/
def Outcome.Within (V : Scope) : Outcome → Prop
  | .fail _ arguments => ∀ given ∈ arguments, ∀ value ∈ given, value.Within V
  | .give value => value.Within V
  | _ => True

/-- All values that a step gives, sets or fails with are within a scope. -/
def Step.Within (V : Scope) (step : Step) : Prop :=
  (∀ assignment ∈ step.assignments, assignment.2.Within V) ∧ step.outcome.Within V

/-- All values that a function has of itself are within a scope. -/
def Function.Within (V : Scope) (f : Function) : Prop :=
  (∀ p ∈ f.signature.parameters, p.Within V) ∧
    ∀ argument step, f.action.select argument = .perform step → step.Within V

/-- A member that is a value is within a scope. -/
def Member.Within (V : Scope) : Member → Prop
  | .value v => v.Within V
  | _ => True

theorem Member.Within.mono {member : Member} (hm : member.Within V) (h : V ≤ V') :
    member.Within V' := by
  cases member with
  | value v => exact Value.Within.mono hm h
  | _ => trivial

theorem Outcome.Within.mono {outcome : Outcome} (ho : outcome.Within V) (h : V ≤ V') :
    outcome.Within V' := by
  cases outcome with
  | fail kind arguments => exact fun given hgiven value hvalue => (ho given hgiven value hvalue).mono h
  | give value => exact Value.Within.mono ho h
  | _ => trivial

theorem Step.Within.mono {step : Step} (hs : step.Within V) (h : V ≤ V') : step.Within V' :=
  ⟨fun assignment hmem => (hs.1 assignment hmem).mono h, hs.2.mono h⟩

theorem Function.Within.mono {f : Function} (hf : f.Within V) (h : V ≤ V') : f.Within V' :=
  ⟨fun p hp value hvalue => (hf.1 p hp value hvalue).mono h,
    fun argument step hstep => (hf.2 argument step hstep).mono h⟩

namespace Signature

theorem within_value? {p : Parameter} (h : p.Within V) : ∀ value ∈ p.value?, value.Within V := by
  rcases p with ⟨name, kind, _ | value, hint⟩
  · cases kind <;> simp [Parameter.value?, Value.within_tuple, Value.within_mapping]
  · exact h

theorem within_fill {parameters : List Parameter} {arguments : List Value}
    (hp : ∀ p ∈ parameters, p.Within V) (ha : ∀ v ∈ arguments, v.Within V) :
    ∀ v ∈ fill parameters arguments, v.Within V := by
  induction parameters generalizing arguments with
  | nil => simp [fill]
  | cons p parameters ih =>
    rw [List.forall_mem_cons] at hp
    have hdefault := Value.within_getD_null (within_value? hp.1)
    unfold fill
    split
    · cases arguments with
      | nil => exact List.forall_mem_cons.mpr ⟨hdefault, ih hp.2 ha⟩
      | cons value others =>
        rw [List.forall_mem_cons] at ha
        exact List.forall_mem_cons.mpr ⟨ha.1, ih hp.2 ha.2⟩
    · split
      · exact List.forall_mem_cons.mpr ⟨Value.within_tuple.mpr ha, ih hp.2 (by simp)⟩
      · exact List.forall_mem_cons.mpr ⟨hdefault, ih hp.2 ha⟩

/-- What the parameters stand for in a call is within a scope if the arguments are. -/
theorem within_frame {s : Signature} {arguments frame : List Value}
    (hp : ∀ p ∈ s.parameters, p.Within V) (ha : ∀ v ∈ arguments, v.Within V)
    (h : s.frame arguments = .ok frame) : ∀ v ∈ frame, v.Within V := by
  rw [Signature.frame] at h
  split at h
  · cases h
  · split at h
    · cases h
    · split at h
      · cases h
      · cases h
        exact within_fill hp ha

end Signature

/-! ## Failures -/

/-- All values in a piece of a text are within a scope. -/
def TextPiece.Within (V : Scope) : TextPiece → Prop
  | .literal _ => True
  | .text value => value.Within V
  | .shown value => value.Within V

/-- All values that a failure is told by are within a scope. -/
def Failure.Within (V : Scope) : Failure → Prop
  | .plain _ arguments => ∀ v ∈ arguments, v.Within V
  | .made _ text _ => ∀ piece ∈ text, piece.Within V
  | .inaccessible _ member reason => member.Within V ∧ reason.Within V
  | .fault _ _ => True

theorem TextPiece.Within.mono {piece : TextPiece} (hp : piece.Within V) (h : V ≤ V') : piece.Within V' := by
  cases piece with
  | literal text => trivial
  | text value => exact Value.Within.mono hp h
  | shown value => exact Value.Within.mono hp h

namespace Failure

theorem Within.mono {failure : Failure} (hf : failure.Within V) (h : V ≤ V') : failure.Within V' := by
  cases failure with
  | plain kind arguments => exact fun v hv => (hf v hv).mono h
  | made kind text members => exact fun piece hpiece => (hf piece hpiece).mono h
  | inaccessible kind member reason => exact ⟨hf.1.mono h, hf.2.mono h⟩
  | fault what cause => trivial

@[simp] theorem within_ofMessage (kind : StandardFailure) (message : String) : (ofMessage kind message).Within V := by
  simp [ofMessage, Within, Value.Within]

@[simp] theorem within_typeError (message : String) : (typeError message).Within V :=
  within_ofMessage _ _

@[simp] theorem within_attributeError (message : String) : (attributeError message).Within V :=
  within_ofMessage _ _

theorem within_argumentRefusal? {w : World} {owner : String} {number : Nat} {value : Value}
    {type : ArgumentType} {failure : Failure} (h : argumentRefusal? w owner number value type = some failure) :
    failure.Within V := by
  cases type with
  | anything => cases h
  | text =>
    cases value <;> cases h <;> exact within_typeError _
  | index =>
    cases value with
    | bool b => cases h
    | int i =>
      rw [argumentRefusal?] at h
      split at h <;> cases h
      exact within_ofMessage _ _
    | _ => cases h; exact within_typeError _

theorem within_placeRefusal? {w : World} {place : Value} {failure : Failure}
    (h : placeRefusal? w place = some failure) : failure.Within V := by
  unfold placeRefusal? at h
  repeat' split at h
  all_goals cases h
  all_goals exact within_typeError _

theorem within_progressRefusal? {w : World} {progress : Value} {failure : Failure}
    (h : progressRefusal? w progress = some failure) : failure.Within V := by
  unfold progressRefusal? at h
  split at h
  · split at h <;> cases h
    exact within_ofMessage _ _
  · exact within_argumentRefusal? h
  · cases h

theorem within_groupRefusal (w : World) (members : Value) : (groupRefusal w members).Within V := by
  rw [groupRefusal]
  repeat' split
  · exact within_typeError _
  · exact within_ofMessage _ _
  · exact within_ofMessage _ _

theorem within_fixedRefusal? {w : World} {kind : FailureClass} {arguments : List Value}
    {types : List ArgumentType} {failure : Failure}
    (h : fixedRefusal? w kind arguments types = some failure) : failure.Within V := by
  unfold fixedRefusal? at h
  extract_lets taker owner at h
  split at h
  · cases h
    exact within_typeError _
  · obtain ⟨entry, -, hentry⟩ := List.exists_of_findSome?_eq_some h
    exact within_argumentRefusal? hentry

/-- A class refuses arguments by a message of its own. -/
theorem within_refusal? {w : World} {kind : FailureClass} {arguments : List Value} {failure : Failure}
    (h : refusal? w kind arguments = some failure) : failure.Within V := by
  unfold refusal? at h
  split at h
  · split at h
    · cases h
      rename_i hfixed
      exact within_fixedRefusal? hfixed
    · split at h
      · cases h
        exact within_groupRefusal _ _
      · split at h
        · split at h <;> cases h
          exact within_typeError _
        · cases h
    · cases h
  · split at h
    · split at h
      · exact within_placeRefusal? h
      · cases h
    · extract_lets actual at h
      split at h
      · exact within_progressRefusal? h
      · cases h
    · cases h

theorem within_systemPieces {kind : FailureClass} {number reason : Value} {more : List Value}
    (hnumber : number.Within V) (hreason : reason.Within V) (hmore : ∀ v ∈ more, v.Within V) :
    ∀ piece ∈ systemPieces kind number reason more, piece.Within V := by
  have hhead : ∀ piece ∈ [TextPiece.literal "[Errno ", .text number, .literal "] ", .text reason],
      piece.Within V := by
    simpa [TextPiece.Within] using ⟨hnumber, hreason⟩
  unfold systemPieces
  extract_lets head
  split
  · exact hhead
  · exact hhead
  · rename_i file others _
    rw [List.forall_mem_cons] at hmore
    have hfile : ∀ piece ∈ [TextPiece.literal ": ", .shown file], piece.Within V := by
      simpa [TextPiece.Within] using hmore.1
    split
    · exact hhead
    · extract_lets second
      have hsecond : ∀ piece ∈ second, piece.Within V := by
        intro piece hpiece
        simp only [second] at hpiece
        split at hpiece
        · cases hpiece
        · simp only [List.mem_cons, List.not_mem_nil, or_false] at hpiece
          rcases hpiece with rfl | rfl
          · trivial
          · exact hmore.2 _ (by simp)
        · cases hpiece
      simp only [List.forall_mem_append]
      exact ⟨⟨hhead, hfile⟩, hsecond⟩

theorem within_argumentPieces {arguments : List Value} (h : ∀ v ∈ arguments, v.Within V) :
    ∀ piece ∈ argumentPieces arguments, piece.Within V := by
  unfold argumentPieces
  split
  · simp
  · simpa [TextPiece.Within] using h
  · simpa [TextPiece.Within, Value.within_tuple] using h

theorem within_intersperse {separator : TextPiece} {text : List TextPiece} (hseparator : separator.Within V)
    (h : ∀ piece ∈ text, piece.Within V) : ∀ piece ∈ text.intersperse separator, piece.Within V := by
  induction text with
  | nil => simp
  | cons first more ih =>
    rw [List.forall_mem_cons] at h
    cases more with
    | nil => simpa using h.1
    | cons second others =>
      rw [List.intersperse_cons_cons, List.forall_mem_cons, List.forall_mem_cons]
      exact ⟨h.1, hseparator, ih h.2⟩

/-- A form adds texts only. -/
theorem within_formPieces (form : TextForm) {text : List TextPiece} (h : ∀ piece ∈ text, piece.Within V) :
    ∀ piece ∈ form.pieces text, piece.Within V := by
  have hseparator : (TextPiece.literal form.separator).Within V := trivial
  have hset := within_intersperse hseparator h
  simpa [TextForm.pieces, TextPiece.Within, or_imp, forall_and] using hset

theorem within_textOf {kind : FailureClass} {text : List TextPiece} (h : ∀ piece ∈ text, piece.Within V) :
    ∀ piece ∈ kind.textOf text, piece.Within V := by
  unfold FailureClass.textOf
  split
  · exact within_formPieces _ h
  · exact h

theorem within_kept {kind : FailureClass} {arguments : List Value} (h : ∀ v ∈ arguments, v.Within V) :
    ∀ v ∈ kept kind arguments, v.Within V := by
  unfold kept
  split
  · extract_lets isName
    split
    · exact h
    · simp only [List.forall_mem_cons] at h ⊢
      exact ⟨h.1, h.2.1, by simp⟩
    · exact h
  · exact h

theorem within_standardPieces {kind : FailureClass} {arguments : List Value} (w : World)
    (h : ∀ v ∈ arguments, v.Within V) : ∀ piece ∈ standardPieces w kind arguments, piece.Within V := by
  unfold standardPieces
  split
  · have hhead : (arguments.head?.getD .null).Within V :=
      Value.within_getD_null fun v hv => h v (List.mem_of_mem_head? hv)
    unfold syntaxPieces
    extract_lets message
    split <;> simpa [TextPiece.Within, message] using hhead
  · split
    · simp [TextPiece.Within]
    · split
      · split <;> simpa [TextPiece.Within] using h
      · split
        · simp only [List.forall_mem_cons] at h
          exact within_systemPieces h.1 h.2.1 h.2.2
        · exact within_argumentPieces h
      · simp

theorem within_plainPieces {kind : FailureClass} {arguments : List Value} (w : World)
    (h : ∀ v ∈ arguments, v.Within V) : ∀ piece ∈ plainPieces w kind arguments, piece.Within V := by
  unfold plainPieces
  split
  · refine within_formPieces _ fun piece hpiece => ?_
    obtain ⟨v, hv, rfl⟩ := List.mem_map.mp hpiece
    exact within_kept h v hv
  · exact within_standardPieces w h

/-- The text of a failure is put together from what the failure is told by. -/
theorem within_pieces {failure : Failure} (h : failure.Within V) (w : World) :
    ∀ piece ∈ failure.pieces w, piece.Within V := by
  cases failure with
  | plain kind arguments => exact within_plainPieces w h
  | made kind text members => exact h
  | inaccessible kind member reason =>
    exact within_textOf (by simpa [TextPiece.Within] using h.2)
  | fault what cause => simp [pieces, TextPiece.Within]

/-- What an argument of one of the library's own classes is if it is left out leads to no object. -/
theorem within_constructor? {own : StandardFailure} {named : List (String × Option Value)}
    (h : constructor? own = some named) :
    ∀ argument ∈ named, ∀ value ∈ argument.2, value.Within V := by
  unfold constructor? at h
  split at h <;> cases h <;> simp [Value.Within]

theorem within_fitted {own : StandardFailure} {named : List (String × Option Value)}
    {arguments fit : List Value} (hnamed : ∀ argument ∈ named, ∀ value ∈ argument.2, value.Within V)
    (ha : ∀ v ∈ arguments, v.Within V) (h : fitted own named arguments = .ok fit) :
    ∀ v ∈ fit, v.Within V := by
  unfold fitted at h
  extract_lets self parameters at h
  split at h
  · rename_i frame hframe
    cases h
    have hparameters : ∀ p ∈ self :: parameters, p.Within V := by
      rw [List.forall_mem_cons]
      refine ⟨by simp [self, Parameter.plain, Parameter.Within], ?_⟩
      intro p hp
      obtain ⟨argument, hmem, rfl⟩ := List.mem_map.mp hp
      exact hnamed argument hmem
    have hgiven : ∀ v ∈ Value.null :: arguments, v.Within V :=
      List.forall_mem_cons.mpr ⟨trivial, ha⟩
    exact fun v hv => Signature.within_frame hparameters hgiven hframe v (List.mem_of_mem_tail hv)
  · cases h

theorem within_of_fitted_eq_error {own : StandardFailure} {named : List (String × Option Value)}
    {arguments : List Value} {failure : Failure} (h : fitted own named arguments = .error failure) :
    failure.Within V := by
  unfold fitted at h
  extract_lets self parameters at h
  split at h <;> cases h
  exact within_typeError _

theorem within_emptiable? {own : StandardFailure} {index : Nat} {empty : Value}
    (h : emptiable? own = some (index, empty)) : empty.Within V := by
  unfold emptiable? at h
  split at h <;> cases h <;> simp [Value.within_list, Value.within_mapping, detailsOf]

end Failure

end SqlTemplate
