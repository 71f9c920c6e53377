import SqlTemplate.Proofs.Secrecy.Asking
import SqlTemplate.Resolve.Strategy
/-!
# Locating tells no secret

Members are found without running code, so a strategy may come across a secret. What it then looks at is whether the
secret is a routine, and no secret is one (`start_isRoutine_of_isInert`). The name of a secret is private, so that a
field of that name is refused, and the refusal names the kind of the object and not the value
(`start_fieldOf_of_isInert`). Every other member that a strategy finds is the same in two alike worlds.

So each of the strategies locates the same accessor in both, and using that does the same (`isSecure_of_mem_standard`).
-/

namespace SqlTemplate

namespace Run

variable {S : Secrets} {V : Scope} {pre : Prop}

theorem start_isRoutine_of_isInert {w : World} {v : Value} (hv : w.IsInert S v) :
    (Strategy.isRoutine (.value v)).start w = (.ok false, w) :=
  start_isRoutine_of_isDatum hv.isDatum

theorem secure_isRoutine (member : Member) :
    Secure S V (member.Within V) (Strategy.isRoutine member) Anything := by
  unfold Strategy.isRoutine
  split
  · rename_i value
    split
    · exact .pure fun _ => trivial
    · refine .bind (secure_askKind value 8) fun V₁ hV₁ _ => ?_
      refine .bind (.of (secure_onlyReads value) fun hpre => Value.Within.mono hpre.1 hV₁) fun V₂ hV₂ reads => ?_
      split
      · exact .pure fun _ => trivial
      · refine .bind (.of (secure_askKind value 1) fun hpre => ?_) fun _ _ _ => .pure fun _ => trivial
        exact Value.Within.mono hpre.1.1 (hV₁.trans hV₂)
  · exact .pure fun _ => trivial

end Run

/-! ## Strategies -/

/-- Using an accessor does the same in two alike worlds. -/
def Accessor.Within (S : Secrets) (V : Scope) (accessor : Accessor) : Prop :=
  ∀ V', V ≤ V' → Run.Agrees S V' accessor.invoke Value.Within

/-- An accessor, if one is found, may be used. -/
def FoundWithin (S : Secrets) (V : Scope) (found : Option Accessor) : Prop :=
  ∀ accessor ∈ found, accessor.Within S V

/-- An accessor, if one is found, extends every world when it is used. -/
def FoundKeeps (S : Secrets) (found : Option Accessor) : Prop :=
  ∀ accessor ∈ found, accessor.invoke.Keeps S

/-- What a strategy locates is secure, and so is locating it. -/
structure Strategy.IsSecure (S : Secrets) (strategy : Strategy) : Prop where
  gives (value : Value) (qualifier : String) : Run.Gives (FoundKeeps S) (strategy.locate value qualifier)
  locate (V : Scope) (value : Value) (qualifier : String) :
    Run.Secure S V (value.Within V) (strategy.locate value qualifier) (FoundWithin S)

namespace Strategy

open Run

variable {S : Secrets} {V : Scope} {pre : Prop}

theorem foundKeeps_none : FoundKeeps S none := nofun

theorem foundWithin_none : FoundWithin S V none := nofun

theorem foundKeeps_some {accessor : Accessor} (h : accessor.invoke.Keeps S) : FoundKeeps S (some accessor) := by
  intro found hfound
  cases hfound
  exact h

theorem foundWithin_some {accessor : Accessor} {pre : Scope → Prop}
    (h : ∀ V', Secure S V' (pre V') accessor.invoke Value.Within) (hpre : ∀ V', V ≤ V' → pre V') :
    FoundWithin S V (some accessor) := by
  intro found hfound V' hV
  cases hfound
  exact (h V').agrees (hpre V' hV)

/-! ### Accessor methods -/

section

variable {accept : String → Value → Option Signature → Option Accessor}
  (haccept : ∀ name method signature accessor, accept name method signature = some accessor →
    accessor.invoke = callValue method [])

include haccept

theorem gives_locateMethod (value : Value) (names : List String) :
    Gives (FoundKeeps S) (locateMethod accept value names) := by
  have hcall (method : Value) : (callValue method []).Keeps S :=
    (secure_callValue (V := default) method []).keeps
  induction names with
  | nil => exact .pure foundKeeps_none
  | cons name names ih =>
    refine .bind fun w => ?_
    split
    · exact ih
    · refine .bind fun isRoutine => ?_
      split
      · exact ih
      · refine .bind fun method => .bind fun signature => .bind fun w => ?_
        split
        · exact ih
        · split
          · rename_i accessor haccessor
            refine .pure (foundKeeps_some ?_)
            rw [haccept _ _ _ _ haccessor]
            exact hcall method
          · exact ih

theorem secure_locateMethod (value : Value) (names : List String)
    (hnames : ∀ name ∈ names, isPrivate name = false) :
    Secure S V (value.Within V) (locateMethod accept value names) (FoundWithin S) := by
  induction names generalizing V with
  | nil => exact .pure fun _ => foundWithin_none
  | cons name names ih =>
    rw [List.forall_mem_cons] at hnames
    have hspares : S.SparesValue value name := fun id _ => S.spares_of_not_private id hnames.1
    have hrest (V' : Scope) (hV : V ≤ V') :
        Secure S V' (value.Within V) (locateMethod accept value names) (FoundWithin S) :=
      (ih hnames.2).of fun hv => hv.mono hV
    refine .get_bind (fun w => ?_) fun hv w w' h => by rw [(h.member?_of_spares hv hspares).1]
    split
    · exact (hrest V le_rfl).of And.left
    · rename_i member hmember
      refine .bind (.of (secure_isRoutine member) fun ⟨hv, w', h⟩ => ?_) fun V₁ hV₁ isRoutine => ?_
      · exact (h.member?_of_spares hv hspares).2 member hmember
      · split
        · exact (hrest V₁ hV₁).of fun hpre => hpre.1.1
        · refine .bind (.of (secure_read_outermost value name) fun hpre => ?_) fun V₂ hV₂ method => ?_
          · exact ⟨hpre.1.1.mono hV₁, hspares⟩
          · have hV := hV₁.trans hV₂
            refine .bind (.of (secure_signatureOf method) And.right) fun V₃ hV₃ signature => ?_
            have hV' := hV.trans hV₃
            refine .get_bind (fun w => ?_) fun hpre w w' h => ?_
            · split
              · exact (hrest V₃ hV').of fun hpre => hpre.1.1.1.1.1
              · split
                · rename_i accessor haccessor
                  have hinvoke (V' : Scope) := secure_callValue (S := S) (V := V') method []
                  rw [← haccept _ _ _ _ haccessor] at hinvoke
                  refine .pure fun hpre => foundWithin_some hinvoke fun V₄ hV₄ => ?_
                  exact ⟨(hpre.1.1.2.mono hV₃).mono hV₄, nofun⟩
                · exact (hrest V₃ hV').of fun hpre => hpre.1.1.1.1.1
            · rw [h.kindName (hpre.1.1.1.1.mono hV')]

end

/-- The methods of a stem that is not private are not. -/
theorem isPrivate_candidates {stem : String} (hstem : stem ≠ "" ∧ isPrivate stem = false) (qualifier : String) :
    ∀ name ∈ candidates stem qualifier, isPrivate name = false := by
  obtain ⟨hne, hpublic⟩ := hstem
  have happend (more : String) : isPrivate (stem ++ more) = false := by
    rw [isPrivate, String.toList_append, List.head?_append_of_ne_nil _ (by simpa using hne)]
    exact hpublic
  simp only [candidates, List.forall_mem_cons]
  refine ⟨?_, happend _, nofun⟩
  rw [String.append_assoc]
  exact happend _

theorem isSecure_booleanAccessor : booleanAccessor.IsSecure S := by
  have haccept (name : String) (method : Value) (signature : Option Signature) (accessor : Accessor)
      (h : acceptBoolean name method signature = some accessor) : accessor.invoke = callValue method [] := by
    unfold acceptBoolean at h
    extract_lets hint at h
    repeat' split at h
    all_goals cases h
    all_goals rfl
  exact ⟨fun value qualifier => gives_locateMethod haccept value _,
    fun V value qualifier => secure_locateMethod haccept value _ (isPrivate_candidates (by decide) _)⟩

theorem isSecure_generalAccessor : generalAccessor.IsSecure S := by
  have haccept (name : String) (method : Value) (signature : Option Signature) (accessor : Accessor)
      (h : acceptAny name method signature = some accessor) : accessor.invoke = callValue method [] := by
    cases h
    rfl
  exact ⟨fun value qualifier => gives_locateMethod haccept value _,
    fun V value qualifier => secure_locateMethod haccept value _ (isPrivate_candidates (by decide) _)⟩

/-! ### Fields -/

/-- Locates the field of a value once the member under its name is found. -/
def fieldOf (w : World) (value : Value) (qualifier : String) : Run (Option Accessor) := do
  let name := w.kindName value ++ "." ++ qualifier
  match w.member? value qualifier with
  | none =>
    if isPrivate qualifier || (w.specialMember? value "__getattr__").isNone then return none
    else return some ⟨name, Run.read value qualifier, false, true⟩
  | some member =>
    if ← isRoutine member then return none
    else if isPrivate qualifier then
      Run.fail (.notAccessible (.text name) (.text "Attributes starting with '_' are not public."))
    else return some ⟨name, Run.read value qualifier, false, false⟩

theorem locateField_eq (value : Value) (qualifier : String) :
    locateField value qualifier = get >>= fun w => fieldOf w value qualifier :=
  rfl

theorem keeps_read (value : Value) (name : String) : (read value name).Keeps S :=
  (secure_read_outermost (V := default) value name).keeps

theorem gives_locateField (value : Value) (qualifier : String) :
    Gives (FoundKeeps S) (locateField value qualifier) := by
  have hread := keeps_read (S := S) value qualifier
  refine .bind fun w => ?_
  split
  · split
    · exact .pure foundKeeps_none
    · exact .pure (foundKeeps_some hread)
  · refine .bind fun isRoutine => ?_
    split
    · exact .pure foundKeeps_none
    · split
      · exact .fail
      · exact .pure (foundKeeps_some hread)

theorem foundWithin_read {value : Value} {qualifier : String} (hv : value.Within V)
    (hqualifier : isPrivate qualifier = false) (name : String) (dynamic : Bool) :
    FoundWithin S V (some ⟨name, Run.read value qualifier, false, dynamic⟩) :=
  foundWithin_some (fun _ => secure_read_outermost value qualifier) fun _ hV =>
    ⟨hv.mono hV, fun id _ => S.spares_of_not_private id hqualifier⟩

theorem secure_fieldOf (w : World) (value : Value) (qualifier : String) :
    Secure S V (value.Within V ∧ ∀ member ∈ w.member? value qualifier, member.Within V)
      (fieldOf w value qualifier) (FoundWithin S) := by
  unfold fieldOf
  extract_lets name
  split
  · split
    · exact .pure fun _ => foundWithin_none
    · rename_i hqualifier
      refine .pure fun ⟨hv, _⟩ => foundWithin_read hv ?_ _ _
      simp_all
  · rename_i member hmember
    rw [hmember]
    refine .bind (.of (secure_isRoutine member) fun ⟨_, h⟩ => h member rfl) fun V' hV isRoutine => ?_
    split
    · exact .pure fun _ => foundWithin_none
    · split
      · exact .fail fun _ => ⟨trivial, trivial⟩
      · rename_i hqualifier
        refine .pure fun ⟨⟨hv, _⟩, _⟩ => foundWithin_read (hv.mono hV) ?_ _ _
        simpa using hqualifier

/-- A secret is refused, without a look at it. -/
theorem start_fieldOf_of_isInert {w : World} {value v : Value} {qualifier : String} (hprivate : isPrivate qualifier = true)
    (hmember : w.member? value qualifier = some (.value v)) (hv : w.IsInert S v) :
    (fieldOf w value qualifier).start w = (.error (.notAccessible (.text (w.kindName value ++ "." ++ qualifier))
      (.text "Attributes starting with '_' are not public.")), w) := by
  simp only [fieldOf, hmember, start_bind, start_isRoutine_of_isInert hv, Bool.false_eq_true, if_false, hprivate,
    if_true]
  rfl

theorem secure_locateField (value : Value) (qualifier : String) :
    Secure S V (value.Within V) (locateField value qualifier) (FoundWithin S) := by
  rw [locateField_eq]
  refine ⟨fun w hw => (secure_fieldOf (V := default) w value qualifier).keeps w hw, fun hv w w' h hunread => ?_⟩
  have hbound (w : World) : (get >>= fun w => fieldOf w value qualifier).start w =
      (fieldOf w value qualifier).start w := rfl
  rw [hbound] at hunread
  rw [hbound, hbound]
  have hsame (hmember : w'.member? value qualifier = w.member? value qualifier ∧
      ∀ member ∈ w.member? value qualifier, member.Within V) :
      ∃ V', V ≤ V' ∧ ((fieldOf w' value qualifier).start w').1 = ((fieldOf w value qualifier).start w).1 ∧
        ResultWithin (FoundWithin S) V' ((fieldOf w value qualifier).start w).1 ∧
        World.Alike S V' ((fieldOf w value qualifier).start w).2 ((fieldOf w' value qualifier).start w').2 := by
    have hfield : fieldOf w' value qualifier = fieldOf w value qualifier := by
      unfold fieldOf
      rw [hmember.1, h.kindName hv, h.specialMember? hv]
    rw [hfield]
    exact (secure_fieldOf w value qualifier).agrees ⟨hv, hmember.2⟩ w w' h hunread
  cases value with
  | object id =>
    rcases h.objectMember?_cases hv qualifier with hmember | ⟨hsecret, v, v', hmember, hmember', hinert, hinert'⟩
    · exact hsame hmember
    · have hprivate := S.isPrivate_of_hides hsecret
      have hfound : w.member? (.object id) qualifier = some (.value v) := hmember
      have hfound' : w'.member? (.object id) qualifier = some (.value v') := hmember'
      rw [start_fieldOf_of_isInert hprivate hfound hinert, start_fieldOf_of_isInert hprivate hfound' hinert',
        h.kindName hv]
      exact ⟨V, le_rfl, rfl, ⟨trivial, trivial⟩, h⟩
  | _ => exact hsame (h.member?_of_spares hv fun id heq => by cases heq)

/-! ### Items -/

theorem secure_locateItem (strict : Bool) (value : Value) (qualifier : String) :
    Secure S V (value.Within V) (locateItem strict value qualifier) (FoundWithin S) := by
  refine .bind (secure_isMapping value) fun V₁ hV₁ isMapping => ?_
  split
  · exact .pure fun _ => foundWithin_none
  · extract_lets key
    have hkey (V : Scope) : key.Within V := trivial
    refine .get_bind (fun w => ?_) fun ⟨hv, _⟩ w w' h => by rw [h.kindName (hv.mono hV₁)]
    extract_lets name
    split
    · refine .bind (.of (secure_hasKey value key) fun hpre => ⟨hpre.1.1.mono hV₁, hkey _⟩) fun V₂ hV₂ isKey => ?_
      split
      · refine .pure fun hpre => foundWithin_some (fun _ => secure_item value key) fun V₃ hV₃ => ?_
        exact ⟨hpre.1.1.1.mono (hV₁.trans (hV₂.trans hV₃)), hkey _⟩
      · exact .pure fun _ => foundWithin_none
    · refine .pure fun hpre => foundWithin_some (fun _ => secure_valueOf value key) fun V₂ hV₂ => ?_
      exact ⟨hpre.1.1.mono (hV₁.trans hV₂), hkey _⟩

theorem gives_locateItem (strict : Bool) (value : Value) (qualifier : String) :
    Gives (FoundKeeps S) (locateItem strict value qualifier) := by
  have hitem (key : Value) : (item value key).Keeps S :=
    (secure_item (V := default) value key).keeps
  have hvalueOf (key : Value) : (valueOf value key).Keeps S :=
    (secure_valueOf (V := default) value key).keeps
  refine .bind fun isMapping => ?_
  split
  · exact .pure foundKeeps_none
  · refine .bind fun w => ?_
    split
    · refine .bind fun isKey => ?_
      split
      · exact .pure (foundKeeps_some (hitem _))
      · exact .pure foundKeeps_none
    · exact .pure (foundKeeps_some (hvalueOf _))

theorem isSecure_of_mem_standard {strict : Bool} {strategy : Strategy} (h : strategy ∈ standard strict) :
    strategy.IsSecure S := by
  simp only [standard, List.mem_cons, List.not_mem_nil, or_false] at h
  rcases h with rfl | rfl | rfl | rfl
  · exact isSecure_booleanAccessor
  · exact isSecure_generalAccessor
  · exact ⟨gives_locateField, fun _ => secure_locateField⟩
  · exact ⟨gives_locateItem strict, fun _ => secure_locateItem strict⟩

end Strategy

end SqlTemplate
