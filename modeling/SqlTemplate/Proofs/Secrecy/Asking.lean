import SqlTemplate.Proofs.Secrecy.Running
import SqlTemplate.Object.Inspect
import SqlTemplate.Object.Mapping
/-!
# Asking values tells no secret

Values are asked for what they are: whether they equal others, what kind they say they are of, how they are called,
whether they are mappings and what these have under a key. All of this reads attributes under names that are looked up
in every object (`consulted`), and none of these is secret.
-/

namespace SqlTemplate.Run

variable {S : Secrets} {V : Scope} {pre : Prop}

/-- A value is asked for an attribute that every object is asked for. -/
theorem secure_attribute?_of_mem (value : Value) {name : String} (hname : name ∈ consulted)
    (hdict : name ≠ "__dict__") :
    Secure S V (value.Within V) (attribute? value name) OptionWithin :=
  (secure_attribute? value name).of fun hv => ⟨hv, fun id _ => S.spares_of_mem id hname hdict⟩

/-! ## Hashes -/

theorem secure_hashOfObject (id : ObjectId) : Secure S V (V.seen id) (hashOfObject id) Anything := by
  refine .get_bind (fun w => ?_) fun hid w w' h => ?_
  · extract_lets value
    split
    · rename_i member hmember
      refine .bind (.of (secure_readSpecial id "__hash__" member) ?_) fun V' hV method => ?_
      · rintro ⟨hid, w', h⟩
        exact ⟨hid, h.within_specialMember? hmember, S.spares_of_mem id (by decide) (by decide)⟩
      · split
        · exact .fail fun _ => Failure.within_typeError _
        · refine .bind (.of (secure_callValue _ []) fun hpre => ⟨hpre.2, List.forall_mem_nil _⟩) fun _ _ made => ?_
          split
          · exact .pure fun _ => trivial
          · exact .pure fun _ => trivial
          · exact .fail fun _ => Failure.within_typeError _
    · split
      · exact .fail fun _ => Failure.within_typeError _
      · exact .fail fun _ => Failure.within_typeError _
      · exact .pure fun _ => trivial
  · have hobject : (Value.object id).Within V := hid
    simp only [h.specialMember? hobject, World.unhashable, h.label 200 hobject, h.mappingBase?, h.kind hid]

mutual

theorem secure_hashOf : ∀ V value, Secure S V (Value.Within V value) (hashOf value) Anything
  | V, .tuple items => by
    unfold hashOf
    exact .bind (secure_hashOfItems V items) fun _ _ _ => .pure fun _ => trivial
  | V, .list items => by
    unfold hashOf
    exact .refuse fun hv w w' h => by rw [h.label 200 hv]
  | V, .mapping kind entries => by
    unfold hashOf
    exact .refuse fun hv w w' h => by rw [h.label 200 hv]
  | V, .object id => by
    unfold hashOf
    exact secure_hashOfObject id
  | V, .null | V, .bool _ | V, .int _ | V, .real _ | V, .text _ | V, .bytes _ | V, .type _
  | V, .function _ | V, .method _ _ | V, .builtinMethod _ _ | V, .property _ | V, .place _ _
  | V, .descriptor _ => by
    unfold hashOf
    exact .pure fun _ => trivial

theorem secure_hashOfItems : ∀ V items, Secure S V (Value.AllWithin V items) (hashOfItems items) Anything
  | V, [] => .pure fun _ => trivial
  | V, item :: more => by
    unfold hashOfItems
    refine .bind (.of (secure_hashOf V item) And.left) fun V' hV hash => ?_
    refine .bind (.of (secure_hashOfItems V' more) fun hpre => ?_) fun _ _ _ => .pure fun _ => trivial
    exact Value.allWithin_of_le hV more hpre.1.2

end

/-! ## Equality -/

theorem secure_saysEqual? (id : ObjectId) (other : Value) :
    Secure S V (V.seen id ∧ other.Within V) (saysEqual? id other) Anything := by
  refine .get_bind (fun w => ?_) fun ⟨hid, _⟩ w w' h => ?_
  · split
    · exact .pure fun _ => trivial
    · rename_i member hmember
      refine .bind (.of (secure_callSpecial id "__eq__" member [other]) ?_) fun V' hV made => ?_
      · exact fun ⟨⟨hid, hother⟩, w', h⟩ => ⟨hid, h.within_specialMember? hmember,
          S.spares_of_mem id (by decide) (by decide), List.forall_mem_singleton.mpr hother⟩
      · exact .bind (.of (secure_truth made) And.right) fun _ _ _ => .pure fun _ => trivial
  · rw [h.specialMember? (v := .object id) hid]

/-- An object that does not say whether it equals another value does not equal it. -/
theorem secure_saysEqual (id : ObjectId) (other : Value) :
    Secure S V (V.seen id ∧ other.Within V) (do return (← saysEqual? id other).getD false) Anything :=
  .bind (secure_saysEqual? id other) fun _ _ _ => .pure fun _ => trivial

/-- Of two objects the second one is asked if the first one does not say whether they are equal. -/
theorem secure_saysEqualInTurn (first second : ObjectId) :
    Secure S V (V.seen first ∧ V.seen second) (do
      match ← saysEqual? first (.object second) with
      | some answer => return answer
      | none => return (← saysEqual? second (.object first)).getD false) Anything := by
  refine .bind (secure_saysEqual? first (.object second)) fun V' hV answer => ?_
  split
  · exact .pure fun _ => trivial
  · exact (secure_saysEqual second (.object first)).of fun hpre => ⟨hV.1 _ hpre.1.2, hV.1 _ hpre.1.1⟩

theorem secure_objectEqual (id : ObjectId) (other : Value) :
    Secure S V (V.seen id ∧ other.Within V) (objectEqual id other) Anything := by
  unfold objectEqual
  split
  · rename_i otherId
    split
    · exact .pure fun _ => trivial
    · refine .get_bind (fun w => ?_) fun hpre w w' h => ?_
      · dsimp only
        split
        · exact (secure_saysEqualInTurn otherId id).of fun hpre => ⟨hpre.1.2, hpre.1.1⟩
        · exact (secure_saysEqualInTurn id otherId).of And.left
      · have hrefined : isRefined w' otherId id = isRefined w otherId id := by
          have hotherKind : (w'.object otherId).kind = (w.object otherId).kind := h.kind hpre.2
          rw [isRefined, isRefined, h.classOf, h.kind hpre.1, hotherKind]
        rw [hrefined]
  · exact secure_saysEqual id other

mutual

theorem secure_equal :
    ∀ V value other, Secure S V (Value.Within V value ∧ Value.Within V other) (equal value other) Anything
  | V, .tuple items, other => by
    cases other with
    | tuple others =>
      unfold equal
      exact secure_equalItems V items others
    | object id =>
      unfold equal
      exact (secure_objectEqual id _).of And.symm
    | _ => exact .pure fun _ => trivial
  | V, .object id, other => by
    unfold equal
    exact secure_objectEqual id other
  | V, .null, other | V, .bool _, other | V, .int _, other | V, .real _, other | V, .text _, other
  | V, .bytes _, other | V, .list _, other | V, .mapping _ _, other | V, .type _, other | V, .function _, other
  | V, .method _ _, other | V, .builtinMethod _ _, other | V, .property _, other | V, .place _ _, other
  | V, .descriptor _, other => by
    cases other with
    | object id =>
      unfold equal
      exact (secure_objectEqual id _).of And.symm
    | _ => exact .pure fun _ => trivial

theorem secure_equalItems : ∀ V items others,
    Secure S V (Value.AllWithin V items ∧ Value.AllWithin V others) (equalItems items others) Anything
  | V, [], [] => .pure fun _ => trivial
  | V, item :: more, other :: others => by
    unfold equalItems
    refine .bind (.of (secure_equal V item other) fun ⟨hitems, hothers⟩ => ⟨hitems.1, hothers.1⟩)
      fun V' hV answer => ?_
    split
    · refine (secure_equalItems V' more others).of fun ⟨⟨hitems, hothers⟩, _⟩ => ⟨?_, ?_⟩
      · exact Value.allWithin_of_le hV more hitems.2
      · exact Value.allWithin_of_le hV others hothers.2
    · exact .pure fun _ => trivial
  | V, [], _ :: _ => .pure fun _ => trivial
  | V, _ :: _, [] => .pure fun _ => trivial

end

/-! ## Kinds -/

/-- An object says what class it is of. -/
theorem secure_read_class (value : Value) : Secure S V (value.Within V) (read value "__class__") Value.Within :=
  (secure_read_outermost value "__class__").of fun hv => ⟨hv, fun id _ => S.spares_of_mem id (by decide) (by decide)⟩

theorem secure_askKind (value : Value) (times : Nat) :
    Secure S V (value.Within V) (askKind value times) Anything := by
  induction times generalizing V with
  | zero => exact .pure fun _ => trivial
  | succ times ih =>
    unfold askKind
    split
    · refine .bind (.forgive (secure_read_class _).discard fun _ _ _ => trivial) fun V' hV _ => ?_
      exact ih.of fun ⟨hv, _⟩ => hv.mono hV
    · exact .pure fun _ => trivial

/-! ## Signatures -/

theorem secure_noSignature {α : Type} {post : Scope → α → Prop} : Secure S V pre noSignature post :=
  .fail fun _ => Failure.within_ofMessage .valueError _

theorem secure_complain {α : Type} (value : Value) :
    Secure S V (value.Within V) (complain value : Run α) Anything :=
  .bind (secure_shownOf value) fun _ _ _ => .fail fun _ => Failure.within_typeError _

theorem secure_afterReceiver (signature : Signature) :
    Secure S V pre (afterReceiver signature) Anything := by
  unfold afterReceiver
  split
  · exact .pure fun _ => trivial
  · exact secure_noSignature

theorem secure_unwrapped (first : Value) (seen : List ObjectId) (depth : Nat) (value : Value) :
    Secure S V (first.Within V ∧ value.Within V) (unwrapped first seen depth value) Value.Within := by
  induction depth generalizing V seen value with
  | zero => exact secure_nestedTooDeep
  | succ depth ih =>
    unfold unwrapped
    split
    · rename_i id
      refine .bind (.of (secure_askKind _ 1) And.right) fun V₁ hV₁ _ => ?_
      refine .bind (.of (secure_attribute?_of_mem _ (by decide) (by decide)) fun hpre => hpre.1.2.mono hV₁)
        fun V₂ hV₂ wrapped => ?_
      have hV := hV₁.trans hV₂
      split
      · exact .pure fun hpre => hpre.1.1.2.mono hV
      · refine .bind (.of (secure_attribute?_of_mem _ (by decide) (by decide)) fun hpre => hpre.1.1.2.mono hV)
          fun V₃ hV₃ stated => ?_
        split
        · exact .pure fun hpre => hpre.1.1.1.2.mono (hV.trans hV₃)
        · refine .bind (.of (secure_askKind _ 1) fun hpre => hpre.1.1.1.2.mono (hV.trans hV₃))
            fun V₄ hV₄ _ => ?_
          have hV' := hV.trans (hV₃.trans hV₄)
          refine .bind (.of (secure_read_outermost _ "__wrapped__") fun hpre => ⟨hpre.1.1.1.1.2.mono hV', ?_⟩)
            fun V₅ hV₅ next => ?_
          · exact fun id _ => S.spares_of_mem id (by decide) (by decide)
          · split
            · split
              · refine .bind (.of (secure_shownOf first) fun hpre => ?_) fun _ _ _ => secure_noSignature
                exact hpre.1.1.1.1.1.1.mono (hV'.trans hV₅)
              · exact (ih _ _).of fun hpre => ⟨hpre.1.1.1.1.1.1.mono (hV'.trans hV₅), hpre.2⟩
            · exact .pure And.right
    · exact .pure And.right

theorem secure_askFunction (value : Value) : Secure S V (value.Within V) (askFunction value) Anything := by
  have hnames : ∀ name ∈ ["__defaults__", "__kwdefaults__", "__annotations__"],
      name ∈ consulted ∧ name ≠ "__dict__" := by decide
  refine .bind (secure_askKind value 2) fun V₁ hV₁ _ => ?_
  refine .bind (.of (secure_attribute?_of_mem value (by decide) (by decide)) fun hpre => hpre.1.mono hV₁)
    fun V₂ hV₂ _ => ?_
  have hV := hV₁.trans hV₂
  refine .bind (.of (secure_attribute?_of_mem value (by decide) (by decide)) fun hpre => hpre.1.1.mono hV)
    fun V₃ hV₃ code => ?_
  have hV' := hV.trans hV₃
  refine .bind (.forIn fun V₄ hV₄ name hname => ?_) fun V₄ hV₄ _ => ?_
  · have hasked := secure_attribute?_of_mem (S := S) (V := V₄) value (hnames name hname).1 (hnames name hname).2
    refine .of (hasked.bind fun _ _ _ => .pure fun _ => trivial) fun hpre => ?_
    exact hpre.1.1.1.mono (hV'.trans hV₄)
  · exact (secure_askKind _ 1).of fun hpre => (Value.within_getD_null hpre.1.2).mono hV₄

/-- The class of an object is read as a value of its own. -/
theorem secure_onlyReads (value : Value) : Secure S V (value.Within V) (onlyReads value) Anything := by
  unfold onlyReads
  split
  · rename_i id
    refine .get_bind (fun w => ?_) fun hid w w' h => by rw [h.kind hid]
    have hasked (V' : Scope) (name : String) := secure_attribute? (S := S) (V := V') (.type (w.object id).kind) name
    have hkind (V' : Scope) (name : String) : (Value.type (w.object id).kind).Within V' ∧
        S.SparesValue (.type (w.object id).kind) name := ⟨trivial, fun id heq => by cases heq⟩
    refine .bind (.of (hasked V "__get__") fun _ => hkind V _) fun V' hV getter => ?_
    split
    · exact .pure fun _ => trivial
    · exact .bind (.of (hasked V' "__set__") fun _ => hkind V' _) fun _ _ _ => .pure fun _ => trivial
  · exact .pure fun _ => trivial

theorem secure_isBuiltin (value : Value) : Secure S V (value.Within V) (isBuiltin value) Anything := by
  refine .bind (secure_askKind value 4) fun V₁ hV₁ _ => ?_
  refine .bind (.of (secure_onlyReads value) fun hpre => hpre.1.mono hV₁) fun V₂ hV₂ reads => ?_
  have hV := hV₁.trans hV₂
  split
  · exact .pure fun _ => trivial
  · refine .bind (.of (secure_askKind value 4) fun hpre => hpre.1.1.mono hV) fun V₃ hV₃ _ => ?_
    have hV' := hV.trans hV₃
    refine .bind (.of (secure_equal V₃ value _) fun hpre => ⟨hpre.1.1.1.mono hV', trivial⟩) fun V₄ hV₄ _ => ?_
    split
    · exact .pure fun _ => trivial
    · exact (secure_equal V₄ value _).of fun hpre => ⟨hpre.1.1.1.1.mono (hV'.trans hV₄), trivial⟩

theorem secure_callMethod (id : ObjectId) (member : Member) :
    Secure S V (V.seen id ∧ member.Within V) (callMethod id member) Value.Within := by
  have hread (V' : Scope) : Secure S V' (V'.seen id ∧ member.Within V') (readSpecial id "__call__" member)
      Value.Within :=
    (secure_readSpecial id "__call__" member).of fun ⟨hid, hmember⟩ =>
      ⟨hid, hmember, S.spares_of_mem id (by decide) (by decide)⟩
  unfold callMethod
  split
  · rename_i standing
    refine .bind (.of (secure_askKind standing 1) And.right) fun V' hV _ => (hread V').of ?_
    exact fun ⟨⟨hid, hmember⟩, _⟩ => ⟨hV.1 id hid, hmember.mono hV⟩
  · exact hread V

theorem secure_rejectStated {α : Type} (stated : Value) :
    Secure S V (stated.Within V) (rejectStated stated : Run α) Anything := by
  unfold rejectStated
  split
  · exact secure_noSignature
  · exact secure_noSignature
  · refine .bind (.of (secure_read_outermost _ "split") fun hv => ⟨hv, ?_⟩) fun _ _ _ => secure_noSignature
    exact fun id _ => S.spares_of_not_private id rfl

/-- What a value states to be a signature of its own is none, and only null passes for that. -/
theorem secure_stated {stated : Option Value} (next : Unit → Run Signature)
    (hnext : ∀ V', V ≤ V' → ∀ r, Secure S V' pre (next r) Anything) :
    Secure S V (pre ∧ OptionWithin V stated)
      (match stated with
      | some .null => next ()
      | some other => do
        let r ← complain other
        next r
      | none => next ()) Anything := by
  split
  · exact (hnext V le_rfl ()).of And.left
  · refine .bind (.of (secure_complain _) fun hpre => hpre.2 _ rfl) fun V' hV r => ?_
    exact (hnext V' hV r).of fun hpre => hpre.1.1
  · exact (hnext V le_rfl ()).of And.left

/-- A member of a class other than null is within the scope. -/
theorem within_member?_of_ne_null {w w' : World} (h : World.Alike S V w w') {k : ClassId} {name name' : String}
    {member : Member}
    (hmember : (match (w.classOf k).member? name' with
      | some (.value .null) => none
      | member => member.map fun member => (name', member)) = some (name, member)) : member.Within V := by
  split at hmember
  · cases hmember
  · obtain ⟨found, hfound, heq⟩ := Option.map_eq_some_iff.mp hmember
    cases heq
    exact h.within_member? hfound

/-- What prepares the objects of a class is within the scope. -/
theorem within_preparing? {w w' : World} (h : World.Alike S V w w') {c : ClassId} {name : String}
    {member : Member} (hmember : preparing? w c = some (name, member)) : member.Within V := by
  obtain ⟨k, -, hk⟩ := List.exists_of_findSome?_eq_some hmember
  dsimp only at hk
  split at hk
  · rename_i found hfound
    cases hk
    exact within_member?_of_ne_null h hfound
  · exact within_member?_of_ne_null h hk

theorem preparing?_alike {w w' : World} (h : World.Alike S V w w') : preparing? w' = preparing? w :=
  World.eq_of_classes preparing? (fun _ => rfl) h.classes

section

variable {depth : Nat}

theorem secure_inspectClass
    (hinspect : ∀ V value, Secure S V (value.Within V) (inspect depth value) Anything) (c : ClassId) :
    Secure S V pre (inspect.inspectClass depth c) Anything := by
  rw [inspect.inspectClass]
  refine .get_bind (fun w => ?_) fun _ w w' h => ?_
  · refine .bind (.of (secure_attribute?_of_mem (.type c) (by decide) (by decide)) fun _ => trivial)
      fun V₁ hV₁ stated => ?_
    extract_lets next
    refine secure_stated next fun V₂ hV₂ _ => ?_
    have hV := hV₁.trans hV₂
    simp only [next]
    split
    · exact secure_afterReceiver _
    · exact secure_afterReceiver _
    · exact secure_afterReceiver _
    · exact .pure fun _ => trivial
    · exact secure_afterReceiver _
    · rename_i value _ _ hvalue
      refine (hinspect V₂ value).of ?_
      rintro ⟨-, w', h⟩
      exact Value.Within.mono (within_preparing? h hvalue) hV
    · exact secure_noSignature
    · split
      · exact secure_noSignature
      · exact .pure fun _ => trivial
  · simp only [preparing?_alike h, h.function, h.mappingBase?]

/-- An object that counts as built in states its signature as a text, which is none. -/
theorem secure_inspectBuiltin (id : ObjectId) :
    Secure S V (V.seen id) (do
      let _ ← isBuiltin (.object id)
      match ← attribute? (.object id) "__text_signature__" with
      | some stated => if ← truth stated then rejectStated stated
      | none => pure ()
      let _ ← shownOf (.object id)
      noSignature : Run Signature) Anything := by
  refine .bind (secure_isBuiltin (.object id)) fun V₁ hV₁ _ => ?_
  refine .bind (.of (secure_attribute?_of_mem _ (by decide) (by decide)) fun hpre => hV₁.1 id hpre.1)
    fun V₂ hV₂ stated => ?_
  have hrest (V' : Scope) (hV : V ≤ V') : Secure S V' (V.seen id) (do
      let _ ← shownOf (.object id)
      noSignature : Run Signature) Anything :=
    .bind (.of (secure_shownOf _) fun hid => hV.1 id hid) fun _ _ _ => secure_noSignature
  have hV := hV₁.trans hV₂
  extract_lets rest
  split
  · rename_i stated
    refine .bind (.of (secure_truth stated) fun hpre => hpre.2 _ rfl) fun V₃ hV₃ isTrue => ?_
    split
    · refine .bind (.of (secure_rejectStated stated) fun hpre => ?_) fun V₄ hV₄ _ => ?_
      · exact (hpre.1.2 _ rfl).mono hV₃
      · exact (hrest V₄ (hV.trans (hV₃.trans hV₄))).of fun hpre => hpre.1.1.1.1
    · exact (hrest V₃ (hV.trans hV₃)).of fun hpre => hpre.1.1.1
  · exact (hrest V₂ hV).of fun hpre => hpre.1.1

/-- What an object is asked after a signature of its own: whether it is built in, and then its class. -/
theorem secure_inspectUnstated
    (hinspect : ∀ V value, Secure S V (value.Within V) (inspect depth value) Anything) (id : ObjectId) :
    Secure S V (V.seen id) (do
      askFunction (.object id)
      if ← isBuiltin (.object id) then
        let _ ← isBuiltin (.object id)
        match ← attribute? (.object id) "__text_signature__" with
        | some stated => if ← truth stated then rejectStated stated
        | none => pure ()
        let _ ← shownOf (.object id)
        noSignature
      else
        askKind (.object id) 2
        match (← get).specialMember? (.object id) "__call__" with
        | some member => inspect depth (← callMethod id member)
        | none => complain (.object id)) Anything := by
  refine .bind (secure_askFunction (.object id)) fun V₁ hV₁ _ => ?_
  refine .bind (.of (secure_isBuiltin _) fun hpre => hV₁.1 id hpre.1) fun V₂ hV₂ isBuiltin => ?_
  have hV := hV₁.trans hV₂
  split
  · exact (secure_inspectBuiltin id).of fun hpre => hV.1 id hpre.1.1
  · refine .bind (.of (secure_askKind _ 2) fun hpre => hV.1 id hpre.1.1) fun V₃ hV₃ _ => ?_
    have hseen (hpre : ((V.seen id ∧ Anything V₁ ()) ∧ Anything V₂ isBuiltin) ∧ Anything V₃ ()) :
        V₃.seen id := (hV.trans hV₃).1 id hpre.1.1.1
    refine .get_bind (fun w => ?_) fun hpre w w' h => by rw [h.specialMember? (v := .object id) (hseen hpre)]
    split
    · rename_i member hmember
      refine .bind (.of (secure_callMethod id member) ?_) fun V₄ hV₄ method => ?_
      · rintro ⟨hpre, w', h⟩
        exact ⟨hseen hpre, h.within_specialMember? hmember⟩
      · exact (hinspect V₄ method).of And.right
    · exact (secure_complain _).of fun hpre => hseen hpre.1

theorem secure_inspectObject
    (hinspect : ∀ V value, Secure S V (value.Within V) (inspect depth value) Anything) (id : ObjectId) :
    Secure S V (V.seen id) (inspect.inspectObject depth id) Anything := by
  rw [inspect.inspectObject]
  refine .bind (.of (secure_attribute?_of_mem (.object id) (by decide) (by decide)) fun hid => hid)
    fun V₁ hV₁ stated => ?_
  extract_lets last rest next
  refine secure_stated next fun V₂ hV₂ _ => ?_
  have hV := hV₁.trans hV₂
  refine .bind (.of (secure_attribute?_of_mem (.object id) (by decide) (by decide)) fun hid => hV.1 id hid)
    fun V₃ hV₃ other => ?_
  have hV' := hV.trans hV₃
  split
  · rename_i other
    refine .bind (.of (secure_askKind other 1) fun hpre => hpre.2 _ rfl) fun V₄ hV₄ _ => ?_
    exact (secure_inspectUnstated hinspect id).of fun hpre => (hV'.trans hV₄).1 id hpre.1.1
  · exact (secure_inspectUnstated hinspect id).of fun hpre => hV'.1 id hpre.1

end

theorem secure_inspect (depth : Nat) (value : Value) :
    Secure S V (value.Within V) (inspect depth value) Anything := by
  induction depth generalizing V value with
  | zero =>
    rw [inspect]
    exact secure_nestedTooDeep
  | succ depth ih =>
    rw [inspect]
    refine .get_bind (fun w => ?_) fun hv w w' h => ?_
    · split
      · exact .pure fun _ => trivial
      · exact secure_afterReceiver _
      · exact .pure fun _ => trivial
      · exact secure_noSignature
      · rename_i receiver _ _ _
        extract_lets rest
        split
        · refine .bind (.of (secure_askKind receiver 1) And.left) fun _ _ _ => .pure fun _ => trivial
        · exact .pure fun _ => trivial
      · exact .pure fun _ => trivial
      · exact secure_inspectClass (fun _ _ => ih _) _
      · rename_i id
        split
        · exact (secure_complain _).of And.left
        · refine .bind (.of (secure_askKind _ 1) And.left) fun V₁ hV₁ _ => ?_
          refine .bind (.of (secure_unwrapped _ [] _ _) fun hpre => ?_) fun V₂ hV₂ other => ?_
          · have hv := hpre.1.1.mono hV₁
            exact ⟨hv, hv⟩
          · refine .bind (.of (secure_askKind other 1) And.right) fun V₃ hV₃ _ => ?_
            split
            · exact (secure_inspectObject (fun _ _ => ih _) _).of fun hpre => hpre.1.2.mono hV₃
            · exact (ih _).of fun hpre => hpre.1.2.mono hV₃
      · exact (secure_complain _).of And.left
    · have hprotocol {receiver : Value} (hreceiver : receiver.Within V) :
          followsProtocol w' receiver = followsProtocol w receiver := by
        cases receiver with
        | object id => simp only [followsProtocol, h.mappingBase?, h.kind hreceiver]
        | _ => rfl
      split
      · rw [h.function]
      · rw [h.function]
      · rfl
      · rfl
      · rename_i receiver _ _ _
        have hreceiver : receiver.Within V := hv
        rw [hprotocol hreceiver]
      · rfl
      · rfl
      · rw [h.specialMember? hv, h.depth]
      · rfl

theorem secure_signatureOf (value : Value) : Secure S V (value.Within V) (signatureOf value) Anything := by
  have hinspect : Secure S V (value.Within V) (do inspect (← get).depth value) Anything :=
    .get_bind (fun w => (secure_inspect w.depth value).of And.left) fun _ w w' h => by rw [h.depth]
  exact .forgive (hinspect.map fun _ _ _ => trivial) fun _ _ _ => trivial

/-! ## Mappings -/

theorem secure_seekClass (said : Value) : Secure S V (said.Within V) (seekClass said) Anything := by
  refine .get_bind (fun w => ?_) fun hsaid w w' h => ?_
  · extract_lets isWeak
    split
    · exact ((secure_hashOf V said).of And.left).discard
    · exact .pure fun _ => trivial
  · have hweak : w'.hasWeakReferences = w.hasWeakReferences :=
      World.eq_of_classes World.hasWeakReferences (fun _ => rfl) h.classes
    cases said with
    | object id => simp only [hweak, h.kind hsaid]
    | mapping kind entries => cases kind <;> rfl
    | _ => rfl

theorem secure_isMapping (value : Value) : Secure S V (value.Within V) (isMapping value) Anything := by
  unfold isMapping
  split
  · exact .pure fun _ => trivial
  · rename_i id
    refine .bind (secure_read_class _) fun V' hV said => ?_
    split
    · refine .get_bind (fun w => .pure fun _ => trivial) fun ⟨hid, _⟩ w w' h => ?_
      rw [h.mappingBase?, h.kind (hV.1 id hid)]
    · refine .bind (.of (secure_seekClass _) And.right) fun _ _ _ => ?_
      exact .fail fun _ => Failure.within_typeError _
  · exact .pure fun _ => trivial

theorem secure_searchFrom {next : Nat → Run (Option Value)} (key : Value) (index bound : Nat)
    (hnext : ∀ V', V ≤ V' → ∀ index, Secure S V' pre (next index) OptionWithin) :
    Secure S V (pre ∧ key.Within V) (searchFrom next key index bound) Anything := by
  induction bound generalizing V index with
  | zero => exact .pure fun _ => trivial
  | succ bound ih =>
    refine .bind (.of (hnext V le_rfl index) And.left) fun V₁ hV₁ found? => ?_
    split
    · exact .pure fun _ => trivial
    · rename_i found
      refine .bind (.of (secure_equal V₁ found key) fun hpre => ?_) fun V₂ hV₂ answer => ?_
      · exact ⟨hpre.2 found rfl, hpre.1.2.mono hV₁⟩
      · have hV := hV₁.trans hV₂
        split
        · exact .pure fun _ => trivial
        · refine (ih (index + 1) fun V₃ hV₃ => hnext V₃ (hV.trans hV₃)).of fun hpre => ?_
          exact ⟨hpre.1.1.1, hpre.1.1.2.mono hV⟩

theorem secure_endedBy {run : Run Value} (classes : List StandardFailure) (h : Secure S V pre run Value.Within) :
    Secure S V pre (endedBy classes run) OptionWithin :=
  .forgive (h.map fun _ _ hv _ hfound => by cases hfound; exact hv) fun _ _ _ => nofun

theorem secure_nextItem (id : ObjectId) (member : Member) (index : Nat) :
    Secure S V (V.seen id ∧ member.Within V) (nextItem id member index) OptionWithin :=
  secure_endedBy _ ((secure_callSpecial id "__getitem__" member _).of fun ⟨hid, hmember⟩ =>
    ⟨hid, hmember, S.spares_of_mem id (by decide) (by decide), by simp [Value.Within]⟩)

theorem secure_nextGiven (id : ObjectId) (member : Member) (index : Nat) :
    Secure S V (V.seen id ∧ member.Within V) (nextGiven id member index) OptionWithin :=
  secure_endedBy _ ((secure_callSpecial id "__next__" member []).of fun ⟨hid, hmember⟩ =>
    ⟨hid, hmember, S.spares_of_mem id (by decide) (by decide), nofun⟩)

theorem secure_searchIterator (id : ObjectId) (member : Member) (key : Value) :
    Secure S V (V.seen id ∧ member.Within V ∧ key.Within V) (searchIterator id member key) Anything := by
  refine .get_bind (fun w => ?_) fun ⟨hid, _⟩ w w' h => ?_
  · extract_lets notIterable
    have hiterator : Secure S V (V.seen id ∧ member.Within V)
        (orElse (callSpecial id "__iter__" member []) fun failure =>
          fail (if failure.isA .typeError then notIterable else failure)) Value.Within := by
      refine .orElse (.of (secure_callSpecial id "__iter__" member []) ?_) fun V' hV failure => ?_
      · exact fun ⟨hid, hmember⟩ => ⟨hid, hmember, S.spares_of_mem id (by decide) (by decide), nofun⟩
      · refine .fail fun ⟨_, hfailure⟩ => ?_
        split
        · exact Failure.within_typeError _
        · exact hfailure
    refine .bind (hiterator.of fun ⟨⟨hid, hmember, _⟩, _⟩ => ⟨hid, hmember⟩) fun V' hV iterator => ?_
    refine .get_bind (fun w => ?_) fun ⟨_, hiterator⟩ w w' h => ?_
    · split
      · rename_i it next hnext
        have hgiven (V'' : Scope) (hV' : V' ≤ V'') (index : Nat) : Secure S V''
            (V'.seen it ∧ next.Within V') (nextGiven it next index) OptionWithin :=
          (secure_nextGiven it next index).of fun ⟨hit, hnext⟩ => ⟨hV'.1 it hit, hnext.mono hV'⟩
        refine (secure_searchFrom key 0 w.depth hgiven).of ?_
        rintro ⟨⟨⟨⟨_, _, hkey⟩, _⟩, hit⟩, w', h⟩
        exact ⟨⟨hit, h.within_specialMember? hnext⟩, hkey.mono hV⟩
      · exact .fail fun _ => Failure.within_typeError _
    · rw [h.specialMember? hiterator, h.depth]
  · have hobject : (Value.object id).Within V := hid
    simp only [World.notIterable, h.label 200 hobject]

theorem secure_hasKey (value key : Value) :
    Secure S V (value.Within V ∧ key.Within V) (hasKey value key) Anything := by
  refine .get_bind (fun w => ?_) fun hpre w w' h => ?_
  · split
    · exact .pure fun _ => trivial
    · rename_i id
      have hmember {name : String} {member : Member} (hmember : w.specialMember? (.object id) name = some member) :
          (((Value.object id).Within V ∧ key.Within V) ∧ ∃ w', World.Alike S V w w') →
            V.seen id ∧ member.Within V := by
        rintro ⟨⟨hid, -⟩, _, h⟩
        exact ⟨hid, h.within_specialMember? hmember⟩
      extract_lets o
      split
      · rename_i member hcontains
        refine .bind (.of (secure_readSpecial id "__contains__" member) fun hpre => ?_) fun V' hV method => ?_
        · exact ⟨(hmember hcontains hpre).1, (hmember hcontains hpre).2, S.spares_of_mem id (by decide) (by decide)⟩
        · split
          · exact .fail fun _ => Failure.within_typeError _
          · refine .bind (.of (secure_callValue _ [key]) fun hpre => ⟨hpre.2, ?_⟩)
              fun _ _ made => .of (secure_truth made) And.right
            exact List.forall_mem_singleton.mpr (hpre.1.1.2.mono hV)
      · split
        · exact .pure fun _ => trivial
        · have hitem : Secure S V ((Value.object id).Within V ∧ key.Within V)
              (do let _ ← item (.object id) key; return true) Anything :=
            .bind (secure_item _ key) fun _ _ _ => .pure fun _ => trivial
          exact .forgive (hitem.of And.left) fun _ _ _ => trivial
        · split
          · rename_i member hiter
            refine (secure_searchIterator id member key).of fun hpre => ?_
            exact ⟨(hmember hiter hpre).1, (hmember hiter hpre).2, hpre.1.2⟩
          · rename_i member _ hgetitem
            have hnext (V' : Scope) (hV : V ≤ V') (index : Nat) : Secure S V' (V.seen id ∧ member.Within V)
                (nextItem id member index) OptionWithin :=
              (secure_nextItem id member index).of fun hpre => ⟨hV.1 id hpre.1, hpre.2.mono hV⟩
            exact (secure_searchFrom key 0 w.depth hnext).of fun hpre => ⟨hmember hgetitem hpre, hpre.1.2⟩
          · exact .fail fun _ => Failure.within_typeError _
    · exact .fail fun _ => Failure.within_typeError _
  · obtain ⟨hv, -⟩ := hpre
    cases value with
    | mapping kind entries => rfl
    | object id =>
      simp only [h.specialMember? hv, h.label 200 hv, h.mappingBase?, h.kind hv, (h.seen id hv).entries, h.depth,
        World.notIterable]
    | _ => simp only [World.notIterable, h.label 200 hv]

theorem secure_valueOf (value key : Value) :
    Secure S V (value.Within V ∧ key.Within V) (valueOf value key) Value.Within := by
  refine .bind (.of (secure_read_outermost value "get") fun ⟨hv, _⟩ => ⟨hv, ?_⟩) fun V' hV method => ?_
  · exact fun id _ => S.spares_of_not_private id rfl
  · refine (secure_callValue method [key]).of fun ⟨⟨_, hkey⟩, hmethod⟩ => ⟨hmethod, ?_⟩
    exact List.forall_mem_singleton.mpr (hkey.mono hV)

end SqlTemplate.Run
