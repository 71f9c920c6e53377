import SqlTemplate.Proofs.Resolve.Strictness
import SqlTemplate.Proofs.Secrecy.Writing
/-!
# Running functions tells no secret

Setting an attribute is secure whatever its name: it puts the same value in the same place of both worlds. A function
that reads a secret may do anything, but then it is noted to have read it, and nothing is promised.

How things are done with some levels of nesting left is secure by induction on the number of levels (`inner_isSecure`),
and so are the operations that the rest of the library uses.
-/

namespace SqlTemplate.Run

variable {S : Secrets} {V : Scope} {pre : Prop} {inner : Inner}

/-! ## Setting attributes -/

/-- The class of an object is exchanged for one that may be given, and whose objects are built alike. -/
theorem secure_setKind (id : ObjectId) (value : Value) (hexchanged : ∀ c, value = .type c → S.exchanged c) :
    Secure S V (V.seen id ∧ value.Within V) (setKind id value) Anything := by
  have hstart (w : World) (c : ClassId) : (setKind id (.type c)).start w =
      if (w.standard? c).isSome || (w.standard? (w.object id).kind).isSome then (.error World.fixedKind, w)
      else if w.buildOf c = w.buildOf (w.object id).kind then
        (.ok (), w.updateObject id fun o => { o with kind := c })
      else (.error (World.otherLayout (w.classOf c).name (w.classOf (w.object id).kind).name), w) := by
    simp only [setKind, start_bind, start_get]
    repeat' split
    all_goals rfl
  cases value with
  | type c =>
    have hextends (w : World) (hbuild : w.buildOf c = w.buildOf (w.object id).kind) :
        w.Extends S (w.updateObject id fun o => { o with kind := c }) :=
      World.extends_updateObject_of_buildOf w id _ hbuild (.inr (hexchanged c rfl))
    refine ⟨fun w _ => ?_, fun ⟨hid, _⟩ w w' h _ => ?_⟩
    · rw [hstart]
      split
      · exact World.Extends.refl S w
      · split
        · rename_i hbuild
          exact hextends w hbuild
        · exact World.Extends.refl S w
    · rw [hstart, hstart, h.standard?, h.kind hid, h.buildOf, h.classOf]
      split
      · exact ⟨V, le_rfl, rfl, Failure.within_typeError _, h⟩
      · split
        · rename_i hbuild
          refine ⟨V, le_rfl, rfl, trivial, ?_⟩
          refine h.updateObject_of_extends (hextends w hbuild) (hextends w' ?_) (fun hseen => ?_) ?_
          · rw [h.buildOf, h.kind hid]
            exact hbuild
          · exact { h.seen id hseen with kind := rfl }
          · exact fun _ _ hunseen => absurd hid hunseen
        · exact ⟨V, le_rfl, rfl, Failure.within_typeError _, h⟩
  | _ =>
    exact .refuse fun hpre w w' h => by rw [h.formalName hpre.2]

/-- A mapping that is seen becomes the place of the attributes of an object. -/
theorem alike_setPlace {w w' : World} (h : World.Alike S V w w') {id place : ObjectId} (hid : V.seen id)
    (hplace : V.seen place) : World.Alike S V (w.setPlace id place) (w'.setPlace id place) := by
  refine h.updateObject rfl rfl (fun hseen => ?_) fun _ _ hunseen => absurd hid hunseen
  exact { h.seen id hseen with
    place := rfl
    attributes := .nil
    placed := fun other hother => by cases hother; exact .inl hplace }

theorem extends_setPlace (w : World) (id place : ObjectId) : w.Extends S (w.setPlace id place) :=
  World.extends_updateObject w id _ rfl

theorem secure_setPlace (id : ObjectId) (value : Value) :
    Secure S V (V.seen id ∧ value.Within V) (setPlace id value) Anything := by
  have hrefuse (value : Value) (hrefuse : setPlace id value = do fail ((← get).notPlace value)) :
      Secure S V (V.seen id ∧ value.Within V) (setPlace id value) Anything := by
    rw [hrefuse]
    exact .refuse fun hpre w w' h => by rw [h.label 200 hpre.2]
  -- a mapping that is given is put where all can see it
  have hshare (kind : MappingKind) (entries : List (Value × Value))
      (hstart : ∀ w, (setPlace id (.mapping kind entries)).start w =
        (.ok (), (w.share kind entries).2.setPlace id w.objects.length)) :
      Secure S V (V.seen id ∧ (Value.mapping kind entries).Within V) (setPlace id (.mapping kind entries))
        Anything := by
    refine ⟨fun w _ => ?_, fun ⟨hid, hv⟩ w w' h _ => ?_⟩
    · rw [hstart]
      exact (World.extends_addObject w _).trans (extends_setPlace _ _ _)
    · have hV := V.le_see w.objects.length
      rw [hstart, hstart, h.length_objects]
      refine ⟨V.see w.objects.length, hV, rfl, trivial, alike_setPlace ?_ (.inl hid) (.inr rfl)⟩
      refine h.addObject hV (fun _ hseen => hseen) (fun _ _ hheld => .inl hheld) (fun _ => ?_) fun owner hheld => ?_
      · refine ⟨rfl, rfl, rfl, fun entry hentry => ?_, .nil, .nil, nofun⟩
        exact (Value.within_mapping.mp hv entry hentry).imp (·.mono hV) (·.mono hV)
      · exact absurd (h.lt_of_held owner _ hheld) (Nat.lt_irrefl _)
  cases value with
  | mapping kind entries =>
    cases kind with
    | view => exact hrefuse _ rfl
    | _ => exact hshare _ entries fun w => rfl
  | object place =>
    refine .get_bind (fun w => ?_) fun ⟨_, hplace⟩ w w' h => ?_
    · dsimp only
      split
      · refine .change (fun w => extends_setPlace w id place) fun ⟨⟨hid, hplace⟩, _⟩ w w' h => ?_
        exact ⟨V, le_rfl, alike_setPlace h hid hplace⟩
      · exact .fail fun _ => Failure.within_typeError _
    · simp only [h.mappingBase?, h.kind hplace, World.notPlace, h.label 200 hplace]
  | _ => exact hrefuse _ rfl

theorem secure_setField (id : ObjectId) (name : String) (value : Value)
    (hexchanged : ∀ c, (name, value) = ("__class__", .type c) → S.exchanged c) :
    Secure S V (V.seen id ∧ value.Within V) (setField id name value) Anything := by
  unfold setField
  split
  · rename_i hname
    exact secure_setKind id value fun c hc => hexchanged c (by rw [hname, hc])
  · split
    · exact secure_setPlace id value
    · refine .get_bind (fun _ => .fail fun _ => Failure.within_attributeError _) fun ⟨hid, _⟩ w w' h => ?_
      have hweak : weakOwner w' = weakOwner w := World.eq_of_classes weakOwner (fun _ => rfl) h.classes
      simp only [hweak, h.kind hid]

/-- An attribute goes where the attributes of the object are in both worlds, and takes the place of a secret there. -/
theorem secure_modify_setAttribute (id : ObjectId) (name : String) (value : Value) :
    Secure S V (V.seen id ∧ value.Within V) (modify (·.setAttribute id name value)) Anything := by
  refine .change (fun w => ?_) fun ⟨hid, hv⟩ w w' h => ⟨V, le_rfl, ?_⟩
  · unfold World.setAttribute
    split <;> exact World.extends_updateObject w _ _ rfl
  · have hobject := h.seen id hid
    unfold World.setAttribute
    rw [hobject.place]
    split
    · refine h.updateObject rfl rfl (fun _ => ?_) fun _ _ hunseen => absurd hid hunseen
      exact { hobject with attributes := hobject.attributes.setNamed name hv }
    · rename_i place hplace
      refine h.updateObject rfl rfl (fun hseen => ?_) fun owner hheld hunseen => ?_
      · have hentries := h.seen place hseen
        exact { hentries with
          entries := congrArg (Value.put (.text name) value) hentries.entries
          within_entries := Value.within_put hentries.within_entries trivial hv }
      · have hheld := h.held owner place hheld hunseen
        refine ⟨?_, ?_, hheld.entries.put trivial hv⟩
        · rw [hheld.bare]
        · rw [hheld.bare']

theorem secure_setFree (id : ObjectId) (name : String) (value : Value) (exists? : Bool) :
    Secure S V (V.seen id ∧ value.Within V) (setFree id name value exists?) Anything := by
  refine .get_bind (fun w => ?_) fun ⟨hid, _⟩ w w' h => ?_
  · split
    · exact (secure_modify_setAttribute id name value).of And.left
    · refine .fail fun _ => ?_
      exact Failure.within_attributeError _
  · have hobject : (Value.object id).Within V := hid
    have hfree : w'.hasFreeAttributes = w.hasFreeAttributes :=
      World.eq_of_classes World.hasFreeAttributes (fun _ => rfl) h.classes
    simp only [hfree, h.kind hid, World.fixedAttribute, h.label _ hobject]

theorem secure_assignBuiltin (target : Value) (name : String) (value : Value) :
    Secure S V (target.Within V ∧ value.Within V) (assignBuiltin target name value) Anything := by
  refine .get_bind (fun w => ?_) fun ⟨htarget, hv⟩ w w' h => ?_
  · split
    · exact .fail fun _ => Failure.within_typeError _
    · exact .fail fun _ => Failure.within_typeError _
    · exact .fail fun _ => Failure.within_attributeError _
    · exact .pure fun _ => trivial
    · refine .fail fun _ => ?_
      exact Failure.within_attributeError _
  · simp only [World.notClass, h.formalName hv, World.fixedAttribute, h.label _ htarget]

theorem secure_assign (hi : inner.IsSecure S) (target : Value) (name : String) (value : Value)
    (hexchanged : ∀ c, (name, value) = ("__class__", .type c) → S.exchanged c) :
    Secure S V (target.Within V ∧ value.Within V) (assign inner target name value) Anything := by
  refine .get_bind (fun w => ?_) fun ⟨htarget, _⟩ w w' h => ?_
  · split
    · rename_i id
      split
      · refine .change (fun w => World.extends_updateObject w id _ rfl) fun ⟨⟨hid, hv⟩, _⟩ w w' h => ?_
        have hobject := h.seen id hid
        refine ⟨V, le_rfl, h.updateObject rfl rfl (fun _ => ?_) fun _ _ hunseen => absurd hid hunseen⟩
        exact { hobject with slots := hobject.slots.setNamed name hv }
      · exact .fail fun _ => Failure.within_attributeError _
      · exact (secure_setField id name value hexchanged).of And.left
      · rename_i standing hstanding
        split
        · split
          · rename_i member hmember
            refine .bind (.of (hi.special V standing "__set__" member _) ?_) fun _ _ _ => .pure fun _ => trivial
            rintro ⟨⟨hid, hv⟩, w', h⟩
            refine ⟨h.within_classMember? hstanding, h.within_specialMember? hmember,
              S.spares_of_mem standing (by decide) (by decide), ?_⟩
            exact List.forall_mem_cons.mpr ⟨hid, List.forall_mem_singleton.mpr hv⟩
          · exact .fail fun _ => Failure.within_attributeError _
        · exact (secure_setFree id name value true).of And.left
      · exact (secure_setFree id name value _).of And.left
    · exact .fail fun _ => Failure.within_typeError _
    · exact (secure_assignBuiltin target name value).of And.left
  · split
    · rename_i id
      simp only [h.classMember?, h.kind htarget, h.kindName htarget]
      split
      all_goals try rfl
      rename_i standing hstanding
      have hwithin : (Value.object standing).Within V := h.within_classMember? hstanding
      rw [h.isSetter hwithin, h.specialMember? hwithin]
    · rw [h.kindName htarget]
    · rfl

/-! ## Steps -/

theorem secure_conclude (hi : inner.IsSecure S) (step : Step) (receiver : Value) (argument : Option Value) :
    Secure S V (step.outcome.Within V ∧ receiver.Within V ∧ OptionWithin V argument)
      (conclude inner step receiver argument) Value.Within := by
  unfold conclude
  split
  · rename_i kind arguments houtcome
    rw [houtcome]
    refine .bind (.of (secure_makeFailure hi kind _) fun ⟨ha, _, hargument⟩ => ?_) fun V' hV failure =>
      .fail And.right
    intro a hmem
    obtain ⟨given, hgiven, rfl⟩ := List.mem_map.mp hmem
    cases given with
    | none => exact Value.within_getD_null hargument
    | some value => exact ha _ hgiven value rfl
  · rename_i name _
    refine .noteRead_bind (.of (secure_readBare hi receiver name) ?_)
    exact fun ⟨⟨_, hreceiver, _⟩, hspares⟩ => ⟨hreceiver, hspares⟩
  · exact .get_bind (fun _ => .pure fun _ => trivial) fun _ w w' h => by rw [h.done]
  · split
    · exact .pure fun _ => trivial
    · refine .get_bind (fun w => .fail fun _ => within_missingAttribute w _ _) fun ⟨_, _, hargument⟩ w w' h => ?_
      rw [h.missingAttribute "upper" (Value.within_getD_null hargument)]
  · rename_i value houtcome
    rw [houtcome]
    exact .pure And.left

theorem secure_perform (hi : inner.IsSecure S) (function : String) (step : Step) (receiver : Value)
    (argument : Option Value) (hexchanged : ∀ c, ("__class__", Value.type c) ∈ step.assignments → S.exchanged c) :
    Secure S V (step.Within V ∧ receiver.Within V ∧ OptionWithin V argument)
      (perform inner function step receiver argument) Value.Within := by
  have hnote (w : World) :
      w.Extends S { w.log (logEntry function argument) with done := w.done ++ [step.id] } :=
    { World.Extends.refl S w with done := List.prefix_append _ _, calls := List.prefix_append _ _ }
  unfold perform
  refine .bind (.change hnote fun _ w w' h => ?_) fun V₁ hV₁ _ => ?_
  · refine ⟨V, le_rfl, h.note (hnote w) (hnote w') rfl rfl ?_ ?_ h.reads⟩
    · rw [h.done]
    · simp only [World.log, h.calls]
  · refine .bind (.forM fun V₂ hV₂ assignment hmem => ?_) fun V₂ hV₂ _ => ?_
    · have hgiven (c : ClassId) (hc : (assignment.1, assignment.2) = ("__class__", .type c)) : S.exchanged c :=
        hexchanged c (hc ▸ hmem)
      refine (secure_assign hi receiver assignment.1 assignment.2 hgiven).of fun ⟨⟨hstep, hreceiver, _⟩, _⟩ => ?_
      have hV := hV₁.trans hV₂
      exact ⟨hreceiver.mono hV, (hstep.1 assignment hmem).mono hV⟩
    · refine (secure_conclude hi step receiver argument).of fun ⟨⟨⟨hstep, hreceiver, hargument⟩, _⟩, _⟩ => ?_
      have hV := hV₁.trans hV₂
      exact ⟨hstep.2.mono hV, hreceiver.mono hV, fun v hv => (hargument v hv).mono hV⟩

theorem secure_runFunction (hi : inner.IsSecure S) (f : FunctionId) (arguments : List Value) :
    Secure S V (∀ a ∈ arguments, a.Within V) (runFunction inner f arguments) Value.Within := by
  refine .get_bind_of_admits (fun w hw => ?_) fun _ w w' h => by rw [h.function]
  extract_lets function
  split
  · exact .fail fun _ => Failure.within_typeError _
  · rename_i frame hframe
    extract_lets receiver argument
    have hwithin : ((∀ a ∈ arguments, a.Within V) ∧ ∃ w', World.Alike S V w w') →
        function.Within V ∧ receiver.Within V ∧ OptionWithin V argument := by
      rintro ⟨ha, w', h⟩
      have hf := h.within_function f
      have hframe := Signature.within_frame hf.1 ha hframe
      exact ⟨hf, Value.within_getD_null fun v hv => hframe v (List.mem_of_mem_head? hv),
        fun v hv => hframe v (List.mem_of_getElem? hv)⟩
    clear_value receiver argument
    split
    · rename_i step hstep
      have hexchanged := hw.of_function f argument step hstep
      refine (secure_perform hi function.name step receiver argument hexchanged).of fun hpre => ?_
      exact ⟨(hwithin hpre).1.2 argument step hstep, (hwithin hpre).2⟩
    · split
      · rename_i name _
        refine .noteRead_bind (.of (secure_readOrdinary hi receiver name) fun ⟨hpre, hspares⟩ => ?_)
        exact ⟨(hwithin hpre).2.1, hspares⟩
      · exact .refuse fun hpre w w' h => by rw [h.label 200 (Value.within_getD_null (hwithin hpre).2.2)]

/-! ## Nesting -/

theorem secure_nestedTooDeep {α : Type} {post : Scope → α → Prop} : Secure S V pre nestedTooDeep post :=
  .fail fun _ => Failure.within_ofMessage .recursionError _

/-- A built-in mapping has the lookup of built-in mappings, and nothing intercepts the reading of it. -/
theorem start_readWith_held {w : World} {place : ObjectId}
    (hplain : w.classOf (World.mappingClass .plain) = .ofMappings .plain)
    (hbare : w.object place =
      { Object.ofKind (World.mappingClass .plain) with entries := (w.object place).entries }) :
    (readWith inner (.object place) "get").start w = (.ok (.builtinMethod (.object place) "get"), w) := by
  have hkind : (w.object place).kind = World.mappingClass .plain := by rw [hbare]; rfl
  have hstored : (w.attributesOf place).lookup "get" = none := by
    rw [World.attributesOf, hbare]
    rfl
  have hmember := classMember?_get (.inl (World.mappingBase?_plain hplain)) (World.ownMember?_plain hplain _)
  rw [← hkind] at hmember
  refine start_readWith_get inner hmember ?_ hstored
  rw [hkind]
  exact World.ownMember?_plain hplain _

/-- A mapping that is held for an object is asked for a name: it looks among its entries. -/
theorem start_lookUp_held {w : World} {place : ObjectId} {name : String} (depth : Nat)
    (hplain : w.classOf (World.mappingClass .plain) = .ofMappings .plain)
    (hbare : w.object place =
      { Object.ofKind (World.mappingClass .plain) with entries := (w.object place).entries }) :
    (lookUp (Run.inner (depth + 1)) (.object place) name).start w =
      (.ok ((Value.entry? (.text name) (w.object place).entries).filter (!isAbsent ·)), w) := by
  have hread : ((Run.inner (depth + 1)).read (.object place) "get").start w =
      (.ok (.builtinMethod (.object place) "get"), w) := start_readWith_held hplain hbare
  have hkind : (w.object place).kind = World.mappingClass .plain := by rw [hbare]; rfl
  have hcall : (callWith (Run.inner (depth + 1)) (.builtinMethod (.object place) "get")
      [.text name, absent]).start w =
      (.ok ((Value.entry? (.text name) (w.object place).entries).getD absent), w) := by
    simp [callWith, Run.inner, callBuiltin, start_bind, hkind, World.mappingBase?_plain hplain]
  rw [lookUp, start_bind, hread]
  dsimp only
  rw [start_bind, hcall]
  dsimp only [start_pure]
  cases Value.entry? (.text name) (w.object place).entries with
  | none => rfl
  | some found =>
    by_cases habsent : isAbsent found = true <;> simp [Option.filter, habsent]

theorem isCareful_inner_succ {depth : Nat} (hi : (Run.inner depth).IsSecure S) :
    (Run.inner (depth + 1)).IsCareful S where
  call _ f arguments := secure_runFunction hi f arguments
  readObject _ id name := secure_readWith_object hi id name
  readOther _ value name hvalue := secure_readWith_other hi value name hvalue
  builtin _ receiver name arguments := secure_callBuiltin hi receiver name arguments
  special _ id name member arguments := secure_callMember hi id name member arguments

theorem isSecure_inner (depth : Nat) : (Run.inner depth).IsSecure S := by
  induction depth with
  | zero =>
    -- nothing is looked up either: alike worlds fail alike
    have hcareful : (Run.inner 0).IsCareful S :=
      { call := fun _ _ _ => secure_nestedTooDeep
        readObject := fun _ _ _ => secure_nestedTooDeep
        readOther := fun _ _ _ _ => secure_nestedTooDeep
        builtin := fun _ _ _ _ => secure_nestedTooDeep
        special := fun _ _ _ _ _ => secure_nestedTooDeep }
    refine { hcareful with lookUp := fun V _ place name => ?_ }
    refine ⟨(secure_lookUp_value (V := V) hcareful _ name).keeps, fun _ w w' h _ => ?_⟩
    exact ⟨V, le_rfl, rfl, Failure.within_ofMessage .recursionError _, h⟩
  | succ depth ih =>
    refine { isCareful_inner_succ ih with lookUp := fun V owner place name => ?_ }
    refine ⟨(secure_lookUp_value (V := V) (isCareful_inner_succ ih) _ name).keeps, ?_⟩
    -- a mapping that is only held is asked for a name without running code, and a name that is no secret stands
    -- for the same in both
    rintro ⟨hheld, hunseen, hname⟩ w w' h -
    have hplace := h.held owner place hheld hunseen
    have hplain' : w'.classOf (World.mappingClass .plain) = .ofMappings .plain := by
      rw [h.classOf, h.plain]
    obtain ⟨hentry, hwithin⟩ := hplace.entries.entry?_eq hname
    rw [start_lookUp_held depth h.plain hplace.bare, start_lookUp_held depth hplain' hplace.bare', hentry]
    refine ⟨V, le_rfl, rfl, fun v hv => hwithin v ?_, h⟩
    exact (Option.mem_filter_iff.mp hv).1

/-! ## The operations on values -/

/-- Something is done from the outside, with as many levels of nesting as the world has. -/
theorem Secure.outermost_bind {α : Type} {next : Inner → Run α} {post : Scope → α → Prop}
    (h : ∀ inner : Inner, inner.IsSecure S → Secure S V pre (next inner) post) :
    Secure S V pre (outermost >>= next) post := by
  have hstep : outermost >>= next = get >>= fun w => next (Run.inner w.depth) := by
    simp only [outermost, bind_assoc, pure_bind]
  rw [hstep]
  exact .get_bind (fun w => (h _ (isSecure_inner w.depth)).of And.left) fun _ w w' h => by rw [h.depth]

theorem secure_read_outermost (value : Value) (name : String) :
    Secure S V (value.Within V ∧ S.SparesValue value name) (read value name) Value.Within :=
  .outermost_bind fun _ hi => secure_readWith hi value name

theorem secure_attribute? (value : Value) (name : String) :
    Secure S V (value.Within V ∧ S.SparesValue value name) (attribute? value name) OptionWithin := by
  refine .forgive ((secure_read_outermost value name).map fun _ v hv found hfound => ?_) fun _ _ _ => nofun
  cases hfound
  exact hv

theorem secure_callValue (f : Value) (arguments : List Value) :
    Secure S V (f.Within V ∧ ∀ a ∈ arguments, a.Within V) (callValue f arguments) Value.Within :=
  .outermost_bind fun _ hi => secure_callWith hi.toIsCareful f arguments

theorem secure_readSpecial (id : ObjectId) (name : String) (member : Member) :
    Secure S V (V.seen id ∧ member.Within V ∧ S.Spares id name) (readSpecial id name member) Value.Within :=
  .outermost_bind fun _ hi => secure_readMember hi id name member

theorem secure_callSpecial (id : ObjectId) (name : String) (member : Member) (arguments : List Value) :
    Secure S V (V.seen id ∧ member.Within V ∧ S.Spares id name ∧ ∀ a ∈ arguments, a.Within V)
      (callSpecial id name member arguments) Value.Within :=
  .outermost_bind fun _ hi => secure_callMember hi id name member arguments

theorem secure_item (value key : Value) :
    Secure S V (value.Within V ∧ key.Within V) (item value key) Value.Within :=
  .outermost_bind fun _ hi => secure_itemWith hi value key

theorem secure_truth (value : Value) : Secure S V (value.Within V) (truth value) Anything :=
  .outermost_bind fun _ hi => secure_truthWith hi value

theorem secure_shownOf (value : Value) : Secure S V (value.Within V) (shownOf value) Anything :=
  .outermost_bind fun _ hi => secure_shown hi value

theorem secure_textOfFailure (failure : Failure) :
    Secure S V (failure.Within V) (textOfFailure failure) Anything := by
  refine .outermost_bind fun inner hi => ?_
  refine .get_bind (fun w => ?_) fun hf w w' h => by rw [pieces_alike h hf]
  refine .bind (.mapM fun V' hV piece hmem => ?_) fun _ _ _ => .pure fun _ => trivial
  exact (secure_pieceText hi piece).of fun ⟨hf, _⟩ => (Failure.within_pieces hf w piece hmem).mono hV

theorem secure_denial (member : Value) (path : String) (reason : Value) :
    Secure S V (member.Within V ∧ reason.Within V) (denial member path reason) Anything :=
  .outermost_bind fun _ hi => (secure_denied hi member (.text path) reason).of fun ⟨hmember, hreason⟩ =>
    ⟨hmember, trivial, hreason⟩

end SqlTemplate.Run
