import SqlTemplate.Proofs.Secrecy.Triple
/-!
# Reading tells no secret

Reading an attribute that is no secret is secure, and so is calling a value, if what is done further inside is
(`Inner.IsSecure`).

An attribute that is computed once is a case of its own. It is kept where the other attributes of its object are, so
the mapping that holds them is looked at, and it may hold secrets. No value leads to that mapping, and it is only asked
for the attribute itself.
-/

namespace SqlTemplate

/-- A value is within a scope or is a mapping that is held for an object. -/
def PlaceWithin (owner : ObjectId) (V : Scope) (value : Value) : Prop :=
  value.Within V ∨ ∃ place, value = .object place ∧ V.held owner place

/-- What is read of an object is within a scope, or it is the mapping that holds the attributes of the object. -/
def ReadWithin (owner : ObjectId) (name : String) (V : Scope) (value : Value) : Prop :=
  value.Within V ∨ name = "__dict__" ∧ PlaceWithin owner V value

theorem PlaceWithin.mono {owner : ObjectId} {V V' : Scope} {value : Value} (h : PlaceWithin owner V value)
    (hV : V ≤ V') : PlaceWithin owner V' value :=
  h.imp (fun hv => hv.mono hV) fun ⟨place, heq, hheld⟩ => ⟨place, heq, hV.2 owner place hheld⟩

/-- What is done one level further inside is secure. -/
structure Inner.IsCareful (S : Secrets) (inner : Inner) : Prop where
  call (V : Scope) (f : FunctionId) (arguments : List Value) :
    Run.Secure S V (∀ a ∈ arguments, a.Within V) (inner.call f arguments) Value.Within
  readObject (V : Scope) (id : ObjectId) (name : String) :
    Run.Secure S V (V.seen id ∧ ¬ S.hides id name) (inner.read (.object id) name) (ReadWithin id name)
  readOther (V : Scope) (value : Value) (name : String) (hvalue : ∀ id, value ≠ .object id) :
    Run.Secure S V (value.Within V) (inner.read value name) Value.Within
  builtin (V : Scope) (receiver : Value) (name : String) (arguments : List Value) :
    Run.Secure S V (receiver.Within V ∧ ∀ a ∈ arguments, a.Within V)
      (inner.builtin receiver name arguments) Value.Within
  special (V : Scope) (id : ObjectId) (name : String) (member : Member) (arguments : List Value) :
    Run.Secure S V (V.seen id ∧ member.Within V ∧ S.Spares id name ∧ ∀ a ∈ arguments, a.Within V)
      (inner.special id name member arguments) Value.Within

/-- Besides, a mapping that is held for an object is asked for an attribute that is no secret. -/
structure Inner.IsSecure (S : Secrets) (inner : Inner) : Prop extends inner.IsCareful S where
  lookUp (V : Scope) (owner place : ObjectId) (name : String) :
    Run.Secure S V (V.held owner place ∧ ¬ V.seen place ∧ ¬ S.hides owner name)
      (Run.lookUp inner (.object place) name) Run.OptionWithin

namespace Run

variable {S : Secrets} {V : Scope} {pre : Prop} {inner : Inner}

/-! ## Changes of objects -/

/-- The entries of an object that is seen are changed in the same way. -/
theorem secure_changeEntries {id : ObjectId} (change : List (Value × Value) → List (Value × Value))
    (hid : pre → V.seen id)
    (hchange : pre → ∀ entries, (∀ e ∈ entries, e.1.Within V ∧ e.2.Within V) →
      ∀ e ∈ change entries, e.1.Within V ∧ e.2.Within V) :
    Secure S V pre (modify (·.updateObject id fun o => { o with entries := change o.entries }))
      Anything := by
  refine .change (fun w => World.extends_updateObject w id _ rfl) fun hpre w w' h => ?_
  have hobject := h.seen id (hid hpre)
  refine ⟨V, le_rfl, h.updateObject rfl rfl (fun _ => ?_) fun _ _ hunseen => absurd (hid hpre) hunseen⟩
  exact { hobject with
    entries := congrArg change hobject.entries
    within_entries := hchange hpre _ hobject.within_entries }

/-! ## Calling -/

theorem entriesFor_alike {w w' : World} (h : World.Alike S V w w') {arguments : List Value}
    (ha : ∀ a ∈ arguments, a.Within V) : entriesFor w' arguments = entriesFor w arguments := by
  unfold entriesFor
  split
  · rfl
  · rfl
  · rw [List.forall_mem_singleton] at ha
    simp only [h.entriesOf? ha, h.label 200 ha]
  · rfl

theorem within_entriesFor {w w' : World} (h : World.Alike S V w w') {arguments : List Value}
    (ha : ∀ a ∈ arguments, a.Within V) :
    ResultWithin Value.EntriesWithin V (entriesFor w arguments) := by
  unfold entriesFor
  split
  · trivial
  · split
    · trivial
    · exact Failure.within_ofMessage .valueError _
  · rw [List.forall_mem_singleton] at ha
    split
    · rename_i entries hentries
      exact Value.entriesWithin_iff.mpr (h.within_entriesOf? ha hentries)
    · exact Failure.within_typeError _
  · exact Failure.within_typeError _

theorem secure_prepare (hi : inner.IsCareful S) (id : ObjectId) (arguments : List Value) :
    Secure S V (V.seen id ∧ ∀ a ∈ arguments, a.Within V) (prepare inner id arguments) Anything := by
  refine .get_bind (fun w => ?_) ?_
  · dsimp only
    split
    · rename_i member hmember
      refine .bind (.of (hi.special V id "__init__" member arguments) ?_) fun V' hV made => ?_
      · rintro ⟨⟨hid, ha⟩, w', h⟩
        exact ⟨hid, h.within_ownMember? hmember, S.spares_of_mem id (by decide) (by decide), ha⟩
      · split
        · exact .pure fun _ => trivial
        · exact .refuse fun hpre w w' h => by rw [h.label 200 hpre.2]
    · split
      · refine .bind (.ofExcept fun hpre => hpre.2.elim fun _ h => within_entriesFor h hpre.1.2)
          fun V' hV entries => ?_
        refine secure_changeEntries (fun _ => entries) (fun hpre => hV.1 id hpre.1.1.1) fun hpre _ _ => ?_
        exact Value.entriesWithin_iff.mp hpre.2
      · exact .pure fun _ => trivial
  · rintro ⟨hid, ha⟩ w w' h
    simp only [h.kind hid, h.ownMember?, h.mappingBase?, entriesFor_alike h ha]

/-- A new object of a class is seen. -/
theorem secure_newObject (c : ClassId) : Secure S V pre (newObject c []) Scope.seen := by
  have hkeeps (w : World) : w.Extends S ((newObject c []).start w).2 := by
    unfold newObject
    simp only [start_bind, start_get]
    split
    · exact World.Extends.refl S w
    · exact World.extends_addObject w _
  refine ⟨fun w _ => hkeeps w, fun _ w w' h _ => ?_⟩
  unfold newObject
  simp only [start_bind, start_get, h.classOf]
  split
  · have habstract : w'.isAbstract c = w.isAbstract c := by
      simp only [World.isAbstract, h.classOf]
    rw [habstract]
    exact ⟨V, le_rfl, rfl, Failure.within_typeError _, h⟩
  · have hV := V.le_see w.objects.length
    refine ⟨V.see w.objects.length, hV, ?_, .inr rfl, ?_⟩
    · exact congrArg Except.ok h.length_objects
    · refine h.addObject hV (fun _ h => h) (fun _ _ h => .inl h) (fun _ => ?_) fun owner hheld => ?_
      · exact ⟨rfl, rfl, rfl, nofun, .nil, .nil, nofun⟩
      · exact absurd (h.lt_of_held owner _ hheld) (Nat.lt_irrefl _)

theorem isInstance_alike {w w' : World} (h : World.Alike S V w w') {v : Value} (hv : v.Within V) (c : ClassId) :
    isInstance w' v c = isInstance w v c := by
  cases v with
  | object id => simp only [isInstance, h.lineage, h.kind hv]
  | _ => rfl

theorem secure_make (hi : inner.IsCareful S) (c : ClassId) (arguments : List Value) :
    Secure S V (∀ a ∈ arguments, a.Within V) (make inner c arguments) Value.Within := by
  unfold make
  refine .get_bind (fun w => ?_) fun _ w w' h => ?_
  · extract_lets makeBy
    have hmakeBy (f : FunctionId) : Secure S V (∀ a ∈ arguments, a.Within V) (makeBy f) Value.Within := by
      refine .bind (.of (hi.call V f _) fun ha => ?_) fun V' hV made => ?_
      · exact List.forall_mem_cons.mpr ⟨trivial, ha⟩
      · split
        · rename_i id
          refine .get_bind (fun w => ?_) fun hpre w w' h => ?_
          · dsimp only
            split
            · refine .bind (.of (secure_prepare hi id arguments) fun hpre => ?_) fun V'' hV' _ => ?_
              · exact ⟨hpre.1.2, fun a hmem => (hpre.1.1 a hmem).mono hV⟩
              · exact .pure fun hpre => hpre.1.1.2.mono hV'
            · exact .pure fun hpre => hpre.1.2
          · rw [isInstance_alike h hpre.2]
        · exact .pure And.right
    split
    · exact (hmakeBy _).of And.left
    · exact (hmakeBy _).of And.left
    · split
      · exact .fail fun _ => Failure.within_typeError _
      · refine .bind (secure_newObject c) fun V' hV id => ?_
        refine .bind (.of (secure_prepare hi id arguments) fun hpre => ?_) fun V'' hV' _ => ?_
        · exact ⟨hpre.2, fun a hmem => (hpre.1.1 a hmem).mono hV⟩
        · exact .pure fun hpre => hV'.1 id hpre.1.2
  · simp only [h.ownMember?, h.mappingBase?, World.takesNothing, h.classOf]

theorem secure_callWith (hi : inner.IsCareful S) (f : Value) (arguments : List Value) :
    Secure S V (f.Within V ∧ ∀ a ∈ arguments, a.Within V) (callWith inner f arguments) Value.Within := by
  cases f with
  | function id => exact (hi.call V id arguments).of And.right
  | method receiver id =>
    exact (hi.call V id (receiver :: arguments)).of fun hpre => List.forall_mem_cons.mpr hpre
  | builtinMethod receiver name => exact hi.builtin V receiver name arguments
  | type c => exact (secure_make hi c arguments).of And.right
  | object id =>
    refine .get_bind (fun w => ?_) fun hpre w w' h => ?_
    · split
      · rename_i member hmember
        refine (hi.special V id "__call__" member arguments).of ?_
        rintro ⟨⟨hid, ha⟩, w', h⟩
        exact ⟨hid, h.within_specialMember? hmember, S.spares_of_mem id (by decide) (by decide), ha⟩
      · exact .fail fun _ => Failure.within_typeError _
    · simp only [h.specialMember? hpre.1, World.notCallable, h.label 200 hpre.1]
  | _ =>
    exact .refuse fun hpre w w' h => by rw [h.label 200 hpre.1]

/-! ## Members as values -/

theorem within_classConstants (w : World) (c : ClassId) (name : String) :
    (((w.classConstants c).lookup name).getD .null).Within V := by
  have hall : ∀ entry ∈ w.classConstants c, entry.2.Within V := by
    intro entry hentry
    unfold World.classConstants at hentry
    extract_lets mapping protocol slots place at hentry
    simp only [List.mem_append, List.mem_cons, List.not_mem_nil, or_false] at hentry
    rcases hentry with (((rfl | hentry) | hentry) | hentry) | hentry
    · trivial
    · simp only [place] at hentry
      split at hentry <;> simp at hentry
      subst hentry
      trivial
    · simp only [mapping] at hentry
      split at hentry <;> simp at hentry
      · subst hentry
        trivial
      · rcases hentry with rfl | rfl <;> trivial
    · simp only [protocol] at hentry
      split at hentry <;> simp at hentry
      rcases hentry with rfl | rfl <;> trivial
    · simp only [slots] at hentry
      split at hentry <;> simp at hentry
      subst hentry
      exact Value.within_tuple.mpr (by simp [Value.Within])
  refine Value.within_getD_null fun value hvalue => ?_
  exact hall (name, value) (mem_of_lookup hvalue)

theorem within_standing (w : World) (c : ClassId) (name : String) {member : Member} (hm : member.Within V) :
    (standing w c name member).Within V := by
  cases member with
  | value v => exact hm
  | constant => exact within_classConstants w c name
  | _ => trivial

theorem standing_alike {w w' : World} (h : World.Alike S V w w') : standing w' = standing w :=
  World.eq_of_classes standing (fun _ => rfl) h.classes

theorem secure_readStanding (hi : inner.IsCareful S) (value : Value) (receiver : Option Value)
    (owner : ClassId) :
    Secure S V (value.Within V ∧ OptionWithin V receiver) (readStanding inner value receiver owner)
      Value.Within := by
  refine .get_bind (fun w => ?_) fun ⟨hv, _⟩ w w' h => ?_
  · split
    · rename_i f receiver
      exact .pure fun ⟨⟨_, hreceiver⟩, _⟩ => (hreceiver receiver rfl : receiver.Within V)
    · rename_i id
      extract_lets arguments
      have harguments (hv : (Value.object id).Within V) (hreceiver : OptionWithin V receiver) :
          ∀ a ∈ arguments, a.Within V := by
        simp only [arguments, List.forall_mem_cons]
        exact ⟨hv, Value.within_getD_null hreceiver, trivial, nofun⟩
      split
      · exact (hi.call V _ arguments).of fun ⟨⟨hv, hreceiver⟩, _⟩ => harguments hv hreceiver
      · rename_i member _ hmember
        refine (secure_callWith hi _ arguments).of fun ⟨⟨hv, hreceiver⟩, w', h⟩ => ?_
        exact ⟨within_standing w _ _ (h.within_specialMember? hmember), harguments hv hreceiver⟩
      · exact .pure fun ⟨⟨hv, _⟩, _⟩ => hv
    · exact .pure fun ⟨⟨hv, _⟩, _⟩ => hv
  · cases value with
    | object id => simp only [h.specialMember? hv, h.kind hv, standing_alike h]
    | _ => rfl

/-! ## Built-in data -/

theorem within_readField (w : World) (value : Value) (name : String) : (readField w value name).Within V := by
  unfold readField
  split <;> trivial

theorem readField_alike {w w' : World} (h : World.Alike S V w w') {value : Value} (hv : value.Within V)
    (name : String) : readField w' value name = readField w value name := by
  have hmodule : w'.moduleName = w.moduleName :=
    World.eq_of_classes World.moduleName (fun _ => rfl) h.classes
  unfold readField
  split
  · rw [h.kind hv]
  · rfl
  · rw [h.kindName hv]
  all_goals simp only [h.function, h.classOf, hmodule]

/-! ## The mapping that holds the attributes of an object -/

theorem start_readPlace (id : ObjectId) (w : World) :
    (readPlace id).start w = (.ok (.object (w.placeOf id).1), (w.placeOf id).2) :=
  rfl

theorem placeOf_of_some {w : World} {id place : ObjectId} (h : (w.object id).place = some place) :
    w.placeOf id = (place, w) := by
  rw [World.placeOf, h]

/-- The mapping that the attributes of an object are moved into. -/
def placeFor (o : Object) : Object :=
  { Object.ofKind (World.mappingClass .plain) with
    entries := o.attributes.map fun a => (.text a.1, a.2) }

theorem placeOf_of_none {w : World} {id : ObjectId} (h : (w.object id).place = none) :
    w.placeOf id = (w.objects.length,
      (w.addObject (placeFor (w.object id))).2.setPlace id w.objects.length) := by
  rw [World.placeOf, h]
  rfl

theorem extends_placeOf (w : World) (id : ObjectId) : w.Extends S (w.placeOf id).2 := by
  cases hplace : (w.object id).place with
  | some place =>
    rw [placeOf_of_some hplace]
    exact World.Extends.refl S w
  | none =>
    rw [placeOf_of_none hplace]
    exact (World.extends_addObject w _).trans (World.extends_updateObject _ _ _ rfl)

/-- The attributes of an object are moved into a mapping that is held for it. -/
theorem secure_readPlace (id : ObjectId) : Secure S V (V.seen id) (readPlace id) (PlaceWithin id) := by
  refine ⟨fun w _ => extends_placeOf w id, fun hid w w' h _ => ?_⟩
  have hobject := h.seen id hid
  rw [start_readPlace, start_readPlace]
  cases hplace : (w.object id).place with
  | some place =>
    rw [placeOf_of_some hplace, placeOf_of_some (hobject.place.trans hplace)]
    refine ⟨V, le_rfl, rfl, ?_, h⟩
    exact (hobject.placed place hplace).imp (fun hseen => hseen) fun hheld => ⟨place, rfl, hheld⟩
  | none =>
    rw [placeOf_of_none hplace, placeOf_of_none (hobject.place.trans hplace), h.length_objects]
    have hV := V.le_hold id w.objects.length
    have hadded : World.Alike S (V.hold id w.objects.length)
        (w.addObject (placeFor (w.object id))).2 (w'.addObject (placeFor (w'.object id))).2 := by
      refine h.addObject hV (fun _ hseen => .inl hseen) (fun _ _ hheld => hheld.imp_right And.right)
        (fun hseen => absurd (h.lt_of_seen _ hseen) (Nat.lt_irrefl _)) ?_
      rintro owner (hheld | ⟨rfl, -⟩)
      · exact absurd (h.lt_of_held _ _ hheld) (Nat.lt_irrefl _)
      · exact ⟨rfl, rfl, hobject.attributes.toEntries.mono hV (fun _ hv => hv) fun _ hv => hv⟩
    refine ⟨V.hold id w.objects.length, hV, rfl, .inr ⟨_, rfl, .inr ⟨rfl, rfl⟩⟩, ?_⟩
    refine hadded.updateObject rfl rfl (fun hseen => ?_) fun _ _ hunseen => absurd hid hunseen
    exact { hadded.seen id hseen with
      place := rfl
      attributes := .nil
      placed := fun place hsome => by cases hsome; exact .inr (.inr ⟨rfl, rfl⟩) }

/-- The mapping that holds the attributes of an object without secrets may be given to anyone. -/
theorem Secure.see {run : Run Value} {owner : ObjectId} (h : Secure S V pre run (PlaceWithin owner))
    (hnone : pre → ∀ name, ¬ S.hides owner name) : Secure S V pre run Value.Within := by
  refine ⟨h.keeps, fun hpre w w' halike hunread => ?_⟩
  obtain ⟨V', hV, heq, hwithin, halike'⟩ := h.agrees hpre w w' halike hunread
  rcases hresult : (run.start w).1 with failure | v <;> rw [hresult] at heq hwithin
  · exact ⟨V', hV, heq, hwithin, halike'⟩
  · rcases hwithin with hwithin | ⟨place, rfl, hheld⟩
    · exact ⟨V', hV, heq, hwithin, halike'⟩
    · exact ⟨V'.see place, hV.trans (V'.le_see place), heq, .inr rfl,
        halike'.see_of_held hheld (hnone hpre)⟩

/-- Reading of an object something that tells no secret gives a value that anyone may have. -/
theorem Secure.spare {run : Run Value} {id : ObjectId} {name : String}
    (h : Secure S V pre run (ReadWithin id name)) (hname : pre → S.Spares id name) :
    Secure S V pre run Value.Within := by
  by_cases hdict : name = "__dict__"
  · refine .see (h.imp fun _ _ _ _ hread => ?_) fun hpre => (hname hpre).2 hdict
    exact hread.elim .inl And.right
  · exact h.imp fun _ _ _ _ hread => hread.resolve_right fun hplace => hdict hplace.1

/-- A way of reading an attribute is secure for a value that it is no secret of, if it is for objects and for all other
values. -/
theorem secure_of_object_of_other {reading : Value → Run Value} {name : String}
    (hobject : ∀ id, Secure S V (V.seen id ∧ ¬ S.hides id name) (reading (.object id)) (ReadWithin id name))
    (hother : ∀ value, (∀ id, value ≠ .object id) → Secure S V (value.Within V) (reading value) Value.Within)
    (value : Value) :
    Secure S V (value.Within V ∧ S.SparesValue value name) (reading value) Value.Within := by
  by_cases hkind : ∃ id, value = .object id
  · obtain ⟨id, rfl⟩ := hkind
    refine .spare ((hobject id).of fun ⟨hid, hname⟩ => ⟨hid, (hname id rfl).1⟩) ?_
    exact fun ⟨_, hname⟩ => hname id rfl
  · exact (hother value fun id heq => hkind ⟨id, heq⟩).of And.left

theorem secure_read (hi : inner.IsCareful S) (value : Value) (name : String) :
    Secure S V (value.Within V ∧ S.SparesValue value name) (inner.read value name) Value.Within :=
  secure_of_object_of_other (fun id => hi.readObject V id name) (fun other => hi.readOther V other name) value

theorem secure_lookUp_value (hi : inner.IsCareful S) (place : Value) (name : String) :
    Secure S V (place.Within V) (lookUp inner place name) OptionWithin := by
  refine .bind (.of (secure_read hi place "get") fun hplace => ⟨hplace, ?_⟩) fun V' hV method => ?_
  · exact fun id _ => S.spares_of_not_private id rfl
  · refine .bind (.of (secure_callWith hi method _) fun hpre => ⟨hpre.2, ?_⟩) fun V'' hV' found => ?_
    · simp [absent, Value.Within]
    · refine .pure fun hpre value hvalue => ?_
      split at hvalue <;> cases hvalue
      exact hpre.2

/-- The mapping that holds the attributes of an object is asked for an attribute that is no secret. -/
theorem secure_lookUp (hi : inner.IsSecure S) (owner : ObjectId) (place : Value) (name : String) :
    Secure S V (PlaceWithin owner V place ∧ ¬ S.hides owner name) (lookUp inner place name)
      OptionWithin := by
  have hvalue := secure_lookUp_value (V := V) hi.toIsCareful place name
  refine ⟨hvalue.keeps, fun ⟨hplace, hname⟩ => ?_⟩
  rcases hplace with hplace | ⟨id, rfl, hheld⟩
  · exact hvalue.agrees hplace
  · by_cases hseen : V.seen id
    · exact hvalue.agrees hseen
    · exact (hi.lookUp V owner id name).agrees ⟨hheld, hseen, hname⟩

/-- The place of the attributes of an object takes an item. -/
theorem secure_setItem (hi : inner.IsSecure S) (owner : ObjectId) (target : Value) (name : String)
    (value : Value) :
    Secure S V (PlaceWithin owner V target ∧ value.Within V) (setItem inner target name value)
      Anything := by
  cases target with
  | object id =>
    refine .get_bind (fun w => ?_) fun hpre w w' h => ?_
    · dsimp only
      split
      · rename_i member hmember
        refine .bind (.of (hi.special V id "__setitem__" member _) ?_) fun _ _ _ => .pure fun _ => trivial
        rintro ⟨⟨hplace, hv⟩, w', h⟩
        refine ⟨?_, h.within_specialMember? hmember, S.spares_of_mem id (by decide) (by decide), ?_⟩
        · by_contra hunseen
          -- a mapping that is held is a plain one, and these have no method for setting items
          obtain ⟨place, heq, hheld⟩ := hplace.resolve_left hunseen
          cases heq
          simp only [World.specialMember?, (h.held_kind hheld hunseen).1, World.ownMember?_plain h.plain] at hmember
          cases hmember
        · simpa [Value.Within] using hv
      · split
        · refine .change (fun w => World.extends_updateObject w id _ rfl) ?_
          rintro ⟨⟨-, hv⟩, -⟩ w w' h
          -- the mapping may be seen, or be held for any object
          refine ⟨V, le_rfl, h.updateObject rfl rfl (fun hseen => ?_) fun other hheld hunseen => ?_⟩
          · have hobject := h.seen id hseen
            exact { hobject with
              entries := congrArg (Value.put (.text name) value) hobject.entries
              within_entries := Value.within_put hobject.within_entries trivial hv }
          · have hobject := h.held other id hheld hunseen
            refine ⟨?_, ?_, hobject.entries.put trivial hv⟩
            · rw [hobject.bare]
            · rw [hobject.bare']
        · exact .fail fun _ => Failure.within_typeError _
    · by_cases hseen : V.seen id
      · have hid : (Value.object id).Within V := hseen
        simp only [h.specialMember? hid, h.mappingBase?, h.kind hseen, World.fixedItems, h.label 200 hid]
      · obtain ⟨place, heq, hheld⟩ := hpre.1.resolve_left hseen
        cases heq
        obtain ⟨hkind, hkind'⟩ := h.held_kind hheld hseen
        simp only [World.specialMember?, h.ownMember?, hkind, hkind', World.ownMember?_plain h.plain, h.mappingBase?,
          World.mappingBase?_plain h.plain, if_true]
  | mapping kind entries =>
    cases kind with
    | view => exact .refuse fun _ w w' h => rfl
    | _ => exact .get_bind (fun _ => .pure fun _ => trivial) fun _ w w' h => rfl
  | _ =>
    refine .refuse fun hpre w w' h => ?_
    have htarget := hpre.1.resolve_right (by rintro ⟨place, heq, -⟩; cases heq)
    rw [h.label 200 htarget]

/-! ## Reading of objects -/

theorem secure_readLazy (hi : inner.IsSecure S) (id : ObjectId) (name : String) (getter : FunctionId) :
    Secure S V (V.seen id ∧ ¬ S.hides id name) (readLazy inner id name getter) Value.Within := by
  refine .get_bind (fun w => ?_) fun ⟨hid, _⟩ w w' h => ?_
  · have hread := hi.readObject V id "__dict__"
    have hplace : Secure S V (V.seen id) (orElse (inner.read (.object id) "__dict__") fun failure =>
        fail (if failure.isA .attributeError then w.noPlace (.object id) name else failure))
        (PlaceWithin id) := by
      refine .orElse (.imp (.of hread fun hid => ⟨hid, S.not_hides_of_mem id (by decide)⟩) ?_)
        fun V' hV failure => .fail fun ⟨_, hfailure⟩ => ?_
      · exact fun _ _ _ _ hread => hread.elim .inl And.right
      · split
        · exact Failure.within_typeError _
        · exact hfailure
    refine .bind (hplace.of fun hpre => hpre.1.1) fun V₁ hV₁ place => ?_
    -- from here on the place may be held for the object only, so it is no value within the scope
    have hlookUp (V' : Scope) := secure_lookUp (V := V') hi id place name
    refine .bind (.of (hlookUp V₁) fun ⟨⟨⟨_, hname⟩, _⟩, hplace⟩ => ⟨hplace, hname⟩) fun V₂ hV₂ found => ?_
    cases found with
    | some value => exact .pure fun ⟨_, hvalue⟩ => hvalue value rfl
    | none =>
      refine .bind (.of (hlookUp V₂) ?_) fun V₃ hV₃ found => ?_
      · exact fun ⟨⟨⟨⟨_, hname⟩, _⟩, hplace⟩, _⟩ => ⟨hplace.mono hV₂, hname⟩
      cases found with
      | some value => exact .pure fun ⟨_, hvalue⟩ => hvalue value rfl
      | none =>
        refine .bind (.of (hi.call V₃ getter _) ?_) fun V₄ hV₄ value => ?_
        · rintro ⟨⟨⟨⟨⟨hid, _⟩, _⟩, _⟩, _⟩, _⟩
          exact List.forall_mem_singleton.mpr ((hV₁.trans (hV₂.trans hV₃)).1 id hid)
        refine .bind (.orElse (.of (secure_setItem hi id place name value) ?_) fun V₅ hV₅ failure => ?_)
          fun V₅ hV₅ _ => ?_
        · rintro ⟨⟨⟨⟨_, hplace⟩, _⟩, _⟩, hvalue⟩
          exact ⟨hplace.mono (hV₂.trans (hV₃.trans hV₄)), hvalue⟩
        · refine .fail fun ⟨_, hfailure⟩ => ?_
          split
          · exact Failure.within_typeError _
          · exact hfailure
        · exact .pure fun ⟨⟨_, hvalue⟩, _⟩ => hvalue.mono hV₅
  · simp only [World.noPlace, World.readOnlyPlace, h.kindName (v := .object id) hid]

/-- A member of the class of an object is read through the object. -/
theorem secure_readMember_object (hi : inner.IsSecure S) (id : ObjectId) (name : String) (member : Member) :
    Secure S V (V.seen id ∧ member.Within V ∧ ¬ S.hides id name) (readMember inner id name member)
      (ReadWithin id name) := by
  refine .get_bind (fun w => ?_) fun hpre w w' h => ?_
  · cases member with
    | value v =>
      refine .imp (.of (secure_readStanding hi.toIsCareful v _ _) fun hpre => ⟨hpre.1.2.1, ?_⟩)
        fun _ _ _ _ h => .inl h
      rintro receiver hreceiver
      cases hreceiver
      exact hpre.1.1
    | static f => exact .pure fun _ => .inl trivial
    | classwide f => exact .pure fun _ => .inl trivial
    | property getter =>
      refine .imp (.of (hi.call V getter _) fun hpre => ?_) fun _ _ _ _ h => .inl h
      exact List.forall_mem_singleton.mpr hpre.1.1
    | lazy getter =>
      refine .imp (.of (secure_readLazy hi id name getter) fun hpre => ?_) fun _ _ _ _ h => .inl h
      exact ⟨hpre.1.1, hpre.1.2.2⟩
    | slot =>
      dsimp only
      split
      · rename_i value hvalue
        refine .pure ?_
        rintro ⟨⟨hid, -, hname⟩, w', h⟩
        exact .inl ((h.seen id hid).slots.within_of_lookup hname hvalue)
      · exact .fail fun _ => Failure.within_attributeError _
    | routine =>
      dsimp only
      split
      · exact .pure fun _ => .inl trivial
      · exact .pure fun hpre => .inl hpre.1.1
    | field =>
      dsimp only
      split
      · rename_i hdict
        refine .imp (.of (secure_readPlace id) fun hpre => hpre.1.1) fun _ _ _ _ h => ?_
        exact .inr ⟨hdict, h⟩
      · exact .pure fun _ => .inl (within_readField w _ name)
    | constant => exact .pure fun _ => .inl (within_classConstants w _ name)
  · obtain ⟨hid, -, hname⟩ := hpre
    have hslots := (h.seen id hid).slots.lookup_eq hname
    have hconstants : w'.classConstants = w.classConstants :=
      World.eq_of_classes World.classConstants (fun _ => rfl) h.classes
    have hobject : (Value.object id).Within V := hid
    simp only [h.kind hid, hslots, World.emptySlot, h.label 200 hobject, readField_alike h hobject,
      hconstants]

theorem secure_readMember (hi : inner.IsSecure S) (id : ObjectId) (name : String) (member : Member) :
    Secure S V (V.seen id ∧ member.Within V ∧ S.Spares id name) (readMember inner id name member)
      Value.Within := by
  refine .spare (.of (secure_readMember_object hi id name member) ?_) fun hpre => hpre.2.2
  exact fun ⟨hid, hmember, hname⟩ => ⟨hid, hmember, hname.1⟩

theorem secure_callMember (hi : inner.IsSecure S) (id : ObjectId) (name : String) (member : Member)
    (arguments : List Value) :
    Secure S V (V.seen id ∧ member.Within V ∧ S.Spares id name ∧ ∀ a ∈ arguments, a.Within V)
      (callMember inner id name member arguments) Value.Within := by
  refine .bind (.of (secure_readMember hi id name member) ?_) fun V' hV method => ?_
  · exact fun ⟨hid, hmember, hname, _⟩ => ⟨hid, hmember, hname⟩
  · refine (secure_callWith hi.toIsCareful method arguments).of fun ⟨⟨_, _, _, ha⟩, hmethod⟩ => ⟨hmethod, ?_⟩
    exact fun a hmem => (ha a hmem).mono hV

theorem secure_readClassMember (hi : inner.IsSecure S) (c : ClassId) (name : String) (member : Member) :
    Secure S V (member.Within V) (readClassMember inner c name member) Value.Within := by
  refine .get_bind (fun w => ?_) fun hmember w w' h => ?_
  · cases member with
    | value v => exact (secure_readStanding hi.toIsCareful v none c).of fun ⟨hv, _⟩ => ⟨hv, nofun⟩
    | static f => exact .pure fun _ => trivial
    | classwide f => exact .pure fun _ => trivial
    | field => exact .pure fun _ => within_readField w _ name
    | _ => exact .pure fun ⟨hmember, _⟩ => within_standing w c name hmember
  · have htype : (Value.type c).Within V := trivial
    simp only [standing_alike h, readField_alike h htype]

/-! ## Reading -/

theorem secure_readOrdinary_object (hi : inner.IsSecure S) (id : ObjectId) (name : String) :
    Secure S V (V.seen id ∧ ¬ S.hides id name) (readOrdinary inner (.object id) name)
      (ReadWithin id name) := by
  refine .get_bind (fun w => ?_) fun ⟨hid, hname⟩ w w' h => ?_
  · dsimp only
    have hmember {member : Member} (hmember : w.classMember? (w.object id).kind name = some member) :
        Secure S V ((V.seen id ∧ ¬ S.hides id name) ∧ ∃ w', World.Alike S V w w')
          (readMember inner id name member) (ReadWithin id name) :=
      (secure_readMember_object hi id name member).of fun ⟨⟨hid, hname⟩, _, h⟩ =>
        ⟨hid, h.within_classMember? hmember, hname⟩
    have hstored {stored : Value} (hstored : (w.attributesOf id).lookup name = some stored) :
        Secure S V ((V.seen id ∧ ¬ S.hides id name) ∧ ∃ w', World.Alike S V w w') (pure stored)
          (ReadWithin id name) :=
      .pure fun ⟨⟨hid, hname⟩, _, h⟩ => .inl (h.within_lookup_attributesOf hid hname hstored)
    split <;> rename_i hclass hlookup
    · split
      · exact hmember hclass
      · exact hstored hlookup
    · exact hmember hclass
    · exact hstored hlookup
    · refine .fail fun _ => ?_
      exact Failure.within_attributeError _
  · have hobject : (Value.object id).Within V := hid
    simp only [h.classMember?, h.kind hid, h.lookup_attributesOf hid hname, h.missingAttribute name hobject]
    split <;> rename_i hclass _
    · rw [h.governs (h.within_classMember? hclass)]
    all_goals rfl

theorem within_missingAttribute (w : World) (value : Value) (name : String) :
    (w.missingAttribute value name).Within V := by
  cases value <;> exact Failure.within_attributeError _

theorem secure_readOrdinary_other (hi : inner.IsSecure S) (value : Value) (name : String)
    (hvalue : ∀ id, value ≠ .object id) :
    Secure S V (value.Within V) (readOrdinary inner value name) Value.Within := by
  refine .get_bind (fun w => ?_) fun hv w w' h => ?_
  · split
    · exact absurd rfl (hvalue _)
    · rename_i c
      split
      · rename_i member hmember
        refine (secure_readClassMember hi c name member).of ?_
        rintro ⟨hc, w', h⟩
        exact (h.member?_of_spares hc fun id heq => by cases heq).2 member hmember
      · exact .fail fun _ => within_missingAttribute w _ name
    · split
      · exact .pure fun _ => within_readField w value name
      · exact .pure And.left
      · exact .fail fun _ => within_missingAttribute w value name
  · cases value with
    | object id => exact absurd rfl (hvalue id)
    | type c =>
      have hspares : S.SparesValue (.type c) name := fun id heq => by cases heq
      simp only [(h.member?_of_spares hv hspares).1, h.missingAttribute name hv]
    | _ => simp only [readField_alike h hv, h.missingAttribute name hv]

theorem secure_readOrdinary (hi : inner.IsSecure S) (value : Value) (name : String) :
    Secure S V (value.Within V ∧ S.SparesValue value name) (readOrdinary inner value name)
      Value.Within :=
  secure_of_object_of_other (fun id => secure_readOrdinary_object hi id name)
    (fun other => secure_readOrdinary_other hi other name) value

theorem secure_readBare (hi : inner.IsSecure S) (value : Value) (name : String) :
    Secure S V (value.Within V ∧ S.SparesValue value name) (readBare inner value name) Value.Within := by
  by_cases htype : ∃ c, value = .type c
  · obtain ⟨c, rfl⟩ := htype
    refine .get_bind (fun w => ?_) fun ⟨hv, _⟩ w w' h => ?_
    · dsimp only
      split
      · rename_i hmember
        refine .pure fun ⟨_, w', h⟩ => ?_
        split
        · exact within_readField w _ name
        · exact within_standing w c name (h.within_member? hmember)
      · rename_i data hdata
        refine .pure fun _ => ?_
        unfold bareData? at hdata
        split at hdata
        · cases hdata
          exact within_readField w _ name
        · split at hdata
          · cases hdata
            exact within_standing w c name trivial
          · split at hdata
            · obtain ⟨slots, -, rfl⟩ := Option.map_eq_some_iff.mp hdata
              exact Value.within_tuple.mpr (by simp [Value.Within])
            · cases hdata
      · exact .fail fun _ => Failure.within_attributeError _
    · have hadds : w'.adds = w.adds := World.eq_of_classes World.adds (fun _ => rfl) h.classes
      simp only [bareData?, h.classOf, hadds, readField_alike h hv, standing_alike h, h.label 50 hv]
  · have hordinary : readBare inner value name = readOrdinary inner value name := by
      cases value with
      | type c => exact absurd ⟨c, rfl⟩ htype
      | _ => rfl
    rw [hordinary]
    exact secure_readOrdinary hi value name

/-- A hook of the class of an object is asked for an attribute. -/
theorem secure_callHook (hi : inner.IsSecure S) (id : ObjectId) (name : String) {hook : String}
    (hhook : S.Spares id hook) (member : Member) :
    Secure S V (V.seen id ∧ member.Within V) (callMember inner id hook member [.text name])
      (ReadWithin id name) := by
  refine .imp (.of (secure_callMember hi id hook member _) fun hpre => ?_) fun _ _ _ _ h => .inl h
  exact ⟨hpre.1, hpre.2, hhook, by simp [Value.Within]⟩

/-- A hook for all attributes is asked in place of the ordinary reading. -/
theorem secure_readIntercepted (hi : inner.IsSecure S) (id : ObjectId) (name : String) (w : World) :
    Secure S V ((V.seen id ∧ ¬ S.hides id name) ∧ ∃ w', World.Alike S V w w')
      (match w.ownMember? (w.object id).kind "__getattribute__" with
      | some member => callMember inner id "__getattribute__" member [.text name]
      | none => readOrdinary inner (.object id) name) (ReadWithin id name) := by
  split
  · rename_i member hmember
    refine (secure_callHook hi id name (S.spares_of_mem id (by decide) (by decide)) member).of ?_
    rintro ⟨⟨hid, -⟩, w', h⟩
    exact ⟨hid, h.within_ownMember? hmember⟩
  · exact (secure_readOrdinary_object hi id name).of And.left

theorem secure_readWith_object (hi : inner.IsSecure S) (id : ObjectId) (name : String) :
    Secure S V (V.seen id ∧ ¬ S.hides id name) (readWith inner (.object id) name) (ReadWithin id name) := by
  refine .get_bind (fun w => ?_) fun hpre w w' h => ?_
  · have hfirst := secure_readIntercepted (V := V) hi id name w
    dsimp only
    split
    · exact hfirst
    · rename_i member hmember
      refine .orElse hfirst fun V' hV failure => ?_
      split
      · refine (secure_callHook hi id name (S.spares_of_mem id (by decide) (by decide)) member).of ?_
        rintro ⟨⟨⟨hid, -⟩, w', h⟩, -⟩
        exact ⟨hV.1 id hid, (h.within_ownMember? hmember).mono hV⟩
      · exact .fail And.right
  · simp only [h.kind hpre.1, h.ownMember?]

theorem secure_readWith_other (hi : inner.IsSecure S) (value : Value) (name : String)
    (hvalue : ∀ id, value ≠ .object id) :
    Secure S V (value.Within V) (readWith inner value name) Value.Within := by
  refine .get_bind (fun w => ?_) fun _ w w' h => ?_
  · split
    · exact absurd rfl (hvalue _)
    · exact (secure_readOrdinary_other hi value name hvalue).of And.left
  · cases value with
    | object id => exact absurd rfl (hvalue id)
    | _ => rfl

theorem secure_readWith (hi : inner.IsSecure S) (value : Value) (name : String) :
    Secure S V (value.Within V ∧ S.SparesValue value name) (readWith inner value name) Value.Within :=
  secure_of_object_of_other (fun id => secure_readWith_object hi id name)
    (fun other => secure_readWith_other hi other name) value

/-! ## Truth -/

/-- A member of the class of a value, one that some operation on all values calls, is called. -/
theorem secure_callSpecialMember (hi : inner.IsSecure S) {id : ObjectId} {name : String} {member : Member}
    {w : World} {arguments : List Value} (hname : name ∈ consulted) (hdict : name ≠ "__dict__")
    (hmember : w.specialMember? (.object id) name = some member)
    (hwithin : pre → (Value.object id).Within V ∧ ∀ a ∈ arguments, a.Within V) :
    Secure S V (pre ∧ ∃ w', World.Alike S V w w') (callMember inner id name member arguments) Value.Within :=
  (secure_callMember hi id name member arguments).of fun ⟨hpre, _, h⟩ =>
    ⟨(hwithin hpre).1, h.within_specialMember? hmember, S.spares_of_mem id hname hdict, (hwithin hpre).2⟩

theorem secure_indexWith (hi : inner.IsSecure S) (value : Value) :
    Secure S V (value.Within V) (indexWith inner value) Anything := by
  cases value with
  | bool b => exact .pure fun _ => trivial
  | int i => exact .pure fun _ => trivial
  | object id =>
    refine .get_bind (fun w => ?_) fun hv w w' h => ?_
    · split
      · rename_i member hmember
        refine .bind (secure_callSpecialMember hi (by decide) (by decide) hmember ?_) fun V' hV made => ?_
        · exact fun hv => ⟨hv, List.forall_mem_nil _⟩
        · split
          · exact .pure fun _ => trivial
          · exact .pure fun _ => trivial
          · exact .refuse fun hpre w w' h => by rw [h.formalName hpre.2]
      · exact .fail fun _ => Failure.within_typeError _
    · simp only [h.specialMember? hv, World.notIndex, h.label 200 hv]
  | _ =>
    exact .refuse fun hv w w' h => by rw [h.label 200 hv]

theorem secure_truthWith (hi : inner.IsSecure S) (value : Value) :
    Secure S V (value.Within V) (truthWith inner value) Anything := by
  refine .get_bind (fun w => ?_) fun hv w w' h => ?_
  · split
    · rename_i id
      split
      · rename_i member hmember
        refine .bind (secure_callSpecialMember hi (by decide) (by decide) hmember ?_) fun V' hV made => ?_
        · exact fun hv => ⟨hv, List.forall_mem_nil _⟩
        · split
          · exact .pure fun _ => trivial
          · exact .refuse fun hpre w w' h => by rw [h.formalName hpre.2]
      · rename_i member hmember
        refine .bind (secure_callSpecialMember hi (by decide) (by decide) hmember ?_) fun V' hV made => ?_
        · exact fun hv => ⟨hv, List.forall_mem_nil _⟩
        · refine .bind (.of (secure_indexWith hi made) And.right) fun V'' hV' length => ?_
          split
          · exact .fail fun _ => Failure.within_ofMessage .valueError _
          · split
            · exact .fail fun _ => Failure.within_ofMessage .overflowError _
            · exact .pure fun _ => trivial
      · exact .pure fun _ => trivial
    · exact .pure fun _ => trivial
  · cases value with
    | object id => simp only [h.specialMember? hv, h.isTrue hv]
    | _ => simp only [h.isTrue hv]

theorem secure_orOther (hi : inner.IsSecure S) (value other : Value) :
    Secure S V (value.Within V ∧ other.Within V) (orOther inner value other) Value.Within := by
  refine .bind (.of (secure_truthWith hi value) And.left) fun V' hV isTrue => ?_
  split
  · exact .pure fun ⟨⟨hv, _⟩, _⟩ => hv.mono hV
  · exact .pure fun ⟨⟨_, hother⟩, _⟩ => hother.mono hV

/-! ## Items and built-in methods -/

theorem secure_itemWith (hi : inner.IsSecure S) (value key : Value) :
    Secure S V (value.Within V ∧ key.Within V) (itemWith inner value key) Value.Within := by
  have hmissing : key.Within V → (Failure.plain (.standard .keyError) [key]).Within V := List.forall_mem_singleton.mpr
  refine .get_bind (fun w => ?_) fun hpre w w' h => ?_
  · extract_lets missing
    split
    · split
      · rename_i found hfound
        refine .pure fun hpre => ?_
        exact Value.within_of_entry?_eq_some (Value.within_mapping.mp hpre.1.1) hfound
      · exact .fail fun hpre => hmissing hpre.1.2
    · rename_i id
      have hfound {found : Value} (hfound : Value.entry? key (w.object id).entries = some found) :
          Secure S V (((Value.object id).Within V ∧ key.Within V) ∧ ∃ w', World.Alike S V w w')
            (pure found) Value.Within := by
        refine .pure ?_
        rintro ⟨⟨hv, -⟩, _, h⟩
        exact Value.within_of_entry?_eq_some (h.seen id hv).within_entries hfound
      have hcall {name : String} {member : Member} (hname : name ∈ consulted) (hdict : name ≠ "__dict__")
          (hmember : w.specialMember? (.object id) name = some member) :
          Secure S V (((Value.object id).Within V ∧ key.Within V) ∧ ∃ w', World.Alike S V w w')
            (callMember inner id name member [key]) Value.Within :=
        secure_callSpecialMember hi hname hdict hmember (And.imp_right List.forall_mem_singleton.mpr)
      split
      · rename_i member hmember
        exact hcall (by decide) (by decide) hmember
      · extract_lets o
        split
        · rename_i hentry
          exact hfound hentry
        · rename_i hentry
          exact hfound hentry
        · split
          · rename_i member hmember
            exact hcall (by decide) (by decide) hmember
          · exact .fail fun hpre => hmissing hpre.1.2
        · exact .fail fun hpre => hmissing hpre.1.2
        · exact .fail fun _ => Failure.within_typeError _
    · exact .fail fun _ => Failure.within_typeError _
  · obtain ⟨hv, -⟩ := hpre
    cases value with
    | mapping kind entries => rfl
    | object id =>
      simp only [h.specialMember? hv, h.mappingBase?, h.kind hv, (h.seen id hv).entries, World.noItems,
        h.label 200 hv]
    | _ => simp only [World.noItems, h.label 200 hv]

/-- The built-in methods of values that are seen. -/
theorem secure_callBuiltin (hi : inner.IsSecure S) (receiver : Value) (name : String)
    (arguments : List Value) :
    Secure S V (receiver.Within V ∧ ∀ a ∈ arguments, a.Within V) (callBuiltin inner receiver name arguments)
      Value.Within := by
  have hotherwise (ha : ∀ a ∈ arguments, a.Within V) : ((arguments[1]?).getD Value.null).Within V :=
    Value.within_getD_null fun v hv => ha v (List.mem_of_getElem? hv)
  have hfound {key : Value} {entries : List (Value × Value)}
      (hentries : ∀ e ∈ entries, e.1.Within V ∧ e.2.Within V) (ha : ∀ a ∈ arguments, a.Within V) :
      ((Value.entry? key entries).getD ((arguments[1]?).getD Value.null)).Within V := by
    cases hentry : Value.entry? key entries with
    | none => exact hotherwise ha
    | some found => exact Value.within_of_entry?_eq_some hentries hentry
  refine .get_bind (fun w => ?_) fun ⟨hv, _⟩ w w' h => ?_
  · extract_lets otherwise
    split
    · exact .pure fun _ => trivial
    · exact .pure fun ⟨⟨hv, ha⟩, _⟩ => hfound (Value.within_mapping.mp hv) ha
    · rename_i id key hkey
      split
      · exact .pure fun ⟨⟨hv, ha⟩, _, h⟩ => hfound (h.seen id hv).within_entries ha
      · refine .orElse (.of (secure_itemWith hi _ key) fun ⟨⟨hv, ha⟩, _⟩ => ⟨hv, ?_⟩) fun V' hV failure => ?_
        · exact ha key (List.mem_of_mem_head? hkey)
        · split
          · exact .pure fun ⟨⟨⟨_, ha⟩, _⟩, _⟩ => (hotherwise ha).mono hV
          · exact .fail And.right
    · exact .fail fun _ => Failure.within_typeError _
    · exact .fail fun _ => Failure.within_typeError _
  · dsimp only
    split
    · rfl
    · rfl
    · simp only [h.mappingBase?, h.kind hv, (h.seen _ hv).entries]
    · rfl
    · rfl

end Run

end SqlTemplate
