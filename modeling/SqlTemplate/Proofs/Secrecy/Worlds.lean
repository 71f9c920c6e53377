import SqlTemplate.Proofs.Secrecy.Alike
/-!
# Two worlds that differ in secrets

`World.Alike` relates two worlds that run the same program, in which the objects that can be seen are the same but for
secrets. What is told of values by looking at them is the same in both, as long as no secret is looked up. The relation
is kept when the same change is made to both worlds.
-/

namespace SqlTemplate

/-! ## Objects -/

/-- An object is the same in two worlds, but for secrets. -/
structure ObjectAlike (S : Secrets) (V : Scope) (inert inert' : Value → Prop) (id : ObjectId)
    (o o' : Object) : Prop where
  kind : o'.kind = o.kind
  place : o'.place = o.place
  entries : o'.entries = o.entries
  within_entries : ∀ entry ∈ o.entries, entry.1.Within V ∧ entry.2.Within V
  slots : NamedAlike V inert inert' (S.hides id) o.slots o'.slots
  attributes : NamedAlike V inert inert' (S.hides id) o.attributes o'.attributes
  placed : ∀ place, o.place = some place → V.seen place ∨ V.held id place

/-- A mapping that holds the attributes of an object has nothing else, and is the same in two worlds, but for secrets of
the object. -/
structure HeldAlike (S : Secrets) (V : Scope) (inert inert' : Value → Prop) (owner : ObjectId)
    (o o' : Object) : Prop where
  bare : o = { Object.ofKind (World.mappingClass .plain) with entries := o.entries }
  bare' : o' = { Object.ofKind (World.mappingClass .plain) with entries := o'.entries }
  entries : EntriesAlike V inert inert' (S.hides owner) o.entries o'.entries

section

variable {S : Secrets} {V V' : Scope} {inert inert' inert₁ inert₁' : Value → Prop} {o o' : Object}

theorem ObjectAlike.mono {id : ObjectId} (h : ObjectAlike S V inert inert' id o o') (hV : V ≤ V')
    (hinert : ∀ v, inert v → inert₁ v) (hinert' : ∀ v, inert' v → inert₁' v) :
    ObjectAlike S V' inert₁ inert₁' id o o' where
  kind := h.kind
  place := h.place
  entries := h.entries
  within_entries entry hmem :=
    ⟨(h.within_entries entry hmem).1.mono hV, (h.within_entries entry hmem).2.mono hV⟩
  slots := h.slots.mono hV hinert hinert'
  attributes := h.attributes.mono hV hinert hinert'
  placed place hplace := (h.placed place hplace).imp (hV.1 place) (hV.2 id place)

theorem HeldAlike.mono {owner : ObjectId} (h : HeldAlike S V inert inert' owner o o') (hV : V ≤ V')
    (hinert : ∀ v, inert v → inert₁ v) (hinert' : ∀ v, inert' v → inert₁' v) :
    HeldAlike S V' inert₁ inert₁' owner o o' :=
  ⟨h.bare, h.bare', h.entries.mono hV hinert hinert'⟩

/-- A mapping that holds the attributes of an object without secrets may be seen. -/
theorem HeldAlike.objectAlike {owner : ObjectId} (h : HeldAlike S V inert inert' owner o o')
    (hnone : ∀ name, ¬ S.hides owner name) (id : ObjectId) : ObjectAlike S V inert inert' id o o' := by
  obtain ⟨heq, hwithin⟩ := h.entries.eq_of_forall hnone
  have hsame : o' = o := by rw [h.bare', h.bare, heq]
  refine ⟨by rw [hsame], by rw [hsame], heq, hwithin, ?_, ?_, ?_⟩
  · rw [hsame, h.bare]
    exact .nil
  · rw [hsame, h.bare]
    exact .nil
  · intro place hplace
    rw [h.bare] at hplace
    cases hplace

end

/-! ## Worlds -/

namespace World

/-! ### The class of plain mappings -/

theorem ownMember?_plain {w : World} (hplain : w.classOf (mappingClass .plain) = .ofMappings .plain)
    (name : String) : w.ownMember? (mappingClass .plain) name = none := by
  have hancestors : (Class.ofMappings .plain).ancestors = [] := rfl
  have hmember : (Class.ofMappings .plain).member? name = none := by
    simp [Class.member?, Class.ofMappings, Class.places, hasName]
  rw [World.ownMember?, World.lineage, hplain, hancestors, List.findSome?_cons, hplain, hmember]
  rfl

theorem mappingBase?_plain {w : World} (hplain : w.classOf (mappingClass .plain) = .ofMappings .plain) :
    w.mappingBase? (mappingClass .plain) = some .builtin := by
  simp [World.mappingBase?, World.lineage, hplain, Class.ofMappings]

/-! ### Alike worlds -/

/-- Two worlds run the same program, and the objects that can be seen are the same in both but for secrets. -/
structure Alike (S : Secrets) (V : Scope) (w w' : World) : Prop where
  classes : w'.classes = w.classes
  functions : w'.functions = w.functions
  depth : w'.depth = w.depth
  done : w'.done = w.done
  calls : w'.calls = w.calls
  reads : w'.reads = w.reads
  length_objects : w'.objects.length = w.objects.length
  plain : w.classOf (mappingClass .plain) = .ofMappings .plain
  admits : w.Admits S
  within_members : ∀ c ∈ w.classes, ∀ entry ∈ c.members, entry.2.Within V
  within_functions : ∀ f ∈ w.functions, f.Within V
  lt_of_seen : ∀ id, V.seen id → id < w.objects.length
  seen : ∀ id, V.seen id →
    ObjectAlike S V (w.IsInert S) (w'.IsInert S) id (w.object id) (w'.object id)
  lt_of_held : ∀ owner place, V.held owner place → place < w.objects.length
  held : ∀ owner place, V.held owner place → ¬ V.seen place →
    HeldAlike S V (w.IsInert S) (w'.IsInert S) owner (w.object place) (w'.object place)

namespace Alike

variable {S : Secrets} {V : Scope} {w w' : World}

/-! ### The program -/

theorem classOf (h : Alike S V w w') : w'.classOf = w.classOf :=
  eq_of_classes World.classOf (fun _ => rfl) h.classes

theorem lineage (h : Alike S V w w') : w'.lineage = w.lineage :=
  eq_of_classes World.lineage (fun _ => rfl) h.classes

theorem ownMember? (h : Alike S V w w') : w'.ownMember? = w.ownMember? :=
  eq_of_classes World.ownMember? (fun _ => rfl) h.classes

theorem classMember? (h : Alike S V w w') : w'.classMember? = w.classMember? :=
  eq_of_classes World.classMember? (fun _ => rfl) h.classes

theorem mappingBase? (h : Alike S V w w') : w'.mappingBase? = w.mappingBase? :=
  eq_of_classes World.mappingBase? (fun _ => rfl) h.classes

theorem standard? (h : Alike S V w w') : w'.standard? = w.standard? :=
  eq_of_classes World.standard? (fun _ => rfl) h.classes

theorem buildOf (h : Alike S V w w') : w'.buildOf = w.buildOf :=
  buildOf_eq_of_classes h.classes

theorem function (h : Alike S V w w') : w'.function = w.function := by
  funext id
  rw [World.function, World.function, h.functions]

/-- What a class has under a name is within the scope. -/
theorem within_member? (h : Alike S V w w') {c : ClassId} {name : String} {member : Member}
    (hmember : (w.classOf c).member? name = some member) : member.Within V := by
  rw [Class.member?] at hmember
  split at hmember
  · rename_i found hfound
    cases hmember
    have hmem : (name, member) ∈ (w.classOf c).members := mem_of_lookup hfound
    rw [World.classOf, List.getD_eq_getElem?_getD] at hmem
    rcases hclass : w.classes[c]? with _ | found
    · rw [hclass] at hmem
      cases hmem
    · rw [hclass] at hmem
      exact h.within_members found (List.mem_of_getElem? hclass) _ hmem
  · split at hmember
    · cases hmember
      trivial
    · split at hmember <;> cases hmember
      trivial

theorem within_ownMember? (h : Alike S V w w') {c : ClassId} {name : String} {member : Member}
    (hmember : w.ownMember? c name = some member) : member.Within V := by
  obtain ⟨k, -, hk⟩ := List.exists_of_findSome?_eq_some hmember
  exact h.within_member? hk

theorem within_classMember? (h : Alike S V w w') {c : ClassId} {name : String} {member : Member}
    (hmember : w.classMember? c name = some member) : member.Within V := by
  unfold World.classMember? at hmember
  extract_lets own at hmember
  cases hown : own with
  | some found =>
    rw [hown] at hmember
    cases hmember
    simp only [own] at hown
    split at hown
    · obtain ⟨k, -, hk⟩ := List.exists_of_findSome?_eq_some hown
      dsimp only at hk
      split at hk
      · rename_i found hfound
        cases hk
        exact h.within_member? hfound
      · split at hk <;> cases hk
        trivial
    · exact h.within_ownMember? hown
  | none =>
    rw [hown] at hmember
    dsimp only at hmember
    repeat' split at hmember
    all_goals cases hmember
    all_goals trivial

theorem within_function (h : Alike S V w w') (id : FunctionId) : (w.function id).Within V := by
  rw [World.function, List.getD_eq_getElem?_getD]
  rcases hf : w.functions[id]? with _ | f
  · refine ⟨fun parameter hparameter => ?_, fun argument step hstep => ?_⟩
    · cases hparameter
    · cases hstep
  · exact h.within_functions f (List.mem_of_getElem? hf)

/-- A mapping that is held for an object is a plain one. -/
theorem held_kind (h : Alike S V w w') {owner place : ObjectId} (hheld : V.held owner place)
    (hunseen : ¬ V.seen place) :
    (w.object place).kind = mappingClass .plain ∧ (w'.object place).kind = mappingClass .plain := by
  have hplace := h.held owner place hheld hunseen
  rw [hplace.bare, hplace.bare']
  exact ⟨rfl, rfl⟩

/-! ### What is told of a value -/

theorem kind (h : Alike S V w w') {id : ObjectId} (hid : V.seen id) :
    (w'.object id).kind = (w.object id).kind :=
  (h.seen id hid).kind

theorem specialMember? (h : Alike S V w w') {v : Value} (hv : v.Within V) :
    w'.specialMember? v = w.specialMember? v := by
  funext name
  cases v with
  | object id => simp only [World.specialMember?, h.ownMember?, h.kind hv]
  | _ => rfl

theorem within_specialMember? (h : Alike S V w w') {v : Value} {name : String} {member : Member}
    (hmember : w.specialMember? v name = some member) : member.Within V := by
  cases v with
  | object id => exact h.within_ownMember? hmember
  | _ => cases hmember

theorem kindName (h : Alike S V w w') {v : Value} (hv : v.Within V) : w'.kindName v = w.kindName v := by
  cases v with
  | object id => simp only [World.kindName, h.classOf, h.kind hv]
  | type c =>
    have hprotocol : w'.implementsProtocol = w.implementsProtocol :=
      eq_of_classes World.implementsProtocol (fun _ => rfl) h.classes
    simp only [World.kindName, hprotocol]
  | _ => rfl

theorem formalName (h : Alike S V w w') {v : Value} (hv : v.Within V) :
    w'.formalName v = w.formalName v := by
  cases v with
  | object id => simp only [World.formalName, h.standard?, h.kind hv, h.kindName hv]
  | mapping kind entries => cases kind <;> rfl
  | _ => exact h.kindName hv

theorem label (h : Alike S V w w') (limit : Nat) {v : Value} (hv : v.Within V) :
    w'.label limit v = w.label limit v := by
  rw [World.label, World.label, h.formalName hv]

theorem missingAttribute (h : Alike S V w w') (name : String) {v : Value} (hv : v.Within V) :
    w'.missingAttribute v name = w.missingAttribute v name := by
  cases v with
  | type c => simp only [World.missingAttribute, h.classOf]
  | method receiver id => rfl
  | _ => simp only [World.missingAttribute, h.label 50 hv]

theorem entriesOf? (h : Alike S V w w') {v : Value} (hv : v.Within V) :
    w'.entriesOf? v = w.entriesOf? v := by
  cases v with
  | object id => simp only [World.entriesOf?, h.mappingBase?, h.kind hv, (h.seen id hv).entries]
  | _ => rfl

theorem within_entriesOf? (h : Alike S V w w') {v : Value} (hv : v.Within V)
    {entries : List (Value × Value)} (hentries : w.entriesOf? v = some entries) :
    ∀ entry ∈ entries, entry.1.Within V ∧ entry.2.Within V := by
  cases v with
  | mapping kind entries =>
    cases hentries
    exact Value.within_mapping.mp hv
  | object id =>
    simp only [World.entriesOf?] at hentries
    split at hentries <;> cases hentries
    all_goals exact (h.seen id hv).within_entries
  | _ => cases hentries

theorem isTrue (h : Alike S V w w') {v : Value} (hv : v.Within V) : w'.isTrue v = w.isTrue v := by
  cases v with
  | object id => simp only [World.isTrue, h.entriesOf? hv]
  | _ => rfl

theorem isReader (h : Alike S V w w') {v : Value} (hv : v.Within V) : w'.isReader v = w.isReader v := by
  rw [World.isReader, World.isReader, h.specialMember? hv]

theorem isSetter (h : Alike S V w w') {v : Value} (hv : v.Within V) : w'.isSetter v = w.isSetter v := by
  rw [World.isSetter, World.isSetter, h.specialMember? hv]

theorem governs (h : Alike S V w w') {member : Member} (hm : member.Within V) :
    w'.governs member = w.governs member := by
  cases member with
  | value v => simp only [World.governs, h.isReader (v := v) hm, h.isSetter (v := v) hm]
  | _ => rfl

/-- The attributes of an object are the same but for secrets, also if a mapping holds them. -/
theorem attributesOf (h : Alike S V w w') {id : ObjectId} (hid : V.seen id) :
    NamedAlike V (w.IsInert S) (w'.IsInert S) (S.hides id) (w.attributesOf id) (w'.attributesOf id) := by
  have hobject := h.seen id hid
  unfold World.attributesOf
  rw [hobject.place]
  cases hplace : (w.object id).place with
  | none => exact hobject.attributes
  | some place =>
    by_cases hseen : V.seen place
    · have hentries := h.seen place hseen
      dsimp only
      rw [hentries.entries]
      exact (EntriesAlike.of_within hentries.within_entries).namedEntries
    · have hheld := (hobject.placed place hplace).resolve_left hseen
      exact (h.held id place hheld hseen).entries.namedEntries

theorem lookup_attributesOf (h : Alike S V w w') {id : ObjectId} (hid : V.seen id) {name : String}
    (hname : ¬ S.hides id name) :
    (w'.attributesOf id).lookup name = (w.attributesOf id).lookup name :=
  (h.attributesOf hid).lookup_eq hname

theorem within_lookup_attributesOf (h : Alike S V w w') {id : ObjectId} (hid : V.seen id) {name : String}
    (hname : ¬ S.hides id name) {v : Value} (hv : (w.attributesOf id).lookup name = some v) :
    v.Within V :=
  (h.attributesOf hid).within_of_lookup hname hv

theorem hidesAttributes (h : Alike S V w w') : w'.hidesAttributes = w.hidesAttributes :=
  eq_of_classes World.hidesAttributes (fun _ => rfl) h.classes

/-- An object has the same member under a name in both worlds, or two attributes that are secret. -/
theorem objectMember?_cases (h : Alike S V w w') {id : ObjectId} (hid : V.seen id) (name : String) :
    (w'.objectMember? id name = w.objectMember? id name ∧
        ∀ member ∈ w.objectMember? id name, member.Within V) ∨
      S.hides id name ∧ ∃ v v', w.objectMember? id name = some (.value v) ∧
        w'.objectMember? id name = some (.value v') ∧ w.IsInert S v ∧ w'.IsInert S v' := by
  have hclass {member : Member} (hmember : w.classMember? (w.object id).kind name = some member) :
      member.Within V := h.within_classMember? hmember
  simp only [World.objectMember?, h.kind hid, h.hidesAttributes, h.classMember?]
  by_cases hhides : w.hidesAttributes (w.object id).kind = true
  · left
    rw [if_pos hhides, if_pos hhides]
    cases hmember : w.classMember? (w.object id).kind name with
    | none => exact ⟨rfl, nofun⟩
    | some member => exact ⟨rfl, fun _ heq => by cases heq; exact hclass hmember⟩
  · rw [if_neg hhides, if_neg hhides]
    rcases (h.attributesOf hid).lookup_cases name with ⟨hnone, hnone'⟩ | ⟨v, v', hsome, hsome', hv⟩
    · left
      rw [hnone, hnone']
      cases hmember : w.classMember? (w.object id).kind name with
      | none => exact ⟨rfl, nofun⟩
      | some member => exact ⟨rfl, fun _ heq => by cases heq; exact hclass hmember⟩
    · have hstored {found found' : Option Member} (hfound : found = some (.value v))
          (hfound' : found' = some (.value v')) :
          (found' = found ∧ ∀ member ∈ found, member.Within V) ∨ S.hides id name ∧ ∃ v v',
            found = some (.value v) ∧ found' = some (.value v') ∧ w.IsInert S v ∧ w'.IsInert S v' := by
        rw [hfound, hfound']
        rcases hv with ⟨rfl, hv⟩ | ⟨hsecret, hv, hv'⟩
        · exact .inl ⟨rfl, fun _ heq => by cases heq; exact hv⟩
        · exact .inr ⟨hsecret, v, v', rfl, rfl, hv, hv'⟩
      rw [hsome, hsome']
      cases hmember : w.classMember? (w.object id).kind name with
      | none => exact hstored rfl rfl
      | some member =>
        dsimp only
        rw [h.governs (hclass hmember)]
        split
        · exact .inl ⟨rfl, fun _ heq => by cases heq; exact hclass hmember⟩
        · exact hstored rfl rfl

/-- A member is the same in both worlds if it is found under a name that is no secret. -/
theorem member?_of_spares (h : Alike S V w w') {v : Value} (hv : v.Within V) {name : String}
    (hname : S.SparesValue v name) :
    w'.member? v name = w.member? v name ∧ ∀ member ∈ w.member? v name, member.Within V := by
  have hbuiltin (value : Value) : ∀ member ∈ value.builtinMember? name, member.Within V := by
    intro member hmember
    unfold Value.builtinMember? at hmember
    repeat' split at hmember
    all_goals cases hmember
    all_goals trivial
  cases v with
  | object id => exact (h.objectMember?_cases hv name).resolve_right fun hsecret => (hname id rfl).1 hsecret.1
  | type c =>
    simp only [World.member?, h.classMember?, true_and]
    intro member hmember
    split at hmember <;> rename_i hclass
    · cases hmember
      exact h.within_classMember? hclass
    · exact hbuiltin _ member hmember
  | _ => exact ⟨rfl, hbuiltin _⟩

/-! ### The same change in both worlds -/

/-- Noting something keeps worlds alike. -/
theorem note (h : Alike S V w w') {w₁ w₁' : World} (hw : w.Extends S w₁) (hw' : w'.Extends S w₁')
    (hobjects : w₁.objects = w.objects) (hobjects' : w₁'.objects = w'.objects)
    (hdone : w₁'.done = w₁.done) (hcalls : w₁'.calls = w₁.calls) (hreads : w₁'.reads = w₁.reads) :
    Alike S V w₁ w₁' := by
  have hobject id : w₁.object id = w.object id := by rw [World.object, World.object, hobjects]
  have hobject' id : w₁'.object id = w'.object id := by rw [World.object, World.object, hobjects']
  have hinert v (hv : w.IsInert S v) := hv.of_extends hw
  have hinert' v (hv : w'.IsInert S v) := hv.of_extends hw'
  refine ⟨?_, ?_, ?_, hdone, hcalls, hreads, ?_, ?_, hw.admits h.admits, ?_, ?_, ?_, ?_, ?_, ?_⟩
  · rw [hw.classes, hw'.classes, h.classes]
  · rw [hw.functions, hw'.functions, h.functions]
  · rw [hw.depth, hw'.depth, h.depth]
  · rw [hobjects, hobjects', h.length_objects]
  · rw [World.classOf, hw.classes]
    exact h.plain
  · rw [hw.classes]
    exact h.within_members
  · rw [hw.functions]
    exact h.within_functions
  · rw [hobjects]
    exact h.lt_of_seen
  · intro id hid
    rw [hobject, hobject']
    exact (h.seen id hid).mono le_rfl hinert hinert'
  · rw [hobjects]
    exact h.lt_of_held
  · intro owner place hplace hunseen
    rw [hobject, hobject']
    exact (h.held owner place hplace hunseen).mono le_rfl hinert hinert'

/-- A change of an object keeps worlds alike if the object stays alike. -/
theorem updateObject_of_extends (h : Alike S V w w') {id : ObjectId} {change change' : Object → Object}
    (hextends : w.Extends S (w.updateObject id change)) (hextends' : w'.Extends S (w'.updateObject id change'))
    (hseen : V.seen id → ObjectAlike S V (w.IsInert S) (w'.IsInert S) id (change (w.object id)) (change' (w'.object id)))
    (hheld : ∀ owner, V.held owner id → ¬ V.seen id →
      HeldAlike S V (w.IsInert S) (w'.IsInert S) owner (change (w.object id)) (change' (w'.object id))) :
    Alike S V (w.updateObject id change) (w'.updateObject id change') := by
  have hinert v (hv : w.IsInert S v) := hv.of_extends hextends
  have hinert' v (hv : w'.IsInert S v) := hv.of_extends hextends'
  have hlength : (w.updateObject id change).objects.length = w.objects.length := by
    simp [World.updateObject]
  refine { h with length_objects := ?_, lt_of_seen := ?_, seen := ?_, lt_of_held := ?_, held := ?_ }
  · simp [World.updateObject, h.length_objects]
  · intro other hother
    rw [hlength]
    exact h.lt_of_seen other hother
  · intro other hother
    rw [object_updateObject, object_updateObject, h.length_objects]
    split
    · rename_i hid
      obtain ⟨rfl, -⟩ := hid
      exact (hseen hother).mono le_rfl hinert hinert'
    · exact (h.seen other hother).mono le_rfl hinert hinert'
  · intro owner place hplace
    rw [hlength]
    exact h.lt_of_held owner place hplace
  · intro owner place hplace hunseen
    rw [object_updateObject, object_updateObject, h.length_objects]
    split
    · rename_i hid
      obtain ⟨rfl, -⟩ := hid
      exact (hheld owner hplace hunseen).mono le_rfl hinert hinert'
    · exact (h.held owner place hplace hunseen).mono le_rfl hinert hinert'

theorem updateObject (h : Alike S V w w') {id : ObjectId} {change change' : Object → Object}
    (hkind : (change (w.object id)).kind = (w.object id).kind)
    (hkind' : (change' (w'.object id)).kind = (w'.object id).kind)
    (hseen : V.seen id → ObjectAlike S V (w.IsInert S) (w'.IsInert S) id (change (w.object id)) (change' (w'.object id)))
    (hheld : ∀ owner, V.held owner id → ¬ V.seen id →
      HeldAlike S V (w.IsInert S) (w'.IsInert S) owner (change (w.object id)) (change' (w'.object id))) :
    Alike S V (w.updateObject id change) (w'.updateObject id change') :=
  h.updateObject_of_extends (extends_updateObject w id change hkind) (extends_updateObject w' id change' hkind') hseen
    hheld

/-- The scope grows with an object that was made in both worlds. -/
theorem addObject (h : Alike S V w w') {V' : Scope} {o o' : Object} (hV : V ≤ V')
    (hseen : ∀ id, V'.seen id → V.seen id ∨ id = w.objects.length)
    (hheld : ∀ owner place, V'.held owner place → V.held owner place ∨ place = w.objects.length)
    (hnew : V'.seen w.objects.length → ObjectAlike S V' (w.IsInert S) (w'.IsInert S) w.objects.length o o')
    (hnew' : ∀ owner, V'.held owner w.objects.length → HeldAlike S V' (w.IsInert S) (w'.IsInert S) owner o o') :
    Alike S V' (w.addObject o).2 (w'.addObject o').2 := by
  have hinert v (hv : w.IsInert S v) := hv.of_extends (extends_addObject w o)
  have hinert' v (hv : w'.IsInert S v) := hv.of_extends (extends_addObject w' o')
  have hlength : (w.addObject o).2.objects.length = w.objects.length + 1 := by simp [World.addObject]
  have hfresh := object_addObject_length w o
  have hfresh' := object_addObject_length w' o'
  rw [h.length_objects] at hfresh'
  have hold {id : ObjectId} (hid : id < w.objects.length) := object_addObject_of_lt w o hid
  have hold' {id : ObjectId} (hid : id < w.objects.length) :=
    object_addObject_of_lt w' o' (h.length_objects ▸ hid)
  refine { h with
    length_objects := by simp [World.addObject, h.length_objects]
    within_members := fun c hc entry hentry => (h.within_members c hc entry hentry).mono hV
    within_functions := fun f hf => (h.within_functions f hf).mono hV
    lt_of_seen := ?_, seen := ?_, lt_of_held := ?_, held := ?_ }
  · intro id hid
    rw [hlength]
    rcases hseen id hid with hid | rfl
    · exact Nat.lt_succ_of_lt (h.lt_of_seen id hid)
    · exact Nat.lt_succ_self _
  · intro id hid
    rcases hseen id hid with hid | rfl
    · rw [hold (h.lt_of_seen id hid), hold' (h.lt_of_seen id hid)]
      exact (h.seen id hid).mono hV hinert hinert'
    · rw [hfresh, hfresh']
      exact (hnew hid).mono le_rfl hinert hinert'
  · intro owner place hplace
    rw [hlength]
    rcases hheld owner place hplace with hplace | rfl
    · exact Nat.lt_succ_of_lt (h.lt_of_held owner place hplace)
    · exact Nat.lt_succ_self _
  · intro owner place hplace hunseen
    rcases hheld owner place hplace with hplace | rfl
    · have hlt := h.lt_of_held owner place hplace
      rw [hold hlt, hold' hlt]
      exact (h.held owner place hplace fun hseen => hunseen (hV.1 place hseen)).mono hV hinert hinert'
    · rw [hfresh, hfresh']
      exact (hnew' owner hplace).mono le_rfl hinert hinert'

/-- A mapping that holds the attributes of an object comes to be seen. -/
theorem see_of_held (h : Alike S V w w') {owner place : ObjectId} (hplace : V.held owner place)
    (hnone : ∀ name, ¬ S.hides owner name) : Alike S (V.see place) w w' := by
  have hV := V.le_see place
  refine { h with
    within_members := fun c hc entry hentry => (h.within_members c hc entry hentry).mono hV
    within_functions := fun f hf => (h.within_functions f hf).mono hV
    lt_of_seen := ?_, seen := ?_, held := ?_ }
  · rintro id (hid | rfl)
    · exact h.lt_of_seen id hid
    · exact h.lt_of_held owner id hplace
  · rintro id hid
    by_cases hseen : V.seen id
    · exact (h.seen id hseen).mono hV (fun _ hv => hv) (fun _ hv => hv)
    · obtain rfl := hid.resolve_left hseen
      exact ((h.held owner id hplace hseen).objectAlike hnone id).mono hV (fun _ hv => hv) (fun _ hv => hv)
  · intro owner' place' hplace' hunseen
    exact (h.held owner' place' hplace' fun hseen => hunseen (.inl hseen)).mono hV (fun _ hv => hv)
      (fun _ hv => hv)

end Alike

end World

end SqlTemplate
