import SqlTemplate.Proofs.Resolve.Denial
/-!
# Public fields

A field is looked for without running code, and read the ordinary way. Both go through the class and the attributes of
an object, and ought to agree on what the object has under a name, so that a field that can be read is found. They do
for attributes, slots, built-in data, values of the class and properties, and for what a class supplies by
`__getattr__`.

They do not for three kinds of members. A value that is computed at its first reading and an object that only takes part
in reading count as methods, though what is read there is data. And the attributes of an object whose class has a member
in front of them are read, but not found.

`segment_field` is the main theorem: without accessor methods, a field that can be read is what the qualifier stands for,
unless it is of one of these kinds; and what counts as a method is left to the strategy for items
(`segment_field_lazy`).
-/

namespace SqlTemplate

/-- A value is a function or a method, or a method of a built-in kind. -/
def Value.isFunction : Value → Bool
  | .function _ => true
  | .method _ _ => true
  | .builtinMethod _ _ => true
  | .descriptor kind => ["method_descriptor", "wrapper_descriptor", "method-wrapper"].contains kind
  | _ => false

/-- What a routine that is found among the members of a value is read as: a function or a method. A built-in method is
one of that value, unless it is the member itself. -/
structure Member.ReadsAs (member : Member) (value f : Value) : Prop where
  isFunction : f.isFunction = true
  receiver : ∀ receiver name, f = .builtinMethod receiver name → receiver = value ∨ member = .value f

namespace World

/-- The attributes of a value are found where they are read. -/
def ShowsAttributes (w : World) (value : Value) : Prop :=
  ∀ id, value = .object id → w.hidesAttributes (w.object id).kind = false

/-- A member is no value that is computed at its first reading, and no object that is taken for a routine or runs code
when it is asked. -/
def ShowsData (w : World) : Member → Prop
  | .lazy _ => False
  | .value (.object id) => w.IsQuiet (w.object id).kind
  | _ => True

end World

namespace Run

variable {w w' : World} {value r : Value} {name : String} {member : Member} {id : ObjectId}

/-! ## What is read and what is found -/

/-- The members of an object are those of its class and its attributes. -/
theorem objectMember?_cases (hshown : w.hidesAttributes (w.object id).kind = false)
    (hmember : w.objectMember? id name = some member) :
    (w.classMember? (w.object id).kind name = some member ∧
      (w.governs member = true ∨ (w.attributesOf id).lookup name = none)) ∨
    ∃ stored, member = .value stored ∧ (w.attributesOf id).lookup name = some stored ∧
      ∀ other, w.classMember? (w.object id).kind name = some other → w.governs other = false := by
  simp only [World.objectMember?, hshown, Bool.false_eq_true, if_false] at hmember
  cases hclass : w.classMember? (w.object id).kind name with
  | none =>
    rw [hclass] at hmember
    cases hstored : (w.attributesOf id).lookup name with
    | none => simp [hstored] at hmember
    | some stored =>
      simp only [hstored, Option.some.injEq] at hmember
      exact .inr ⟨stored, hmember.symm, rfl, nofun⟩
  | some own =>
    rw [hclass] at hmember
    cases hstored : (w.attributesOf id).lookup name with
    | none =>
      simp only [hstored, Option.some.injEq] at hmember
      exact .inl ⟨by rw [hmember], .inr rfl⟩
    | some stored =>
      simp only [hstored] at hmember
      cases hgoverns : w.governs own with
      | true =>
        simp only [hgoverns, if_true, Option.some.injEq] at hmember
        exact .inl ⟨by rw [hmember], .inl (by rw [← hmember, hgoverns])⟩
      | false =>
        simp only [hgoverns, Bool.false_eq_true, if_false, Option.some.injEq] at hmember
        refine .inr ⟨stored, hmember.symm, rfl, fun other hother => ?_⟩
        rw [← Option.some.inj hother, hgoverns]

/-- A member that comes before the attributes of objects is no routine. -/
theorem governs_eq_false_of_isRoutine (hroutine : member.isRoutine = true) : w.governs member = false := by
  cases member with
  | value v => cases v <;> first | rfl | cases hroutine
  | _ => first | rfl | cases hroutine

/-- A routine of the class of an object is read as a function. -/
theorem exists_start_readMember_of_isRoutine (inner : Inner) (hroutine : member.isRoutine = true)
    (hlazy : ∀ getter, member ≠ .lazy getter) :
    ∃ f, (readMember inner id name member).start w = (.ok f, w) ∧ member.ReadsAs (.object id) f := by
  cases member with
  | value v =>
    cases v with
    | function f => exact ⟨_, rfl, rfl, nofun⟩
    | method receiver f => exact ⟨_, rfl, rfl, nofun⟩
    | builtinMethod receiver own => exact ⟨_, rfl, rfl, fun _ _ _ => .inr rfl⟩
    | _ => cases hroutine
  | static f => exact ⟨_, rfl, rfl, nofun⟩
  | classwide f => exact ⟨_, rfl, rfl, nofun⟩
  | routine =>
    by_cases hoperator : operatorRoutines.contains name = true
    · refine ⟨.descriptor "method-wrapper", ?_, by decide, nofun⟩
      simp only [readMember, start_bind, start_get, hoperator, if_true]
      rfl
    · refine ⟨.builtinMethod (.object id) name, ?_, rfl, fun _ _ heq => .inl (by cases heq; rfl)⟩
      simp only [readMember, start_bind, start_get, hoperator]
      rfl
  | lazy getter => exact absurd rfl (hlazy getter)
  | property getter => cases hroutine
  | slot => cases hroutine
  | field => cases hroutine
  | constant => cases hroutine

/-- So is one of a class that is read by itself. -/
theorem exists_start_readClassMember_of_isRoutine (inner : Inner) {c : ClassId} (hroutine : member.isRoutine = true)
    (hlazy : ∀ getter, member ≠ .lazy getter) :
    ∃ f, (readClassMember inner c name member).start w = (.ok f, w) ∧ member.ReadsAs (.type c) f := by
  cases member with
  | value v =>
    cases v with
    | function f => exact ⟨_, rfl, rfl, nofun⟩
    | method receiver f => exact ⟨_, rfl, rfl, nofun⟩
    | builtinMethod receiver own => exact ⟨_, rfl, rfl, fun _ _ _ => .inr rfl⟩
    | _ => cases hroutine
  | static f => exact ⟨_, rfl, rfl, nofun⟩
  | classwide f => exact ⟨_, rfl, rfl, nofun⟩
  | routine =>
    refine ⟨routineIn name, rfl, ?_, nofun⟩
    rw [routineIn]
    split <;> decide
  | lazy getter => exact absurd rfl (hlazy getter)
  | property getter => cases hroutine
  | slot => cases hroutine
  | field => cases hroutine
  | constant => cases hroutine

/-- A routine of a value that has no attributes is read as a function. -/
theorem exists_start_builtinMember_of_isRoutine (hfound : value.builtinMember? name = some member)
    (hroutine : member.isRoutine = true) :
    ∃ f, (match value.builtinMember? name with
        | some .field => return readField w value name
        | some _ => return .builtinMethod value name
        | none => fail (w.missingAttribute value name) : Run Value).start w = (.ok f, w) ∧
      member.ReadsAs value f := by
  refine ⟨.builtinMethod value name, ?_, rfl, fun _ _ heq => .inl (by cases heq; rfl)⟩
  rw [hfound]
  cases member with
  | field => cases hroutine
  | _ => rfl

/-- A routine that is found is read as a function. -/
theorem exists_start_readOrdinary_of_isRoutine (inner : Inner) (hshown : w.ShowsAttributes value)
    (hmember : w.member? value name = some member) (hroutine : member.isRoutine = true)
    (hlazy : ∀ getter, member ≠ .lazy getter) :
    ∃ f, (readOrdinary inner value name).start w = (.ok f, w) ∧ member.ReadsAs value f := by
  cases value with
  | object id =>
    rcases objectMember?_cases (hshown id rfl) hmember with
      ⟨hclass, hgoverns | hnone⟩ | ⟨stored, rfl, hstored, hgoverns⟩
    · -- a routine of the class does not come before the attributes
      rw [governs_eq_false_of_isRoutine hroutine] at hgoverns
      cases hgoverns
    · obtain ⟨f, hf, hreads⟩ := exists_start_readMember_of_isRoutine inner hroutine hlazy
      refine ⟨f, ?_, hreads⟩
      rw [readOrdinary, start_bind, start_get]
      simp only [hclass, hnone]
      exact hf
    · refine ⟨stored, ?_, ?_, fun _ _ _ => .inr rfl⟩
      · rw [readOrdinary, start_bind, start_get]
        simp only [hstored]
        cases hclass : w.classMember? (w.object id).kind name with
        | none => rfl
        | some own =>
          simp only [hgoverns own hclass]
          rfl
      · cases stored <;> first | rfl | cases hroutine
  | type c =>
    obtain ⟨f, hf, hreads⟩ := exists_start_readClassMember_of_isRoutine inner hroutine hlazy
    refine ⟨f, ?_, hreads⟩
    rw [readOrdinary, start_bind, start_get]
    simp only [hmember]
    exact hf
  | _ => exact exists_start_builtinMember_of_isRoutine hmember hroutine

/-- What is not found is missing. -/
theorem start_readOrdinary_of_none (inner : Inner) (hshown : w.ShowsAttributes value)
    (hnone : w.member? value name = none) :
    (readOrdinary inner value name).start w = (.error (w.missingAttribute value name), w) := by
  cases value with
  | object id =>
    have hnone : w.objectMember? id name = none := hnone
    simp only [World.objectMember?, hshown id rfl, Bool.false_eq_true, if_false] at hnone
    rw [readOrdinary, start_bind, start_get]
    cases hclass : w.classMember? (w.object id).kind name with
    | none =>
      rw [hclass] at hnone
      cases hstored : (w.attributesOf id).lookup name with
      | none => simp only [hclass, hstored]; rfl
      | some stored => simp [hstored] at hnone
    | some own =>
      rw [hclass] at hnone
      cases hstored : (w.attributesOf id).lookup name with
      | none => simp [hstored] at hnone
      | some stored =>
        simp only [hstored] at hnone
        split at hnone <;> cases hnone
  | type c =>
    rw [readOrdinary, start_bind, start_get]
    simp only [hnone]
    rfl
  | _ =>
    simp only [World.member?] at hnone
    rw [readOrdinary, start_bind, start_get]
    simp only [hnone]
    rfl

/-- What is read the ordinary way is read, if the class does not intercept readings. -/
theorem start_read_of_readOrdinary (hgetattribute : w.specialMember? value "__getattribute__" = none)
    (hordinary : (readOrdinary (inner w.depth) value name).start w = (.ok r, w')) :
    (read value name).start w = (.ok r, w') := by
  have hread : (read value name).start w = (readWith (inner w.depth) value name).start w := rfl
  rw [hread, start_readWith_of_readOrdinary hgetattribute hordinary]

/-- Without a class that supplies missing attributes, all is read the ordinary way. -/
theorem start_read_eq_readOrdinary (hgetattribute : w.specialMember? value "__getattribute__" = none)
    (hgetattr : w.specialMember? value "__getattr__" = none) :
    (read value name).start w = (readOrdinary (inner w.depth) value name).start w := by
  have hread : (read value name).start w = (readWith (inner w.depth) value name).start w := rfl
  rw [hread, readWith, start_bind, start_get]
  cases value with
  | object id =>
    simp only [World.specialMember?] at hgetattribute hgetattr
    simp only [hgetattribute, hgetattr]
  | _ => rfl

end Run

namespace Resolve

open Strategy

/-! ## Reading a field by the chain -/

section

variable {value result : Value} {qualifier path : String} {member : Member} {w w₁ w' : World}

/-- A member that shows data, and is not read as a function, is seen to be no routine. -/
theorem start_isRoutine_of_showsData (hshows : w.ShowsData member) (hshown : w.ShowsAttributes value)
    (hmember : w.member? value qualifier = some member)
    (hgetattribute : w.specialMember? value "__getattribute__" = none)
    (hread : (Run.read value qualifier).start w = (.ok result, w')) (hdata : result.isFunction = false) :
    (isRoutine member).start w = (.ok false, w) := by
  have hlazy (getter : FunctionId) : member ≠ .lazy getter := by
    rintro rfl
    exact hshows
  cases hroutine : member.isRoutine with
  | true =>
    obtain ⟨f, hordinary, hreads⟩ :=
      Run.exists_start_readOrdinary_of_isRoutine (Run.inner w.depth) hshown hmember hroutine hlazy
    rw [Run.start_read_of_readOrdinary hgetattribute hordinary] at hread
    cases hread
    have hfunction := hreads.isFunction
    rw [hdata] at hfunction
    cases hfunction
  | false =>
    cases member with
    | value v =>
      refine Run.start_isRoutine_of_isDatum ?_
      cases v <;> first | exact hshows | trivial
    | _ => first | rfl | cases hroutine

/-- A qualifier without accessor methods is read by the strategies behind them. -/
theorem start_segment_of_no_candidates (hvalue : value ≠ .null)
    (hcandidates : ∀ name ∈ candidates "is" qualifier ++ candidates "get" qualifier, w.member? value name = none)
    (strict : Bool) (owner path : String) :
    (segment (standard strict) value owner qualifier path).start w
      = (segment [publicField, keyedLookup strict] value owner qualifier path).start w :=
  (exhausts_accessors_of_hasNoMethod (fun name hname => .inl (hcandidates name hname)) path).start_segment hvalue owner
    [publicField, keyedLookup strict]

/-- The accessor for a field of a value. -/
def fieldAccessor (w : World) (value : Value) (qualifier : String) (dynamic : Bool) : Accessor :=
  ⟨w.kindName value ++ "." ++ qualifier, Run.read value qualifier, false, dynamic⟩

/-- A public member that is seen to be data is located. -/
theorem start_locateField_of_data (hpublic : isPrivate qualifier = false)
    (hmember : w.member? value qualifier = some member) (hdata : (isRoutine member).start w = (.ok false, w₁)) :
    (publicField.locate value qualifier).start w = (.ok (some (fieldAccessor w value qualifier false)), w₁) := by
  show (locateField value qualifier).start w = _
  simp only [locateField, Run.start_bind, Run.start_get, hmember, hdata, hpublic, Bool.false_eq_true, if_false]
  rfl

/-- A public name that is not found is located, if the class supplies missing attributes. -/
theorem start_locateField_of_dynamic (hpublic : isPrivate qualifier = false)
    (hnone : w.member? value qualifier = none) (hgetattr : w.specialMember? value "__getattr__" ≠ none) :
    (publicField.locate value qualifier).start w = (.ok (some (fieldAccessor w value qualifier true)), w) := by
  have hsome : (w.specialMember? value "__getattr__").isNone = false := by
    rwa [Option.isNone_eq_false_iff, Option.isSome_iff_ne_none]
  show (locateField value qualifier).start w = _
  simp only [locateField, Run.start_bind, Run.start_get, hnone, hpublic, hsome, Bool.or_self, Bool.false_eq_true,
    if_false]
  rfl

/-- A public member that is seen to be data is read. -/
theorem tried_publicField_of_data (hpublic : isPrivate qualifier = false)
    (hmember : w.member? value qualifier = some member) (hdata : (isRoutine member).start w = (.ok false, w₁))
    (hread : (Run.read value qualifier).start w₁ = (.ok result, w')) (path : String) :
    ∃ accessor, Tried value qualifier path publicField w (.accepted accessor result) w' :=
  ⟨fieldAccessor w value qualifier false,
    .located (start_locateField_of_data hpublic hmember hdata) (.accepted hread rfl)⟩

/-- A public name that is not found is read, if the class supplies missing attributes. -/
theorem tried_publicField_of_dynamic (hpublic : isPrivate qualifier = false)
    (hnone : w.member? value qualifier = none) (hgetattr : w.specialMember? value "__getattr__" ≠ none)
    (hread : (Run.read value qualifier).start w = (.ok result, w')) (path : String) :
    ∃ accessor, Tried value qualifier path publicField w (.accepted accessor result) w' :=
  ⟨fieldAccessor w value qualifier true,
    .located (start_locateField_of_dynamic hpublic hnone hgetattr) (.accepted hread rfl)⟩

/-- What counts as a method is no field. -/
theorem tried_publicField_of_routine (hmember : w.member? value qualifier = some member)
    (hroutine : (isRoutine member).start w = (.ok true, w')) (path : String) :
    Tried value qualifier path publicField w .nothing w' := by
  refine .nothing ?_
  show (locateField value qualifier).start w = _
  simp only [locateField, Run.start_bind, Run.start_get, hmember, hroutine, if_true]
  rfl

/-- There are no public fields without a value. -/
theorem value_ne_null_of_read (hpublic : isPrivate qualifier = false)
    (hread : (Run.read value qualifier).start w = (.ok result, w')) : value ≠ .null := by
  rintro rfl
  have hfields : ∀ name ∈ Value.null.fields, isPrivate name = true := by decide
  have hcontains : Value.null.fields.contains qualifier = false := by
    rw [List.contains_eq_mem, decide_eq_false_iff_not]
    intro hmem
    rw [hfields qualifier hmem] at hpublic
    cases hpublic
  have hnone : Value.null.builtinMember? qualifier = none := by
    simp only [Value.builtinMember?, hcontains, Bool.false_eq_true, if_false]
  have hordinary : (Run.read .null qualifier).start w
      = (Run.readOrdinary (Run.inner w.depth) .null qualifier).start w := rfl
  rw [hordinary, Run.readOrdinary, Run.start_bind, Run.start_get] at hread
  simp only [hnone] at hread
  cases hread

end

/-- Without accessor methods for a public qualifier, a field that can be read, and is no function, is what the
qualifier stands for, if it is found where it is read and shows data. In any case what is found there decides: what is
seen to be no routine is read, and what is taken for one is left to the strategy for items. -/
theorem segment_field {value result : Value} {qualifier : String} {w w' : World}
    (hpublic : isPrivate qualifier = false)
    (hcandidates : ∀ name ∈ candidates "is" qualifier ++ candidates "get" qualifier, w.member? value name = none)
    (hgetattribute : w.specialMember? value "__getattribute__" = none)
    (hread : (Run.read value qualifier).start w = (.ok result, w')) (hdata : result.isFunction = false)
    (strict : Bool) (owner path : String) :
    let reading := (segment (standard strict) value owner qualifier path).start w
    (w.ShowsAttributes value → (∀ member ∈ w.member? value qualifier, w.ShowsData member) →
      reading = (.ok result, w')) ∧
    ∀ member, w.member? value qualifier = some member →
      (∀ w₁ found w₂, (isRoutine member).start w = (.ok false, w₁) →
        (Run.read value qualifier).start w₁ = (.ok found, w₂) → reading = (.ok found, w₂)) ∧
      ∀ w₁, (isRoutine member).start w = (.ok true, w₁) →
        reading = (segment [keyedLookup strict] value owner qualifier path).start w₁ := by
  intro reading
  have hvalue := value_ne_null_of_read hpublic hread
  have hreading : reading = (segment [publicField, keyedLookup strict] value owner qualifier path).start w :=
    start_segment_of_no_candidates hvalue hcandidates strict owner path
  have hfound {accessor : Accessor} {found : Value} {w₂ : World}
      (htried : Tried value qualifier path publicField w (.accepted accessor found) w₂) :
      reading = (.ok found, w₂) :=
    hreading.trans (htried.start_segment hvalue owner [keyedLookup strict])
  refine ⟨fun hshown hshows => ?_, fun member hmember => ⟨fun w₁ found w₂ hseen hagain => ?_, fun w₁ hroutine => ?_⟩⟩
  · cases hmember : w.member? value qualifier with
    | some member =>
      have hseen := start_isRoutine_of_showsData (hshows member hmember) hshown hmember hgetattribute hread hdata
      obtain ⟨accessor, htried⟩ := tried_publicField_of_data hpublic hmember hseen hread path
      exact hfound htried
    | none =>
      have hgetattr : w.specialMember? value "__getattr__" ≠ none := by
        intro hgetattr
        rw [Run.start_read_eq_readOrdinary hgetattribute hgetattr,
          Run.start_readOrdinary_of_none (Run.inner w.depth) hshown hmember] at hread
        cases hread
      obtain ⟨accessor, htried⟩ := tried_publicField_of_dynamic hpublic hmember hgetattr hread path
      exact hfound htried
  · obtain ⟨accessor, htried⟩ := tried_publicField_of_data hpublic hmember hseen hagain path
    exact hfound htried
  · have htried := tried_publicField_of_routine hmember hroutine path
    exact hreading.trans (htried.start_segment hvalue owner [keyedLookup strict])

/-- A world with an object whose class computes a value, at each reading or at the first one. -/
def computing (member : FunctionId → Member) : World :=
  let total : Function := ⟨"Order.total", ⟨[Parameter.plain "self"], .absent⟩, .perform ⟨0, [], .give (.int 7)⟩⟩
  { World.empty with
    classes := World.empty.classes ++ [.ofMembers "Order" [("total", member 0)]]
    functions := [total]
    objects := [.ofKind 2] }

/-- That object has no accessor methods. -/
theorem computing_candidates (member : FunctionId → Member) :
    ∀ name ∈ candidates "is" "total" ++ candidates "get" "total",
      (computing member).member? (.object 0) name = none := by
  intro name hname
  have hnames : candidates "is" "total" ++ candidates "get" "total"
    = ["is_total", "isTotal", "get_total", "getTotal"] := by decide
  simp only [hnames, List.mem_cons, List.not_mem_nil, or_false] at hname
  rcases hname with rfl | rfl | rfl | rfl <;> rfl

/-- A property is a field. -/
theorem segment_field_property :
    let w := computing .property
    let w' := { w.log "Order.total" with done := [0] }
    isPrivate "total" = false ∧
    (∀ name ∈ candidates "is" "total" ++ candidates "get" "total", w.member? (.object 0) name = none) ∧
    w.specialMember? (.object 0) "__getattribute__" = none ∧
    (Run.read (.object 0) "total").start w = (.ok (.int 7), w') ∧ Value.isFunction (.int 7) = false ∧
    w.ShowsAttributes (.object 0) ∧ (∀ member ∈ w.member? (.object 0) "total", w.ShowsData member) ∧
    (segment (standard false) (.object 0) "o" "total" "o.total").start w = (.ok (.int 7), w') := by
  intro w w'
  have hpublic : isPrivate "total" = false := by decide
  have hcandidates := computing_candidates .property
  have hread : (Run.read (.object 0) "total").start w = (.ok (.int 7), w') := rfl
  have hshown : w.ShowsAttributes (.object 0) := by
    rintro _ ⟨⟩
    rfl
  have hshows : ∀ member ∈ w.member? (.object 0) "total", w.ShowsData member := by
    rintro _ ⟨⟩
    trivial
  exact ⟨hpublic, hcandidates, rfl, hread, rfl, hshown, hshows,
    (segment_field hpublic hcandidates rfl hread rfl false "o" "o.total").1 hshown hshows⟩

/-- A value that is computed at its first reading can be read, and is no field. -/
theorem segment_field_lazy :
    let w := computing .lazy
    isPrivate "total" = false ∧
    (∀ name ∈ candidates "is" "total" ++ candidates "get" "total", w.member? (.object 0) name = none) ∧
    w.specialMember? (.object 0) "__getattribute__" = none ∧
    ((Run.read (.object 0) "total").start w).1 = .ok (.int 7) ∧ Value.isFunction (.int 7) = false ∧
    ∀ strict, (segment (standard strict) (.object 0) "o" "total" "o.total").start w
      = (.error (.fault (.noProperty "total" "o" "o.total" "") none), w) := by
  intro w
  have hcandidates := computing_candidates .lazy
  have hmember : w.member? (.object 0) "total" = some (.lazy 0) := rfl
  refine ⟨by decide, hcandidates, rfl, rfl, rfl, fun strict => ?_⟩
  have htried := tried_publicField_of_routine hmember rfl "o.total"
  rw [start_segment_of_no_candidates (by simp) hcandidates strict "o" "o.total", htried.start_segment (by simp)]
  rfl

end Resolve

end SqlTemplate
