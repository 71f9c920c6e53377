import SqlTemplate.Proofs.Resolve.Denial
/-!
# Boolean accessors

A boolean accessor of a qualifier has one of two names, `is_q` and `isQ`. Whether a method counts is decided at two
places. What it declares is looked at while it is located: a method that needs arguments, or declares another kind of
result, is skipped, and the other name is looked for. A method that declares nothing is located at once, and its result
is looked at by the chain, which then goes on to the next strategy: for the other name it is too late.

`segment_boolean` is the main theorem: the first of the two names that is not skipped decides, by its result if the
method qualifies, and otherwise by leaving the qualifier to the strategies behind. So a method that qualifies under the
second name is never called if the one under the first name declares nothing and gives no truth value
(`segment_boolean_overlooked`).
-/

namespace SqlTemplate.Resolve

open Strategy

/-! ## What comes of a candidate -/

/-- What a signature declares of the result, if anything is known. -/
def declared (signature : Option Signature) : TypeHint :=
  (signature.map (·.returns)).getD .absent

/-- A method needs arguments, as far as its signature is known. -/
def needsArguments (signature : Option Signature) : Bool :=
  signature.any (!·.acceptsNothing)

section

variable (value : Value) (name : String) (w : World)

/-- There is a method of a name: it is found and read, and its signature is looked at. -/
def FindsMethod (method : Value) (signature : Option Signature) (w' : World) : Prop :=
  ∃ member w₁ w₂, w.member? value name = some member ∧ (isRoutine member).start w = (.ok true, w₁) ∧
    (Run.read value name).start w₁ = (.ok method, w₂) ∧ (Run.signatureOf method).start w₂ = (.ok signature, w')

/-- No boolean accessor is located under a name: there is no such method, or it needs arguments, or it declares that it
gives something other than a truth value. -/
inductive IsSkipped : World → Prop where
  | absent (hnone : w.member? value name = none) : IsSkipped w
  | data {member : Member} {w' : World} (hmember : w.member? value name = some member)
    (hdata : (isRoutine member).start w = (.ok false, w')) : IsSkipped w'
  | needs {method : Value} {signature : Option Signature} {w' : World}
    (hfinds : FindsMethod value name w method signature w') (hneeds : needsArguments signature = true) : IsSkipped w'
  | declares {method : Value} {signature : Option Signature} {w' : World}
    (hfinds : FindsMethod value name w method signature w') (hdeclares : declared signature ≠ .absent)
    (hother : declaresBool (declared signature) = false) : IsSkipped w'

/-- A method can be called without arguments, and gives a result. -/
def Gives (hint : TypeHint) (result : Value) (w' : World) : Prop :=
  ∃ method signature w₁, FindsMethod value name w method signature w₁ ∧ needsArguments signature = false ∧
    declared signature = hint ∧ (Run.callValue method []).start w₁ = (.ok result, w')

/-- A method without arguments declares that it gives a truth value, or declares nothing and gives one. -/
inductive Qualifies (result : Value) (w' : World) : Prop where
  | declared {hint : TypeHint} (hgives : Gives value name w hint result w') (hbool : declaresBool hint = true)
  | given {truth : Bool} (hgives : Gives value name w .absent result w') (htruth : result = .bool truth)

/-- A method without arguments declares nothing, and what it gives is found to be no truth value. -/
def Disappoints (w' : World) : Prop :=
  ∃ result w₁, Gives value name w .absent result w₁ ∧ (isBool result).start w₁ = (.ok false, w')

end

/-! ## What is located -/

section

variable {signature : Option Signature}

theorem acceptBoolean_of_absent (h : declared signature = .absent) (name : String) (method : Value) :
    acceptBoolean name method signature = some ⟨name, Run.callValue method [], true, false⟩ :=
  if_pos h

theorem acceptBoolean_of_declaresBool (h : declaresBool (declared signature) = true) (name : String)
    (method : Value) :
    acceptBoolean name method signature = some ⟨name, Run.callValue method [], false, false⟩ := by
  have hhint : declared signature ≠ .absent := by
    intro habsent
    rw [habsent] at h
    cases h
  exact (if_neg hhint).trans (if_pos h)

theorem acceptBoolean_of_other (h : declared signature ≠ .absent)
    (hother : declaresBool (declared signature) = false) (name : String) (method : Value) :
    acceptBoolean name method signature = none := by
  refine (if_neg h).trans (if_neg ?_)
  rw [Bool.not_eq_true]
  exact hother

end

section

variable {value : Value} {name qualifier path : String} {more : List String} {w w₁ w' : World} {method result : Value}
  {signature : Option Signature}

/-- A method is found, and accepted or not. -/
theorem FindsMethod.start_locateMethod (h : FindsMethod value name w method signature w')
    (accept : String → Value → Option Signature → Option Accessor) (more : List String) :
    (locateMethod accept value (name :: more)).start w
      = (if needsArguments signature then locateMethod accept value more
        else
          match accept (w'.kindName value ++ "." ++ name ++ "()") method signature with
          | some accessor => return some accessor
          | none => locateMethod accept value more : Run (Option Accessor)).start w' := by
  obtain ⟨member, w₁, w₂, hmember, hmethod, hread, hsignature⟩ := h
  rw [locateMethod, Run.start_bind, Run.start_get]
  simp only [hmember, Run.start_bind, hmethod, Bool.not_true, Bool.false_eq_true, if_false, hread, hsignature,
    Run.start_get]
  rfl

/-- A value with a method is there. -/
theorem FindsMethod.value_ne_null (h : FindsMethod value name w method signature w') : value ≠ .null := by
  rintro rfl
  obtain ⟨member, w₁, w₂, hmember, hmethod, -⟩ := h
  -- there is nothing but data
  simp only [World.member?, Value.builtinMember?] at hmember
  split at hmember
  · cases hmember
    cases hmethod
  · cases hmember

/-- Behind a name that is skipped the next one is looked for. -/
theorem IsSkipped.start_locateMethod (h : IsSkipped value name w w') (more : List String) :
    (locateMethod acceptBoolean value (name :: more)).start w
      = (locateMethod acceptBoolean value more).start w' := by
  cases h with
  | absent hnone =>
    rw [locateMethod, Run.start_bind, Run.start_get]
    simp only [hnone]
  | data hmember hdata =>
    rw [locateMethod, Run.start_bind, Run.start_get]
    simp only [hmember, Run.start_bind, hdata]
    rfl
  | needs hfinds hneeds => rw [hfinds.start_locateMethod, if_pos hneeds]
  | declares hfinds hdeclares hother =>
    rw [hfinds.start_locateMethod]
    simp only [acceptBoolean_of_other hdeclares hother, ite_self]

/-- A method that declares a truth value is located, and one that declares nothing is, if it can be called without
arguments. The result of the latter has to be looked at. -/
theorem Gives.start_locateMethod {hint : TypeHint} (h : Gives value name w hint result w')
    (haccepts : hint = .absent ∨ declaresBool hint = true) (more : List String) :
    ∃ accessor w₁, (locateMethod acceptBoolean value (name :: more)).start w = (.ok (some accessor), w₁) ∧
      accessor.invoke.start w₁ = (.ok result, w') ∧ accessor.requiresBool = decide (hint = .absent) := by
  obtain ⟨method, signature, w₁, hfinds, hnothing, rfl, hcall⟩ := h
  have hstart := hfinds.start_locateMethod acceptBoolean more
  rw [if_neg (by simp [hnothing])] at hstart
  by_cases hhint : declared signature = .absent
  · rw [acceptBoolean_of_absent hhint] at hstart
    exact ⟨_, w₁, hstart, hcall, by simp [hhint]⟩
  · rw [acceptBoolean_of_declaresBool (haccepts.resolve_left hhint)] at hstart
    exact ⟨_, w₁, hstart, hcall, by simp [hhint]⟩

/-- A method that qualifies is used, and its result accepted. -/
theorem Qualifies.exists_used (h : Qualifies value name w result w') (path : String) (more : List String) :
    ∃ accessor w₁, (locateMethod acceptBoolean value (name :: more)).start w = (.ok (some accessor), w₁) ∧
      Used path accessor w₁ (.accepted accessor result) w' := by
  cases h with
  | @declared hint hgives hbool =>
    obtain ⟨accessor, w₁, hlocate, hinvoke, hneeds⟩ := hgives.start_locateMethod (.inr hbool) more
    have hhint : hint ≠ .absent := by
      rintro rfl
      cases hbool
    exact ⟨accessor, w₁, hlocate, .accepted hinvoke (by simp [hneeds, hhint])⟩
  | given hgives htruth =>
    obtain ⟨accessor, w₁, hlocate, hinvoke, hneeds⟩ := hgives.start_locateMethod (.inl rfl) more
    subst htruth
    exact ⟨accessor, w₁, hlocate, .acceptedBool hinvoke (by simp [hneeds]) rfl⟩

/-- A method that disappoints is used, and its result does not count. -/
theorem Disappoints.exists_used (h : Disappoints value name w w') (path : String) (more : List String) :
    ∃ accessor result w₁, (locateMethod acceptBoolean value (name :: more)).start w = (.ok (some accessor), w₁) ∧
      Used path accessor w₁ (.notBool accessor result) w' := by
  obtain ⟨result, w₂, hgives, hcheck⟩ := h
  obtain ⟨accessor, w₁, hlocate, hinvoke, hneeds⟩ := hgives.start_locateMethod (.inl rfl) more
  exact ⟨accessor, result, w₁, hlocate, .notBool hinvoke (by simp [hneeds]) hcheck⟩

theorem Gives.value_ne_null {hint : TypeHint} (h : Gives value name w hint result w') : value ≠ .null := by
  obtain ⟨method, signature, w₁, hfinds, -⟩ := h
  exact hfinds.value_ne_null

theorem Qualifies.value_ne_null (h : Qualifies value name w result w') : value ≠ .null := by
  cases h with
  | declared hgives _ => exact hgives.value_ne_null
  | given hgives _ => exact hgives.value_ne_null

theorem Disappoints.value_ne_null (h : Disappoints value name w w') : value ≠ .null := by
  obtain ⟨result, w₁, hgives, -⟩ := h
  exact hgives.value_ne_null

end

/-! ## Reading by a boolean accessor -/

/-- The strategies behind the one for boolean accessors. -/
def behindBoolean (strict : Bool) : List Strategy := [generalAccessor, publicField, keyedLookup strict]

section

variable {value result : Value} {qualifier path : String} {attempt : Attempt} {w w₁ w' : World}

/-- What comes of the boolean accessor is what reading the qualifier comes to, if it decides. -/
theorem start_segment_of_tried_booleanAccessor (hvalue : value ≠ .null)
    (htried : Tried value qualifier path booleanAccessor w attempt w') (strict : Bool) (owner : String) :
    (segment (standard strict) value owner qualifier path).start w = match attempt.decision? with
      | some outcome => (outcome, w')
      | none => (segment (behindBoolean strict) value owner qualifier path).start w' := by
  exact htried.start_segment hvalue owner (behindBoolean strict)

theorem Qualifies.start_segment (h : Qualifies value ("is_" ++ qualifier) w result w') (strict : Bool)
    (owner path : String) :
    (segment (standard strict) value owner qualifier path).start w = (.ok result, w') := by
  obtain ⟨accessor, w₁, hlocate, hused⟩ := h.exists_used path ["is" ++ capitalize qualifier]
  exact start_segment_of_tried_booleanAccessor h.value_ne_null (.located hlocate hused) strict owner

theorem IsSkipped.start_segment (h : IsSkipped value ("is_" ++ qualifier) w w₁)
    (hqualifies : Qualifies value ("is" ++ capitalize qualifier) w₁ result w') (strict : Bool) (owner path : String) :
    (segment (standard strict) value owner qualifier path).start w = (.ok result, w') := by
  obtain ⟨accessor, w₂, hlocate, hused⟩ := hqualifies.exists_used path []
  have hboth : (booleanAccessor.locate value qualifier).start w = (.ok (some accessor), w₂) :=
    (h.start_locateMethod ["is" ++ capitalize qualifier]).trans hlocate
  exact start_segment_of_tried_booleanAccessor hqualifies.value_ne_null (.located hboth hused) strict owner

theorem Disappoints.start_segment (h : Disappoints value ("is_" ++ qualifier) w w') (strict : Bool)
    (owner path : String) :
    (segment (standard strict) value owner qualifier path).start w
      = (segment (behindBoolean strict) value owner qualifier path).start w' := by
  obtain ⟨accessor, result, w₁, hlocate, hused⟩ := h.exists_used path ["is" ++ capitalize qualifier]
  exact start_segment_of_tried_booleanAccessor h.value_ne_null (.located hlocate hused) strict owner

end

/-- The first of the two names that is not skipped decides. If the method qualifies, its result is what the qualifier
stands for, and nothing happens behind the call. If it declares nothing and gives no truth value, the strategies behind
read the qualifier, whatever there is under the other name. -/
theorem segment_boolean (value : Value) (qualifier : String) (strict : Bool) (owner path : String) (w : World) :
    let first := "is_" ++ qualifier
    let second := "is" ++ capitalize qualifier
    let reading := (segment (standard strict) value owner qualifier path).start w
    (∀ result w', Qualifies value first w result w' → reading = (.ok result, w')) ∧
    (∀ w₁ result w', IsSkipped value first w w₁ → Qualifies value second w₁ result w' →
      reading = (.ok result, w')) ∧
    (∀ w', Disappoints value first w w' →
      reading = (segment (behindBoolean strict) value owner qualifier path).start w') := by
  intro first second reading
  exact ⟨fun result w' hqualifies => hqualifies.start_segment strict owner path,
    fun w₁ result w' hskipped hqualifies => hskipped.start_segment hqualifies strict owner path,
    fun w' hother => hother.start_segment strict owner path⟩

/-- A world with an object that has a field, and whose class has two boolean accessors of that name. The one under the
second name declares a truth value and gives one. -/
def flag (hint : TypeHint) (result : Value) : World :=
  let function (name : String) (hint : TypeHint) (id : Nat) (result : Value) : Function :=
    ⟨"Flag." ++ name, ⟨[Parameter.plain "self"], hint⟩, .perform ⟨id, [], .give result⟩⟩
  let kind := Class.ofMembers "Flag" [("is_ready", .value (.function 0)), ("isReady", .value (.function 1))]
  { World.empty with
    classes := World.empty.classes ++ [kind]
    functions := [function "is_ready" hint 0 result, function "isReady" (.type "bool") 1 (.bool true)]
    objects := [{ Object.ofKind 2 with attributes := [("ready", .text "field")] }] }

theorem flag_findsMethod (hint : TypeHint) (result : Value) :
    FindsMethod (.object 0) "is_ready" (flag hint result) (.method (.object 0) 0) (some ⟨[], hint⟩) (flag hint result) :=
  ⟨.value (.function 0), _, _, rfl, rfl, rfl, Run.start_signatureOf_method (Nat.zero_lt_succ 984) rfl⟩

/-- The method under the first name is called by itself. -/
theorem flag_gives (hint : TypeHint) (result : Value) :
    let w := flag hint result
    Gives (.object 0) "is_ready" w hint result { w.log "Flag.is_ready" with done := [0] } :=
  ⟨.method (.object 0) 0, some ⟨[], hint⟩, _, flag_findsMethod hint result, rfl, rfl, rfl⟩

/-- So is the one under the second name, and it qualifies. -/
theorem flag_qualifies (hint : TypeHint) (result : Value) :
    let w := flag hint result
    Qualifies (.object 0) "isReady" w (.bool true) { w.log "Flag.isReady" with done := [1] } := by
  intro w
  have hfinds : FindsMethod (.object 0) "isReady" w (.method (.object 0) 1) (some ⟨[], .type "bool"⟩) w :=
    ⟨.value (.function 1), _, _, rfl, rfl, rfl, Run.start_signatureOf_method (Nat.zero_lt_succ 984) rfl⟩
  exact .declared ⟨_, _, _, hfinds, rfl, rfl, rfl⟩ (by decide)

/-- The method under the first name may declare a text, give a truth value, or give a text without declaring it. -/
theorem segment_boolean_flag :
    let reading (w : World) := (segment (standard false) (.object 0) "o" "ready" "o.ready").start w
    let w₁ := flag (.type "str") (.text "yes")
    let w₂ := flag .absent (.bool false)
    let w₃ := flag .absent (.text "yes")
    let w₄ := { w₃.log "Flag.is_ready" with done := [0] }
    (IsSkipped (.object 0) "is_ready" w₁ w₁ ∧
      reading w₁ = (.ok (.bool true), { w₁.log "Flag.isReady" with done := [1] })) ∧
    (Qualifies (.object 0) "is_ready" w₂ (.bool false) { w₂.log "Flag.is_ready" with done := [0] } ∧
      reading w₂ = (.ok (.bool false), { w₂.log "Flag.is_ready" with done := [0] })) ∧
    (Disappoints (.object 0) "is_ready" w₃ w₄ ∧
      reading w₃ = (segment (behindBoolean false) (.object 0) "o" "ready" "o.ready").start w₄) := by
  intro reading w₁ w₂ w₃ w₄
  have hboolean (w : World) := segment_boolean (.object 0) "ready" false "o" "o.ready" w
  have hskipped : IsSkipped (.object 0) "is_ready" w₁ w₁ :=
    .declares (flag_findsMethod (.type "str") (.text "yes")) (by decide) (by decide)
  have hqualifies : Qualifies (.object 0) "is_ready" w₂ (.bool false) { w₂.log "Flag.is_ready" with done := [0] } :=
    .given (flag_gives .absent (.bool false)) rfl
  have hother : Disappoints (.object 0) "is_ready" w₃ w₄ := ⟨.text "yes", w₄, flag_gives .absent (.text "yes"), rfl⟩
  exact ⟨⟨hskipped, (hboolean w₁).2.1 w₁ _ _ hskipped (flag_qualifies (.type "str") (.text "yes"))⟩,
    ⟨hqualifies, (hboolean w₂).1 _ _ hqualifies⟩, hother, (hboolean w₃).2.2 w₄ hother⟩

/-- Two methods take no argument and give something, and the one under the second name qualifies. But the one under the
first name gives a text, so that the field is read, and the method that qualifies is not called. -/
theorem segment_boolean_overlooked :
    let w := flag .absent (.text "yes")
    let w₁ := { w.log "Flag.is_ready" with done := [0] }
    Gives (.object 0) "is_ready" w .absent (.text "yes") w₁ ∧
    Qualifies (.object 0) "isReady" w (.bool true) { w.log "Flag.isReady" with done := [1] } ∧
    ∀ strict, (segment (standard strict) (.object 0) "o" "ready" "o.ready").start w = (.ok (.text "field"), w₁) := by
  intro w w₁
  have hgives : Gives (.object 0) "is_ready" w .absent (.text "yes") w₁ := flag_gives .absent (.text "yes")
  refine ⟨hgives, flag_qualifies .absent (.text "yes"), fun strict => ?_⟩
  have hother : Disappoints (.object 0) ("is_" ++ "ready") w w₁ := ⟨.text "yes", w₁, hgives, rfl⟩
  have hgeneral : (generalAccessor.locate (.object 0) "ready").start w₁ = (.ok none, w₁) := rfl
  have hfield : (publicField.locate (.object 0) "ready").start w₁
      = (.ok (some ⟨"Flag.ready", Run.read (.object 0) "ready", false, false⟩), w₁) := rfl
  have hread : (Run.read (.object 0) "ready").start w₁ = (.ok (.text "field"), w₁) := rfl
  rw [hother.start_segment strict "o" "o.ready", segment_eq_readBy (by simp), behindBoolean,
    start_readBy_of_tried (.nothing hgeneral)]
  exact start_readBy_of_tried (.located hfield (.accepted hread rfl)) _

end SqlTemplate.Resolve
