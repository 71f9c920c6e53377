import SqlTemplate.Proofs.Resolve.Chain
/-!
# Containment of failures

Code of the values runs at many places while a path is resolved, and each may fail. What an accessor raises when it is
used becomes a fault of the path. But an accessor is also looked for, what it gives may have to be checked, and the
text of a failure is put into a message: code that runs there is not guarded.

Reading a qualifier fails just in the ways that `Fails` tells (`start_segment_eq_error`): without a value, when all
strategies are exhausted, or by a strategy that decides. `Probes` says what can fail while a standard strategy looks for
an accessor, and `Leaks` adds the other places.
`parts_contained_or_leaks` is the main theorem: what comes out of the resolution of a path as a failure is a fault of
resolving, or else it leaks out of one of these places; and what leaks there does come out.
-/

namespace SqlTemplate.Resolve

open Strategy

/-! ## Faults of resolving -/

/-- A failure that resolving makes itself, to tell that a path leads to nothing. -/
def Contained (failure : Failure) : Prop :=
  ∃ fault cause, failure = .fault fault cause ∧ fault.isResolution = true

/-- Such a failure is of the class that says so. -/
theorem Contained.isA_resolutionError {failure : Failure} (h : Contained failure) :
    failure.isA .resolutionError = true := by
  obtain ⟨fault, cause, rfl, hresolution⟩ := h
  cases fault with
  | unknownParameter | noProperty | accessorFailed | accessDenied => rfl
  | _ => cases hresolution

/-! ## Places without a guard -/

section

variable (value : Value) (qualifier path : String)

/-- A member of a value is examined, as one that may be a method, and that fails. -/
inductive Examines (name : String) (w : World) (failure : Failure) (w' : World) : Prop where
  /-- The member is asked for its class. -/
  | kind {member : Member} (hmember : w.member? value name = some member)
    (hfails : (isRoutine member).start w = (.error failure, w'))
  /-- The method is read through the value. -/
  | reading {member : Member} {w₁ : World} (hmember : w.member? value name = some member)
    (hroutine : (isRoutine member).start w = (.ok true, w₁))
    (hfails : (Run.read value name).start w₁ = (.error failure, w'))
  /-- The method is asked for its signature. -/
  | signature {member : Member} {method : Value} {w₁ w₂ : World}
    (hmember : w.member? value name = some member)
    (hroutine : (isRoutine member).start w = (.ok true, w₁))
    (hmethod : (Run.read value name).start w₁ = (.ok method, w₂))
    (hfails : (Run.signatureOf method).start w₂ = (.error failure, w'))

/-- One of the names of an accessor method fails to be examined, and the names before it are none. -/
def ExaminesOneOf (accept : String → Value → Option Signature → Option Accessor)
    (names : List String) (w : World) (failure : Failure) (w' : World) : Prop :=
  ∃ before name after w₁, names = before ++ name :: after ∧
    (locateMethod accept value before).start w = (.ok none, w₁) ∧
    Examines value name w₁ failure w'

/-- A standard strategy fails while it looks for an accessor, by code that it runs for that. -/
inductive Probes (strict : Bool) : Strategy → World → Failure → World → Prop where
  | boolean {w w' : World} {failure : Failure}
    (h : ExaminesOneOf value acceptBoolean (candidates "is" qualifier) w failure w') :
    Probes strict booleanAccessor w failure w'
  | general {w w' : World} {failure : Failure}
    (h : ExaminesOneOf value acceptAny (candidates "get" qualifier) w failure w') :
    Probes strict generalAccessor w failure w'
  /-- What stands in the field is asked for its class. -/
  | field {member : Member} {w w' : World} {failure : Failure}
    (hmember : w.member? value qualifier = some member)
    (hfails : (isRoutine member).start w = (.error failure, w')) :
    Probes strict publicField w failure w'
  /-- The value is asked for its class. -/
  | mapping {w w' : World} {failure : Failure}
    (hfails : (Run.isMapping value).start w = (.error failure, w')) :
    Probes strict (keyedLookup strict) w failure w'
  /-- The mapping is asked for the key, which is done only if keys are strict. -/
  | key {w w₁ w' : World} {failure : Failure} (hstrict : strict = true)
    (hmapping : (Run.isMapping value).start w = (.ok true, w₁))
    (hfails : (Run.hasKey value (.text qualifier)).start w₁ = (.error failure, w')) :
    Probes strict (keyedLookup strict) w failure w'

/-- A failure leaves a strategy as it was raised: the code that raised it runs outside of the guard of the accessor. -/
inductive Leaks (strict : Bool) (strategy : Strategy) (w : World) (failure : Failure) (w' : World) :
    Prop where
  | probing (h : Probes value qualifier strict strategy w failure w')
    (hplain : ∀ kind member reason, failure ≠ .inaccessible kind member reason)
  /-- Code that the strategy runs says itself that a member is not public, and how it says so cannot be told. -/
  | denying {kind : FailureClass} {member reason : Value} {w₁ : World}
    (h : Probes value qualifier strict strategy w (.inaccessible kind member reason) w₁)
    (hfails : (Run.denial member path reason).start w₁ = (.error failure, w'))
  /-- What the accessor gives is asked for its class. -/
  | checking {accessor : Accessor} {result : Value} {w₁ w₂ : World}
    (hlocate : (strategy.locate value qualifier).start w = (.ok (some accessor), w₁))
    (hinvoke : accessor.invoke.start w₁ = (.ok result, w₂)) (hneeds : accessor.requiresBool = true)
    (hfails : (isBool result).start w₂ = (.error failure, w'))
  /-- What the accessor raises has no text. -/
  | telling {accessor : Accessor} {raised : Failure} {w₁ w₂ : World}
    (hlocate : (strategy.locate value qualifier).start w = (.ok (some accessor), w₁))
    (hinvoke : accessor.invoke.start w₁ = (.error raised, w₂))
    (hexception : raised.isA .exception = true)
    (hcounts : (raised.isA .attributeError && accessor.dynamic) = true →
      raised.isA .permissionError = true)
    (hfails : (Run.textOfFailure raised).start w₂ = (.error failure, w'))

end

/-! ## Looking for an accessor -/

section

variable {value : Value} {qualifier path : String} {strategy : Strategy} {w w' : World}
  {failure : Failure}

variable {accept : String → Value → Option Signature → Option Accessor} {name : String}
  {more : List String}

/-- The names behind one are tried in the world that trying this one leaves. -/
theorem start_locateMethod_cons (accept : String → Value → Option Signature → Option Accessor)
    (value : Value) (name : String) (more : List String) (w : World) :
    (locateMethod accept value (name :: more)).start w
      = match (locateMethod accept value [name]).start w with
        | (.ok none, w₁) => (locateMethod accept value more).start w₁
        | (.ok (some accessor), w₁) => (.ok (some accessor), w₁)
        | (.error failure, w₁) => (.error failure, w₁) := by
  simp only [locateMethod, Run.start_bind, Run.start_get]
  cases w.member? value name with
  | none => rfl
  | some member =>
    simp only [Run.start_bind]
    rcases (isRoutine member).start w with ⟨_ | isMethod, w₁⟩
    · rfl
    cases isMethod with
    | false => rfl
    | true =>
      simp only [Run.start_bind, Run.start_get, Bool.not_true, Bool.false_eq_true, if_false]
      rcases (Run.read value name).start w₁ with ⟨_ | method, w₂⟩
      · rfl
      simp only
      rcases (Run.signatureOf method).start w₂ with ⟨_ | signature, w₃⟩
      · rfl
      simp only
      split
      · rfl
      · cases accept (w₃.kindName value ++ "." ++ name ++ "()") method signature <;> rfl

/-- A single name fails just when examining its member does. -/
theorem start_locateMethod_singleton_eq_error :
    (locateMethod accept value [name]).start w = (.error failure, w') ↔
      Examines value name w failure w' := by
  rw [locateMethod, Run.start_bind, Run.start_get]
  dsimp only
  cases hmember : w.member? value name with
  | none =>
    refine ⟨nofun, fun h => ?_⟩
    cases h <;> simp_all
  | some member =>
    rw [Run.start_bind_eq_error]
    constructor
    · rintro (hfails | ⟨isMethod, w₁, hroutine, h⟩)
      · exact .kind hmember hfails
      cases isMethod with
      | false => cases h
      | true =>
        rcases Run.start_bind_eq_error.mp h with hfails | ⟨method, w₂, hmethod, h⟩
        · exact .reading hmember hroutine hfails
        rcases Run.start_bind_eq_error.mp h with hfails | ⟨signature, w₃, hsignature, h⟩
        · exact .signature hmember hroutine hmethod hfails
        -- what is known of a method by then is only weighed
        rw [Run.start_bind, Run.start_get] at h
        simp only at h
        split at h
        · cases h
        · split at h <;> cases h
    · intro h
      cases h with
      | kind hmember' hfails =>
        cases hmember.symm.trans hmember'
        exact .inl hfails
      | reading hmember' hroutine hfails =>
        cases hmember.symm.trans hmember'
        exact .inr ⟨true, _, hroutine, Run.start_bind_eq_error.mpr (.inl hfails)⟩
      | signature hmember' hroutine hmethod hfails =>
        cases hmember.symm.trans hmember'
        refine .inr ⟨true, _, hroutine, Run.start_bind_eq_error.mpr (.inr ⟨_, _, hmethod, ?_⟩)⟩
        exact Run.start_bind_eq_error.mpr (.inl hfails)

/-- Looking for an accessor method fails just when examining one of the names does. -/
theorem start_locateMethod_eq_error {names : List String} :
    (locateMethod accept value names).start w = (.error failure, w') ↔
      ExaminesOneOf value accept names w failure w' := by
  induction names generalizing w with
  | nil =>
    refine ⟨nofun, ?_⟩
    rintro ⟨before, name, after, w₁, hnames, -⟩
    simp at hnames
  | cons first names ih =>
    rw [start_locateMethod_cons]
    constructor
    · intro h
      rcases hfirst : (locateMethod accept value [first]).start w with ⟨raised | _ | accessor, w₁⟩
      · rw [hfirst] at h
        exact ⟨[], first, names, w, rfl, rfl,
          start_locateMethod_singleton_eq_error.mp (hfirst.trans h)⟩
      · rw [hfirst] at h
        obtain ⟨before, name, after, w₂, rfl, hbefore, hexamines⟩ := ih.mp h
        refine ⟨first :: before, name, after, w₂, rfl, ?_, hexamines⟩
        rw [start_locateMethod_cons, hfirst]
        exact hbefore
      · rw [hfirst] at h
        cases h
    · rintro ⟨before, name, after, w₁, hnames, hbefore, hexamines⟩
      cases before with
      | nil =>
        cases hnames
        cases hbefore
        rw [start_locateMethod_singleton_eq_error.mpr hexamines]
      | cons first before =>
        cases hnames
        rw [start_locateMethod_cons] at hbefore
        rcases hfirst : (locateMethod accept value [first]).start w with ⟨raised | _ | accessor, w₂⟩
        · rw [hfirst] at hbefore
          cases hbefore
        · rw [hfirst] at hbefore
          exact ih.mpr ⟨before, name, after, w₁, rfl, hbefore, hexamines⟩
        · rw [hfirst] at hbefore
          cases hbefore

/-- Looking for a field fails just when the check of what stands there does, or when the field is not public. -/
theorem start_locateField_eq_error :
    (locateField value qualifier).start w = (.error failure, w') ↔
      ∃ member, w.member? value qualifier = some member ∧
        ((isRoutine member).start w = (.error failure, w') ∨
          (isRoutine member).start w = (.ok false, w') ∧ isPrivate qualifier = true ∧
            failure = .notAccessible (.text (w.kindName value ++ "." ++ qualifier))
              (.text "Attributes starting with '_' are not public.")) := by
  simp only [locateField, Run.start_bind, Run.start_get]
  cases hmember : w.member? value qualifier with
  | none =>
    refine ⟨fun h => ?_, ?_⟩
    · simp only at h
      split at h <;> cases h
    · rintro ⟨member, hnone, -⟩
      cases hnone
  | some member =>
    simp only [Run.start_bind, Option.some.injEq, exists_eq_left']
    rcases (isRoutine member).start w with ⟨raised | isMethod, w₁⟩
    · simp
    cases isMethod with
    | true => simp
    | false =>
      cases hprivate : isPrivate qualifier with
      | false => simp
      | true => simp [eq_comm, and_comm]

/-- Looking for an item fails just when the value fails to say what it is, or strictly when it fails to say whether it
has the key. -/
theorem start_locateItem_eq_error {strict : Bool} :
    (locateItem strict value qualifier).start w = (.error failure, w') ↔
      (Run.isMapping value).start w = (.error failure, w') ∨
        ∃ w₁, strict = true ∧ (Run.isMapping value).start w = (.ok true, w₁) ∧
          (Run.hasKey value (.text qualifier)).start w₁ = (.error failure, w') := by
  simp only [locateItem, Run.start_bind]
  rcases (Run.isMapping value).start w with ⟨raised | isMapping, w₁⟩
  · simp
  cases isMapping with
  | false => simp
  | true =>
    cases strict with
    | false =>
      simp only [Bool.not_true, Bool.false_eq_true, if_false, Run.start_bind, Run.start_get]
      simp
    | true =>
      simp only [Bool.not_true, Bool.false_eq_true, if_false, if_true, Run.start_bind, Run.start_get]
      rcases hkey : (Run.hasKey value (.text qualifier)).start w₁ with ⟨raised | hasKey, w₂⟩
      · simp [hkey]
      · cases hasKey <;> simp [hkey]

variable {strict : Bool}

/-- What a standard strategy runs to look for an accessor makes it fail. -/
theorem Probes.start_locate (h : Probes value qualifier strict strategy w failure w') :
    (strategy.locate value qualifier).start w = (.error failure, w') := by
  cases h with
  | boolean h => exact start_locateMethod_eq_error.mpr h
  | general h => exact start_locateMethod_eq_error.mpr h
  | field hmember hfails => exact start_locateField_eq_error.mpr ⟨_, hmember, .inl hfails⟩
  | mapping hfails => exact start_locateItem_eq_error.mpr (.inl hfails)
  | key hstrict hmapping hfails =>
    exact start_locateItem_eq_error.mpr (.inr ⟨_, hstrict, hmapping, hfails⟩)

/-- A standard strategy fails to look for an accessor only by what it runs for that, or to say that a field is not
public. -/
theorem probes_of_start_locate (hmem : strategy ∈ standard strict)
    (h : (strategy.locate value qualifier).start w = (.error failure, w')) :
    Probes value qualifier strict strategy w failure w' ∨
      ∃ name reason, failure = .notAccessible (.text name) (.text reason) := by
  simp only [standard, List.mem_cons, List.not_mem_nil, or_false] at hmem
  rcases hmem with rfl | rfl | rfl | rfl
  · exact .inl (.boolean (start_locateMethod_eq_error.mp h))
  · exact .inl (.general (start_locateMethod_eq_error.mp h))
  · obtain ⟨member, hmember, hfails | ⟨-, -, hprivate⟩⟩ := start_locateField_eq_error.mp h
    · exact .inl (.field hmember hfails)
    · exact .inr ⟨_, _, hprivate⟩
  · rcases start_locateItem_eq_error.mp h with hfails | ⟨w₁, hstrict, hmapping, hfails⟩
    · exact .inl (.mapping hfails)
    · exact .inl (.key hstrict hmapping hfails)

end

/-! ## Faults of one strategy -/

section

variable {value : Value} {qualifier path : String} {strategy : Strategy} {strict : Bool}
  {w w' : World} {failure : Failure}

/-- Why a member may not be read is told by a fault of resolving. -/
theorem isResolution_of_start_denial {member reason : Value} {fault : Fault}
    (h : (Run.denial member path reason).start w = (.ok fault, w')) :
    fault.isResolution = true := by
  obtain ⟨inner, w₁, -, h⟩ := Run.start_bind_eq_ok.mp h
  obtain ⟨title, w₂, -, h⟩ := Run.start_bind_eq_ok.mp h
  obtain ⟨shown, w₃, -, h⟩ := Run.start_bind_eq_ok.mp h
  obtain ⟨text, w₄, -, h⟩ := Run.start_bind_eq_ok.mp h
  cases h
  rfl

/-- Telling why a member may not be read cannot fail if that is told by texts. -/
theorem start_denial_text (member path reason : String) (w : World) :
    ∃ fault, (Run.denial (.text member) path (.text reason)).start w = (.ok fault, w) := by
  have hformat (inner : Inner) (text : String) :
      (Run.formatWith inner (.text text)).start w = (.ok text, w) := rfl
  have htruth (inner : Inner) :
      (Run.truthWith inner (.text reason)).start w = (.ok (w.isTrue (.text reason)), w) := rfl
  have hinner : Run.outermost.start w = (.ok (Run.inner w.depth), w) := rfl
  simp only [Run.denial, Run.denied, Run.reasonText, Run.start_bind, hinner, hformat, htruth]
  cases w.isTrue (.text reason) with
  | false => exact ⟨_, rfl⟩
  | true => exact ⟨_, rfl⟩

/-- Asking for an accessor fails as the strategy fails, or with what is told of a member that is not public. -/
theorem start_locate_eq_error
    (h : (locate strategy value qualifier path).start w = (.error failure, w')) :
    ((strategy.locate value qualifier).start w = (.error failure, w') ∧
        ∀ kind member reason, failure ≠ .inaccessible kind member reason) ∨
      ∃ kind member reason w₁,
        (strategy.locate value qualifier).start w = (.error (.inaccessible kind member reason), w₁) ∧
          ((Run.denial member path reason).start w₁ = (.error failure, w') ∨
            (∃ fault, (Run.denial member path reason).start w₁ = (.ok fault, w')) ∧
              Contained failure) := by
  rw [locate, Run.start_orElse] at h
  rcases hlocate : (strategy.locate value qualifier).start w with ⟨raised | found, w₁⟩
  · rw [hlocate] at h
    cases raised with
    | inaccessible kind member reason =>
      refine .inr ⟨kind, member, reason, w₁, rfl, ?_⟩
      rcases Run.start_bind_eq_error.mp h with hfails | ⟨fault, w₂, htold, hfails⟩
      · exact .inl hfails
      · cases hfails
        exact .inr ⟨⟨fault, htold⟩, _, _, rfl, isResolution_of_start_denial htold⟩
    | plain | made | fault =>
      cases h
      exact .inl ⟨rfl, by simp⟩
  · rw [hlocate] at h
    cases h

/-- The failure of an accessor comes out as a fault, if it has a text. -/
theorem start_refusal_eq_error {accessor : Accessor} {raised : Failure}
    (h : (refusal accessor path raised).start w = (.error failure, w')) :
    Contained failure ∨ failure.isA .exception = false ∨
      raised.isA .exception = true ∧
        ((raised.isA .attributeError && accessor.dynamic) = true →
          raised.isA .permissionError = true) ∧
        (Run.textOfFailure raised).start w = (.error failure, w') := by
  rw [refusal] at h
  by_cases hpermission : raised.isA .permissionError = true
  · rw [if_pos hpermission] at h
    rcases Run.start_bind_eq_error.mp h with htext | ⟨text, w₁, -, hfails⟩
    · exact .inr (.inr ⟨Failure.isA_exception_of_isA_permissionError hpermission, fun _ => hpermission, htext⟩)
    · cases hfails
      exact .inl ⟨_, _, rfl, rfl⟩
  · rw [if_neg hpermission] at h
    by_cases hmissing : (raised.isA .attributeError && accessor.dynamic) = true
    · rw [if_pos hmissing] at h
      cases h
    · rw [if_neg hmissing] at h
      by_cases hexception : raised.isA .exception = true
      · rw [if_pos hexception] at h
        rcases Run.start_bind_eq_error.mp h with htext | ⟨fault, w₁, htold, hfails⟩
        · rcases Run.start_bind_eq_error.mp htext with htext | ⟨text, w₁, -, hfails⟩
          · exact .inr (.inr ⟨hexception, fun hboth => absurd hboth hmissing, htext⟩)
          · cases hfails
        · obtain ⟨text, w₂, -, htold⟩ := Run.start_bind_eq_ok.mp htold
          cases htold
          cases hfails
          exact .inl ⟨_, _, rfl, rfl⟩
      · rw [if_neg hexception] at h
        cases h
        exact .inr (.inl (Bool.not_eq_true _ ▸ hexception))

/-- An attempt that ends in a failure either makes a fault of it or lets it out. -/
theorem Tried.contained_or_leaks {attempt : Attempt} (hmem : strategy ∈ standard strict)
    (h : Tried value qualifier path strategy w attempt w')
    (hdecides : attempt.decision? = some (.error failure))
    (hexception : failure.isA .exception = true) :
    Contained failure ∨ Leaks value qualifier path strict strategy w failure w' := by
  cases h with
  | nothing => cases hdecides
  | denied hlocate =>
    cases hdecides
    rcases start_locate_eq_error hlocate with ⟨hfails, hplain⟩ | ⟨kind, member, reason, w₁, hfails, htold⟩
    · rcases probes_of_start_locate hmem hfails with hprobes | ⟨name, reason, rfl⟩
      · exact .inr (.probing hprobes hplain)
      · exact absurd rfl (hplain _ _ _)
    · rcases htold with htold | ⟨-, hcontained⟩
      · rcases probes_of_start_locate hmem hfails with hprobes | ⟨name, text, hprivate⟩
        · exact .inr (.denying hprobes htold)
        · -- the strategy itself says that a field is not public by texts
          cases hprivate
          obtain ⟨fault, hfault⟩ := start_denial_text name path text w₁
          cases hfault.symm.trans htold
      · exact .inl hcontained
  | located hlocate hused =>
    cases hused with
    | notBool => cases hdecides
    | noAttribute => cases hdecides
    | accepted => cases hdecides
    | acceptedBool => cases hdecides
    | failed hinvoke hrefusal =>
      cases hdecides
      rcases start_refusal_eq_error hrefusal with hcontained | hnone | ⟨hraised, hcounts, htext⟩
      · exact .inl hcontained
      · simp [hexception] at hnone
      · exact .inr (.telling hlocate hinvoke hraised hcounts htext)
    | unchecked hinvoke hneeds hcheck =>
      cases hdecides
      exact .inr (.checking hlocate hinvoke hneeds hcheck)

/-- A failure that leaks ends an attempt. -/
theorem Leaks.exists_tried (h : Leaks value qualifier path strict strategy w failure w') :
    ∃ attempt, Tried value qualifier path strategy w attempt w' ∧
      attempt.decision? = some (.error failure) := by
  cases h with
  | probing h hplain =>
    refine ⟨.denied failure, .denied ?_, rfl⟩
    rw [locate, Run.start_orElse_of_error h.start_locate]
    cases failure with
    | inaccessible kind member reason => exact absurd rfl (hplain kind member reason)
    | plain | made | fault => rfl
  | denying h hfails =>
    refine ⟨.denied failure, .denied ?_, rfl⟩
    rw [locate, Run.start_orElse_of_error h.start_locate]
    exact Run.start_bind_eq_error.mpr (.inl hfails)
  | checking hlocate hinvoke hneeds hfails =>
    exact ⟨.failed _ failure, .located hlocate (.unchecked hinvoke hneeds hfails), rfl⟩
  | @telling accessor raised w₁ w₂ hlocate hinvoke hexception hcounts hfails =>
    refine ⟨.failed _ failure, .located hlocate (.failed hinvoke ?_), rfl⟩
    rw [refusal]
    by_cases hpermission : raised.isA .permissionError = true
    · rw [if_pos hpermission]
      exact Run.start_bind_eq_error.mpr (.inl hfails)
    · rw [if_neg hpermission, if_neg fun hboth => hpermission (hcounts hboth), if_pos hexception]
      exact Run.start_bind_eq_error.mpr (.inl (Run.start_bind_eq_error.mpr (.inl hfails)))

end

/-! ## Chains and paths -/

/-- How reading a qualifier out of a value fails. -/
inductive Fails (chain : List Strategy) (value : Value) (owner qualifier path : String) (w : World) :
    Failure → World → Prop where
  /-- There is no value to read it out of. -/
  | noValue (hvalue : value = .null) :
    Fails chain value owner qualifier path w
      (.fault (.noProperty qualifier owner path ("The value of '" ++ owner ++ "' is None.")) none) w
  /-- No strategy can read it. -/
  | exhausted {w' : World} (hvalue : value ≠ .null) (hexhausts : Exhausts value qualifier path chain w w') :
    Fails chain value owner qualifier path w (.fault (.noProperty qualifier owner path "") none) w'
  /-- A strategy, or the accessor that it located, fails when those in front of it are exhausted. -/
  | decided {passed rest : List Strategy} {strategy : Strategy} {attempt : Attempt} {failure : Failure} {w₁ w' : World}
    (hvalue : value ≠ .null) (hchain : chain = passed ++ strategy :: rest)
    (hexhausts : Exhausts value qualifier path passed w w₁)
    (htried : Tried value qualifier path strategy w₁ attempt w')
    (hdecides : attempt.decision? = some (.error failure)) :
    Fails chain value owner qualifier path w failure w'

/-- A failure leaks while a qualifier is read: out of a strategy that is asked because those before it are exhausted. -/
def LeaksOut (strict : Bool) (value : Value) (qualifier path : String) (w : World) (failure : Failure)
    (w' : World) : Prop :=
  ∃ passed strategy rest w₁, standard strict = passed ++ strategy :: rest ∧
    Exhausts value qualifier path passed w w₁ ∧
    Leaks value qualifier path strict strategy w₁ failure w'

/-- A failure leaks while qualifiers are read one out of the other: some are read, and it leaks while the next one
is. -/
def LeaksAlong (strict : Bool) (path : String) (value : Value) (owner : String)
    (qualifiers : List String) (w : World) (failure : Failure) (w' : World) : Prop :=
  ∃ before qualifier after next w₁, qualifiers = before ++ qualifier :: after ∧
    (follow (standard strict) path value owner before).start w = (.ok next, w₁) ∧ next ≠ .null ∧
    LeaksOut strict next qualifier path w₁ failure w'

section

variable {value : Value} {owner qualifier path : String} {strict : Bool} {w w' : World}
  {failure : Failure}

/-- A chain is exhausted, or those before one of its strategies are and this one decides. -/
theorem exhausts_or_decides (value : Value) (qualifier path : String) (chain : List Strategy)
    (w : World) :
    (∃ w', Exhausts value qualifier path chain w w') ∨
      ∃ passed strategy rest w₁ attempt outcome w', chain = passed ++ strategy :: rest ∧
        Exhausts value qualifier path passed w w₁ ∧
        Tried value qualifier path strategy w₁ attempt w' ∧ attempt.decision? = some outcome := by
  induction chain generalizing w with
  | nil => exact .inl ⟨w, [], .done w, nofun⟩
  | cons strategy chain ih =>
    obtain ⟨attempt, w₁, htried⟩ := exists_tried value qualifier path strategy w
    cases hdecision : attempt.decision? with
    | some outcome =>
      exact .inr ⟨[], strategy, chain, w, attempt, outcome, w₁, rfl, ⟨[], .done w, nofun⟩, htried,
        hdecision⟩
    | none =>
      have hextend {rest : List Strategy} {w₂ : World} (h : Exhausts value qualifier path rest w₁ w₂) :
          Exhausts value qualifier path (strategy :: rest) w w₂ :=
        (exhausts_singleton htried hdecision).append h
      rcases ih w₁ with ⟨w', hexhausts⟩ | ⟨passed, next, rest, w₂, last, outcome, w', rfl, hexhausts, h⟩
      · exact .inl ⟨w', hextend hexhausts⟩
      · exact .inr ⟨strategy :: passed, next, rest, w₂, last, outcome, w', rfl, hextend hexhausts, h⟩

/-- Reading a qualifier fails just in one of the three ways. -/
theorem start_segment_eq_error {chain : List Strategy} :
    (segment chain value owner qualifier path).start w = (.error failure, w') ↔
      Fails chain value owner qualifier path w failure w' := by
  constructor
  · intro h
    by_cases hvalue : value = .null
    · subst hvalue
      cases h
      exact .noValue rfl
    rcases exhausts_or_decides value qualifier path chain w with
      ⟨w₁, hexhausts⟩ | ⟨passed, strategy, rest, w₁, attempt, outcome, w₂, hchain, hexhausts, htried, hdecides⟩
    · have hnone := hexhausts.start_segment_eq hvalue owner
      rw [h] at hnone
      cases hnone
      exact .exhausted hvalue hexhausts
    · have houtcome := hexhausts.start_segment_of_decides htried hdecides hvalue owner rest
      rw [← hchain, h] at houtcome
      cases houtcome
      exact .decided hvalue hchain hexhausts htried hdecides
  · intro h
    cases h with
    | noValue hvalue =>
      subst hvalue
      rfl
    | exhausted hvalue hexhausts => exact hexhausts.start_segment_eq hvalue owner
    | decided hvalue hchain hexhausts htried hdecides =>
      rw [hchain, hexhausts.start_segment_of_decides htried hdecides hvalue]

/-- A failure that comes out while a qualifier is read is contained or leaks. -/
theorem contained_or_leaksOut
    (h : (segment (standard strict) value owner qualifier path).start w = (.error failure, w'))
    (hexception : failure.isA .exception = true) :
    Contained failure ∨ value ≠ .null ∧ LeaksOut strict value qualifier path w failure w' := by
  cases start_segment_eq_error.mp h with
  | noValue => exact .inl ⟨_, _, rfl, rfl⟩
  | exhausted => exact .inl ⟨_, _, rfl, rfl⟩
  | @decided passed rest strategy attempt _ w₁ _ hvalue hchain hexhausts htried hdecides =>
    have hmem : strategy ∈ standard strict := by simp [hchain]
    rcases htried.contained_or_leaks hmem hdecides hexception with hcontained | hleaks
    · exact .inl hcontained
    · exact .inr ⟨hvalue, passed, strategy, rest, w₁, hchain, hexhausts, hleaks⟩

/-- A failure that leaks while a qualifier is read comes out. -/
theorem LeaksOut.start_segment (h : LeaksOut strict value qualifier path w failure w')
    (hvalue : value ≠ .null) (owner : String) :
    (segment (standard strict) value owner qualifier path).start w = (.error failure, w') := by
  obtain ⟨passed, strategy, rest, w₁, hchain, hexhausts, hleaks⟩ := h
  obtain ⟨attempt, htried, hdecides⟩ := hleaks.exists_tried
  exact start_segment_eq_error.mpr (.decided hvalue hchain hexhausts htried hdecides)

/-- Reading qualifiers fails just when some are read and reading the next one fails. -/
theorem start_follow_eq_error {chain : List Strategy} {qualifiers : List String} :
    (follow chain path value owner qualifiers).start w = (.error failure, w') ↔
      ∃ before qualifier after next w₁, qualifiers = before ++ qualifier :: after ∧
        (follow chain path value owner before).start w = (.ok next, w₁) ∧
        (segment chain next (before.getLastD owner) qualifier path).start w₁
          = (.error failure, w') := by
  induction qualifiers generalizing value owner w with
  | nil =>
    refine ⟨nofun, ?_⟩
    rintro ⟨before, qualifier, after, next, w₁, hqualifiers, -⟩
    simp at hqualifiers
  | cons first qualifiers ih =>
    rw [follow, Run.start_bind_eq_error]
    constructor
    · rintro (hfirst | ⟨next, w₁, hfirst, hrest⟩)
      · exact ⟨[], first, qualifiers, value, w, rfl, rfl, hfirst⟩
      · obtain ⟨before, qualifier, after, last, w₂, rfl, hbefore, hfails⟩ := ih.mp hrest
        refine ⟨first :: before, qualifier, after, last, w₂, rfl, ?_, ?_⟩
        · rw [follow, Run.start_bind_eq_ok]
          exact ⟨next, w₁, hfirst, hbefore⟩
        · rwa [List.getLastD_cons]
    · rintro ⟨before, qualifier, after, last, w₂, hqualifiers, hbefore, hfails⟩
      cases before with
      | nil =>
        cases hqualifiers
        cases hbefore
        exact .inl hfails
      | cons _ before =>
        cases hqualifiers
        rw [follow, Run.start_bind_eq_ok] at hbefore
        obtain ⟨next, w₁, hfirst, hbefore⟩ := hbefore
        rw [List.getLastD_cons] at hfails
        exact .inr ⟨next, w₁, hfirst, ih.mpr ⟨before, qualifier, after, last, w₂, rfl, hbefore, hfails⟩⟩

end

/-- What is told of an argument that there is not is a fault of resolving. -/
theorem isResolution_of_argument {invocation : Invocation} {name path : String} {fault : Fault}
    (h : invocation.argument name path = .error fault) : fault.isResolution = true := by
  rw [Invocation.argument] at h
  split at h
  · split at h
    · cases h
    · cases h
      rfl
  · cases h
    rfl

/-- What comes out of the resolution of a path as a failure is a fault of resolving, and of the class of these, unless it
leaks from one of the places without a guard; and what leaks there does come out. -/
theorem parts_contained_or_leaks (strict : Bool) (invocation : Invocation) (root : String)
    (more : List String) (failure : Failure) (w w' : World) :
    let path := ".".intercalate (root :: more)
    ((parts (standard strict) invocation (root :: more)).start w = (.error failure, w') →
      failure.isA .exception = true → Contained failure ∧ failure.isA .resolutionError = true ∨
        ∃ value, invocation.argument root path = .ok value ∧
          LeaksAlong strict path value root more w failure w') ∧
    ∀ value, invocation.argument root path = .ok value →
      LeaksAlong strict path value root more w failure w' →
      (parts (standard strict) invocation (root :: more)).start w = (.error failure, w') := by
  intro path
  have hparts {value : Value} (hargument : invocation.argument root path = .ok value) :
      parts (standard strict) invocation (root :: more)
        = follow (standard strict) path value root more := by
    simp only [parts]
    rw [hargument]
  constructor
  · intro h hexception
    cases hargument : invocation.argument root path with
    | error fault =>
      simp only [parts] at h
      rw [hargument] at h
      cases h
      have hcontained : Contained (.fault fault none) := ⟨_, _, rfl, isResolution_of_argument hargument⟩
      exact .inl ⟨hcontained, hcontained.isA_resolutionError⟩
    | ok value =>
      rw [hparts hargument, start_follow_eq_error] at h
      obtain ⟨before, qualifier, after, next, w₁, hmore, hbefore, hfails⟩ := h
      rcases contained_or_leaksOut hfails hexception with hcontained | ⟨hnext, hleaks⟩
      · exact .inl ⟨hcontained, hcontained.isA_resolutionError⟩
      · exact .inr ⟨value, rfl, before, qualifier, after, next, w₁, hmore, hbefore, hnext, hleaks⟩
  · rintro value hargument ⟨before, qualifier, after, next, w₁, rfl, hbefore, hnext, hleaks⟩
    rw [hparts hargument, start_follow_eq_error]
    exact ⟨before, qualifier, after, next, w₁, rfl, hbefore, hleaks.start_segment hnext _⟩

/-- A world with a mapping whose item lookup is broken. -/
def brokenLookup : World :=
  let lookup : Function :=
    ⟨"Lazy.__getitem__", ⟨[Parameter.plain "self", Parameter.plain "key"], .absent⟩,
      .perform ⟨0, [], .fail (.standard .runtimeError) [some (.text "broken")]⟩⟩
  let kind : Class :=
    { Class.ofMembers "Lazy" [("__getitem__", .value (.function 0))] with mapping := some .protocol }
  { World.empty with
    classes := World.empty.classes ++ [kind], functions := [lookup], objects := [.ofKind 2] }

/-- The mapping is asked for a key. If keys are strict that is done to look for an accessor, and the failure leaks;
otherwise the lookup is done by the accessor, and the failure becomes a fault of the path. -/
theorem parts_leak_lookup :
    let invocation := Invocation.ofArguments (.ofNames "m" ["o"]) [("o", .object 0)]
    let raised := Failure.ofMessage .runtimeError "broken"
    ((parts (standard true) invocation ["o", "a"]).start brokenLookup).1 = .error raised ∧
      raised.isA .exception = true ∧ raised.isA .resolutionError = false ∧
    ((parts (standard false) invocation ["o", "a"]).start brokenLookup).1
      = .error (.fault (.accessorFailed "Lazy['a']" "o.a" "RuntimeError" "broken") (some raised)) := by
  intro invocation raised
  refine ⟨?_, ?_, ?_, ?_⟩
  · set_option maxRecDepth 2000 in rfl
  · decide
  · decide
  · set_option maxRecDepth 2000 in rfl

/-- It is the failure of asking for the key that comes out there. -/
theorem parts_contained_or_leaks_lookup :
    let invocation := Invocation.ofArguments (.ofNames "m" ["o"]) [("o", .object 0)]
    let raised := Failure.ofMessage .runtimeError "broken"
    let w' := brokenLookup.log "Lazy.__getitem__:a"
    let w' := { w' with done := [0] }
    (parts (standard true) invocation ["o", "a"]).start brokenLookup = (.error raised, w') ∧
      ¬ Contained raised ∧
      ∃ value, invocation.argument "o" "o.a" = .ok value ∧
        LeaksAlong true "o.a" value "o" ["a"] brokenLookup raised w' := by
  intro invocation raised w w'
  have hstart : (parts (standard true) invocation ["o", "a"]).start brokenLookup
      = (.error raised, w') := by
    set_option maxRecDepth 2000 in rfl
  have hescapes : ¬ Contained raised := by
    rintro ⟨fault, cause, hfault, -⟩
    simp [raised, Failure.ofMessage] at hfault
  have hleaks := (parts_contained_or_leaks true invocation "o" ["a"] raised brokenLookup w').1 hstart
    (by decide)
  exact ⟨hstart, hescapes, hleaks.resolve_left fun h => hescapes h.1⟩

end SqlTemplate.Resolve
