import SqlTemplate.Proofs.Resolve.Field
/-!
# Locating without running code

A strategy is meant to locate an accessor without running code of the value that it looks at. It finds members without
running any. But then it asks what it found: a stored object for its class, a method for its signature, and with strict
keys a mapping for the key. Each of these runs code if the value answers by code, and what that raises comes out of the
search.

`locate_runs_nothing` is the main theorem. It lists what a value must leave alone (`World.IsCalm`): then each strategy
finds an accessor, or none, or refuses a member that is not public, and the world is as it was. A mapping with a test of
its own for keys is no such value (`locate_runs_membership`).
-/

namespace SqlTemplate

namespace World

/-- A value is asked for its class without running code. -/
def IsPlainValue (w : World) (value : Value) : Prop :=
  ∀ id, value = .object id → w.IsPlain (w.object id).kind

/-- A member under the name of an accessor is looked at, read and asked for its signature without running code: it is no
value that is computed at its first reading, and a value that stands there does not answer by code. -/
def IsCalmMember (w : World) : Member → Prop
  | .value (.builtinMethod receiver _) => w.IsPlainValue receiver
  | member => w.ShowsData member

/-- A member under the name of a field is looked at without running code. -/
def AnswersAsField (w : World) (member : Member) : Prop :=
  ∀ id, member = .value (.object id) → w.AnswersQuietly (w.object id).kind

/-- A value is tested for a key without running code, if it is a mapping at all: it has no test of its own, and none
that goes through an item lookup of its own. -/
def TestsKeysCalmly (w : World) (value : Value) : Prop :=
  ∀ id, value = .object id → w.mappingBase? (w.object id).kind = none ∨
    (w.mappingBase? (w.object id).kind = some .builtin ∨ w.mappingBase? (w.object id).kind = some .protocol) ∧
    w.ownMember? (w.object id).kind "__contains__" = none ∧
    (w.mappingBase? (w.object id).kind = some .protocol → w.ownMember? (w.object id).kind "__getitem__" = none)

/-- All that a search for a qualifier asks of a value is answered without running code. -/
structure IsCalm (w : World) (value : Value) (qualifier : String) (strict : Bool) : Prop where
  isPlain : w.IsPlainValue value
  showsAttributes : w.ShowsAttributes value
  candidates : ∀ stem ∈ ["is", "get"], ∀ name ∈ Strategy.candidates stem qualifier,
    ∀ member ∈ w.member? value name, w.IsCalmMember member
  field : ∀ member ∈ w.member? value qualifier, w.AnswersAsField member
  keys : strict = true → w.TestsKeysCalmly value
  /-- There is room for looking at signatures. -/
  depth : 0 < w.depth

end World

namespace Run

variable {w w' : World} {value : Value} {member : Member}

/-! ## Signatures -/

theorem start_askKind_of_isPlainValue (hplain : w.IsPlainValue value) (times : Nat) :
    (askKind value times).start w = (.ok (), w) := by
  cases value with
  | object id => exact start_askKind_of_isPlain (hplain id rfl) times
  | _ => cases times <;> rfl

/-- A value of a built-in kind of routines is written down for a message. -/
theorem exists_start_shownOf_descriptor (hdepth : 0 < w.depth) {kind : String}
    (hkind : kind = "wrapper_descriptor" ∨ kind = "method-wrapper") :
    ∃ text, (shownOf (.descriptor kind)).start w = (.ok text, w) := by
  have hleft : ¬ w.depth < 1 := by omega
  rcases hkind with rfl | rfl <;>
  · simp only [shownOf, outermost, shown, shownWithin, shownWith, shownReference, deeper, bind_assoc, pure_bind,
      start_bind, start_get, if_neg hleft]
    exact ⟨_, rfl⟩

/-- Inspecting a value gives a signature, or fails so that the signature is unknown. -/
def Inspects (w : World) (depth : Nat) (value : Value) : Prop :=
  (∃ signature, (inspect depth value).start w = (.ok signature, w)) ∨
  ∃ failure, (inspect depth value).start w = (.error failure, w) ∧
    (failure.isA .typeError || failure.isA .valueError) = true

theorem Inspects.exists_start_signatureOf (h : Inspects w w.depth value) :
    ∃ signature?, (signatureOf value).start w = (.ok signature?, w) := by
  rcases h with ⟨signature, hinspect⟩ | ⟨failure, hinspect, hunknown⟩
  · exact ⟨_, start_signatureOf_of_ok hinspect⟩
  · exact ⟨_, start_signatureOf_of_error hinspect hunknown⟩

theorem inspects_method (depth : Nat) (receiver : Value) (f : FunctionId) :
    Inspects w (depth + 1) (.method receiver f) := by
  cases hrest : (w.function f).signature.afterReceiver? with
  | some rest => exact .inl ⟨rest, start_inspect_method hrest depth⟩
  | none =>
    have hfails : (inspect (depth + 1) (.method receiver f)).start w
        = (.error (.ofMessage .valueError "no signature found"), w) := by
      rw [inspect, start_bind, start_get]
      simp only [afterReceiver, hrest]
      rfl
    exact .inr ⟨_, hfails, by decide⟩

theorem inspects_builtinMethod (depth : Nat) {receiver : Value} (hplain : w.IsPlainValue receiver) (name : String) :
    Inspects w (depth + 1) (.builtinMethod receiver name) := by
  have hkey : (do
      if !followsProtocol w receiver then askKind receiver 1
      return ⟨[Parameter.plain "key"], .absent⟩ : Run Signature).start w
        = (.ok ⟨[Parameter.plain "key"], .absent⟩, w) := by
    cases followsProtocol w receiver with
    | true => rfl
    | false =>
      simp only [Bool.not_false, if_true, start_bind, start_askKind_of_isPlainValue hplain]
      rfl
  -- only what is a routine of a number, or of a view, is not given a key
  rw [Inspects, inspect, start_bind, start_get]
  cases receiver with
  | real x => exact .inl ⟨_, rfl⟩
  | mapping kind entries =>
    cases kind with
    | view => exact .inr ⟨_, rfl, by decide⟩
    | _ => exact .inl ⟨_, hkey⟩
  | _ => exact .inl ⟨_, hkey⟩

theorem inspects_descriptor (hdepth : 0 < w.depth) (depth : Nat) {kind : String}
    (hfunction : (Value.descriptor kind).isFunction = true) : Inspects w (depth + 1) (.descriptor kind) := by
  simp only [Value.isFunction, List.contains_eq_mem, List.mem_cons, List.not_mem_nil, or_false,
    decide_eq_true_eq] at hfunction
  rcases hfunction with rfl | hkind
  · refine .inl ⟨⟨[Parameter.plain "self"], .absent⟩, ?_⟩
    rw [inspect]
    rfl
  · obtain ⟨text, htext⟩ := exists_start_shownOf_descriptor hdepth hkind
    refine .inr ⟨.typeError text, ?_, rfl⟩
    rw [inspect, start_bind, start_get]
    rcases hkind with rfl | rfl <;> exact start_complain htext

/-- A function or a method is asked for its signature without running code. -/
theorem exists_start_signatureOf (hfunction : value.isFunction = true)
    (hreceiver : ∀ receiver name, value = .builtinMethod receiver name → w.IsPlainValue receiver)
    (hdepth : 0 < w.depth) : ∃ signature?, (signatureOf value).start w = (.ok signature?, w) := by
  obtain ⟨depth, hsucc⟩ := Nat.exists_eq_add_one.mpr hdepth
  refine Inspects.exists_start_signatureOf ?_
  rw [hsucc]
  cases value with
  | function f =>
    refine .inl ⟨(w.function f).signature, ?_⟩
    rw [inspect]
    rfl
  | method receiver f => exact inspects_method depth receiver f
  | builtinMethod receiver name => exact inspects_builtinMethod depth (hreceiver receiver name rfl) name
  | descriptor kind => exact inspects_descriptor hdepth depth hfunction
  | _ => cases hfunction

/-! ## Members -/

/-- A value that is plain does not intercept readings. -/
theorem specialMember?_of_isPlainValue (hplain : w.IsPlainValue value) :
    w.specialMember? value "__getattribute__" = none := by
  cases value with
  | object id => exact (hplain id rfl).getattribute
  | _ => rfl

/-- A calm member is seen to be a routine, or not to be one. -/
theorem start_isRoutine_of_isCalmMember (hcalm : w.IsCalmMember member) :
    (Strategy.isRoutine member).start w = (.ok member.isRoutine, w) := by
  cases member with
  | value v =>
    cases v with
    | object id =>
      have hquiet : w.IsQuiet (w.object id).kind := hcalm
      rw [start_isRoutine_object hquiet.toAnswersQuietly, hquiet.isData]
      rfl
    | _ => rfl
  | lazy getter => exact hcalm.elim
  | _ => rfl

/-- A calm routine is read, and asked for its signature. -/
theorem exists_start_read_of_isCalmMember (hplain : w.IsPlainValue value) (hshown : w.ShowsAttributes value)
    (hdepth : 0 < w.depth) {name : String} (hmember : w.member? value name = some member)
    (hcalm : w.IsCalmMember member) (hroutine : member.isRoutine = true) :
    ∃ f signature?, (read value name).start w = (.ok f, w) ∧ (signatureOf f).start w = (.ok signature?, w) ∧
      f.isFunction = true := by
  have hlazy (getter : FunctionId) : member ≠ .lazy getter := by
    rintro rfl
    exact hcalm
  obtain ⟨f, hordinary, hreads⟩ :=
    exists_start_readOrdinary_of_isRoutine (inner w.depth) hshown hmember hroutine hlazy
  have hreceiver (receiver : Value) (own : String) (hf : f = .builtinMethod receiver own) :
      w.IsPlainValue receiver := by
    rcases hreads.receiver receiver own hf with rfl | rfl
    · exact hplain
    · subst hf
      exact hcalm
  obtain ⟨signature?, hsignature⟩ := exists_start_signatureOf hreads.isFunction hreceiver hdepth
  exact ⟨f, signature?, start_read_of_readOrdinary (specialMember?_of_isPlainValue hplain) hordinary, hsignature,
    hreads.isFunction⟩

/-! ## Mappings -/

/-- Whether a plain value is a mapping is found out without running code. -/
theorem exists_start_isMapping (hplain : w.IsPlainValue value) :
    ∃ answer, (isMapping value).start w = (.ok answer, w) ∧
      ∀ id, value = .object id → answer = (w.mappingBase? (w.object id).kind).isSome := by
  cases value with
  | mapping kind entries => exact ⟨true, rfl, nofun⟩
  | object id =>
    refine ⟨(w.mappingBase? (w.object id).kind).isSome, ?_, fun other hother => by cases hother; rfl⟩
    rw [isMapping, start_bind, start_read_class_of_isPlain (hplain id rfl)]
    simp only [start_bind, start_get, start_pure, Bool.or_self]
  | _ => exact ⟨false, rfl, nofun⟩

/-- A mapping that tests keys calmly does so without running code. -/
theorem exists_start_hasKey (hkeys : w.TestsKeysCalmly value)
    (hmapping : (isMapping value).start w = (.ok true, w))
    (hobject : ∀ id, value = .object id → (w.mappingBase? (w.object id).kind).isSome = true) (key : Value) :
    ∃ answer, (hasKey value key).start w = (.ok answer, w) := by
  cases value with
  | mapping kind entries => exact ⟨_, rfl⟩
  | object id =>
    rcases hkeys id rfl with hnone | ⟨hbase, hcontains, hitem⟩
    · have hsome := hobject id rfl
      rw [hnone] at hsome
      cases hsome
    · exact ⟨_, start_hasKey_object hbase hcontains hitem⟩
  | _ => cases hmapping

end Run

namespace Resolve

open Strategy

section

variable {w : World} {value : Value} {qualifier : String} {strict : Bool}

/-! ## The strategies -/

/-- What is located among calm members is a function that is accepted. -/
theorem exists_located_function (accept : String → Value → Option Signature → Option Accessor)
    (hplain : w.IsPlainValue value) (hshown : w.ShowsAttributes value) (hdepth : 0 < w.depth) {names : List String}
    (hcalm : ∀ name ∈ names, ∀ member ∈ w.member? value name, w.IsCalmMember member) :
    ∃ found, (locateMethod accept value names).start w = (.ok found, w) ∧
      ∀ accessor ∈ found, ∃ name f signature?, f.isFunction = true ∧ accept name f signature? = some accessor := by
  induction names with
  | nil => exact ⟨none, rfl, nofun⟩
  | cons name names ih =>
    obtain ⟨hname, hnames⟩ := List.forall_mem_cons.mp hcalm
    obtain ⟨found, hrest, haccepted⟩ := ih hnames
    rw [locateMethod, Run.start_bind, Run.start_get]
    cases hmember : w.member? value name with
    | none =>
      simp only [hmember]
      exact ⟨found, hrest, haccepted⟩
    | some member =>
      have hseen := Run.start_isRoutine_of_isCalmMember (hname member hmember)
      simp only [hmember, Run.start_bind, hseen]
      cases hroutine : member.isRoutine with
      | false => exact ⟨found, hrest, haccepted⟩
      | true =>
        obtain ⟨f, signature?, hread, hsignature, hfunction⟩ := Run.exists_start_read_of_isCalmMember hplain hshown
          hdepth hmember (hname member hmember) hroutine
        simp only [Bool.not_true, Bool.false_eq_true, if_false, Run.start_bind, hread, hsignature, Run.start_get]
        split
        · exact ⟨found, hrest, haccepted⟩
        · cases haccept : accept (w.kindName value ++ "." ++ name ++ "()") f signature? with
          | none => exact ⟨found, hrest, haccepted⟩
          | some accessor =>
            refine ⟨some accessor, rfl, ?_⟩
            rintro _ ⟨⟩
            exact ⟨_, f, signature?, hfunction, haccept⟩

theorem exists_start_locateMethod (accept : String → Value → Option Signature → Option Accessor)
    (hplain : w.IsPlainValue value) (hshown : w.ShowsAttributes value) (hdepth : 0 < w.depth) {names : List String}
    (hcalm : ∀ name ∈ names, ∀ member ∈ w.member? value name, w.IsCalmMember member) :
    ∃ found, (locateMethod accept value names).start w = (.ok found, w) := by
  obtain ⟨found, hfound, -⟩ := exists_located_function accept hplain hshown hdepth hcalm
  exact ⟨found, hfound⟩

/-- The member of a field is seen to be a routine, or not to be one. -/
theorem exists_start_isRoutine {member : Member} (hfield : w.AnswersAsField member) :
    ∃ answer, (isRoutine member).start w = (.ok answer, w) := by
  cases member with
  | value v =>
    cases v with
    | object id => exact ⟨_, Run.start_isRoutine_object (hfield id rfl)⟩
    | _ => exact ⟨_, rfl⟩
  | _ => exact ⟨_, rfl⟩

theorem exists_start_locateField (hfield : ∀ member ∈ w.member? value qualifier, w.AnswersAsField member) :
    (∃ found, (locateField value qualifier).start w = (.ok found, w)) ∨
    ∃ member reason, (locateField value qualifier).start w = (.error (.notAccessible member reason), w) := by
  simp only [locateField, Run.start_bind, Run.start_get]
  cases hmember : w.member? value qualifier with
  | none =>
    refine .inl ?_
    dsimp only
    split
    · exact ⟨none, rfl⟩
    · exact ⟨_, rfl⟩
  | some member =>
    obtain ⟨answer, hanswer⟩ := exists_start_isRoutine (hfield member hmember)
    simp only [Run.start_bind, hanswer]
    cases answer with
    | true => exact .inl ⟨none, rfl⟩
    | false =>
      cases hprivate : isPrivate qualifier with
      | true => exact .inr ⟨_, _, rfl⟩
      | false => exact .inl ⟨_, rfl⟩

theorem exists_start_locateItem (hplain : w.IsPlainValue value) (hkeys : strict = true → w.TestsKeysCalmly value) :
    ∃ found, (locateItem strict value qualifier).start w = (.ok found, w) := by
  obtain ⟨answer, hmapping, hobject⟩ := Run.exists_start_isMapping hplain
  cases answer with
  | false =>
    refine ⟨none, ?_⟩
    rw [locateItem, Run.start_bind, hmapping]
    rfl
  | true =>
    cases strict with
    | false => exact ⟨_, start_locateItem_lenient hmapping⟩
    | true =>
      obtain ⟨isKey, hkey⟩ := Run.exists_start_hasKey (hkeys rfl) hmapping (fun id hid => (hobject id hid).symm)
        (.text qualifier)
      cases isKey with
      | true => exact ⟨_, start_locateItem_strict hmapping hkey⟩
      | false =>
        refine ⟨none, ?_⟩
        rw [locateItem, Run.start_bind, hmapping]
        simp only [Bool.not_true, Bool.false_eq_true, if_false, if_true, Run.start_bind, Run.start_get, hkey]
        rfl

end

/-- A strategy locates an accessor in a calm value, or none, or refuses a member that is not public. Nothing is run for
that, and the world is left as it is. -/
theorem locate_runs_nothing {strict : Bool} {strategy : Strategy} (hmem : strategy ∈ standard strict) {w : World}
    {value : Value} {qualifier : String} (h : w.IsCalm value qualifier strict) :
    (∃ found, (strategy.locate value qualifier).start w = (.ok found, w)) ∨
    ∃ member reason, (strategy.locate value qualifier).start w = (.error (.notAccessible member reason), w) := by
  simp only [standard, List.mem_cons, List.not_mem_nil, or_false] at hmem
  rcases hmem with rfl | rfl | rfl | rfl
  · exact .inl (exists_start_locateMethod acceptBoolean h.isPlain h.showsAttributes h.depth
      (h.candidates "is" (by simp)))
  · exact .inl (exists_start_locateMethod acceptAny h.isPlain h.showsAttributes h.depth (h.candidates "get" (by simp)))
  · exact exists_start_locateField h.field
  · exact .inl (exists_start_locateItem h.isPlain h.keys)

/-- A mapping with an accessor method leaves the world alone, whichever strategy is asked. -/
theorem locate_runs_nothing_method :
    let w := upperMapping "get_a"
    w.IsCalm (.object 0) "a" true ∧ ∀ strategy ∈ standard true,
      (∃ found, (strategy.locate (.object 0) "a").start w = (.ok found, w)) ∨
      ∃ member reason, (strategy.locate (.object 0) "a").start w = (.error (.notAccessible member reason), w) := by
  intro w
  have hcalm : w.IsCalm (.object 0) "a" true := by
    refine ⟨?_, ?_, ?_, nofun, fun _ => ?_, by decide⟩
    · rintro _ ⟨⟩
      exact ⟨rfl, rfl⟩
    · rintro _ ⟨⟩
      rfl
    · have hnames : candidates "is" "a" = ["is_a", "isA"] ∧ candidates "get" "a" = ["get_a", "getA"] := by decide
      have habsent : w.member? (.object 0) "is_a" = none ∧ w.member? (.object 0) "isA" = none ∧
          w.member? (.object 0) "getA" = none := ⟨rfl, rfl, rfl⟩
      have hmethod : w.member? (.object 0) "get_a" = some (.value (.function 0)) := rfl
      have hcalm : w.IsCalmMember (.value (.function 0)) := trivial
      simpa [hnames, habsent, hmethod] using hcalm
    · rintro _ ⟨⟩
      exact .inr ⟨.inl rfl, rfl, nofun⟩
  exact ⟨hcalm, fun strategy hmem => locate_runs_nothing hmem hcalm⟩

/-- A mapping with a test of its own for keys is tested while the item is located. So the test is called, and what an
item lookup raises that is called for the test comes out. -/
theorem locate_runs_membership :
    let lookup := keyedLookup true
    lookup ∈ standard true ∧
    ((lookup.locate (.object 0) "a").start (upperMapping "__contains__")).2.calls = ["Upper.__contains__:a"] ∧
    ((lookup.locate (.object 0) "a").start brokenLookup).1 = .error (.ofMessage .runtimeError "broken") := by
  intro lookup
  refine ⟨by simp [standard, lookup], ?_, ?_⟩
  · set_option maxRecDepth 2000 in rfl
  · set_option maxRecDepth 2000 in rfl

end Resolve

end SqlTemplate
