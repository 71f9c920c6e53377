import SqlTemplate.Proofs.Resolve.Failing
import SqlTemplate.Proofs.Resolve.Locating
/-!
# Supplied attributes

A class may define a hook that supplies what ordinary lookup does not find (`__getattr__`). Ordinary lookup asks it
whenever a reading fails for want of an attribute, whatever was to be read and whoever reads it. The strategies are
meant to read an object of such a class once at most, for the qualifier itself: what they look for before that is found
without reading.

`segment_supplied` is the main theorem. As long as looking at the members of the object runs no code (`World.Supplies`),
the accessor strategies locate functions and read nothing that fails, so that the hook is asked by the field strategy
only, for the qualifier, once, and not for a private one; `Supplied` tells what comes of it. But a member under the name
of an accessor that counts as a method is read while it is located: if that reading fails for want of an attribute, the
hook is asked for the name of the accessor, and what it raises comes out of the search (`segment_supplied_accessor`).
-/

namespace SqlTemplate

/-- An object's class supplies missing attributes, and its members are looked at without running code. It is no
mapping. -/
structure World.Supplies (w : World) (id : ObjectId) (qualifier : String) : Prop where
  hook : ∃ hook, w.ownMember? (w.object id).kind "__getattr__" = some hook
  calm : w.IsCalm (.object id) qualifier false
  notMapping : w.mappingBase? (w.object id).kind = none

namespace Run

/-- Asks the hook of an object for an attribute. -/
def askHook (w : World) (id : ObjectId) (hook : Member) (name : String) : Run Value :=
  callMember (inner w.depth) id "__getattr__" hook [.text name]

/-- How an attribute is read of an object whose class supplies missing ones, and for which names its hook is asked: it
is read the ordinary way, and if there is no such attribute, the hook is asked for it. -/
inductive ReadsBy (id : ObjectId) (hook : Member) (name : String) (w : World) :
    List String → Except Failure Value → World → Prop where
  | ordinary {outcome : Except Failure Value} {w' : World}
    (hread : (readOrdinary (inner w.depth) (.object id) name).start w = (outcome, w'))
    (hother : ∀ failure, outcome = .error failure → failure.isA .attributeError = false) :
    ReadsBy id hook name w [] outcome w'
  | hook {missing : Failure} {outcome : Except Failure Value} {w₁ w' : World}
    (hread : (readOrdinary (inner w.depth) (.object id) name).start w = (.error missing, w₁))
    (hmissing : missing.isA .attributeError = true)
    (hask : (askHook w id hook name).start w₁ = (outcome, w')) :
    ReadsBy id hook name w [name] outcome w'

section

variable {w : World} {id : ObjectId} {hook : Member}

/-- An attribute is read in one of the two ways. -/
theorem exists_readsBy (hgetattribute : w.ownMember? (w.object id).kind "__getattribute__" = none)
    (hhook : w.ownMember? (w.object id).kind "__getattr__" = some hook) (name : String) :
    ∃ asked outcome w', ReadsBy id hook name w asked outcome w' ∧
      (read (.object id) name).start w = (outcome, w') := by
  have hread : (read (.object id) name).start w
      = (orElse (readOrdinary (inner w.depth) (.object id) name) fun failure =>
          if failure.isA .attributeError then askHook w id hook name else fail failure).start w := by
    -- readings are not intercepted, so the hook only stands behind the ordinary one
    show (readWith (inner w.depth) (.object id) name).start w = _
    rw [readWith, start_bind, start_get]
    simp only [hgetattribute, hhook]
    rfl
  rw [hread]
  rcases hordinary : (readOrdinary (inner w.depth) (.object id) name).start w with ⟨failure | value, w₁⟩
  · rw [start_orElse_of_error hordinary]
    by_cases hmissing : failure.isA .attributeError = true
    · rw [if_pos hmissing]
      exact ⟨[name], _, _, .hook hordinary hmissing rfl, rfl⟩
    · rw [if_neg hmissing]
      refine ⟨[], .error failure, w₁, .ordinary hordinary ?_, rfl⟩
      rintro _ ⟨⟩
      exact Bool.not_eq_true _ ▸ hmissing
  · rw [start_orElse_of_ok hordinary]
    refine ⟨[], .ok value, w₁, .ordinary hordinary ?_, rfl⟩
    rintro _ ⟨⟩

/-- The hook is asked for what was to be read, once at most. -/
theorem ReadsBy.asked_eq {name : String} {asked : List String} {outcome : Except Failure Value} {w' : World}
    (h : ReadsBy id hook name w asked outcome w') : asked = [] ∨ asked = [name] := by
  cases h with
  | ordinary hread hother => exact .inl rfl
  | hook hread hmissing hask => exact .inr rfl

end

end Run

namespace Resolve

open Strategy

/-! ## When a strategy is asked -/

/-- A strategy of a chain is asked in a world: those in front of it are exhausted, and leave this world. -/
def Asked (value : Value) (qualifier path : String) (chain : List Strategy) (w : World) (strategy : Strategy)
    (w' : World) : Prop :=
  ∃ passed rest, chain = passed ++ strategy :: rest ∧ Exhausts value qualifier path passed w w'

/-! ## Accessor methods -/

/-- A strategy locates a function to call, or nothing, and reads and runs nothing else for that. -/
def LocatesFunction (strategy : Strategy) (value : Value) (qualifier : String) (w : World) : Prop :=
  ∃ found, (strategy.locate value qualifier).start w = (.ok found, w) ∧
    ∀ accessor ∈ found, ∃ f, f.isFunction = true ∧ accessor.invoke = Run.callValue f [] ∧ accessor.dynamic = false

theorem invoke_of_acceptBoolean {name : String} {f : Value} {signature? : Option Signature} {accessor : Accessor}
    (h : acceptBoolean name f signature? = some accessor) :
    accessor.invoke = Run.callValue f [] ∧ accessor.dynamic = false := by
  unfold acceptBoolean at h
  dsimp only at h
  split at h
  · cases h
    exact ⟨rfl, rfl⟩
  · split at h
    · cases h
      exact ⟨rfl, rfl⟩
    · cases h

theorem locatesFunction_of_supplies {w : World} {id : ObjectId} {qualifier : String} (h : w.Supplies id qualifier)
    {strategy : Strategy} (hmem : strategy ∈ accessors) : LocatesFunction strategy (.object id) qualifier w := by
  have hlocated (accept : String → Value → Option Signature → Option Accessor) (stem : String)
      (hstem : stem ∈ ["is", "get"]) :=
    exists_located_function accept h.calm.isPlain h.calm.showsAttributes h.calm.depth (h.calm.candidates stem hstem)
  simp only [accessors, List.mem_cons, List.not_mem_nil, or_false] at hmem
  rcases hmem with rfl | rfl
  · obtain ⟨found, hfound, haccepted⟩ := hlocated acceptBoolean "is" (by simp)
    refine ⟨found, hfound, fun accessor haccessor => ?_⟩
    obtain ⟨name, f, signature?, hfunction, haccept⟩ := haccepted accessor haccessor
    exact ⟨f, hfunction, invoke_of_acceptBoolean haccept⟩
  · obtain ⟨found, hfound, haccepted⟩ := hlocated acceptAny "get" (by simp)
    refine ⟨found, hfound, fun accessor haccessor => ?_⟩
    obtain ⟨name, f, signature?, hfunction, haccept⟩ := haccepted accessor haccessor
    cases haccept
    exact ⟨f, hfunction, rfl, rfl⟩

/-! ## The field -/

/-- What a qualifier comes to that no accessor method reads, for an object whose class supplies missing attributes, and
for which names its hook is asked. -/
inductive Supplied (id : ObjectId) (hook : Member) (owner qualifier path : String) (w : World) :
    List String → Except Failure Value → World → Prop where
  /-- There is nothing to read: the name is private and not found, or a method. -/
  | passed
    (hnothing : w.member? (.object id) qualifier = none ∧ isPrivate qualifier = true ∨
      ∃ member, w.member? (.object id) qualifier = some member ∧ (isRoutine member).start w = (.ok true, w)) :
    Supplied id hook owner qualifier path w [] (.error (.fault (.noProperty qualifier owner path "") none)) w
  /-- Private data is not read. -/
  | denied (hprivate : isPrivate qualifier = true) (hdata : IsData w (.object id) qualifier) :
    Supplied id hook owner qualifier path w [] (.error (privateFailure w (.object id) qualifier path)) w
  /-- The attribute is read, the ordinary way or by the hook. -/
  | given {asked : List String} {result : Value} {w' : World} (hpublic : isPrivate qualifier = false)
    (hreads : Run.ReadsBy id hook qualifier w asked (.ok result) w') :
    Supplied id hook owner qualifier path w asked (.ok result) w'
  /-- No member is found, and there is no such attribute. -/
  | missing {asked : List String} {raised : Failure} {w' : World} (hpublic : isPrivate qualifier = false)
    (hnone : w.member? (.object id) qualifier = none)
    (hreads : Run.ReadsBy id hook qualifier w asked (.error raised) w')
    (hmissing : raised.isA .attributeError = true) :
    Supplied id hook owner qualifier path w asked (.error (.fault (.noProperty qualifier owner path "") none)) w'
  /-- A member is found, and yet there is no such attribute. -/
  | failed {asked : List String} {raised : Failure} {text : String} {w₁ w' : World}
    (hpublic : isPrivate qualifier = false) (hdata : IsData w (.object id) qualifier)
    (hreads : Run.ReadsBy id hook qualifier w asked (.error raised) w₁)
    (hmissing : raised.isA .attributeError = true) (htext : (Run.textOfFailure raised).start w₁ = (.ok text, w')) :
    Supplied id hook owner qualifier path w asked
      (.error (.fault (.accessorFailed (w.kindName (.object id) ++ "." ++ qualifier) path raised.className text)
        (some raised))) w'
  /-- So it is, and what was raised cannot be written down. -/
  | unwritten {asked : List String} {raised failure : Failure} {w₁ w' : World}
    (hpublic : isPrivate qualifier = false) (hdata : IsData w (.object id) qualifier)
    (hreads : Run.ReadsBy id hook qualifier w asked (.error raised) w₁)
    (hmissing : raised.isA .attributeError = true)
    (htext : (Run.textOfFailure raised).start w₁ = (.error failure, w')) :
    Supplied id hook owner qualifier path w asked (.error failure) w'
  /-- Reading fails in another way, as that of any field does. -/
  | refused {asked : List String} {raised failure : Failure} {dynamic : Bool} {w₁ w' : World}
    (hpublic : isPrivate qualifier = false) (hreads : Run.ReadsBy id hook qualifier w asked (.error raised) w₁)
    (hother : raised.isA .attributeError = false)
    (hrefusal : (refusal (fieldAccessor w (.object id) qualifier dynamic) path raised).start w₁
      = (.error failure, w')) :
    Supplied id hook owner qualifier path w asked (.error failure) w'

section

variable {id : ObjectId} {hook : Member} {owner qualifier path : String} {w w' : World}

/-- The hook is asked for the qualifier only, once at most, and not for a private one. -/
theorem Supplied.asked_eq {asked : List String} {outcome : Except Failure Value}
    (h : Supplied id hook owner qualifier path w asked outcome w') :
    asked = [] ∨ asked = [qualifier] ∧ isPrivate qualifier = false := by
  cases h with
  | passed hnothing => exact .inl rfl
  | denied hprivate hdata => exact .inl rfl
  | given hpublic hreads => exact hreads.asked_eq.imp_right fun hasked => ⟨hasked, hpublic⟩
  | missing hpublic hnone hreads hmissing => exact hreads.asked_eq.imp_right fun hasked => ⟨hasked, hpublic⟩
  | failed hpublic hdata hreads hmissing htext => exact hreads.asked_eq.imp_right fun hasked => ⟨hasked, hpublic⟩
  | unwritten hpublic hdata hreads hmissing htext => exact hreads.asked_eq.imp_right fun hasked => ⟨hasked, hpublic⟩
  | refused hpublic hreads hother hrefusal => exact hreads.asked_eq.imp_right fun hasked => ⟨hasked, hpublic⟩

/-- The strategy for items has nothing for an object that is no mapping. -/
theorem start_segment_keyedLookup_of_supplies (h : w.Supplies id qualifier) (strict : Bool) (owner path : String) :
    (segment [keyedLookup strict] (.object id) owner qualifier path).start w
      = (.error (.fault (.noProperty qualifier owner path "") none), w) := by
  obtain ⟨answer, hanswer, hobject⟩ := Run.exists_start_isMapping h.calm.isPlain
  have hnot : answer = false := by
    rw [hobject id rfl, h.notMapping]
    rfl
  have hlocate : ((keyedLookup strict).locate (.object id) qualifier).start w = (.ok none, w) := by
    show (locateItem strict (.object id) qualifier).start w = _
    rw [locateItem, Run.start_bind, hanswer, hnot]
    rfl
  have hexhausts : Exhausts (.object id) qualifier path [keyedLookup strict] w w :=
    exhausts_singleton (.nothing hlocate) rfl
  exact hexhausts.start_segment_eq (by simp) owner

/-- The refusal of a failure that counts is a failure. -/
theorem exists_start_refusal {accessor : Accessor} {raised : Failure}
    (hcounts : ¬ (accessor.dynamic = true ∧ raised.isA .attributeError = true)) (path : String) (w : World) :
    ∃ failure w', (refusal accessor path raised).start w = (.error failure, w') := by
  rcases hrefusal : (refusal accessor path raised).start w with ⟨failure | reading, w'⟩
  · exact ⟨failure, w', rfl⟩
  · obtain ⟨-, -, hdynamic, hmissing, -⟩ := start_refusal_eq_ok.mp hrefusal
    exact absurd ⟨hdynamic, hmissing⟩ hcounts

/-- So is a failure whose text fails to be written. -/
theorem start_refusal_of_unwritten {accessor : Accessor} {raised failure : Failure}
    (hmissing : raised.isA .attributeError = true) (hstatic : accessor.dynamic = false)
    (htext : (Run.textOfFailure raised).start w = (.error failure, w')) (path : String) :
    (refusal accessor path raised).start w = (.error failure, w') := by
  have hpermission := Failure.isA_permissionError_of_isA_attributeError hmissing
  have hexception := Failure.isA_exception_of_isA_attributeError hmissing
  have hfault : (Fault.ofAccessor accessor.name path raised).start w = (.error failure, w') := by
    rw [Fault.ofAccessor, Run.start_bind, htext]
  rw [refusal, if_neg (by simp [hpermission]), if_neg (by simp [hstatic]), if_pos hexception, Run.start_bind, hfault]

/-- What comes of a public field that is located: it is dynamic if no member is found. -/
theorem exists_supplied_of_located {dynamic : Bool} (hsupplies : w.Supplies id qualifier)
    (hhook : w.ownMember? (w.object id).kind "__getattr__" = some hook)
    (hafter : ∀ w', Exhausts (.object id) qualifier path [publicField] w w' → w'.Supplies id qualifier)
    (hpublic : isPrivate qualifier = false)
    (hfound : dynamic = true ∧ w.member? (.object id) qualifier = none ∨
      dynamic = false ∧ IsData w (.object id) qualifier)
    (hlocate : (publicField.locate (.object id) qualifier).start w
      = (.ok (some (fieldAccessor w (.object id) qualifier dynamic)), w)) (strict : Bool) (owner : String) :
    ∃ asked outcome w', Supplied id hook owner qualifier path w asked outcome w' ∧
      (segment [publicField, keyedLookup strict] (.object id) owner qualifier path).start w = (outcome, w') := by
  have hvalue : Value.object id ≠ .null := by simp
  have hgetattribute := (hsupplies.calm.isPlain id rfl).getattribute
  obtain ⟨asked, outcome, w₁, hreads, hread⟩ := Run.exists_readsBy hgetattribute hhook qualifier
  rcases outcome with raised | result
  · -- the accessor fails, and how decides whether it counts
    have hdecided {failure : Failure} {w' : World}
        (hrefusal : (refusal (fieldAccessor w (.object id) qualifier dynamic) path raised).start w₁
          = (.error failure, w')) :
        (segment [publicField, keyedLookup strict] (.object id) owner qualifier path).start w = (.error failure, w') :=
      have htried : Tried (.object id) qualifier path publicField w _ w' := .located hlocate (.failed hread hrefusal)
      htried.start_segment hvalue owner [keyedLookup strict]
    by_cases hmissing : raised.isA .attributeError = true
    · rcases hfound with ⟨rfl, hnone⟩ | ⟨rfl, hdata⟩
      · have hpermitted := Failure.isA_permissionError_of_isA_attributeError hmissing
        have htried : Tried (.object id) qualifier path publicField w _ w₁ :=
          .located hlocate (.noAttribute hread rfl hmissing hpermitted)
        refine ⟨asked, _, w₁, .missing hpublic hnone hreads hmissing, ?_⟩
        rw [htried.start_segment hvalue]
        exact start_segment_keyedLookup_of_supplies (hafter w₁ (exhausts_singleton htried rfl)) strict owner path
      · rcases htext : (Run.textOfFailure raised).start w₁ with ⟨failure | text, w'⟩
        · exact ⟨asked, _, w', .unwritten hpublic hdata hreads hmissing htext,
            hdecided (start_refusal_of_unwritten hmissing rfl htext path)⟩
        · have hcounts : ¬ (raised.isA .attributeError = true ∧
              (fieldAccessor w (.object id) qualifier false).dynamic = true) := by simp [fieldAccessor]
          exact ⟨asked, _, w', .failed hpublic hdata hreads hmissing htext,
            hdecided (start_refusal_of_exception (Failure.isA_exception_of_isA_attributeError hmissing)
              (Failure.isA_permissionError_of_isA_attributeError hmissing) hcounts htext)⟩
    · rw [Bool.not_eq_true] at hmissing
      have hcounts : ¬ ((fieldAccessor w (.object id) qualifier dynamic).dynamic = true ∧
          raised.isA .attributeError = true) := by simp [hmissing]
      obtain ⟨failure, w', hrefusal⟩ := exists_start_refusal hcounts path w₁
      exact ⟨asked, _, w', .refused hpublic hreads hmissing hrefusal, hdecided hrefusal⟩
  · have htried : Tried (.object id) qualifier path publicField w _ w₁ := .located hlocate (.accepted hread rfl)
    refine ⟨asked, _, w₁, .given hpublic hreads, ?_⟩
    exact htried.start_segment hvalue owner [keyedLookup strict]

/-- What comes of a qualifier that no accessor method reads. -/
theorem exists_supplied (hsupplies : w.Supplies id qualifier)
    (hhook : w.ownMember? (w.object id).kind "__getattr__" = some hook)
    (hafter : ∀ w', Exhausts (.object id) qualifier path [publicField] w w' → w'.Supplies id qualifier) (strict : Bool)
    (owner : String) :
    ∃ asked outcome w', Supplied id hook owner qualifier path w asked outcome w' ∧
      (segment [publicField, keyedLookup strict] (.object id) owner qualifier path).start w = (outcome, w') := by
  have hvalue : Value.object id ≠ .null := by simp
  have hpassed (htried : Tried (.object id) qualifier path publicField w .nothing w) :
      (segment [publicField, keyedLookup strict] (.object id) owner qualifier path).start w
        = (.error (.fault (.noProperty qualifier owner path "") none), w) := by
    rw [htried.start_segment hvalue]
    exact start_segment_keyedLookup_of_supplies hsupplies strict owner path
  have hgetattr : w.specialMember? (.object id) "__getattr__" ≠ none := by
    rw [World.specialMember?, hhook]
    exact Option.some_ne_none hook
  cases hmember : w.member? (.object id) qualifier with
  | none =>
    cases hprivate : isPrivate qualifier with
    | false =>
      exact exists_supplied_of_located hsupplies hhook hafter hprivate (.inl ⟨rfl, hmember⟩)
        (start_locateField_of_dynamic hprivate hmember hgetattr) strict owner
    | true =>
      refine ⟨[], _, w, .passed (.inl ⟨hmember, hprivate⟩), hpassed (.nothing ?_)⟩
      show (locateField (.object id) qualifier).start w = _
      simp only [locateField, Run.start_bind, Run.start_get, hmember, hprivate, Bool.true_or, if_true]
      rfl
  | some member =>
    obtain ⟨answer, hseen⟩ := exists_start_isRoutine (hsupplies.calm.field member hmember)
    cases answer with
    | true =>
      refine ⟨[], _, w, .passed (.inr ⟨member, hmember, hseen⟩), ?_⟩
      exact hpassed (tried_publicField_of_routine hmember hseen path)
    | false =>
      have hdata : IsData w (.object id) qualifier := ⟨member, hmember, hseen⟩
      cases hprivate : isPrivate qualifier with
      | false =>
        exact exists_supplied_of_located hsupplies hhook hafter hprivate (.inr ⟨rfl, hdata⟩)
          (start_locateField_of_data hprivate hmember hseen) strict owner
      | true =>
        have htried := tried_publicField_of_isPrivate hprivate hdata path
        exact ⟨[], _, w, .denied hprivate hdata, htried.start_segment hvalue owner [keyedLookup strict]⟩

/-- As long as looking at its members runs no code, an object whose class supplies missing attributes is read like this:
the accessor strategies locate functions to call, and read nothing that fails. If one of them decides, the hook is not
asked. If not, the field strategy reads the qualifier, unless it is private or a method, and for that the hook is asked
once at most, and for nothing else. If then the hook tells that there is no such attribute, there is no such property
when no member is found under the name, and the accessor fails when one is. -/
theorem segment_supplied {id : ObjectId} {qualifier path : String} {strict : Bool} {w : World}
    (hsupplies : ∀ strategy w', Asked (.object id) qualifier path (standard strict) w strategy w' →
      w'.Supplies id qualifier) (owner : String) :
    let reading := (segment (standard strict) (.object id) owner qualifier path).start w
    (∀ strategy ∈ accessors, ∀ w', Asked (.object id) qualifier path (standard strict) w strategy w' →
      LocatesFunction strategy (.object id) qualifier w') ∧
    ((∃ strategy ∈ accessors, ∃ w₁ attempt outcome w',
        Asked (.object id) qualifier path (standard strict) w strategy w₁ ∧
        Tried (.object id) qualifier path strategy w₁ attempt w' ∧ attempt.decision? = some outcome ∧
        reading = (outcome, w')) ∨
      ∃ w₁ hook asked outcome w', Exhausts (.object id) qualifier path accessors w w₁ ∧
        w₁.ownMember? (w₁.object id).kind "__getattr__" = some hook ∧
        Supplied id hook owner qualifier path w₁ asked outcome w' ∧ reading = (outcome, w') ∧
        (asked = [] ∨ asked = [qualifier] ∧ isPrivate qualifier = false)) := by
  intro reading
  have hvalue : Value.object id ≠ .null := by simp
  refine ⟨fun strategy hmem w' hasked => locatesFunction_of_supplies (hsupplies strategy w' hasked) hmem, ?_⟩
  rcases exhausts_or_decides (.object id) qualifier path accessors w with
    ⟨w₁, hexhausts⟩ | ⟨passed, strategy, rest, w₁, attempt, outcome, w', hchain, hexhausts, htried, hdecides⟩
  · -- the field strategy comes behind the accessors, and the one for items in the world that it leaves
    refine .inr ⟨w₁, ?_⟩
    have hfield : w₁.Supplies id qualifier :=
      hsupplies publicField w₁ ⟨accessors, [keyedLookup strict], rfl, hexhausts⟩
    have hafter : ∀ w', Exhausts (.object id) qualifier path [publicField] w₁ w' → w'.Supplies id qualifier :=
      fun w' hnext => hsupplies (keyedLookup strict) w' ⟨beforeItems, [], rfl, hexhausts.append hnext⟩
    obtain ⟨hook, hhook⟩ := hfield.hook
    obtain ⟨asked, outcome, w', hsupplied, hrest⟩ := exists_supplied hfield hhook hafter strict owner
    have hreading : reading = (segment [publicField, keyedLookup strict] (.object id) owner qualifier path).start w₁ :=
      hexhausts.start_segment hvalue owner [publicField, keyedLookup strict]
    exact ⟨hook, asked, outcome, w', hexhausts, hhook, hsupplied, hreading.trans hrest, hsupplied.asked_eq⟩
  · have hfull : standard strict = passed ++ strategy :: (rest ++ [publicField, keyedLookup strict]) := by
      rw [← List.cons_append, ← List.append_assoc, ← hchain]
      rfl
    have hasked : Asked (.object id) qualifier path (standard strict) w strategy w₁ :=
      ⟨passed, rest ++ [publicField, keyedLookup strict], hfull, hexhausts⟩
    refine .inl ⟨strategy, by simp [hchain], w₁, attempt, outcome, w', hasked, htried, hdecides, ?_⟩
    show (segment (standard strict) (.object id) owner qualifier path).start w = (outcome, w')
    rw [hfull]
    exact hexhausts.start_segment_of_decides htried hdecides hvalue owner _

end

/-- A world with an object whose class supplies no attribute, and has another object among its members that takes part
in reading, and fails. -/
def proxy (members : List (String × Member)) : World :=
  let hook : Function :=
    ⟨"Proxy.__getattr__", ⟨[Parameter.plain "self", Parameter.plain "name"], .absent⟩,
      .perform ⟨0, [], .fail (.standard .attributeError) [none]⟩⟩
  let binding : Function :=
    ⟨"Binder.__get__", ⟨[Parameter.plain "self", Parameter.plain "owner", Parameter.plain "kind"], .absent⟩,
      .perform ⟨1, [], .fail (.standard .attributeError) [some (.text "no")]⟩⟩
  { World.empty with
    classes := World.empty.classes ++
      [.ofMembers "Proxy" (("__getattr__", .value (.function 0)) :: members),
        .ofMembers "Binder" [("__get__", .static 1)]]
    functions := [hook, binding]
    objects := [.ofKind 2, .ofKind 3] }

/-- The world after the hook has been asked. -/
def askedProxy (names : List String) : World :=
  { proxy [] with
    calls := names.map ("Proxy.__getattr__:" ++ ·)
    done := names.map fun _ => 0 }

theorem supplies_askedProxy (names : List String) : (askedProxy names).Supplies 0 "x" := by
  have hcandidates : candidates "is" "x" = ["is_x", "isX"] ∧ candidates "get" "x" = ["get_x", "getX"] := by decide
  have habsent : ∀ name ∈ ["is_x", "isX", "get_x", "getX", "x"],
      (askedProxy names).member? (.object 0) name = none := by
    simp only [List.forall_mem_cons, List.not_mem_nil, false_implies, implies_true, and_true]
    exact ⟨rfl, rfl, rfl, rfl, rfl⟩
  have hdepth : 0 < (askedProxy names).depth := by
    show 0 < 985
    decide
  refine ⟨⟨_, rfl⟩, ⟨?_, ?_, ?_, ?_, nofun, hdepth⟩, rfl⟩
  · rintro _ ⟨⟩
    exact ⟨rfl, rfl⟩
  · rintro _ ⟨⟩
    rfl
  · intro stem hstem name hname member hmember
    have hnone : (askedProxy names).member? (.object 0) name = none := by
      apply habsent
      simp only [List.mem_cons, List.not_mem_nil, or_false] at hstem
      rcases hstem with rfl | rfl
      · rw [hcandidates.1] at hname
        exact List.mem_append_left ["get_x", "getX", "x"] hname
      · rw [hcandidates.2] at hname
        exact List.mem_append_right ["is_x", "isX"] (List.mem_append_left ["x"] hname)
    rw [hnone] at hmember
    cases hmember
  · intro member hmember
    rw [habsent "x" (by simp)] at hmember
    cases hmember

/-- Each strategy is asked before the hook, but for the last one. -/
theorem asked_proxy {strict : Bool} {strategy : Strategy} {w' : World}
    (hasked : Asked (.object 0) "x" "o.x" (standard strict) (askedProxy []) strategy w') :
    ∃ names, w' = askedProxy names := by
  have hboolean : Exhausts (.object 0) "x" "o.x" [booleanAccessor] (askedProxy []) (askedProxy []) :=
    exhausts_of_none "o.x" fun strategy hmem => by
      rw [List.mem_singleton.mp hmem]
      rfl
  have hgeneral : Exhausts (.object 0) "x" "o.x" [generalAccessor] (askedProxy []) (askedProxy []) :=
    exhausts_of_none "o.x" fun strategy hmem => by
      rw [List.mem_singleton.mp hmem]
      rfl
  have hfield : Exhausts (.object 0) "x" "o.x" [publicField] (askedProxy []) (askedProxy ["x"]) := by
    have hread : (Run.read (.object 0) "x").start (askedProxy [])
        = (.error (.ofMessage .attributeError "x"), askedProxy ["x"]) := rfl
    have hnone : (askedProxy []).member? (.object 0) "x" = none := rfl
    have hgetattr : (askedProxy []).specialMember? (.object 0) "__getattr__" ≠ none := Option.some_ne_none _
    have hlocate := start_locateField_of_dynamic (by decide) hnone hgetattr
    exact exhausts_singleton (.located hlocate (.noAttribute hread rfl rfl rfl)) rfl
  obtain ⟨passed, rest, hchain, hexhausts⟩ := hasked
  -- the strategies in front are the first ones of the chain, three at most
  rcases passed with _ | ⟨first, _ | ⟨second, _ | ⟨third, _ | ⟨fourth, more⟩⟩⟩⟩
  all_goals simp only [standard, List.nil_append, List.cons_append, List.cons.injEq] at hchain
  · have hnone : Exhausts (.object 0) "x" "o.x" [] (askedProxy []) (askedProxy []) :=
      ⟨[], .done _, List.forall_mem_nil _⟩
    exact ⟨[], hnone.unique hexhausts⟩
  · obtain ⟨rfl, -⟩ := hchain
    exact ⟨[], hboolean.unique hexhausts⟩
  · obtain ⟨rfl, rfl, -⟩ := hchain
    exact ⟨[], (hboolean.append hgeneral).unique hexhausts⟩
  · obtain ⟨rfl, rfl, rfl, -⟩ := hchain
    exact ⟨["x"], (hboolean.append (hgeneral.append hfield)).unique hexhausts⟩
  · obtain ⟨-, -, -, -, hnil⟩ := hchain
    simp at hnil

/-- An object without members is asked for the qualifier, once. -/
theorem segment_supplied_once :
    let w := askedProxy []
    let reading := (segment (standard false) (.object 0) "o" "x" "o.x").start w
    (∀ strategy w', Asked (.object 0) "x" "o.x" (standard false) w strategy w' → w'.Supplies 0 "x") ∧
    reading.1 = .error (.fault (.noProperty "x" "o" "o.x" "") none) ∧ reading.2.calls = ["Proxy.__getattr__:x"] ∧
    ∀ strategy ∈ accessors, ∀ w', Asked (.object 0) "x" "o.x" (standard false) w strategy w' →
      LocatesFunction strategy (.object 0) "x" w' := by
  intro w reading
  have hsupplies : ∀ strategy w', Asked (.object 0) "x" "o.x" (standard false) w strategy w' → w'.Supplies 0 "x" := by
    intro strategy w' hasked
    obtain ⟨names, rfl⟩ := asked_proxy hasked
    exact supplies_askedProxy names
  exact ⟨hsupplies, rfl, rfl, (segment_supplied hsupplies "o").1⟩

/-- An object in the place of an accessor method takes part in reading it. When that fails, the hook is asked for the
name of the accessor, and the failure of the hook comes out. -/
theorem segment_supplied_accessor :
    let w := proxy [("get_x", .value (.object 1))]
    let reading := (segment (standard false) (.object 0) "o" "x" "o.x").start w
    (w.ownMember? (w.object 0).kind "__getattr__").isSome = true ∧
    w.ownMember? (w.object 0).kind "__getattribute__" = none ∧ w.mappingBase? (w.object 0).kind = none ∧
    (∀ name ∈ candidates "is" "x" ++ candidates "get" "x", ∀ getter,
      w.member? (.object 0) name ≠ some (.lazy getter)) ∧
    reading.2.calls = ["Binder.__get__", "Proxy.__getattr__:get_x"] ∧
    reading.1 = .error (.ofMessage .attributeError "get_x") := by
  intro w reading
  refine ⟨rfl, rfl, rfl, ?_, rfl, rfl⟩
  intro name hname getter
  have hnames : candidates "is" "x" ++ candidates "get" "x" = ["is_x", "isX", "get_x", "getX"] := by decide
  simp only [hnames, List.mem_cons, List.not_mem_nil, or_false] at hname
  rcases hname with rfl | rfl | rfl | rfl <;> exact nofun

end Resolve

end SqlTemplate
