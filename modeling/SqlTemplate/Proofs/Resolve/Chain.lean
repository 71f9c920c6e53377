import SqlTemplate.Proofs.Run
import SqlTemplate.Resolve.Walk
/-!
# Chains of strategies

A qualifier is read by a chain of strategies, whatever strategies these are: each may run code when it locates an
accessor, and so may the accessor. `Tried` says what asking one strategy comes to and which world it leaves, and
`Consults` puts such attempts one behind the other, each in the world that the one before it left, up to the first
that decides.

`segment_consults` is the main theorem: reading a qualifier is such a row of attempts, and there is one only. So each
strategy is asked at most once, in the order of the chain, and uses at most one accessor; nothing comes behind an
attempt that decides; and the chain itself gives up just when it is exhausted. A chain made of two is the first one,
or else, when that is exhausted, the second one in the world that it leaves.
-/

namespace SqlTemplate.Resolve

/-! ## Attempts -/

/-- What asking one strategy comes to. -/
inductive Attempt where
  /-- It locates nothing. -/
  | nothing
  /-- Its accessor needs a truth value and gives something else. -/
  | notBool (accessor : Accessor) (result : Value)
  /-- Its accessor is dynamic and finds no attribute. -/
  | noAttribute (accessor : Accessor) (raised : Failure)
  | accepted (accessor : Accessor) (result : Value)
  /-- It may not read the member, or fails to look for it. -/
  | denied (failure : Failure)
  /-- Its accessor fails, or the check of what it gave. -/
  | failed (accessor : Accessor) (failure : Failure)

/-- How an attempt ends the search, if it does. -/
def Attempt.decision? : Attempt → Option (Except Failure Value)
  | .nothing => none
  | .notBool _ _ => none
  | .noAttribute _ _ => none
  | .accepted _ result => some (.ok result)
  | .denied failure => some (.error failure)
  | .failed _ failure => some (.error failure)

/-- An attempt that does not decide: what was used in it did not count. -/
def Attempt.Rejected : Attempt → Prop
  | .nothing => True
  | .notBool accessor result => accessor.requiresBool = true ∧ ∀ truth, result ≠ .bool truth
  | .noAttribute accessor raised => accessor.dynamic = true ∧ raised.isA .attributeError = true
  | _ => False

section

variable (value : Value) (qualifier path : String)

/-- Using an accessor in a world comes to an attempt and leaves a world. -/
inductive Used (accessor : Accessor) (w : World) : Attempt → World → Prop where
  | notBool {result : Value} {w₁ w' : World} (hinvoke : accessor.invoke.start w = (.ok result, w₁))
    (hneeds : accessor.requiresBool = true) (hcheck : (isBool result).start w₁ = (.ok false, w')) :
    Used accessor w (.notBool accessor result) w'
  | noAttribute {raised : Failure} {w' : World}
    (hinvoke : accessor.invoke.start w = (.error raised, w')) (hdynamic : accessor.dynamic = true)
    (hmissing : raised.isA .attributeError = true)
    (hpermitted : raised.isA .permissionError = false) :
    Used accessor w (.noAttribute accessor raised) w'
  | accepted {result : Value} {w' : World} (hinvoke : accessor.invoke.start w = (.ok result, w'))
    (hneeds : accessor.requiresBool = false) :
    Used accessor w (.accepted accessor result) w'
  | acceptedBool {result : Value} {w₁ w' : World}
    (hinvoke : accessor.invoke.start w = (.ok result, w₁)) (hneeds : accessor.requiresBool = true)
    (hcheck : (isBool result).start w₁ = (.ok true, w')) :
    Used accessor w (.accepted accessor result) w'
  | failed {raised failure : Failure} {w₁ w' : World}
    (hinvoke : accessor.invoke.start w = (.error raised, w₁))
    (hrefusal : (refusal accessor path raised).start w₁ = (.error failure, w')) :
    Used accessor w (.failed accessor failure) w'
  | unchecked {result : Value} {failure : Failure} {w₁ w' : World}
    (hinvoke : accessor.invoke.start w = (.ok result, w₁)) (hneeds : accessor.requiresBool = true)
    (hcheck : (isBool result).start w₁ = (.error failure, w')) :
    Used accessor w (.failed accessor failure) w'

/-- Asking a strategy in a world comes to an attempt and leaves a world. -/
inductive Tried (strategy : Strategy) (w : World) : Attempt → World → Prop where
  | nothing {w' : World} (hlocate : (strategy.locate value qualifier).start w = (.ok none, w')) :
    Tried strategy w .nothing w'
  | located {accessor : Accessor} {attempt : Attempt} {w₁ w' : World}
    (hlocate : (strategy.locate value qualifier).start w = (.ok (some accessor), w₁))
    (hused : Used path accessor w₁ attempt w') :
    Tried strategy w attempt w'
  | denied {failure : Failure} {w' : World}
    (hlocate : (locate strategy value qualifier path).start w = (.error failure, w')) :
    Tried strategy w (.denied failure) w'

/-- Strategies are asked one after the other, each in the world that the one before it left, until one decides. -/
inductive Consults : List Strategy → World → List Attempt → World → Prop where
  | done (w : World) : Consults [] w [] w
  | passed {strategy : Strategy} {chain : List Strategy} {w w₁ w' : World} {attempt : Attempt}
    {attempts : List Attempt} (htried : Tried value qualifier path strategy w attempt w₁)
    (hpassed : attempt.decision? = none) (hrest : Consults chain w₁ attempts w') :
    Consults (strategy :: chain) w (attempt :: attempts) w'
  | decided {strategy : Strategy} {chain : List Strategy} {w w' : World} {attempt : Attempt}
    {outcome : Except Failure Value} (htried : Tried value qualifier path strategy w attempt w')
    (hdecides : attempt.decision? = some outcome) :
    Consults (strategy :: chain) w [attempt] w'

/-- All strategies of a chain are asked, and each locates nothing or has its accessor rejected. -/
def Exhausts (chain : List Strategy) (w w' : World) : Prop :=
  ∃ attempts, Consults value qualifier path chain w attempts w' ∧
    ∀ attempt ∈ attempts, attempt.Rejected

end

/-- What comes out of a row of attempts: what the last one decides, or else that there is no such property. -/
def conclusion (owner qualifier path : String) (attempts : List Attempt) : Except Failure Value :=
  match attempts.getLast?.bind (·.decision?) with
  | some outcome => outcome
  | none => .error (.fault (.noProperty qualifier owner path "") none)

/-! ## What is passed over -/

section

variable {value : Value} {qualifier path : String} {strategy : Strategy} {w w' : World}

/-- An accessor is located just when the strategy locates it. -/
theorem start_locate_eq_ok {found : Option Accessor} :
    (locate strategy value qualifier path).start w = (.ok found, w') ↔
      (strategy.locate value qualifier).start w = (.ok found, w') := by
  rw [locate, Run.start_orElse]
  cases (strategy.locate value qualifier).start w with
  | mk result w₁ =>
    cases result with
    | ok a => exact Iff.rfl
    | error failure =>
      refine ⟨fun h => ?_, fun h => ?_⟩
      · exfalso
        cases failure with
        | inaccessible kind member reason =>
          obtain ⟨fault, w₂, -, hfail⟩ := Run.start_bind_eq_ok.mp h
          cases hfail
        | _ => cases h
      · cases h

/-- The failure of an accessor is passed over just when the accessor is dynamic and has no such attribute. -/
theorem start_refusal_eq_ok {accessor : Accessor} {raised : Failure} {reading : Reading} :
    (refusal accessor path raised).start w = (.ok reading, w') ↔
      reading = .passedOver ∧ w' = w ∧ accessor.dynamic = true ∧
        raised.isA .attributeError = true ∧ raised.isA .permissionError = false := by
  rw [refusal]
  by_cases hpermission : raised.isA .permissionError = true
  · rw [if_pos hpermission]
    refine ⟨fun h => ?_, fun h => absurd (hpermission.symm.trans h.2.2.2.2) (by decide)⟩
    obtain ⟨text, w₁, -, hfail⟩ := Run.start_bind_eq_ok.mp h
    cases hfail
  · rw [if_neg hpermission]
    rw [Bool.not_eq_true] at hpermission
    by_cases hmissing : (raised.isA .attributeError && accessor.dynamic) = true
    · rw [if_pos hmissing, Run.start_pure, Prod.mk.injEq, Except.ok.injEq]
      rw [Bool.and_eq_true] at hmissing
      exact ⟨fun h => ⟨h.1.symm, h.2.symm, hmissing.2, hmissing.1, hpermission⟩,
        fun h => ⟨h.1.symm, h.2.1.symm⟩⟩
    · rw [if_neg hmissing]
      refine ⟨fun h => ?_, fun h => absurd (Bool.and_eq_true _ _ ▸ ⟨h.2.2.2.1, h.2.2.1⟩) hmissing⟩
      split at h
      · obtain ⟨fault, w₁, -, hfail⟩ := Run.start_bind_eq_ok.mp h
        cases hfail
      · cases h

end

/-! ## One accessor -/

section

variable {accessor : Accessor} {path : String} {w w' : World}

theorem start_use_of_error {raised : Failure}
    (hinvoke : accessor.invoke.start w = (.error raised, w')) :
    (use accessor path).start w = (refusal accessor path raised).start w' := by
  rw [use, Run.start_bind, Run.start_orElse_of_error (Run.start_map_of_error hinvoke)]
  rcases hrefusal : (refusal accessor path raised).start w' with ⟨failure | reading, w₂⟩
  · rfl
  · obtain ⟨rfl, -⟩ := start_refusal_eq_ok.mp hrefusal
    rfl

theorem start_use_of_ok {result : Value} (hinvoke : accessor.invoke.start w = (.ok result, w')) :
    (use accessor path).start w =
      (if accessor.requiresBool then do
        if ← isBool result then return .accepted result else return .passedOver
      else return .accepted result : Run Reading).start w' := by
  rw [use, Run.start_bind, Run.start_orElse_of_ok (Run.start_map hinvoke)]

/-- What using an accessor gives to the chain. -/
theorem start_use_of_used {attempt : Attempt} (h : Used path accessor w attempt w') :
    (use accessor path).start w
      = match attempt.decision? with
        | some (.ok result) => (.ok (.accepted result), w')
        | some (.error failure) => (.error failure, w')
        | none => (.ok .passedOver, w') := by
  cases h with
  | notBool hinvoke hneeds hcheck =>
    rw [start_use_of_ok hinvoke, if_pos hneeds, Run.start_bind, hcheck]
    rfl
  | noAttribute hinvoke hdynamic hmissing hpermitted =>
    rw [start_use_of_error hinvoke]
    exact start_refusal_eq_ok.mpr ⟨rfl, rfl, hdynamic, hmissing, hpermitted⟩
  | accepted hinvoke hneeds =>
    rw [start_use_of_ok hinvoke, if_neg (by simp [hneeds])]
    rfl
  | acceptedBool hinvoke hneeds hcheck =>
    rw [start_use_of_ok hinvoke, if_pos hneeds, Run.start_bind, hcheck]
    rfl
  | failed hinvoke hrefusal => rw [start_use_of_error hinvoke, hrefusal]; rfl
  | unchecked hinvoke hneeds hcheck =>
    rw [start_use_of_ok hinvoke, if_pos hneeds, Run.start_bind, hcheck]
    rfl

/-- Using an accessor always comes to an attempt. -/
theorem exists_used (accessor : Accessor) (path : String) (w : World) :
    ∃ attempt w', Used path accessor w attempt w' := by
  rcases hinvoke : accessor.invoke.start w with ⟨raised | result, w₁⟩
  · rcases hrefusal : (refusal accessor path raised).start w₁ with ⟨failure | reading, w'⟩
    · exact ⟨_, w', .failed hinvoke hrefusal⟩
    · obtain ⟨-, rfl, hdynamic, hmissing, hpermitted⟩ := start_refusal_eq_ok.mp hrefusal
      exact ⟨_, _, .noAttribute hinvoke hdynamic hmissing hpermitted⟩
  · cases hneeds : accessor.requiresBool with
    | false => exact ⟨_, w₁, .accepted hinvoke hneeds⟩
    | true =>
      rcases hcheck : (isBool result).start w₁ with ⟨failure | isTruth, w'⟩
      · exact ⟨_, w', .unchecked hinvoke hneeds hcheck⟩
      · cases isTruth with
        | false => exact ⟨_, w', .notBool hinvoke hneeds hcheck⟩
        | true => exact ⟨_, w', .acceptedBool hinvoke hneeds hcheck⟩

/-- Using an accessor comes to one attempt only: the results of its run, of the check and of the refusal tell the
cases apart. -/
theorem Used.unique {attempt other : Attempt} {w'' : World} (h : Used path accessor w attempt w')
    (h' : Used path accessor w other w'') : other = attempt ∧ w'' = w' := by
  have hpassed {raised : Failure} {w₁ : World} (hdynamic : accessor.dynamic = true)
      (hmissing : raised.isA .attributeError = true)
      (hpermitted : raised.isA .permissionError = false) :
      (refusal accessor path raised).start w₁ = (.ok .passedOver, w₁) :=
    start_refusal_eq_ok.mpr ⟨rfl, rfl, hdynamic, hmissing, hpermitted⟩
  cases h <;> cases h' <;> simp_all

end

/-! ## One strategy -/

section

variable {value : Value} {owner qualifier path : String} {strategy : Strategy} {w w' : World}

/-- What an attempt comes to is what reading by the chain does first. -/
theorem start_readBy_of_tried {attempt : Attempt}
    (h : Tried value qualifier path strategy w attempt w') (chain : List Strategy) :
    (readBy value owner qualifier path (strategy :: chain)).start w
      = match attempt.decision? with
        | some outcome => (outcome, w')
        | none => (readBy value owner qualifier path chain).start w' := by
  rw [readBy, Run.start_bind]
  cases h with
  | nothing hlocate =>
    rw [start_locate_eq_ok.mpr hlocate]
    rfl
  | located hlocate hused =>
    rw [start_locate_eq_ok.mpr hlocate]
    simp only [Run.start_bind, start_use_of_used hused]
    rcases attempt.decision? with _ | failure | result
    · rfl
    · rfl
    · rfl
  | denied hlocate =>
    rw [hlocate]
    rfl

/-- Asking a strategy always comes to an attempt. -/
theorem exists_tried (value : Value) (qualifier path : String) (strategy : Strategy) (w : World) :
    ∃ attempt w', Tried value qualifier path strategy w attempt w' := by
  rcases hlocate : (locate strategy value qualifier path).start w with ⟨failure | found, w₁⟩
  · exact ⟨_, w₁, .denied hlocate⟩
  · rw [start_locate_eq_ok] at hlocate
    cases found with
    | none => exact ⟨_, w₁, .nothing hlocate⟩
    | some accessor =>
      obtain ⟨attempt, w', hused⟩ := exists_used accessor path w₁
      exact ⟨attempt, w', .located hlocate hused⟩

/-- Asking a strategy comes to one attempt only. -/
theorem Tried.unique {attempt other : Attempt} {w'' : World}
    (h : Tried value qualifier path strategy w attempt w')
    (h' : Tried value qualifier path strategy w other w'') : other = attempt ∧ w'' = w' := by
  have hfound {found : Option Accessor} {w₁ : World}
      (hlocate : (strategy.locate value qualifier).start w = (.ok found, w₁)) :
      (locate strategy value qualifier path).start w = (.ok found, w₁) :=
    start_locate_eq_ok.mpr hlocate
  cases h with
  | nothing hlocate => cases h' <;> simp_all
  | located hlocate hused =>
    cases h' with
    | nothing hlocate' => simp_all
    | located hlocate' hused' =>
      rw [hlocate, Prod.mk.injEq, Except.ok.injEq, Option.some.injEq] at hlocate'
      obtain ⟨rfl, rfl⟩ := hlocate'
      exact hused.unique hused'
    | denied hlocate' => simp_all
  | denied hlocate => cases h' <;> simp_all

/-- An attempt decides nothing just when what was used in it was rejected. -/
theorem Tried.rejected_iff {attempt : Attempt}
    (h : Tried value qualifier path strategy w attempt w') :
    attempt.Rejected ↔ attempt.decision? = none := by
  cases h with
  | nothing hlocate => simp [Attempt.Rejected, Attempt.decision?]
  | denied hlocate => simp [Attempt.Rejected, Attempt.decision?]
  | located hlocate hused =>
    cases hused with
    | notBool hinvoke hneeds hcheck =>
      refine ⟨fun _ => rfl, fun _ => ⟨hneeds, ?_⟩⟩
      -- a truth value passes the check
      rintro truth rfl
      cases hcheck
    | noAttribute hinvoke hdynamic hmissing hpermitted =>
      exact ⟨fun _ => rfl, fun _ => ⟨hdynamic, hmissing⟩⟩
    | accepted hinvoke hneeds => simp [Attempt.Rejected, Attempt.decision?]
    | acceptedBool hinvoke hneeds hcheck => simp [Attempt.Rejected, Attempt.decision?]
    | failed hinvoke hrefusal => simp [Attempt.Rejected, Attempt.decision?]
    | unchecked hinvoke hneeds hcheck => simp [Attempt.Rejected, Attempt.decision?]

end

/-! ## The chain -/

section

variable {value : Value} {owner qualifier path : String} {chain : List Strategy} {w w' : World}
  {attempts : List Attempt}

theorem conclusion_cons_of_passed {attempt : Attempt} (h : attempt.decision? = none)
    (owner qualifier path : String) (attempts : List Attempt) :
    conclusion owner qualifier path (attempt :: attempts)
      = conclusion owner qualifier path attempts := by
  cases attempts with
  | nil => simp [conclusion, h]
  | cons next attempts => rw [conclusion, conclusion, List.getLast?_cons_cons]

/-- A row of attempts concludes what reading by the chain gives, and leaves the world that it leaves. -/
theorem Consults.start_readBy (h : Consults value qualifier path chain w attempts w')
    (owner : String) :
    (readBy value owner qualifier path chain).start w
      = (conclusion owner qualifier path attempts, w') := by
  induction h with
  | done w => rfl
  | passed htried hpassed _ ih =>
    rw [start_readBy_of_tried htried, hpassed, conclusion_cons_of_passed hpassed]
    exact ih
  | decided htried hdecides =>
    rw [start_readBy_of_tried htried, hdecides, conclusion, List.getLast?_singleton,
      Option.bind_some, hdecides]

/-- Asking a chain always comes to a row of attempts. -/
theorem exists_consults (value : Value) (qualifier path : String) (chain : List Strategy)
    (w : World) : ∃ attempts w', Consults value qualifier path chain w attempts w' := by
  induction chain generalizing w with
  | nil => exact ⟨[], w, .done w⟩
  | cons strategy chain ih =>
    obtain ⟨attempt, w₁, htried⟩ := exists_tried value qualifier path strategy w
    cases hdecision : attempt.decision? with
    | some outcome => exact ⟨[attempt], w₁, .decided htried hdecision⟩
    | none =>
      obtain ⟨attempts, w', hrest⟩ := ih w₁
      exact ⟨attempt :: attempts, w', .passed htried hdecision hrest⟩

/-- Asking a chain comes to one row of attempts only. -/
theorem Consults.unique {others : List Attempt} {w'' : World}
    (h : Consults value qualifier path chain w attempts w')
    (h' : Consults value qualifier path chain w others w'') : others = attempts ∧ w'' = w' := by
  induction h generalizing others w'' with
  | done w =>
    cases h'
    exact ⟨rfl, rfl⟩
  | passed htried hpassed _ ih =>
    cases h' with
    | passed htried' hpassed' hrest' =>
      obtain ⟨rfl, rfl⟩ := htried.unique htried'
      obtain ⟨rfl, rfl⟩ := ih hrest'
      exact ⟨rfl, rfl⟩
    | decided htried' hdecides' =>
      obtain ⟨rfl, rfl⟩ := htried.unique htried'
      simp [hpassed] at hdecides'
  | decided htried hdecides =>
    cases h' with
    | passed htried' hpassed' hrest' =>
      obtain ⟨rfl, rfl⟩ := htried.unique htried'
      simp [hpassed'] at hdecides
    | decided htried' hdecides' =>
      obtain ⟨rfl, rfl⟩ := htried.unique htried'
      exact ⟨rfl, rfl⟩

/-- No strategy is asked twice. -/
theorem Consults.length_le (h : Consults value qualifier path chain w attempts w') :
    attempts.length ≤ chain.length := by
  induction h with
  | done w => exact Nat.le_refl 0
  | passed _ _ _ ih => exact Nat.succ_le_succ ih
  | decided _ _ => exact Nat.succ_le_succ (Nat.zero_le _)

/-- Every attempt in front of the last one was rejected. -/
theorem Consults.rejected_of_mem_dropLast (h : Consults value qualifier path chain w attempts w') :
    ∀ attempt ∈ attempts.dropLast, attempt.Rejected := by
  induction h with
  | done w => simp
  | decided _ _ => simp
  | @passed _ _ _ _ _ first rest htried hpassed hrest ih =>
    cases rest with
    | nil => simp
    | cons next rest =>
      rw [List.dropLast_cons_cons]
      intro attempt hmem
      rcases List.mem_cons.mp hmem with rfl | hmem
      · exact htried.rejected_iff.mpr hpassed
      · exact ih attempt hmem

/-- The last attempt decides, or else the whole chain was asked and every attempt was rejected. -/
theorem Consults.decides_or_exhausted (h : Consults value qualifier path chain w attempts w') :
    (∃ outcome, attempts.getLast?.bind (·.decision?) = some outcome ∧
      ¬ ∀ attempt ∈ attempts, attempt.Rejected) ∨
    (attempts.getLast?.bind (·.decision?) = none ∧ attempts.length = chain.length ∧
      ∀ attempt ∈ attempts, attempt.Rejected) := by
  induction h with
  | done w => exact .inr ⟨rfl, rfl, by simp⟩
  | @decided _ _ _ _ attempt outcome htried hdecides =>
    refine .inl ⟨outcome, hdecides, fun hall => ?_⟩
    have hnone := htried.rejected_iff.mp (hall attempt List.mem_cons_self)
    simp [hdecides] at hnone
  | @passed _ _ _ _ _ first rest htried hpassed hrest ih =>
    have hfirst : first.Rejected := htried.rejected_iff.mpr hpassed
    have hlast : (first :: rest).getLast?.bind (·.decision?) = rest.getLast?.bind (·.decision?) := by
      cases rest with
      | nil => exact hpassed
      | cons next rest => rw [List.getLast?_cons_cons]
    rw [hlast, List.forall_mem_cons]
    rcases ih with ⟨outcome, hdecides, hnot⟩ | ⟨hnone, hlength, hall⟩
    · exact .inl ⟨outcome, hdecides, fun hboth => hnot hboth.2⟩
    · exact .inr ⟨hnone, congrArg (· + 1) hlength, hfirst, hall⟩

/-- Behind a chain that is exhausted comes the next one, in the world that is left. -/
theorem Consults.start_readBy_append (h : Consults value qualifier path chain w attempts w')
    (hall : ∀ attempt ∈ attempts, attempt.Rejected) (owner : String) (second : List Strategy) :
    (readBy value owner qualifier path (chain ++ second)).start w
      = (readBy value owner qualifier path second).start w' := by
  induction h with
  | done w => rfl
  | passed htried hpassed _ ih =>
    rw [List.cons_append, start_readBy_of_tried htried, hpassed]
    exact ih (List.forall_mem_cons.mp hall).2
  | @decided _ _ _ _ attempt outcome htried hdecides =>
    have hnone := htried.rejected_iff.mp (hall attempt List.mem_cons_self)
    simp [hdecides] at hnone

/-- Behind an attempt that decides nothing more is asked. -/
theorem Consults.append_of_decides (h : Consults value qualifier path chain w attempts w')
    (hnot : ¬ ∀ attempt ∈ attempts, attempt.Rejected) (second : List Strategy) :
    Consults value qualifier path (chain ++ second) w attempts w' := by
  induction h with
  | done w => exact absurd (by simp) hnot
  | passed htried hpassed _ ih =>
    refine .passed htried hpassed (ih fun hrest => hnot ?_)
    exact List.forall_mem_cons.mpr ⟨htried.rejected_iff.mpr hpassed, hrest⟩
  | decided htried hdecides => exact .decided htried hdecides

/-- A value that is there is read by the chain. -/
theorem segment_eq_readBy (h : value ≠ .null) :
    segment chain value owner qualifier path = readBy value owner qualifier path chain := by
  cases value with
  | null => exact absurd rfl h
  | _ => rfl

/-- What an attempt decides is what reading the qualifier comes to. -/
theorem Tried.start_segment {strategy : Strategy} {attempt : Attempt}
    (h : Tried value qualifier path strategy w attempt w') (hvalue : value ≠ .null) (owner : String)
    (rest : List Strategy) :
    (segment (strategy :: rest) value owner qualifier path).start w
      = match attempt.decision? with
        | some outcome => (outcome, w')
        | none => (segment rest value owner qualifier path).start w' := by
  rw [segment_eq_readBy hvalue, segment_eq_readBy hvalue]
  exact start_readBy_of_tried h rest

theorem Consults.start_segment (h : Consults value qualifier path chain w attempts w') (hvalue : value ≠ .null)
    (owner : String) :
    (segment chain value owner qualifier path).start w = (conclusion owner qualifier path attempts, w') := by
  rw [segment_eq_readBy hvalue]
  exact h.start_readBy owner

/-- Behind an exhausted chain the strategies that follow go on. -/
theorem Exhausts.start_segment (h : Exhausts value qualifier path chain w w') (hvalue : value ≠ .null)
    (owner : String) (rest : List Strategy) :
    (segment (chain ++ rest) value owner qualifier path).start w
      = (segment rest value owner qualifier path).start w' := by
  obtain ⟨attempts, hconsults, hall⟩ := h
  rw [segment_eq_readBy hvalue, segment_eq_readBy hvalue]
  exact hconsults.start_readBy_append hall owner rest

/-- A chain that is exhausted finds no such property. -/
theorem Exhausts.start_segment_eq (h : Exhausts value qualifier path chain w w') (hvalue : value ≠ .null)
    (owner : String) : (segment chain value owner qualifier path).start w
      = (.error (.fault (.noProperty qualifier owner path "") none), w') := by
  have hnone := h.start_segment hvalue owner []
  rw [List.append_nil] at hnone
  rw [hnone, segment_eq_readBy hvalue]
  rfl

/-- Behind an exhausted chain the next strategy may decide. -/
theorem Exhausts.start_segment_of_decides {w₁ : World} (h : Exhausts value qualifier path chain w w₁)
    {strategy : Strategy} {attempt : Attempt} {outcome : Except Failure Value}
    (htried : Tried value qualifier path strategy w₁ attempt w') (hdecides : attempt.decision? = some outcome)
    (hvalue : value ≠ .null) (owner : String) (rest : List Strategy) :
    (segment (chain ++ strategy :: rest) value owner qualifier path).start w = (outcome, w') := by
  rw [h.start_segment hvalue, htried.start_segment hvalue, hdecides]

theorem exhausts_singleton {strategy : Strategy} {attempt : Attempt}
    (htried : Tried value qualifier path strategy w attempt w') (hpassed : attempt.decision? = none) :
    Exhausts value qualifier path [strategy] w w' := by
  refine ⟨[attempt], .passed htried hpassed (.done w'), ?_⟩
  rw [List.forall_mem_singleton]
  exact htried.rejected_iff.mpr hpassed

theorem Exhausts.append {first second : List Strategy} {w₁ : World} (hfirst : Exhausts value qualifier path first w w₁)
    (hsecond : Exhausts value qualifier path second w₁ w') :
    Exhausts value qualifier path (first ++ second) w w' := by
  obtain ⟨attempts, hconsults, hall⟩ := hfirst
  induction hconsults with
  | done w => exact hsecond
  | @passed strategy chain w w₂ w₁ attempt attempts htried hpassed hrest ih =>
    obtain ⟨hrejected, hall⟩ := List.forall_mem_cons.mp hall
    obtain ⟨others, hothers, hrejects⟩ := ih hsecond hall
    exact ⟨attempt :: others, .passed htried hpassed hothers, List.forall_mem_cons.mpr ⟨hrejected, hrejects⟩⟩
  | @decided strategy chain w w₁ attempt outcome htried hdecides =>
    have hnone := htried.rejected_iff.mp (hall attempt List.mem_cons_self)
    rw [hdecides] at hnone
    cases hnone

/-- A chain is exhausted in one way only. -/
theorem Exhausts.unique {w'' : World} (h : Exhausts value qualifier path chain w w')
    (h' : Exhausts value qualifier path chain w w'') : w'' = w' := by
  obtain ⟨attempts, hconsults, -⟩ := h
  obtain ⟨others, hothers, -⟩ := h'
  exact (hconsults.unique hothers).2

/-- Behind a chain that is not exhausted nothing is asked. -/
theorem start_segment_of_not_exhausts (h : ¬ ∃ w', Exhausts value qualifier path chain w w')
    (hvalue : value ≠ .null) (owner : String) (rest : List Strategy) :
    (segment (chain ++ rest) value owner qualifier path).start w
      = (segment chain value owner qualifier path).start w := by
  obtain ⟨attempts, w', hconsults⟩ := exists_consults value qualifier path chain w
  have hdecides : ¬ ∀ attempt ∈ attempts, attempt.Rejected :=
    fun hall => h ⟨w', attempts, hconsults, hall⟩
  rw [(hconsults.append_of_decides hdecides rest).start_segment hvalue, hconsults.start_segment hvalue]

end

/-- Reading a qualifier is a row of attempts. -/
structure IsReading (value : Value) (owner qualifier path : String) (chain : List Strategy)
    (w : World) (attempts : List Attempt) (w' : World) : Prop where
  consults : Consults value qualifier path chain w attempts w'
  /-- There is no other row from this world. -/
  unique : ∀ others w'', Consults value qualifier path chain w others w'' →
    others = attempts ∧ w'' = w'
  /-- No strategy is asked twice. -/
  length_le : attempts.length ≤ chain.length
  rejected : ∀ attempt ∈ attempts.dropLast, attempt.Rejected
  outcome : (segment chain value owner qualifier path).start w
    = (conclusion owner qualifier path attempts, w')
  /-- The chain gives up just when it is exhausted; a strategy may also fail by itself in the same way. -/
  givesUp : ((segment chain value owner qualifier path).start w).1
      = .error (.fault (.noProperty qualifier owner path "") none) ↔
    Exhausts value qualifier path chain w w' ∨ attempts.getLast?.bind (·.decision?)
      = some (.error (.fault (.noProperty qualifier owner path "") none))
  /-- An exhausted chain was asked to its end. -/
  exhausted : Exhausts value qualifier path chain w w' →
    attempts.length = chain.length ∧ ∀ attempt ∈ attempts, attempt.Rejected

/-- Reading a qualifier of a value that is there asks the strategies of the chain one after the other, once each, up to
the first that decides. A chain of two parts goes on to the second when the first is exhausted, and only then. -/
theorem segment_consults (chain : List Strategy) {value : Value} (hvalue : value ≠ .null)
    (owner qualifier path : String) (w : World) :
    (∃ attempts w', IsReading value owner qualifier path chain w attempts w') ∧
    ∀ first second, chain = first ++ second →
      (∀ w₁, Exhausts value qualifier path first w w₁ →
        (segment chain value owner qualifier path).start w
          = (segment second value owner qualifier path).start w₁) ∧
      ((¬ ∃ w₁, Exhausts value qualifier path first w w₁) →
        (segment chain value owner qualifier path).start w
          = (segment first value owner qualifier path).start w) := by
  constructor
  · obtain ⟨attempts, w', hconsults⟩ := exists_consults value qualifier path chain w
    have hexhausts : Exhausts value qualifier path chain w w' ↔
        ∀ attempt ∈ attempts, attempt.Rejected := by
      refine ⟨?_, fun hall => ⟨attempts, hconsults, hall⟩⟩
      rintro ⟨others, hothers, hall⟩
      obtain ⟨rfl, -⟩ := hconsults.unique hothers
      exact hall
    refine ⟨attempts, w', hconsults, fun others w'' hothers => hconsults.unique hothers,
      hconsults.length_le, hconsults.rejected_of_mem_dropLast,
      hconsults.start_segment hvalue owner, ?_, ?_⟩
    · rw [hconsults.start_segment hvalue, hexhausts, conclusion]
      rcases hconsults.decides_or_exhausted with ⟨outcome, hdecides, hnot⟩ | ⟨hnone, -, hall⟩
      · simp [hdecides, hnot]
      · simpa [hnone] using hall
    · intro hall
      rw [hexhausts] at hall
      rcases hconsults.decides_or_exhausted with ⟨-, -, hnot⟩ | ⟨-, hlength, -⟩
      · exact absurd hall hnot
      · exact ⟨hlength, hall⟩
  · rintro first second rfl
    exact ⟨fun w₁ hfirst => hfirst.start_segment hvalue owner second,
      fun hnot => start_segment_of_not_exhausts hnot hvalue owner second⟩

/-- A dynamic accessor without the attribute and one that gives no truth value are passed over; the log of calls has
each accessor once, in the order of the chain. -/
theorem segment_consults_fallback :
    let function (name : String) (outcome : Outcome) (id : Nat) : Function :=
      ⟨name, ⟨[], .absent⟩, .perform ⟨id, [], outcome⟩⟩
    let w : World := { World.empty with
      functions := [function "hook" (.fail (.standard .attributeError) []) 0, function "five" (.give (.int 5)) 1,
        function "text" (.give (.text "t")) 2, function "last" (.give .null) 3] }
    let first := [Strategy.calling none none "hook" 0 false true,
      Strategy.calling (some "other") none "other" 3 false false]
    let second := [Strategy.calling none none "five" 1 true false,
      Strategy.calling none none "text" 2 false false, Strategy.calling none none "last" 3 false false]
    Value.int 1 ≠ .null ∧
    (((segment (first ++ second) (.int 1) "o" "q" "o.q").start w).2.calls = ["hook", "five", "text"]) ∧
    (∃ attempts w', IsReading (.int 1) "o" "q" "o.q" (first ++ second) w attempts w') ∧
    (∀ w₁, Exhausts (.int 1) "q" "o.q" first w w₁ →
      (segment (first ++ second) (.int 1) "o" "q" "o.q").start w
        = (segment second (.int 1) "o" "q" "o.q").start w₁) := by
  intro function w first second
  have hvalue : Value.int 1 ≠ .null := by simp
  have hconsults := segment_consults (first ++ second) hvalue "o" "q" "o.q" w
  exact ⟨hvalue, by decide +kernel, hconsults.1, (hconsults.2 first second rfl).1⟩

end SqlTemplate.Resolve
