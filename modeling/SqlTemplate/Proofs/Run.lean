import SqlTemplate.Object.World
import SqlTemplate.Proofs.Stateful
/-!
# Results of runs

What a computation makes is taken apart at its first step: it makes a result just when the first step makes one and
the rest goes on from there, in the world that the first step leaves (`start_bind_eq_ok`). A computation that is run for
each of several things goes through them in their order (`start_mapM_eq_ok`), up to the first for which it fails
(`start_mapM_eq_error`).
-/

namespace SqlTemplate.Run

variable {α β : Type}

@[simp] theorem start_pure (a : α) (w : World) : (pure a : Run α).start w = (.ok a, w) :=
  rfl

@[simp] theorem start_fail (failure : Failure) (w : World) :
    (fail failure : Run α).start w = (.error failure, w) :=
  rfl

@[simp] theorem start_get (w : World) : (get : Run World).start w = (.ok w, w) :=
  rfl

theorem start_bind (run : Run α) (next : α → Run β) (w : World) :
    (run >>= next).start w = match run.start w with
      | (.ok a, w) => (next a).start w
      | (.error failure, w) => (.error failure, w) := by
  simp only [start, Stateful.bind_apply]
  cases run w with
  | mk result w₁ => cases result <;> rfl

theorem start_bind_eq_ok {run : Run α} {next : α → Run β} {w w' : World} {b : β} :
    (run >>= next).start w = (.ok b, w') ↔
      ∃ a w₁, run.start w = (.ok a, w₁) ∧ (next a).start w₁ = (.ok b, w') := by
  rw [start_bind]
  cases run.start w with
  | mk result w₁ => cases result <;> simp [and_assoc]

/-- A computation fails if its first step fails, or if the rest fails in the world that the first step leaves. -/
theorem start_bind_eq_error {run : Run α} {next : α → Run β} {w w' : World} {failure : Failure} :
    (run >>= next).start w = (.error failure, w') ↔
      run.start w = (.error failure, w') ∨
        ∃ a w₁, run.start w = (.ok a, w₁) ∧ (next a).start w₁ = (.error failure, w') := by
  rw [start_bind]
  cases run.start w with
  | mk result w₁ => cases result <;> simp [and_assoc]

theorem start_orElse (run : Run α) (handler : Failure → Run α) (w : World) :
    (orElse run handler).start w = match run.start w with
      | (.ok a, w) => (.ok a, w)
      | (.error failure, w) => (handler failure).start w := by
  simp only [start, orElse, tryCatch, tryCatchThe, MonadExceptOf.tryCatch, ExceptT.tryCatch,
    ExceptT.mk, bind, StateT.bind]
  cases run w with
  | mk result w₁ => cases result <;> rfl

theorem start_orElse_of_ok {run : Run α} {w w' : World} {a : α} (h : run.start w = (.ok a, w'))
    (handler : Failure → Run α) : (orElse run handler).start w = (.ok a, w') := by
  rw [start_orElse, h]

theorem start_orElse_of_error {run : Run α} {w w' : World} {failure : Failure}
    (h : run.start w = (.error failure, w')) (handler : Failure → Run α) :
    (orElse run handler).start w = (handler failure).start w' := by
  rw [start_orElse, h]

theorem start_map {run : Run α} {f : α → β} {w w' : World} {a : α}
    (h : run.start w = (.ok a, w')) : (f <$> run).start w = (.ok (f a), w') := by
  rw [← bind_pure_comp, start_bind_eq_ok]
  exact ⟨a, w', h, rfl⟩

theorem start_map_of_error {run : Run α} {f : α → β} {w w' : World} {failure : Failure}
    (h : run.start w = (.error failure, w')) : (f <$> run).start w = (.error failure, w') := by
  rw [← bind_pure_comp, start_bind, h]

/-! ## Rows of runs -/

/-- A computation is run for each of several things, in the world that the run before it left, and makes a result each
time. -/
inductive Makes (f : α → Run β) : List α → World → List β → World → Prop where
  | nil (w : World) : Makes f [] w [] w
  | cons {input : α} {inputs : List α} {output : β} {outputs : List β} {w w₁ w' : World}
    (hfirst : (f input).start w = (.ok output, w₁)) (hrest : Makes f inputs w₁ outputs w') :
    Makes f (input :: inputs) w (output :: outputs) w'

/-- A computation is run for some of several things and fails for the next one; it is not run for those behind. -/
def Stops (f : α → Run β) (inputs : List α) (w : World) (failure : Failure) (w' : World) : Prop :=
  ∃ before input after outputs w₁, inputs = before ++ input :: after ∧
    Makes f before w outputs w₁ ∧ (f input).start w₁ = (.error failure, w')

section Rows

variable {f : α → Run β} {inputs : List α} {outputs : List β} {w w' : World} {failure : Failure}

theorem Makes.length_eq (h : Makes f inputs w outputs w') : outputs.length = inputs.length := by
  induction h with
  | nil w => rfl
  | cons _ _ ih => rw [List.length_cons, ih, List.length_cons]

theorem start_mapM_eq_ok :
    (inputs.mapM f).start w = (.ok outputs, w') ↔ Makes f inputs w outputs w' := by
  constructor
  · intro h
    induction inputs generalizing outputs w with
    | nil =>
      rw [List.mapM_nil, start_pure] at h
      cases h
      exact .nil _
    | cons input inputs ih =>
      rw [List.mapM_cons, start_bind_eq_ok] at h
      obtain ⟨first, w₁, hfirst, h⟩ := h
      obtain ⟨rest, w₂, hrest, h⟩ := start_bind_eq_ok.mp h
      rw [start_pure] at h
      cases h
      exact .cons hfirst (ih hrest)
  · intro h
    induction h with
    | nil w => rfl
    | cons hfirst _ ih =>
      rw [List.mapM_cons, start_bind_eq_ok]
      exact ⟨_, _, hfirst, start_bind_eq_ok.mpr ⟨_, _, ih, rfl⟩⟩

theorem start_mapM_eq_error :
    (inputs.mapM f).start w = (.error failure, w') ↔ Stops f inputs w failure w' := by
  constructor
  · intro h
    induction inputs generalizing w with
    | nil => cases h
    | cons input inputs ih =>
      rw [List.mapM_cons, start_bind_eq_error] at h
      rcases h with hfails | ⟨first, w₁, hfirst, h⟩
      · exact ⟨[], input, inputs, [], w, rfl, .nil w, hfails⟩
      · rcases start_bind_eq_error.mp h with hrest | ⟨rest, w₂, -, h⟩
        · obtain ⟨before, next, after, outputs, w₂, rfl, hbefore, hfails⟩ := ih hrest
          exact ⟨input :: before, next, after, _, w₂, rfl, .cons hfirst hbefore, hfails⟩
        · cases h
  · rintro ⟨before, input, after, outputs, w₁, rfl, hbefore, hfails⟩
    induction hbefore with
    | nil w =>
      rw [List.nil_append, List.mapM_cons, start_bind_eq_error]
      exact .inl hfails
    | cons hfirst _ ih =>
      rw [List.cons_append, List.mapM_cons, start_bind_eq_error]
      exact .inr ⟨_, _, hfirst, start_bind_eq_error.mpr (.inl (ih hfails))⟩

/-- There is a result for each of several things, or a first one that there is none for. -/
theorem makes_or_stops (f : α → Run β) (inputs : List α) (w : World) :
    (∃ outputs w', Makes f inputs w outputs w') ∨ ∃ failure w', Stops f inputs w failure w' := by
  rcases hrun : (inputs.mapM f).start w with ⟨failure | outputs, w'⟩
  · exact .inr ⟨failure, w', start_mapM_eq_error.mp hrun⟩
  · exact .inl ⟨outputs, w', start_mapM_eq_ok.mp hrun⟩

/-- What stands behind a failure is not looked at. -/
theorem Stops.append (h : Stops f inputs w failure w') (more : List α) :
    Stops f (inputs ++ more) w failure w' := by
  obtain ⟨before, input, after, outputs, w₁, rfl, hbefore, hfails⟩ := h
  exact ⟨before, input, after ++ more, outputs, w₁, by simp, hbefore, hfails⟩

/-- A run for each of several things makes a result for each. -/
theorem length_of_mapM (h : (inputs.mapM f).start w = (.ok outputs, w')) :
    outputs.length = inputs.length :=
  (start_mapM_eq_ok.mp h).length_eq

end Rows

end SqlTemplate.Run
