/-!
# Computations that keep their state when they fail

Jobs, runs and lookups in a cache are all computations of one kind: they go from a state to a result or a failure and
to the state that is left in either case. Two of them one after the other are taken apart at the first.
-/

namespace SqlTemplate.Stateful

variable {σ ε α β : Type}

theorem bind_apply (first : ExceptT ε (StateM σ) α) (next : α → ExceptT ε (StateM σ) β)
    (state : σ) :
    (first >>= next) state = match first state with
      | (.ok a, after) => next a after
      | (.error failure, after) => (.error failure, after) := by
  simp only [bind, ExceptT.bind, ExceptT.mk, StateT.bind, ExceptT.bindCont]
  cases first state with
  | mk result after => cases result <;> rfl

theorem bind_of_ok {first : ExceptT ε (StateM σ) α} {state after : σ} {a : α}
    (h : first state = (.ok a, after)) (next : α → ExceptT ε (StateM σ) β) :
    (first >>= next) state = next a after := by
  rw [bind_apply, h]

theorem bind_of_error {first : ExceptT ε (StateM σ) α} {state after : σ} {failure : ε}
    (h : first state = (.error failure, after)) (next : α → ExceptT ε (StateM σ) β) :
    (first >>= next) state = (.error failure, after) := by
  rw [bind_apply, h]

theorem exists_of_bind_eq_ok {first : ExceptT ε (StateM σ) α} {next : α → ExceptT ε (StateM σ) β}
    {state after : σ} {b : β} (h : (first >>= next) state = (.ok b, after)) :
    ∃ a between, first state = (.ok a, between) ∧ next a between = (.ok b, after) := by
  rw [bind_apply] at h
  rcases hfirst : first state with ⟨failure | a, between⟩
  · rw [hfirst] at h
    cases h
  · rw [hfirst] at h
    exact ⟨a, between, rfl, h⟩

theorem get_bind (next : σ → ExceptT ε (StateM σ) β) (state : σ) :
    (get >>= next) state = next state state :=
  rfl

end SqlTemplate.Stateful
