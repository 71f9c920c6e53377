import SqlTemplate.Proofs.Statement.Rendering
/-!
# What binding runs

To bind a template to an invocation, the placeholders are resolved and a statement is rendered with their values. Both
may run code of the values: an accessor at each step of a path, and the text of a value that is substituted. The two
passes go over the same fragments, and they have to agree on which of these take a value.

`bind_runs_in_order` is the main theorem: all paths are resolved one after the other, each in the world that the one
before it left, and then the texts of the substituted values are taken in the same way. Binding does nothing else that
could fail, so it fails just when one of these runs does, and with what that run fails with. Code of the values may fail
in the way in which rendering reports a wrong number of values (`bind_fails_by_own_count`).
-/

namespace SqlTemplate

/-- There is one path for each fragment that takes a value. -/
theorem Template.length_paths (template : Template) :
    template.paths.length = template.valueFragments.length := by
  have hpaths : template.paths.length = template.fragments.countP (·.path?.isSome) :=
    List.length_filterMap_eq_countP
  have hvalues : template.valueFragments.length = template.fragments.countP (·.takesValue) :=
    List.countP_eq_length_filter.symm
  rw [hpaths, hvalues]
  rfl

namespace Statement

variable {paramstyle : String} {style : MarkerStyle} {template : Template} {values : List Value}
  {chain : List Strategy} {invocation : Invocation} {w w' : World} {failure : Failure}

/-- With the right number of values rendering runs nothing but the texts of the substituted values. -/
theorem render_eq (paramstyle : String) (style : MarkerStyle)
    (h : values.length = template.valueFragments.length) :
    render paramstyle style template values
      = (fun texts => ofParts paramstyle style (placed template.fragments values texts)) <$>
          (substituted template.fragments values).mapM Run.textOf := by
  have hsupplied : Supplied template.fragments values := supplied_of_length h
  rw [render, if_neg (not_not.mpr h), parts_eq hsupplied]
  simp

/-- The values that the placeholders are resolved to are as many as the template takes. -/
theorem length_of_makes (h : Run.Makes (Resolve.path chain invocation) template.paths w values w') :
    values.length = template.valueFragments.length :=
  h.length_eq.trans template.length_paths

/-- Rendering makes a statement just when every substituted value has its text. -/
theorem start_render_eq_ok {statement : Statement}
    (h : values.length = template.valueFragments.length) :
    (render paramstyle style template values).start w = (.ok statement, w') ↔
      ∃ texts, Run.Makes Run.textOf (substituted template.fragments values) w texts w' ∧
        statement = ofParts paramstyle style (placed template.fragments values texts) := by
  rw [render_eq paramstyle style h, ← bind_pure_comp, Run.start_bind_eq_ok]
  constructor
  · rintro ⟨texts, w₁, htexts, hlaid⟩
    cases hlaid
    exact ⟨texts, Run.start_mapM_eq_ok.mp htexts, rfl⟩
  · rintro ⟨texts, htexts, rfl⟩
    exact ⟨texts, w', Run.start_mapM_eq_ok.mpr htexts, rfl⟩

/-- Rendering fails just when some substituted value has no text. -/
theorem start_render_eq_error (h : values.length = template.valueFragments.length) :
    (render paramstyle style template values).start w = (.error failure, w') ↔
      Run.Stops Run.textOf (substituted template.fragments values) w failure w' := by
  rw [render_eq paramstyle style h, ← bind_pure_comp, Run.start_bind_eq_error, Run.start_mapM_eq_error]
  constructor
  · rintro (hstops | ⟨texts, w₁, -, hlaid⟩)
    · exact hstops
    · cases hlaid
  · exact .inl

/-- Binding fails where a path cannot be resolved. -/
theorem start_bind_of_stops (paramstyle : String) (style : MarkerStyle)
    (h : Run.Stops (Resolve.path chain invocation) template.paths w failure w') :
    (bind paramstyle style chain template invocation).start w = (.error failure, w') := by
  rw [bind, Run.start_bind_eq_error]
  exact .inl (Run.start_mapM_eq_error.mpr h)

/-- Binding makes a statement just when every path is resolved and every substituted value has its text. -/
theorem start_bind_eq_ok {statement : Statement} :
    (bind paramstyle style chain template invocation).start w = (.ok statement, w') ↔
      ∃ values w₁ texts,
        Run.Makes (Resolve.path chain invocation) template.paths w values w₁ ∧
        Run.Makes Run.textOf (substituted template.fragments values) w₁ texts w' ∧
        statement = ofParts paramstyle style (placed template.fragments values texts) := by
  rw [bind, Run.start_bind_eq_ok]
  constructor
  · rintro ⟨values, w₁, hresolved, hrendered⟩
    have hvalues := Run.start_mapM_eq_ok.mp hresolved
    obtain ⟨texts, htexts, hstatement⟩ := (start_render_eq_ok (length_of_makes hvalues)).mp hrendered
    exact ⟨values, w₁, texts, hvalues, htexts, hstatement⟩
  · rintro ⟨values, w₁, texts, hvalues, htexts, hstatement⟩
    refine ⟨values, w₁, Run.start_mapM_eq_ok.mpr hvalues, ?_⟩
    exact (start_render_eq_ok (length_of_makes hvalues)).mpr ⟨texts, htexts, hstatement⟩

/-- Binding resolves all paths in their order and then takes the texts of the substituted values in theirs, each run in
the world that the one before it left. It fails just when one of these runs fails, with the same failure and without the
runs behind it, and the number of values always fits. -/
theorem bind_runs_in_order (paramstyle : String) (style : MarkerStyle) (chain : List Strategy)
    (template : Template) (invocation : Invocation) (w : World) :
    (∀ statement w', (bind paramstyle style chain template invocation).start w = (.ok statement, w') ↔
      ∃ values w₁ texts,
        Run.Makes (Resolve.path chain invocation) template.paths w values w₁ ∧
        Run.Makes Run.textOf (substituted template.fragments values) w₁ texts w' ∧
        statement = ofParts paramstyle style (placed template.fragments values texts)) ∧
    (∀ failure w', (bind paramstyle style chain template invocation).start w = (.error failure, w') ↔
      Run.Stops (Resolve.path chain invocation) template.paths w failure w' ∨
      ∃ values w₁, Run.Makes (Resolve.path chain invocation) template.paths w values w₁ ∧
        Run.Stops Run.textOf (substituted template.fragments values) w₁ failure w') ∧
    ∀ values w₁, Run.Makes (Resolve.path chain invocation) template.paths w values w₁ →
      values.length = template.valueFragments.length := by
  refine ⟨fun statement w' => start_bind_eq_ok, fun failure w' => ?_, fun values w₁ => length_of_makes⟩
  · rw [bind, Run.start_bind_eq_error, Resolve.all, Run.start_mapM_eq_error]
    apply or_congr_right
    constructor
    · rintro ⟨values, w₁, hresolved, hrendered⟩
      have hvalues := Run.start_mapM_eq_ok.mp hresolved
      exact ⟨values, w₁, hvalues, (start_render_eq_error (length_of_makes hvalues)).mp hrendered⟩
    · rintro ⟨values, w₁, hvalues, hstops⟩
      refine ⟨values, w₁, Run.start_mapM_eq_ok.mpr hvalues, ?_⟩
      exact (start_render_eq_error (length_of_makes hvalues)).mpr hstops

/-- A world with a function that counts its calls and an object with a text of its own. -/
def countingWorld (text : Outcome) : World :=
  let count : Function := ⟨"count", ⟨[], .absent⟩, .perform ⟨0, [], .count⟩⟩
  let str : Function := ⟨"Odd.__str__", ⟨[Parameter.plain "self"], .absent⟩, .perform ⟨1, [], text⟩⟩
  { World.empty with
    classes := World.empty.classes ++ [Class.ofMembers "Odd" [("__str__", .value (.function 1))]]
    functions := [count, str]
    objects := [.ofKind 2] }

/-- The substitution comes first in the template, but its text is taken after the last path has been resolved; each
resolution finds the count as the one before left it. -/
theorem bind_runs_in_order_counting :
    let w := countingWorld (.give (.text "odd"))
    let chain := [Strategy.calling none none "count" 0 false false]
    let invocation := Invocation.ofArguments (.ofNames "m" ["o"]) [("o", .object 0)]
    ∃ template statement w', (bind "qmark" .qmark chain template invocation).start w = (.ok statement, w') ∧
      template.fragments.map (·.path?.map (·.parts)) = [some ["o"], some ["o", "n"], none, some ["o", "n"]] ∧
      w'.calls = ["count", "count", "Odd.__str__"] ∧
      statement.bindings.map (·.value) = [.int 1, .int 2] ∧
      ∃ values w₁, Run.Makes (Resolve.path chain invocation) template.paths w values w₁ ∧
        values.length = template.valueFragments.length := by
  intro w chain invocation
  let object : Path := ⟨["o"], by simp, by decide +kernel⟩
  let number : Path := ⟨["o", "n"], by simp, by decide +kernel⟩
  let template : Template :=
    ⟨"", [.substitution object, .parameter number .unknown, .literal " = ", .parameter number .unknown]⟩
  let w₁ : World := { w with done := [0], calls := ["count"] }
  let w₂ : World := { w with done := [0, 0], calls := ["count", "count"] }
  let w' : World := { w with done := [0, 0, 1], calls := ["count", "count", "Odd.__str__"] }
  have hobject : (Resolve.path chain invocation object).start w = (.ok (.object 0), w) := rfl
  have hfirst : (Resolve.path chain invocation number).start w = (.ok (.int 1), w₁) := rfl
  have hsecond : (Resolve.path chain invocation number).start w₁ = (.ok (.int 2), w₂) := rfl
  have htext : (Run.textOf (.object 0)).start w₂ = (.ok "odd", w') := rfl
  have hvalues : Run.Makes (Resolve.path chain invocation) template.paths w [.object 0, .int 1, .int 2] w₂ :=
    .cons hobject (.cons hfirst (.cons hsecond (.nil w₂)))
  have hruns := bind_runs_in_order "qmark" .qmark chain template invocation w
  refine ⟨template, _, w', (hruns.1 _ w').mpr ⟨_, w₂, ["odd"], hvalues, .cons htext (.nil w'), rfl⟩,
    rfl, rfl, rfl, _, w₂, hvalues, hruns.2.2 _ w₂ hvalues⟩

/-- A text may fail in the way in which a wrong number of values is reported, although their number is right. -/
theorem bind_fails_by_own_count :
    let w := countingWorld (.fail (.standard .bindingCountError) [some (.int 1), some (.int 2)])
    let invocation := Invocation.ofArguments (.ofNames "m" ["o"]) [("o", .object 0)]
    ∃ template failure w', template.text = "\x7bsql: o\x7d" ∧
      (bind "qmark" .qmark (Strategy.standard false) template invocation).start w
        = (.error failure, w') ∧
      failure.className = "BindingCountError" ∧ w'.calls = ["Odd.__str__"] := by
  intro w invocation
  let object : Path := ⟨["o"], by simp, by decide +kernel⟩
  exact ⟨⟨"", [.substitution object]⟩, _, _, by decide +kernel, rfl, rfl, rfl⟩

end Statement

end SqlTemplate
