import SqlTemplate.Object.Signature
import SqlTemplate.Proofs.Named
/-!
# What binding arguments comes to

Arguments are bound to a signature in two passes: positional arguments go to the parameters in order, and keywords to
those that are left. `Positioned` and `Taken` say what each pass does when it succeeds, case by case.

From this follow the two facts about a binding as a whole. Every parameter has an argument, given or by default
(`map_fst_of_bind`), and every keyword goes to a parameter that takes keywords of its name (`takesKeyword_of_bind`).
-/

namespace SqlTemplate

/-- A parameter that may be passed by name. -/
def Parameter.takesName (p : Parameter) : Bool :=
  p.kind == .positional || p.kind == .keywordOnly

namespace Signature

/-- A keyword of a name has somewhere to go: to the parameter of that name, or to further keywords. -/
def TakesKeyword (s : Signature) (name : String) : Prop :=
  ∃ p ∈ s.parameters, p.kind = .keywordRest ∨ p.name = name ∧ p.takesName = true

/-! ## The two passes -/

/-- Positional arguments go to parameters in order; the last two lists are the arguments bound and the parameters left
for keywords. -/
inductive Positioned : List Parameter → List Value → Arguments → List Parameter → Prop where
  | done : Positioned [] [] [] []
  /-- There are no more arguments. -/
  | stop (p : Parameter) (more : List Parameter) : Positioned (p :: more) [] [] (p :: more)
  /-- There are no further arguments to take. -/
  | noRest {p : Parameter} (hkind : p.kind = .rest) (more : List Parameter) :
    Positioned (p :: more) [] [] more
  | rest {p : Parameter} (hkind : p.kind = .rest) (value : Value) (values : List Value)
    (more : List Parameter) :
    Positioned (p :: more) (value :: values) [(p.name, .tuple (value :: values))] more
  | take {p : Parameter} (value : Value) {values : List Value} {more left : List Parameter}
    {bound : Arguments} (hrest : Positioned more values bound left) :
    Positioned (p :: more) (value :: values) ((p.name, value) :: bound) left

/-- Keywords go to parameters by name; the last two lists are the arguments bound and the keywords left over. -/
inductive Taken : List Parameter → Arguments → Arguments → Arguments → Prop where
  | done (keywords : Arguments) : Taken [] keywords [] keywords
  | skip {p : Parameter} (hkind : p.kind = .keywordRest ∨ p.kind = .rest) {more : List Parameter}
    {keywords bound others : Arguments} (hrest : Taken more keywords bound others) :
    Taken (p :: more) keywords bound others
  | default {p : Parameter} (hdefault : p.default?.isSome = true) {more : List Parameter}
    {keywords bound others : Arguments} (hrest : Taken more keywords bound others) :
    Taken (p :: more) keywords bound others
  | take {p : Parameter} (hname : p.takesName = true) (value : Value) {more : List Parameter}
    {keywords bound others : Arguments} (hrest : Taken more (withoutName p.name keywords) bound others) :
    Taken (p :: more) keywords ((p.name, value) :: bound) others

section

variable {s : Signature} {keywords bound others arguments : Arguments}
  {parameters left : List Parameter} {positional : List Value}

theorem positioned_of_bindPositions
    (h : bindPositions keywords parameters positional = .ok (bound, left)) :
    Positioned parameters positional bound left := by
  induction parameters generalizing positional bound left with
  | nil =>
    cases positional with
    | nil =>
      cases h
      exact .done
    | cons value values => cases h
  | cons p more ih =>
    cases positional with
    | nil =>
      rw [bindPositions] at h
      split at h
      · cases h
        exact .noRest ‹_› more
      -- what is left then starts at this parameter, whatever allowed it
      · have hleft : bound = [] ∧ left = p :: more := by
          grind
        obtain ⟨rfl, rfl⟩ := hleft
        exact .stop p more
    | cons value values =>
      have htake {next : Arguments × List Parameter → Arguments × List Parameter}
          (hnext : next = fun rest => ((p.name, value) :: rest.1, rest.2))
          (h : (bindPositions keywords more values).map next = .ok (bound, left)) :
          Positioned (p :: more) (value :: values) bound left := by
        subst hnext
        cases hrest : bindPositions keywords more values with
        | error fault =>
          rw [hrest] at h
          cases h
        | ok rest =>
          rw [hrest] at h
          cases h
          exact .take value (ih hrest)
      rw [bindPositions] at h
      split at h
      · cases h
      · cases h
      · cases h
        exact .rest ‹_› value values more
      · split at h
        · cases h
        · exact htake rfl h
      · exact htake rfl h

theorem taken_of_bindKeywords
    (h : bindKeywords parameters keywords = .ok (bound, others)) :
    Taken parameters keywords bound others := by
  induction parameters generalizing keywords bound others with
  | nil =>
    cases h
    exact .done keywords
  | cons p more ih =>
    rw [bindKeywords] at h
    by_cases hkind : p.kind = .keywordRest ∨ p.kind = .rest
    · rw [if_pos (by simpa using hkind)] at h
      exact .skip hkind (ih h)
    rw [if_neg (by simpa using hkind)] at h
    cases hlookup : keywords.lookup p.name with
    | none =>
      rw [hlookup] at h
      simp only at h
      split at h
      · exact .default ‹_› (ih h)
      · cases h
    | some value =>
      rw [hlookup] at h
      simp only at h
      split at h
      · cases h
      · have hname : p.takesName = true := by
          rw [Parameter.takesName]
          cases hp : p.kind <;> simp_all
        cases hrest : bindKeywords more (withoutName p.name keywords) with
        | error fault =>
          rw [hrest] at h
          cases h
        | ok rest =>
          rw [hrest] at h
          cases h
          exact .take hname value (ih hrest)

/-! ## Every parameter has an argument -/

/-- A parameter is passed by position, or is left for keywords, or takes what positions are left over. -/
theorem Positioned.mem_or (h : Positioned parameters positional bound left) :
    ∀ p ∈ parameters, p.name ∈ bound.map (·.1) ∨ p ∈ left ∨ p.kind = .rest := by
  induction h with
  | done => simp
  | stop p more => exact fun q hq => .inr (.inl hq)
  | noRest hkind more =>
    rw [List.forall_mem_cons]
    exact ⟨.inr (.inr hkind), fun q hq => .inr (.inl hq)⟩
  | rest hkind value values more =>
    rw [List.forall_mem_cons]
    exact ⟨.inr (.inr hkind), fun q hq => .inr (.inl hq)⟩
  | take value hrest ih =>
    rw [List.forall_mem_cons]
    refine ⟨.inl (by simp), fun q hq => (ih q hq).imp_left fun hmem => ?_⟩
    rw [List.map_cons]
    exact List.mem_cons_of_mem _ hmem

theorem Positioned.subset (h : Positioned parameters positional bound left) : left ⊆ parameters := by
  induction h with
  | done => exact List.Subset.refl _
  | stop p more => exact List.Subset.refl _
  | noRest hkind more => exact List.subset_cons_self _ _
  | rest hkind value values more => exact List.subset_cons_self _ _
  | take value hrest ih => exact List.subset_cons_of_subset _ ih

/-- A parameter is passed by name, or can do without an argument. -/
theorem Taken.mem_or (h : Taken parameters keywords bound others) :
    ∀ p ∈ parameters, p.name ∈ bound.map (·.1) ∨ p.value?.isSome = true := by
  induction h with
  | done keywords => simp
  | @skip p hkind _ _ _ _ _ ih =>
    rw [List.forall_mem_cons]
    refine ⟨.inr ?_, ih⟩
    rw [Parameter.value?]
    rcases hkind with hkind | hkind <;> rw [hkind] <;> cases p.default? <;> rfl
  | @default p hdefault _ _ _ _ _ ih =>
    rw [List.forall_mem_cons]
    refine ⟨.inr ?_, ih⟩
    obtain ⟨value, hvalue⟩ := Option.isSome_iff_exists.mp hdefault
    rw [Parameter.value?, hvalue]
    rfl
  | take hname value hrest ih =>
    rw [List.forall_mem_cons]
    refine ⟨.inl (by simp), fun q hq => (ih q hq).imp_left fun hmem => ?_⟩
    rw [List.map_cons]
    exact List.mem_cons_of_mem _ hmem

/-- A name that has an argument, or a parameter that can do without one, is among the named arguments. -/
theorem map_fst_withDefaults
    (h : ∀ p ∈ parameters, p.name ∈ bound.map (·.1) ∨ p.value?.isSome = true) :
    (withDefaults parameters bound).map (·.1) = parameters.map (·.name) := by
  induction parameters with
  | nil => rfl
  | cons p more ih =>
    obtain ⟨hfirst, hmore⟩ := List.forall_mem_cons.mp h
    rw [List.map_cons, ← ih hmore, withDefaults, List.filterMap_cons]
    cases hlookup : bound.lookup p.name with
    | some value => rfl
    | none =>
      rw [lookup_eq_none_iff_not_mem] at hlookup
      obtain ⟨value, hvalue⟩ := Option.isSome_iff_exists.mp (hfirst.resolve_left hlookup)
      rw [hvalue]
      rfl

/-! ## Every keyword has a parameter -/

/-- A keyword is taken by the parameter of its name, or is left over. -/
theorem Taken.keyword_mem_or (h : Taken parameters keywords bound others) {name : String}
    (hmem : name ∈ keywords.map (·.1)) :
    name ∈ others.map (·.1) ∨ ∃ p ∈ parameters, p.name = name ∧ p.takesName = true := by
  induction h with
  | done keywords => exact .inl hmem
  | skip hkind hrest ih =>
    exact (ih hmem).imp_right fun ⟨p, hp, hname⟩ => ⟨p, List.mem_cons_of_mem _ hp, hname⟩
  | default hdefault hrest ih =>
    exact (ih hmem).imp_right fun ⟨p, hp, hname⟩ => ⟨p, List.mem_cons_of_mem _ hp, hname⟩
  | @take p hname value more keywords bound others hrest ih =>
    by_cases heq : name = p.name
    · exact .inr ⟨p, List.mem_cons_self, heq.symm, hname⟩
    · have hkept : name ∈ (withoutName p.name keywords).map (·.1) := by
        obtain ⟨entry, hentry, rfl⟩ := List.mem_map.mp hmem
        exact List.mem_map_of_mem (List.mem_filter.mpr ⟨hentry, bne_iff_ne.mpr heq⟩)
      exact (ih hkept).imp_right fun ⟨p, hp, hname⟩ => ⟨p, List.mem_cons_of_mem _ hp, hname⟩

/-! ## Binding -/

/-- Arguments that are bound go through both passes, and what keywords are left over then goes to a parameter for
further keywords. -/
theorem exists_passes_of_bind (h : s.bind positional keywords = .ok arguments) :
    ∃ byPosition left byName others further,
      Positioned s.parameters positional byPosition left ∧ Taken left keywords byName others ∧
      (others = [] ∨ ∃ p ∈ left, p.kind = .keywordRest) ∧
      arguments = withDefaults s.parameters (byPosition ++ byName ++ further) := by
  rw [Signature.bind] at h
  cases hpositions : bindPositions keywords s.parameters positional with
  | error fault =>
    rw [hpositions] at h
    cases h
  | ok positions =>
    obtain ⟨byPosition, left⟩ := positions
    rw [hpositions] at h
    cases hkeywords : bindKeywords left keywords with
    | error fault =>
      simp only [Bind.bind, Except.bind, hkeywords] at h
      cases h
    | ok names =>
      obtain ⟨byName, others⟩ := names
      simp only [Bind.bind, Except.bind, hkeywords] at h
      refine ⟨byPosition, left, byName, others, ?_⟩
      have hpositioned := positioned_of_bindPositions hpositions
      have htaken := taken_of_bindKeywords hkeywords
      cases others with
      | nil =>
        cases h
        exact ⟨[], hpositioned, htaken, .inl rfl, by rw [List.append_nil]⟩
      | cons first more =>
        cases hfind : left.find? (·.kind == .keywordRest) with
        | none =>
          rw [hfind] at h
          cases h
        | some p =>
          rw [hfind] at h
          cases h
          have hkind : p.kind = .keywordRest := by simpa using List.find?_some hfind
          exact ⟨_, hpositioned, htaken, .inr ⟨p, List.mem_of_find?_eq_some hfind, hkind⟩, rfl⟩

/-- Every parameter has one argument, in the order of the parameters. -/
theorem map_fst_of_bind (h : s.bind positional keywords = .ok arguments) :
    arguments.map (·.1) = s.parameters.map (·.name) := by
  obtain ⟨byPosition, left, byName, others, further, hpositioned, htaken, -, rfl⟩ := exists_passes_of_bind h
  apply map_fst_withDefaults
  intro p hp
  rw [List.map_append, List.map_append, List.mem_append, List.mem_append]
  rcases hpositioned.mem_or p hp with hbound | hleft | hrest
  · exact .inl (.inl (.inl hbound))
  · exact (htaken.mem_or p hleft).imp_left fun hnamed => .inl (.inr hnamed)
  · refine .inr ?_
    rw [Parameter.value?, hrest]
    cases p.default? <;> rfl

/-- Every keyword has somewhere to go. -/
theorem takesKeyword_of_bind (h : s.bind positional keywords = .ok arguments) {name : String}
    (hname : hasName name keywords = true) : s.TakesKeyword name := by
  obtain ⟨byPosition, left, byName, others, further, hpositioned, htaken, hothers, -⟩ :=
    exists_passes_of_bind h
  rcases htaken.keyword_mem_or (hasName_eq_true_iff.mp hname) with hover | ⟨p, hp, htakes⟩
  · rcases hothers with rfl | ⟨p, hp, hkind⟩
    · simp at hover
    · exact ⟨p, hpositioned.subset hp, .inl hkind⟩
  · exact ⟨p, hpositioned.subset hp, .inr htakes⟩

end

end Signature

end SqlTemplate
