import SqlTemplate.Proofs.Session.Validation
import SqlTemplate.Proofs.Template.FirstAppearance
/-!
# Unknown parameters

A template is checked against a method in two ways. Validation goes through the placeholders and stops at the first one
whose root is no parameter; the unknown parameters are picked from the roots of the template, each of which is listed
once. `validate_agrees` is the main theorem: the two find the same among the fragments of the template. There are unknown
parameters just when validation fails, and the first of them is the root of the first fragment that has an unknown one.
-/

namespace SqlTemplate

/-! ## Fragments that take values -/

namespace Fragment

/-- A fragment takes the value that a path leads to. -/
inductive Takes : Fragment → Path → Prop where
  | parameter (path : Path) (type : SqlType) : Takes (.parameter path type) path
  | substitution (path : Path) : Takes (.substitution path) path

/-- A fragment takes a value that is found by a parameter of some name. -/
def RootedAt (fragment : Fragment) (name : String) : Prop :=
  ∃ path, fragment.Takes path ∧ path.parts.head? = some name

theorem path?_eq_some_iff {fragment : Fragment} {path : Path} :
    fragment.path? = some path ↔ fragment.Takes path := by
  constructor
  · intro h
    cases fragment with
    | literal text => cases h
    | parameter other type =>
      cases h
      exact .parameter path type
    | substitution other =>
      cases h
      exact .substitution path
  · rintro (_ | _) <;> rfl

end Fragment

theorem Path.head?_parts (path : Path) : path.parts.head? = some path.root :=
  List.head?_eq_some_head path.nonempty

namespace Template

variable {template : Template}

/-- A fragment that is found by one parameter stands in front of all that are found by another one. -/
def RefersBefore (template : Template) (first second : String) : Prop :=
  ∃ before fragment behind, template.fragments = before ++ fragment :: behind ∧ fragment.RootedAt first ∧
    ∀ earlier ∈ before, ¬ earlier.RootedAt second

/-- The roots of a template's placeholders are those of its fragments. -/
theorem exists_path_root_iff {name : String} :
    (∃ path ∈ template.paths, path.root = name) ↔ ∃ fragment ∈ template.fragments, fragment.RootedAt name := by
  simp only [paths, List.mem_filterMap, Fragment.path?_eq_some_iff, Fragment.RootedAt, Path.head?_parts,
    Option.some.injEq]
  constructor
  · rintro ⟨path, ⟨fragment, hmem, htakes⟩, hroot⟩
    exact ⟨fragment, hmem, path, htakes, hroot⟩
  · rintro ⟨fragment, hmem, path, htakes, hroot⟩
    exact ⟨path, ⟨fragment, hmem, htakes⟩, hroot⟩

/-- A placeholder stands where a fragment takes its value, and the placeholders in front of it are those of the fragments
in front. -/
theorem exists_fragments_of_paths {before behind : List Path} {path : Path}
    (h : template.paths = before ++ path :: behind) :
    ∃ front fragment back, template.fragments = front ++ fragment :: back ∧ fragment.Takes path ∧
      ∀ earlier ∈ front, ∀ name, earlier.RootedAt name → ∃ other ∈ before, other.root = name := by
  obtain ⟨front, rest, hfragments, hfront, hrest⟩ := List.filterMap_eq_append_iff.mp h
  obtain ⟨others, fragment, back, rfl, hothers, hpath, -⟩ := List.filterMap_eq_cons_iff.mp hrest
  refine ⟨front ++ others, fragment, back, by rw [hfragments, List.append_assoc],
    Fragment.path?_eq_some_iff.mp hpath, ?_⟩
  rintro earlier hmem name ⟨other, htakes, hroot⟩
  rw [← Fragment.path?_eq_some_iff] at htakes
  rw [Path.head?_parts, Option.some.injEq] at hroot
  rcases List.mem_append.mp hmem with hmem | hmem
  · exact ⟨other, hfront ▸ List.mem_filterMap.mpr ⟨earlier, hmem, htakes⟩, hroot⟩
  · rw [hothers earlier hmem] at htakes
    cases htakes

/-- A root that appears before another one is referred to before that. -/
theorem refersBefore_of_idxOf_lt {first second : String} (hmem : first ∈ template.paths.map (·.root))
    (h : (template.paths.map (·.root)).idxOf first < (template.paths.map (·.root)).idxOf second) :
    template.RefersBefore first second := by
  obtain ⟨roots, others, hroots, hfirst⟩ := List.eq_append_cons_of_mem hmem
  obtain ⟨before, rest, hpaths, rfl, hrest⟩ := List.map_eq_append_iff.mp hroots
  obtain ⟨path, behind, rfl, rfl, -⟩ := List.map_eq_cons_iff.mp hrest
  obtain ⟨front, fragment, back, hfragments, htakes, hfront⟩ := exists_fragments_of_paths hpaths
  refine ⟨front, fragment, back, hfragments, ⟨path, htakes, path.head?_parts⟩, fun earlier hearlier hsecond => ?_⟩
  -- it would have appeared in front
  obtain ⟨other, hother, hroot⟩ := hfront earlier hearlier _ hsecond
  have hbefore : second ∈ before.map (·.root) := List.mem_map.mpr ⟨other, hother, hroot⟩
  have hlt := List.idxOf_lt_length_of_mem hbefore
  rw [hroots, List.idxOf_append_of_notMem hfirst, List.idxOf_append_of_mem hbefore, List.idxOf_cons_self] at h
  omega

end Template

namespace Method

/-! ## Unknown parameters -/

variable {method : Method} {template : Template}

/-- The parameters that a template refers to are the roots of its placeholders in order of first appearance. -/
theorem firstAppearances_parameterNames (template : Template) :
    FirstAppearances template.parameterNames (template.paths.map (·.root)) :=
  firstAppearances_foldl _

theorem hasParameter_eq_false_iff {name : String} :
    method.hasParameter name = false ↔ name ∉ method.parameterNames := by
  simp [hasParameter, parameterNames]

/-- The unknown parameters are the roots of placeholders that are no parameters. -/
theorem mem_unknownParameters_iff {name : String} :
    name ∈ method.unknownParameters template ↔
      (∃ path ∈ template.paths, path.root = name) ∧ method.hasParameter name = false := by
  rw [unknownParameters, List.mem_filter, (firstAppearances_parameterNames template).mem_iff, List.mem_map,
    Bool.not_eq_true']

theorem nodup_unknownParameters (method : Method) (template : Template) :
    (method.unknownParameters template).Nodup :=
  (firstAppearances_parameterNames template).nodup.filter _

theorem pairwise_unknownParameters (method : Method) (template : Template) :
    (method.unknownParameters template).Pairwise fun a b =>
      (template.paths.map (·.root)).idxOf a < (template.paths.map (·.root)).idxOf b :=
  (firstAppearances_parameterNames template).ordered.filter _

theorem pairwise_refersBefore (method : Method) (template : Template) :
    (method.unknownParameters template).Pairwise template.RefersBefore := by
  refine (pairwise_unknownParameters method template).imp_of_mem fun {a b} ha _ hlt => ?_
  obtain ⟨⟨path, hpath, hroot⟩, -⟩ := mem_unknownParameters_iff.mp ha
  exact Template.refersBefore_of_idxOf_lt (List.mem_map.mpr ⟨path, hpath, hroot⟩) hlt

namespace FirstUnknown

variable {before : List Path} {path : Path}

/-- The first unknown root has not appeared before. -/
theorem root_ne (h : method.FirstUnknown template.paths before path) :
    ∀ earlier ∈ before, earlier.root ≠ path.root := by
  intro earlier hearlier hroot
  have hknown := h.known earlier hearlier
  rw [hroot, h.unknown] at hknown
  cases hknown

/-- The first unknown root is the first of the unknown parameters. -/
theorem head?_unknownParameters (h : method.FirstUnknown template.paths before path) :
    (method.unknownParameters template).head? = some path.root := by
  obtain ⟨behind, hsplit⟩ := h.split
  have hfirst : path.root ∉ before.map (·.root) := by
    rintro hmem
    obtain ⟨earlier, hearlier, hroot⟩ := List.mem_map.mp hmem
    exact h.root_ne earlier hearlier hroot
  have hmem : path.root ∈ method.unknownParameters template := by
    rw [mem_unknownParameters_iff]
    refine ⟨⟨path, ?_, rfl⟩, h.unknown⟩
    rw [hsplit]
    exact List.mem_append_right _ List.mem_cons_self
  have hplace : (template.paths.map (·.root)).idxOf path.root = before.length := by
    rw [hsplit, List.map_append, List.idxOf_append_of_notMem hfirst, List.map_cons, List.idxOf_cons_self,
      List.length_map, Nat.add_zero]
  -- a parameter listed in front would have appeared among the known roots
  obtain ⟨name, more, hlist⟩ := List.exists_cons_of_ne_nil (List.ne_nil_of_mem hmem)
  rw [hlist, List.head?_cons, Option.some.injEq]
  by_contra hne
  have hlater : path.root ∈ more := by
    rw [hlist] at hmem
    exact (List.mem_cons.mp hmem).resolve_left fun hroot => hne hroot.symm
  have hordered := pairwise_unknownParameters method template
  rw [hlist, List.pairwise_cons] at hordered
  have hlt := hordered.1 path.root hlater
  have hname : name ∈ before.map (·.root) := by
    by_contra hnot
    rw [hplace, hsplit, List.map_append, List.idxOf_append_of_notMem hnot, List.length_map] at hlt
    omega
  obtain ⟨earlier, hearlier, rfl⟩ := List.mem_map.mp hname
  have hunknown : earlier.root ∈ method.unknownParameters template := by
    rw [hlist]
    exact List.mem_cons_self
  rw [mem_unknownParameters_iff, h.known earlier hearlier] at hunknown
  cases hunknown.2

theorem root_eq (h : method.FirstUnknown template.paths before path) {name : String} {more : List String}
    (hlist : method.unknownParameters template = name :: more) : path.root = name := by
  have hhead := h.head?_unknownParameters
  rw [hlist, List.head?_cons, Option.some.injEq] at hhead
  exact hhead.symm

end FirstUnknown

/-! ## Validation -/

theorem exists_firstUnknown_of_ne_nil (h : method.unknownParameters template ≠ []) :
    ∃ before path, method.FirstUnknown template.paths before path := by
  obtain ⟨name, hname⟩ := List.exists_mem_of_ne_nil _ h
  obtain ⟨⟨path, hpath, rfl⟩, hunknown⟩ := mem_unknownParameters_iff.mp hname
  exact exists_firstUnknown ⟨path, hpath, hunknown⟩

theorem validate_of_unknownParameters_eq_nil (h : method.unknownParameters template = []) :
    method.validate template = .ok () := by
  rw [validate_eq_ok_iff]
  intro path hpath
  by_contra hunknown
  have hmem : path.root ∈ method.unknownParameters template :=
    mem_unknownParameters_iff.mpr ⟨⟨path, hpath, rfl⟩, Bool.not_eq_true _ ▸ hunknown⟩
  rw [h] at hmem
  cases hmem

/-- A template is refused just when there are unknown parameters. -/
theorem exists_validate_eq_error_iff :
    (∃ fault, method.validate template = .error fault) ↔ method.unknownParameters template ≠ [] := by
  constructor
  · rintro ⟨fault, hfault⟩ hnone
    rw [validate_of_unknownParameters_eq_nil hnone] at hfault
    cases hfault
  · intro hsome
    obtain ⟨before, path, hpath⟩ := exists_firstUnknown_of_ne_nil hsome
    exact ⟨_, hpath.validate⟩

/-- Validation and the unknown parameters agree. Validation fails just when there are unknown parameters; the fault names
the first of them, and shows the path of the first fragment with this root. The unknown parameters are the roots of
fragments that are no parameters, each once, in the order in which they appear first. -/
theorem validate_agrees (method : Method) (template : Template) :
    ((∃ fault, method.validate template = .error fault) ↔ method.unknownParameters template ≠ []) ∧
    (∀ name more, method.unknownParameters template = name :: more →
      ∃ before fragment behind path, template.fragments = before ++ fragment :: behind ∧ fragment.Takes path ∧
        path.parts.head? = some name ∧ (∀ earlier ∈ before, ¬ earlier.RootedAt name) ∧
        method.validate template
          = .error (.unknownParameter name (".".intercalate path.parts) method.parameterNames)) ∧
    (method.unknownParameters template).Nodup ∧
    (∀ name, name ∈ method.unknownParameters template ↔
      (∃ fragment ∈ template.fragments, fragment.RootedAt name) ∧ name ∉ method.parameterNames) ∧
    (method.unknownParameters template).Pairwise template.RefersBefore := by
  refine ⟨exists_validate_eq_error_iff, fun name more hlist => ?_, nodup_unknownParameters method template,
    fun name => ?_, pairwise_refersBefore method template⟩
  · obtain ⟨before, path, hpath⟩ := exists_firstUnknown_of_ne_nil (hlist ▸ List.cons_ne_nil name more)
    obtain ⟨behind, hsplit⟩ := hpath.split
    obtain rfl := hpath.root_eq hlist
    obtain ⟨front, fragment, back, hfragments, htakes, hfront⟩ := Template.exists_fragments_of_paths hsplit
    refine ⟨front, fragment, back, path, hfragments, htakes, path.head?_parts, fun earlier hmem hrooted => ?_,
      hpath.validate⟩
    obtain ⟨other, hother, hroot⟩ := hfront earlier hmem _ hrooted
    exact hpath.root_ne other hother hroot
  · rw [mem_unknownParameters_iff, hasParameter_eq_false_iff, Template.exists_path_root_iff]

/-- Two roots are unknown, and both appear twice. Each is listed once, and the one of the substitution first, which the
fault is about. -/
theorem validate_agrees_repeated :
    let a : Path := ⟨["a"], by simp, by decide⟩
    let x : Path := ⟨["x", "name"], by simp, by decide⟩
    let y : Path := ⟨["y"], by simp, by decide⟩
    let fragments : List Fragment :=
      [.literal "SELECT ", .parameter a .integer, .substitution x, .literal ", ", .parameter y .unknown,
        .parameter x .date, .literal ", ", .parameter y .unknown]
    let template : Template := ⟨"SELECT {a}{sql: x.name}, {y}{x.name}, {y}", fragments⟩
    let method := Method.ofNames "find" ["a", "b"]
    Template.parse .standard template.source [("a", "INT"), ("x.name", "DATE")] = .ok template ∧
    method.unknownParameters template = ["x", "y"] ∧
    method.validate template = .error (.unknownParameter "x" "x.name" ["a", "b"]) ∧
    template.RefersBefore "x" "y" ∧ (∃ fragment ∈ fragments, fragment.RootedAt "y") ∧ "y" ∉ method.parameterNames := by
  intro a x y fragments template method
  have hlist : method.unknownParameters template = ["x", "y"] := by decide +kernel
  obtain ⟨-, -, -, hmem, hordered⟩ := validate_agrees method template
  rw [hlist] at hmem hordered
  have hrefers := (List.pairwise_cons.mp hordered).1 "y" List.mem_cons_self
  obtain ⟨hrooted, hunknown⟩ := (hmem "y").mp (by simp)
  exact ⟨by decide +kernel, hlist, rfl, hrefers, hrooted, hunknown⟩

end Method

end SqlTemplate
