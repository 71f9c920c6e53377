import SqlTemplate.Proofs.Invocation
import SqlTemplate.Proofs.Stateful
import SqlTemplate.Proofs.Statement.Binding
import SqlTemplate.Session.Compile
/-!
# What validation promises

A template is validated when its statement is declared, against the names of the function's parameters. A call looks the
root of each placeholder up in the arguments that were bound for the call. Between the two stands the binding, which
gives every parameter an argument.

`declare_validates` is the main theorem. In every call of a declared statement, the lookup of every root succeeds. Where
a root is no parameter, the statement is not declared, and to bind the template regardless would fail at the same
placeholder with the same fault, unless a placeholder in front of it fails first.
-/

namespace SqlTemplate

open Stateful

namespace Method

variable {method : Method} {template : Template}

/-- A path is the first whose root is no parameter; `before` stand in front of it. -/
structure FirstUnknown (method : Method) (paths before : List Path) (path : Path) : Prop where
  split : ∃ behind, paths = before ++ path :: behind
  known : ∀ earlier ∈ before, method.hasParameter earlier.root = true
  unknown : method.hasParameter path.root = false

theorem exists_firstUnknown {paths : List Path}
    (h : ∃ path ∈ paths, method.hasParameter path.root = false) :
    ∃ before path, method.FirstUnknown paths before path := by
  induction paths with
  | nil =>
    obtain ⟨path, hmem, -⟩ := h
    cases hmem
  | cons first paths ih =>
    cases hfirst : method.hasParameter first.root with
    | false => exact ⟨[], first, ⟨paths, rfl⟩, by simp, hfirst⟩
    | true =>
      have hrest : ∃ path ∈ paths, method.hasParameter path.root = false := by
        obtain ⟨path, hmem, hpath⟩ := h
        rcases List.mem_cons.mp hmem with rfl | hmem
        · rw [hfirst] at hpath
          cases hpath
        · exact ⟨path, hmem, hpath⟩
      obtain ⟨before, path, ⟨behind, rfl⟩, hknown, hunknown⟩ := ih hrest
      exact ⟨first :: before, path, ⟨behind, rfl⟩, List.forall_mem_cons.mpr ⟨hfirst, hknown⟩, hunknown⟩

theorem validate_eq_ok_iff :
    method.validate template = .ok () ↔ ∀ path ∈ template.paths, method.hasParameter path.root = true := by
  unfold validate
  cases hfind : method.unknownPath? template with
  | none => simpa [unknownPath?] using hfind
  | some path =>
    have hmem : path ∈ template.paths := List.mem_of_find?_eq_some hfind
    have hunknown : method.hasParameter path.root = false := by simpa using List.find?_some hfind
    constructor
    · intro h
      cases h
    · intro h
      rw [h path hmem] at hunknown
      cases hunknown

/-- The fault of a template is about the first path whose root is no parameter. -/
theorem FirstUnknown.validate {before : List Path} {path : Path}
    (h : method.FirstUnknown template.paths before path) :
    method.validate template = .error (.unknownParameter path.root path.expression method.parameterNames) := by
  have hfind : method.unknownPath? template = some path := by
    obtain ⟨behind, hsplit⟩ := h.split
    unfold unknownPath?
    rw [List.find?_eq_some_iff_append]
    refine ⟨by simp [h.unknown], before, behind, hsplit, fun earlier hmem => ?_⟩
    simp [h.known earlier hmem]
  unfold Method.validate
  rw [hfind]

end Method

namespace Resolve

variable {chain : List Strategy} {invocation : Invocation} {path : Path}

/-- A placeholder is resolved from the argument that the root of its path names. -/
theorem path_eq (chain : List Strategy) (invocation : Invocation) (path : Path) :
    Resolve.path chain invocation path = match invocation.argument path.root path.expression with
      | .error fault => Run.fail (.fault fault none)
      | .ok value => follow chain path.expression value path.root path.parts.tail := by
  obtain ⟨parts, hnonempty, hqualifiers⟩ := path
  cases parts with
  | nil => exact absurd rfl hnonempty
  | cons root more => rfl

theorem start_path_of_unknown (h : invocation.method.hasParameter path.root = false) (w : World) :
    (Resolve.path chain invocation path).start w
      = (.error (.fault (.unknownParameter path.root path.expression invocation.method.parameterNames) none), w) := by
  rw [path_eq, Invocation.argument_of_unknown h]
  rfl

end Resolve

/-- A template with an unknown root cannot be bound: the root is missed when its turn comes. -/
theorem Method.FirstUnknown.bind {method : Method} {template : Template} {before : List Path} {path : Path}
    (h : method.FirstUnknown template.paths before path) {invocation : Invocation}
    (hmethod : invocation.method = method) (paramstyle : String) (style : MarkerStyle) (chain : List Strategy)
    (w : World) :
    (∃ failure w', Run.Stops (Resolve.path chain invocation) before w failure w' ∧
      (Statement.bind paramstyle style chain template invocation).start w = (.error failure, w')) ∨
    ∃ values w', Run.Makes (Resolve.path chain invocation) before w values w' ∧
      (Statement.bind paramstyle style chain template invocation).start w
        = (.error (.fault (.unknownParameter path.root path.expression method.parameterNames) none), w') := by
  subst hmethod
  obtain ⟨behind, hsplit⟩ := h.split
  rcases Run.makes_or_stops (Resolve.path chain invocation) before w with
    ⟨values, w', hmakes⟩ | ⟨failure, w', hstops⟩
  · have hstops : Run.Stops (Resolve.path chain invocation) template.paths w
        (.fault (.unknownParameter path.root path.expression invocation.method.parameterNames) none) w' :=
      ⟨before, path, behind, values, w', hsplit, hmakes, Resolve.start_path_of_unknown h.unknown w'⟩
    exact .inr ⟨values, w', hmakes, Statement.start_bind_of_stops paramstyle style hstops⟩
  · have hall : Run.Stops (Resolve.path chain invocation) template.paths w failure w' := by
      rw [hsplit]
      exact hstops.append _
    exact .inl ⟨failure, w', hstops, Statement.start_bind_of_stops paramstyle style hall⟩

namespace Declared

variable {method : Method} {source : String} {types : List (String × String)} {settings : Settings}
  {session after : Session} {compiled : CompiledTemplate}

/-- A template is validated as soon as it has been compiled. -/
theorem start_declare_of_fault (hcompile : (Job.compile source types).start session = (.ok compiled, after))
    {fault : Fault} (h : method.validate compiled.template = .error fault) :
    (declare method source types settings).start session = (.error (.fault fault none), after) := by
  unfold declare
  rw [Job.start] at hcompile ⊢
  rw [bind_of_ok hcompile, h]
  rfl

/-- The template of a declared statement has been validated. -/
theorem validate_of_start_declare {declared : Declared}
    (h : (declare method source types settings).start session = (.ok declared, after)) :
    method.validate declared.template = .ok () := by
  unfold declare at h
  rw [Job.start] at h
  obtain ⟨compiled, between, -, hrest⟩ := exists_of_bind_eq_ok h
  obtain ⟨valid, checked, hvalidate, hrest⟩ := exists_of_bind_eq_ok hrest
  obtain ⟨style, styled, -, hdeclared⟩ := exists_of_bind_eq_ok hrest
  cases hdeclared
  show method.validate compiled.template = .ok ()
  cases hresult : method.validate compiled.template with
  | error fault =>
    rw [hresult] at hvalidate
    cases hvalidate
  | ok _ => rfl

/-- Validation is sound: whatever call of a declared statement is bound, all roots have an argument there, and the
placeholders are resolved from these. And it is complete: a template with a root that is no parameter is refused for the
first such root, which would be missed by every call. -/
theorem declare_validates (name : String) (signature : Signature) (source : String)
    (types : List (String × String)) (settings : Settings) (session : Session) :
    let method := Method.ofSignature name signature
    (∀ declared after, (declare method source types settings).start session = (.ok declared, after) →
      ∀ positional keywords invocation, Invocation.bindCall method positional keywords = .ok invocation →
        ∀ path ∈ declared.template.paths, ∃ value,
          invocation.argument path.root path.expression = .ok value ∧
          ∀ chain, Resolve.path chain invocation path
            = Resolve.follow chain path.expression value path.root path.parts.tail) ∧
    ∀ compiled after, (Job.compile source types).start session = (.ok compiled, after) →
      (∃ path ∈ compiled.template.paths, method.hasParameter path.root = false) →
      ∃ before path, method.FirstUnknown compiled.template.paths before path ∧
        let unknown := Failure.fault (.unknownParameter path.root path.expression method.parameterNames) none
        (declare method source types settings).start session = (.error unknown, after) ∧
        ∀ invocation, invocation.method = method → ∀ paramstyle style chain w,
          (∃ failure w', Run.Stops (Resolve.path chain invocation) before w failure w' ∧
            (Statement.bind paramstyle style chain compiled.template invocation).start w = (.error failure, w')) ∨
          ∃ values w', Run.Makes (Resolve.path chain invocation) before w values w' ∧
            (Statement.bind paramstyle style chain compiled.template invocation).start w = (.error unknown, w') := by
  intro method
  constructor
  · intro declared after hdeclare positional keywords invocation hbind path hpath
    have hmethod : invocation.method = method := Invocation.method_of_bindCall hbind
    have hparameter : method.hasParameter path.root = true :=
      Method.validate_eq_ok_iff.mp (validate_of_start_declare hdeclare) path hpath
    have hgiven : path.root ∈ invocation.arguments.map (·.1) :=
      Invocation.mem_names_of_bindCall hbind hparameter
    obtain ⟨value, hvalue⟩ :=
      Invocation.exists_argument_of_mem (hmethod ▸ hparameter) hgiven path.expression
    refine ⟨value, hvalue, fun chain => ?_⟩
    rw [Resolve.path_eq, hvalue]
  · intro compiled after hcompile hunknown
    obtain ⟨before, path, hfirst⟩ := Method.exists_firstUnknown hunknown
    refine ⟨before, path, hfirst, start_declare_of_fault hcompile hfirst.validate, ?_⟩
    intro invocation hmethod paramstyle style chain w
    exact hfirst.bind hmethod paramstyle style chain w

/-- The misspelt name of a parameter is refused when the statement is declared; spelt right, it has its default in a
call that does not pass it. -/
theorem declare_validates_misspelt :
    let signature : Signature := ⟨[.plain "dept", ⟨"limit", .keywordOnly, some (.int 10), .absent⟩], .absent⟩
    let method := Method.ofSignature "query" signature
    (∃ declared after,
      (declare method "{dept.name} {limit}" [] .standard).start (.start .empty) = (.ok declared, after) ∧
      declared.template.paths.map (·.parts) = [["dept", "name"], ["limit"]] ∧
      ∃ invocation, Invocation.bindCall method [.object 0] [] = .ok invocation ∧
        ∀ path ∈ declared.template.paths, ∃ value,
          invocation.argument path.root path.expression = .ok value) ∧
    ∃ compiled after,
      (Job.compile "{dept.name} {limti}" []).start (.start .empty) = (.ok compiled, after) ∧
      compiled.template.paths.map (·.parts) = [["dept", "name"], ["limti"]] ∧
      ∃ before path, method.FirstUnknown compiled.template.paths before path ∧
        (declare method "{dept.name} {limti}" [] .standard).start (.start .empty)
          = (.error (.fault (.unknownParameter path.root path.expression ["dept", "limit"]) none), after) := by
  intro signature method
  constructor
  · have hrun : ((declare method "{dept.name} {limit}" [] .standard).start (.start .empty)).1.toOption.map
        (·.template.paths.map (·.parts)) = some [["dept", "name"], ["limit"]] := by decide +kernel
    rcases hdeclare : (declare method "{dept.name} {limit}" [] .standard).start (.start .empty) with
      ⟨failure | declared, after⟩
    · rw [hdeclare] at hrun
      cases hrun
    · rw [hdeclare] at hrun
      have hbind : Invocation.bindCall method [.object 0] []
          = .ok ⟨method, [("dept", .object 0), ("limit", .int 10)]⟩ := rfl
      refine ⟨declared, after, rfl, Option.some.inj hrun, _, hbind, fun path hpath => ?_⟩
      obtain ⟨value, hvalue, -⟩ :=
        (declare_validates "query" signature _ [] .standard _).1 declared after hdeclare _ _ _ hbind path hpath
      exact ⟨value, hvalue⟩
  · have hrun : ((Job.compile "{dept.name} {limti}" []).start (.start .empty)).1.toOption.map
        (·.template.paths.map (·.parts)) = some [["dept", "name"], ["limti"]] := by decide +kernel
    have hunknown : ((Job.compile "{dept.name} {limti}" []).start (.start .empty)).1.toOption.map
        (·.template.paths.any fun path => !method.hasParameter path.root) = some true := by decide +kernel
    rcases hcompile : (Job.compile "{dept.name} {limti}" []).start (.start .empty) with
      ⟨failure | compiled, after⟩
    · rw [hcompile] at hrun
      cases hrun
    · rw [hcompile] at hrun hunknown
      have hexists : ∃ path ∈ compiled.template.paths, method.hasParameter path.root = false := by
        simpa using Option.some.inj hunknown
      obtain ⟨before, path, hfirst, hdeclare, -⟩ :=
        (declare_validates "query" signature _ [] .standard _).2 compiled after hcompile hexists
      exact ⟨compiled, after, rfl, Option.some.inj hrun, before, path, hfirst, hdeclare⟩

end Declared

end SqlTemplate
