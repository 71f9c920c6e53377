import SqlTemplate.Proofs.Resolve.Containment
import SqlTemplate.Proofs.Statement.Binding
/-!
# Accessors that fail

An accessor that has been located is used, and what it raises decides. A refusal of permission denies the path. A missing
attribute lets the next strategy try, if the accessor is dynamic. Every other ordinary failure becomes a fault that
names the accessor, the path and the class of the failure, also when it is one of the library's own classes. A failure
that is not an ordinary one is handed on as it is. The class of the failure may be any that code declares; what it is
called does not count, but what it inherits from.

`raised_ends_resolution` is the main theorem. It follows an accessor that fails through all that goes on around it: the
strategies of the chain, the qualifiers of the path, the placeholders of the template and the rendering of the
statement. But for the dynamic accessor all of that ends, in the world that the failure and its text leave. So nothing
is asked of whatever strategies, qualifiers and placeholders stand behind.
-/

namespace SqlTemplate

namespace Resolve

/-! ## What the failure of an accessor comes to -/

section

variable {accessor : Accessor} {path text : String} {raised : Failure} {w w' : World}

theorem start_refusal_of_permission (hpermission : raised.isA .permissionError = true)
    (htext : (Run.textOfFailure raised).start w = (.ok text, w')) :
    (refusal accessor path raised).start w =
      (.error (.fault (.accessDenied (.text accessor.name) accessor.name path text) (some raised)), w') := by
  rw [refusal, if_pos hpermission, Run.start_bind, htext]
  rfl

theorem start_refusal_of_exception (hexception : raised.isA .exception = true)
    (hpermission : raised.isA .permissionError = false)
    (hcounts : ¬ (raised.isA .attributeError = true ∧ accessor.dynamic = true))
    (htext : (Run.textOfFailure raised).start w = (.ok text, w')) :
    (refusal accessor path raised).start w =
      (.error (.fault (.accessorFailed accessor.name path raised.className text) (some raised)), w') := by
  have hfault : (Fault.ofAccessor accessor.name path raised).start w =
      (.ok (.accessorFailed accessor.name path raised.className text), w') := by
    rw [Fault.ofAccessor, Run.start_bind, htext]
    rfl
  rw [refusal, if_neg (by simp [hpermission]), if_neg (by simpa using hcounts), if_pos hexception, Run.start_bind,
    hfault]
  rfl

/-- Only ordinary failures are looked at. -/
theorem start_refusal_of_not_exception (h : raised.isA .exception = false) :
    (refusal accessor path raised).start w = (.error raised, w) := by
  have hpermission : raised.isA .permissionError = false := by
    by_contra hpermission
    rw [Bool.not_eq_false] at hpermission
    simp [Failure.isA_exception_of_isA_permissionError hpermission] at h
  have hmissing : raised.isA .attributeError = false := by
    by_contra hmissing
    rw [Bool.not_eq_false] at hmissing
    simp [Failure.isA_exception_of_isA_attributeError hmissing] at h
  rw [refusal, if_neg (by simp [hpermission]), if_neg (by simp [hmissing]), if_neg (by simp [h])]
  rfl

end

/-! ## Where an accessor is used -/

/-- Where an accessor is used while a path is resolved: the names of the path around the qualifier that it reads, and
the strategies of the chain around the one that locates it. -/
structure Site where
  root : String
  before : List String
  qualifier : String
  after : List String
  passed : List Strategy
  strategy : Strategy
  rest : List Strategy

namespace Site

def names (site : Site) : List String :=
  site.root :: (site.before ++ site.qualifier :: site.after)

def path (site : Site) : String :=
  ".".intercalate site.names

/-- How the value was reached that the qualifier is read out of. -/
def owner (site : Site) : String :=
  site.before.getLastD site.root

def chain (site : Site) : List Strategy :=
  site.passed ++ site.strategy :: site.rest

/-- The names in front of the qualifier lead to a value, the strategies in front of one are exhausted for it, and that
one locates an accessor. The worlds are those in which the path is begun, the value is reached and the accessor is
located. -/
structure Reaches (site : Site) (invocation : Invocation) (w : World) (value : Value) (w₁ : World)
    (accessor : Accessor) (w₂ : World) : Prop where
  follows : ∃ argument, invocation.argument site.root site.path = .ok argument ∧
    (follow site.chain site.path argument site.root site.before).start w = (.ok value, w₁)
  isThere : value ≠ .null
  locates : ∃ w', Exhausts value site.qualifier site.path site.passed w₁ w' ∧
    (site.strategy.locate value site.qualifier).start w' = (.ok (some accessor), w₂)

end Site

/-- A path fails, and with it every template that comes to the path once the placeholders in front of it are resolved,
and the statement of that template in every style. -/
structure EndsIn (chain : List Strategy) (invocation : Invocation) (names : List String) (w : World)
    (failure : Failure) (w' : World) : Prop where
  parts : (parts chain invocation names).start w = (.error failure, w')
  all : ∀ (template : Template) (earlier : List Path) (path : Path) (later : List Path) (values : List Value)
    (w₀ : World), template.paths = earlier ++ path :: later → path.parts = names →
    Run.Makes (Resolve.path chain invocation) earlier w₀ values w →
    (Resolve.all chain invocation template).start w₀ = (.error failure, w') ∧
    ∀ paramstyle style,
      (Statement.bind paramstyle style chain template invocation).start w₀ = (.error failure, w')

section

variable {invocation : Invocation} {value : Value} {accessor : Accessor} {raised failure : Failure}
  {w w' w₁ w₂ w₃ : World}

/-- Where a path fails, a template stops. -/
theorem EndsIn.of_parts {chain : List Strategy} {names : List String}
    (h : (Resolve.parts chain invocation names).start w = (.error failure, w')) :
    EndsIn chain invocation names w failure w' := by
  refine ⟨h, fun template earlier path later values w₀ hpaths hnames hearlier => ?_⟩
  have hfails : (Resolve.path chain invocation path).start w = (.error failure, w') := by
    rw [Resolve.path, hnames]
    exact h
  have hstops : Run.Stops (Resolve.path chain invocation) template.paths w₀ failure w' :=
    ⟨earlier, path, later, values, w, hpaths, hearlier, hfails⟩
  exact ⟨Run.start_mapM_eq_error.mpr hstops, fun paramstyle style =>
    Statement.start_bind_of_stops paramstyle style hstops⟩

variable {site : Site}

/-- What an accessor is used for is what reading the qualifier comes to. -/
theorem Site.Reaches.start_segment (h : site.Reaches invocation w value w₁ accessor w₂) {attempt : Attempt}
    (hused : Used site.path accessor w₂ attempt w₃) :
    (segment site.chain value site.owner site.qualifier site.path).start w₁
      = match attempt.decision? with
        | some outcome => (outcome, w₃)
        | none => (segment site.rest value site.owner site.qualifier site.path).start w₃ := by
  obtain ⟨w', hexhausts, hlocate⟩ := h.locates
  rw [Site.chain, hexhausts.start_segment h.isThere]
  exact Tried.start_segment (.located hlocate hused) h.isThere site.owner site.rest

/-- An accessor whose failure is refused ends the path. -/
theorem Site.Reaches.endsIn (h : site.Reaches invocation w value w₁ accessor w₂)
    (hinvoke : accessor.invoke.start w₂ = (.error raised, w₃))
    (hrefusal : (refusal accessor site.path raised).start w₃ = (.error failure, w')) :
    EndsIn site.chain invocation site.names w failure w' := by
  obtain ⟨argument, hargument, hfollow⟩ := h.follows
  have hsegment := h.start_segment (.failed hinvoke hrefusal)
  refine .of_parts ?_
  have hparts : Resolve.parts site.chain invocation site.names =
      follow site.chain site.path argument site.root (site.before ++ site.qualifier :: site.after) := by
    simp only [Site.names, Resolve.parts]
    rw [show ".".intercalate (site.root :: (site.before ++ site.qualifier :: site.after)) = site.path from rfl,
      hargument]
  rw [hparts, start_follow_eq_error]
  exact ⟨site.before, site.qualifier, site.after, value, w₁, rfl, hfollow, hsegment⟩

/-- An accessor fails, and what it raises is classified. A missing attribute is passed over if the accessor is dynamic:
the qualifier is read by the strategies behind it. In every other case the resolution ends, whatever stands behind. -/
theorem raised_ends_resolution (h : site.Reaches invocation w value w₁ accessor w₂)
    (hinvoke : accessor.invoke.start w₂ = (.error raised, w₃)) :
    let ends := EndsIn site.chain invocation site.names w
    let texted (text : String) (w' : World) := (Run.textOfFailure raised).start w₃ = (.ok text, w')
    let isPassedOver := raised.isA .attributeError = true ∧ accessor.dynamic = true
    (raised.isA .permissionError = true → ∀ text w', texted text w' →
      ends (.fault (.accessDenied (.text accessor.name) accessor.name site.path text) (some raised)) w') ∧
    (isPassedOver → (segment site.chain value site.owner site.qualifier site.path).start w₁
      = (segment site.rest value site.owner site.qualifier site.path).start w₃) ∧
    (raised.isA .exception = true → raised.isA .permissionError = false → ¬ isPassedOver →
      ∀ text w', texted text w' →
      ends (.fault (.accessorFailed accessor.name site.path raised.className text) (some raised)) w') ∧
    (raised.isA .exception = false → ends raised w₃) := by
  intro ends texted isPassedOver
  -- the cases exclude each other, as no missing attribute is a refusal of permission
  refine ⟨fun hpermission text w' htext => ?_, fun ⟨hmissing, hdynamic⟩ => ?_,
    fun hexception hpermission hcounts text w' htext => ?_, fun hnone => ?_⟩
  · exact h.endsIn hinvoke (start_refusal_of_permission hpermission htext)
  · have hpermission := Failure.isA_permissionError_of_isA_attributeError hmissing
    exact h.start_segment (.noAttribute hinvoke hdynamic hmissing hpermission)
  · exact h.endsIn hinvoke (start_refusal_of_exception hexception hpermission hcounts htext)
  · exact h.endsIn hinvoke (start_refusal_of_not_exception hnone)

end

/-- Two functions fail with failures of classes that their code declares. The first class is one of missing attributes
and its accessor is dynamic, so it is passed over. The second is only called like a refusal of permission: that ends the
path with a fault which names the class and has the text that the class puts together. The third function is not called,
and the last name is not looked at. -/
theorem raised_ends_resolution_declared :
    let gone : FailureClass := .declared "Gone" [.attributeError, .exception, .baseException] none (by decide)
    let refused : FailureClass := .declared "PermissionError" [.keyError, .lookupError, .exception, .baseException]
      (some ⟨"<", ",", ">"⟩) (by decide)
    let function (name : String) (outcome : Outcome) (id : Nat) : Function :=
      ⟨name, ⟨[], .absent⟩, .perform ⟨id, [], outcome⟩⟩
    let w : World := { World.empty with
      functions := [function "hook" (.fail gone []) 0,
        function "broken" (.fail refused [some (.text "out"), some (.text "of order")]) 1,
        function "never" (.give .null) 2] }
    let hook := Strategy.calling none none "hook" 0 false true
    let broken := Strategy.calling none none "broken" 1 false false
    let never := Strategy.calling none none "never" 2 false false
    let site : Site := ⟨"o", [], "total", ["more"], [hook], broken, [never]⟩
    let invocation := Invocation.ofArguments (.ofNames "m" ["o"]) [("o", .int 1)]
    let accessor : Accessor := ⟨"broken", Run.call 1 [], false, false⟩
    let raised := Failure.plain refused [.text "out", .text "of order"]
    let w₂ := { w.log "hook" with done := [0] }
    let w₃ := { w₂.log "broken" with done := [0, 1] }
    FailureClass.declare? "Gone" [.standard .attributeError] none = some gone ∧
    FailureClass.declare? "PermissionError" [.standard .keyError] (some ⟨"<", ",", ">"⟩) = some refused ∧
    site.Reaches invocation w (.int 1) w accessor w₂ ∧ accessor.invoke.start w₂ = (.error raised, w₃) ∧
    EndsIn [hook, broken, never] invocation ["o", "total", "more"] w
      (.fault (.accessorFailed "broken" "o.total.more" "PermissionError" "<out,of order>") (some raised)) w₃ ∧
    w₃.calls = ["hook", "broken"] := by
  intro gone refused function w hook broken never site invocation accessor raised w₂ w₃
  have hpassed : Tried (.int 1) "total" site.path hook w
      (.noAttribute ⟨"hook", Run.call 0 [], false, true⟩ (.plain gone [])) w₂ :=
    .located rfl (.noAttribute rfl rfl (by decide +kernel) (by decide +kernel))
  have hexhausts : Exhausts (.int 1) "total" site.path [hook] w w₂ := by
    refine ⟨_, .passed hpassed rfl (.done w₂), ?_⟩
    rw [List.forall_mem_singleton]
    exact ⟨rfl, by decide +kernel⟩
  have hreaches : site.Reaches invocation w (.int 1) w accessor w₂ :=
    ⟨⟨.int 1, rfl, rfl⟩, by simp, w₂, hexhausts, rfl⟩
  have hinvoke : accessor.invoke.start w₂ = (.error raised, w₃) := rfl
  refine ⟨rfl, rfl, hreaches, hinvoke, ?_, rfl⟩
  exact (raised_ends_resolution hreaches hinvoke).2.2.1 (by decide +kernel) (by decide +kernel) (by simp [accessor])
    "<out,of order>" w₃ rfl

end Resolve

end SqlTemplate
