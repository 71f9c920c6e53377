import SqlTemplate.Proofs.Object.Quiet
import SqlTemplate.Proofs.Resolve.Containment
import SqlTemplate.Proofs.Resolve.Strictness
/-!
# Members that are not public

A member whose name starts with an underscore is no public field: it is located, and refused. But only the third
strategy of the chain refuses it. In front of that one, the accessor strategies look for methods by names that are made
from the qualifier, and a name in camel case is made by writing the first letter in upper case. An underscore is no
letter, so the name that is made for `_ssn` is `get_ssn`, which is the accessor of the property `ssn`
(`capitalize_of_isPrivate`).

`segment_private` says what holds. There are four names to look for. A private member that is data is denied, without
running anything, if none of the four is a method; and in any case it is denied when the accessor strategies are
exhausted in front of it. If they are not, an accessor decides: `segment_private_accessor` is an object for whose private
data a path is resolved in that way.
-/

namespace SqlTemplate.Resolve

open Strategy Text

/-! ## Private qualifiers -/

/-- The first letter of a private qualifier is an underscore, which has no upper case. -/
theorem capitalize_of_isPrivate {qualifier : String} (h : isPrivate qualifier = true) :
    capitalize qualifier = qualifier := by
  rw [isPrivate, beq_iff_eq, List.head?_eq_some_iff] at h
  obtain ⟨rest, hqualifier⟩ := h
  have hupper : upperChar '_' = ['_'] := by decide
  rw [capitalize, hqualifier]
  simp only [hupper]
  rw [List.singleton_append, ← hqualifier, String.ofList_toList]

theorem candidates_of_isPrivate {qualifier : String} (h : isPrivate qualifier = true) (stem : String) :
    candidates stem qualifier = [stem ++ "_" ++ qualifier, stem ++ qualifier] := by
  rw [candidates, capitalize_of_isPrivate h]

/-! ## Data -/

/-- A member of a value is data, and is seen to be without running anything. -/
def IsData (w : World) (value : Value) (name : String) : Prop :=
  ∃ member, w.member? value name = some member ∧ (isRoutine member).start w = (.ok false, w)

/-- A value has no method of a name: it has no such member, or one that is data. -/
def HasNoMethod (w : World) (value : Value) (name : String) : Prop :=
  w.member? value name = none ∨ IsData w value name

section

variable {value : Value} {qualifier : String} {w w' : World}

/-- What is no method is no accessor. -/
theorem start_locateMethod_eq_none {accept : String → Value → Option Signature → Option Accessor}
    {names : List String} (h : ∀ name ∈ names, HasNoMethod w value name) :
    (locateMethod accept value names).start w = (.ok none, w) := by
  induction names with
  | nil => rfl
  | cons name names ih =>
    obtain ⟨hname, hnames⟩ := List.forall_mem_cons.mp h
    rw [locateMethod, Run.start_bind, Run.start_get]
    rcases hname with hnone | ⟨member, hmember, hdata⟩
    · simp only [hnone]
      exact ih hnames
    · simp only [hmember, Run.start_bind, hdata]
      exact ih hnames

/-- The fault that a member which is not public is for a path. -/
def privateFault (w : World) (value : Value) (qualifier path : String) : Fault :=
  .accessDenied (.text (w.kindName value ++ "." ++ qualifier)) (w.kindName value ++ "." ++ qualifier) path
    "Attributes starting with '_' are not public."

/-- The failure of a path that leads to a member which is not public. -/
def privateFailure (w : World) (value : Value) (qualifier path : String) : Failure :=
  .fault (privateFault w value qualifier path)
    (some (.notAccessible (.text (w.kindName value ++ "." ++ qualifier))
      (.text "Attributes starting with '_' are not public.")))

/-- The strategy for fields denies private data. -/
theorem tried_publicField_of_isPrivate (hprivate : isPrivate qualifier = true)
    (hdata : IsData w value qualifier) (path : String) :
    Tried value qualifier path publicField w (.denied (privateFailure w value qualifier path)) w := by
  obtain ⟨member, hmember, hroutine⟩ := hdata
  have hlocate : (publicField.locate value qualifier).start w
      = (.error (.notAccessible (.text (w.kindName value ++ "." ++ qualifier))
          (.text "Attributes starting with '_' are not public.")), w) :=
    start_locateField_eq_error.mpr ⟨member, hmember, .inr ⟨hroutine, hprivate, rfl⟩⟩
  have htold : (Run.denial (.text (w.kindName value ++ "." ++ qualifier)) path
      (.text "Attributes starting with '_' are not public.")).start w
        = (.ok (privateFault w value qualifier path), w) := rfl
  refine .denied ?_
  rw [locate, Run.start_orElse_of_error hlocate]
  simp only [Failure.notAccessible, Run.start_bind, htold]
  rfl

end

/-! ## Reading a private member -/

/-- The strategies that look for accessor methods. -/
def accessors : List Strategy := [booleanAccessor, generalAccessor]

/-- If none of the names is that of a method there is nothing to locate, so both strategies are exhausted at once. -/
theorem exhausts_accessors_of_hasNoMethod {value : Value} {qualifier : String} {w : World}
    (h : ∀ name ∈ candidates "is" qualifier ++ candidates "get" qualifier, HasNoMethod w value name) (path : String) :
    Exhausts value qualifier path accessors w w := by
  refine exhausts_of_none path fun strategy hmem => ?_
  simp only [accessors, List.mem_cons, List.not_mem_nil, or_false] at hmem
  rcases hmem with rfl | rfl
  · exact start_locateMethod_eq_none fun name hname => h name (List.mem_append_left _ hname)
  · exact start_locateMethod_eq_none fun name hname => h name (List.mem_append_right _ hname)

/-- What becomes of a private member that is data. The names of its accessors are four, two of which are those of the
accessors of another property. If none of them is a method, the member is denied and nothing is run. In any case it
is denied just when the accessors are exhausted and it is data still; otherwise they decide alone. -/
theorem segment_private {value : Value} {qualifier : String} (hvalue : value ≠ .null)
    (hprivate : isPrivate qualifier = true) (strict : Bool) (owner path : String) (w : World) :
    let names := ["is_" ++ qualifier, "is" ++ qualifier, "get_" ++ qualifier, "get" ++ qualifier]
    let reading := (segment (standard strict) value owner qualifier path).start w
    candidates "is" qualifier ++ candidates "get" qualifier = names ∧
    (IsData w value qualifier → (∀ name ∈ names, HasNoMethod w value name) →
      reading = (.error (privateFailure w value qualifier path), w)) ∧
    (∀ w₁, Exhausts value qualifier path accessors w w₁ → IsData w₁ value qualifier →
      reading = (.error (privateFailure w₁ value qualifier path), w₁)) ∧
    ((¬ ∃ w₁, Exhausts value qualifier path accessors w w₁) →
      reading = (segment accessors value owner qualifier path).start w) := by
  intro names reading
  have hnames : candidates "is" qualifier ++ candidates "get" qualifier = names := by
    rw [candidates_of_isPrivate hprivate, candidates_of_isPrivate hprivate]
    rfl
  have hdenied : ∀ w₁, Exhausts value qualifier path accessors w w₁ → IsData w₁ value qualifier →
      reading = (.error (privateFailure w₁ value qualifier path), w₁) := by
    intro w₁ hexhausts hdata
    have hreading : reading
        = (segment [publicField, keyedLookup strict] value owner qualifier path).start w₁ :=
      hexhausts.start_segment hvalue owner [publicField, keyedLookup strict]
    rw [hreading, (tried_publicField_of_isPrivate hprivate hdata path).start_segment hvalue]
    rfl
  refine ⟨hnames, fun hdata hmethods => ?_, hdenied, fun hnot =>
    start_segment_of_not_exhausts hnot hvalue owner [publicField, keyedLookup strict]⟩
  rw [← hnames] at hmethods
  exact hdenied w (exhausts_accessors_of_hasNoMethod hmethods path) hdata

/-- A world with an object that keeps a number to itself, and whose class has one method, which gives a text. -/
def employee (method : String) : World :=
  let masked : Function :=
    ⟨"Employee." ++ method, ⟨[Parameter.plain "self"], .absent⟩, .perform ⟨0, [], .give (.text "XXX-XX-1234")⟩⟩
  { World.empty with
    classes := World.empty.classes ++ [.ofMembers "Employee" [(method, .value (.function 0))]]
    functions := [masked]
    objects := [{ Object.ofKind 2 with attributes := [("_ssn", .text "000-00-1234")] }] }

/-- The method of another property does not stand in the way. -/
theorem segment_private_denied :
    let w := employee "get_name"
    Value.object 0 ≠ .null ∧ isPrivate "_ssn" = true ∧ IsData w (.object 0) "_ssn" ∧
    (∀ name ∈ ["is__ssn", "is_ssn", "get__ssn", "get_ssn"], HasNoMethod w (.object 0) name) ∧
    (segment (standard false) (.object 0) "emp" "_ssn" "emp._ssn").start w
      = (.error (privateFailure w (.object 0) "_ssn" "emp._ssn"), w) := by
  intro w
  have hvalue : Value.object 0 ≠ .null := by simp
  have hprivate : isPrivate "_ssn" = true := by decide
  have hdata : IsData w (.object 0) "_ssn" := ⟨_, rfl, rfl⟩
  have hmethods : ∀ name ∈ ["is__ssn", "is_ssn", "get__ssn", "get_ssn"], HasNoMethod w (.object 0) name := by
    simp only [List.forall_mem_cons, List.not_mem_nil, false_implies, implies_true, and_true]
    exact ⟨.inl rfl, .inl rfl, .inl rfl, .inl rfl⟩
  exact ⟨hvalue, hprivate, hdata, hmethods,
    (segment_private hvalue hprivate false "emp" "emp._ssn" w).2.1 hdata hmethods⟩

/-- The method of the property without the underscore is taken for an accessor of the private member: the path is
resolved, and the method has been run. -/
theorem segment_private_accessor :
    let w := employee "get_ssn"
    let reading := (segment (standard false) (.object 0) "emp" "_ssn" "emp._ssn").start w
    isPrivate "_ssn" = true ∧ IsData w (.object 0) "_ssn" ∧
    reading.1 = .ok (.text "XXX-XX-1234") ∧ reading.2.calls = ["Employee.get_ssn"] := by
  intro w reading
  -- the four names are looked for in vain but for the last, which is taken before the field is looked at
  have hboolean : (booleanAccessor.locate (.object 0) "_ssn").start w = (.ok none, w) := rfl
  have hgeneral : (generalAccessor.locate (.object 0) "_ssn").start w
      = (.ok (some ⟨"Employee.get_ssn()", Run.callValue (.method (.object 0) 0) [], false, false⟩), w) := by
    have habsent : w.member? (.object 0) "get__ssn" = none := rfl
    have hmember : w.member? (.object 0) "get_ssn" = some (.value (.function 0)) := rfl
    have hmethod : (isRoutine (.value (.function 0))).start w = (.ok true, w) := rfl
    have hread : (Run.read (.object 0) "get_ssn").start w = (.ok (.method (.object 0) 0), w) := rfl
    have hsignature : (Run.signatureOf (.method (.object 0) 0)).start w = (.ok (some ⟨[], .absent⟩), w) :=
      Run.start_signatureOf_method (by decide) rfl
    show (locateMethod acceptAny (.object 0) ["get__ssn", "get_ssn"]).start w = _
    simp only [locateMethod, Run.start_bind, Run.start_get, habsent, hmember, hmethod, Bool.not_true,
      Bool.false_eq_true, if_false, hread, hsignature]
    rfl
  have hcall : (Run.callValue (.method (.object 0) 0) []).start w
      = (.ok (.text "XXX-XX-1234"), { w.log "Employee.get_ssn" with done := [0] }) := rfl
  have hreading : reading = (.ok (.text "XXX-XX-1234"), { w.log "Employee.get_ssn" with done := [0] }) := by
    show (readBy (.object 0) "emp" "_ssn" "emp._ssn"
      [booleanAccessor, generalAccessor, publicField, keyedLookup false]).start w = _
    rw [start_readBy_of_tried (.nothing hboolean)]
    exact start_readBy_of_tried (.located hgeneral (.accepted hcall rfl)) _
  rw [hreading]
  exact ⟨by decide, ⟨_, rfl, rfl⟩, rfl, rfl⟩

end SqlTemplate.Resolve
