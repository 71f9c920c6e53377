import SqlTemplate.Proofs.Run
import SqlTemplate.Resolve.Strategy
/-!
# Looking at values without running code

What is found out about a value from outside, its kind and whether it is a routine, is asked of the value itself, and an
object answers by its class. A class that neither intercepts readings nor says by code what the class of its objects is
gives the answer without running anything (`World.IsPlain`). Whether an object takes part in reading attributes is asked
of its class, and answered in the same way if what stands there is read as it is (`World.AnswersQuietly`).

`start_isRoutine_of_isDatum` is the main result: a stored value that is no function, and no object that only takes part
in reading, is seen to be data, and nothing happens. Of what is asked to find a signature, only what any value answers is
here: that a signature that cannot be found out is unknown (`start_signatureOf_of_error`), and that of a method.
-/

namespace SqlTemplate

/-- A member is read of its class without running code. -/
def Member.IsStill (member : Member) : Prop :=
  ∀ id, member ≠ .value (.object id)

namespace World

/-- An object of a class is asked for its class without running code. -/
structure IsPlain (w : World) (c : ClassId) : Prop where
  getattribute : w.ownMember? c "__getattribute__" = none
  kind : w.ownMember? c "__class__" = none

/-- An object of a class is asked for its class, and for how it takes part in reading and setting attributes, without
running code. -/
structure AnswersQuietly (w : World) (c : ClassId) : Prop extends w.IsPlain c where
  reader : ∀ member ∈ w.ownMember? c "__get__", member.IsStill
  setter : ∀ member ∈ w.ownMember? c "__set__", member.IsStill

/-- The objects of a class take part in reading attributes, and not in setting them. -/
def onlyReads (w : World) (c : ClassId) : Bool :=
  (w.ownMember? c "__get__").isSome && (w.ownMember? c "__set__").isNone

/-- An object of a class is seen to be no routine without running code. -/
structure IsQuiet (w : World) (c : ClassId) : Prop extends w.AnswersQuietly c where
  isData : w.onlyReads c = false

/-- A stored value is data, and is seen to be without running code. -/
def IsDatum (w : World) : Value → Prop
  | .function _ => False
  | .method _ _ => False
  | .builtinMethod _ _ => False
  | .object id => w.IsQuiet (w.object id).kind
  | _ => True

end World

namespace Run

section

variable {w : World} {id : ObjectId}

/-- An object of a plain class says what class it is of without running anything. -/
theorem start_read_class_of_isPlain (hplain : w.IsPlain (w.object id).kind) :
    (read (.object id) "__class__").start w = (.ok (.type (w.object id).kind), w) := by
  have hmember : w.classMember? (w.object id).kind "__class__" = some .field := by
    simp [World.classMember?, specialSlots, hplain.kind]
  have hordinary (inner : Inner) :
      (readOrdinary inner (.object id) "__class__").start w = (.ok (.type (w.object id).kind), w) := by
    have hfield : (readMember inner id "__class__" .field).start w = (.ok (.type (w.object id).kind), w) := rfl
    simp only [readOrdinary, start_bind, start_get, hmember]
    cases (w.attributesOf id).lookup "__class__" <;> exact hfield
  simp only [read, outermost, bind_assoc, pure_bind, start_bind, start_get, readWith, hplain.getattribute]
  split
  · exact hordinary _
  · exact start_orElse_of_ok (hordinary _) _

theorem start_askKind_of_isPlain (hplain : w.IsPlain (w.object id).kind) (times : Nat) :
    (askKind (.object id) times).start w = (.ok (), w) := by
  induction times with
  | zero => rfl
  | succ times ih =>
    have hread : (do let _ ← read (.object id) "__class__" : Run Unit).start w = (.ok (), w) := by
      rw [start_bind, start_read_class_of_isPlain hplain]
      rfl
    rw [askKind, start_bind, start_orElse_of_ok hread]
    exact ih

/-! ## Attributes -/

theorem start_attribute?_of_ok {value found : Value} {name : String} {w' : World}
    (h : (read value name).start w = (.ok found, w')) : (attribute? value name).start w = (.ok (some found), w') :=
  start_orElse_of_ok (start_map h) _

theorem start_attribute?_of_error {value : Value} {name : String} {failure : Failure} {w' : World}
    (h : (read value name).start w = (.error failure, w')) (hmissing : failure.isA .attributeError = true) :
    (attribute? value name).start w = (.ok none, w') := by
  rw [attribute?, start_orElse_of_error (start_map_of_error h), if_pos hmissing]
  rfl

/-- A member that is still is read of its class without running code. -/
theorem start_readClassMember_of_isStill (inner : Inner) (c : ClassId) (name : String) {member : Member}
    (hstill : member.IsStill) : ∃ v, (readClassMember inner c name member).start w = (.ok v, w) := by
  simp only [readClassMember, start_bind, start_get]
  cases member with
  | value v =>
    refine ⟨v, ?_⟩
    simp only [readStanding, start_bind, start_get]
    cases v with
    | object id => exact absurd rfl (hstill id)
    | _ => rfl
  | _ => exact ⟨_, rfl⟩

/-- A class is asked for a member that is still. -/
theorem start_attribute?_type_of_isStill {c : ClassId} {name : String} {member : Member} (hslot : name ∉ specialSlots)
    (hmember : w.ownMember? c name = some member) (hstill : member.IsStill) :
    ∃ v, (attribute? (.type c) name).start w = (.ok (some v), w) := by
  obtain ⟨v, hv⟩ := start_readClassMember_of_isStill (w := w) (Run.inner w.depth) c name hstill
  have hfound : w.member? (.type c) name = some member := by
    rw [World.member?, World.classMember?, if_neg (by simpa using hslot), hmember]
  have hvalue : (read (.type c) name).start w = (.ok v, w) := by
    simp only [read, outermost, bind_assoc, pure_bind, start_bind, start_get, readWith, readOrdinary, hfound]
    exact hv
  exact ⟨v, start_attribute?_of_ok hvalue⟩

/-- A class has nothing to say about how its objects take part in reading or setting attributes. -/
theorem start_attribute?_type_of_none {c : ClassId} {name : String} (hname : name ∈ ["__get__", "__set__"])
    (hmember : w.ownMember? c name = none) : (attribute? (.type c) name).start w = (.ok none, w) := by
  simp only [List.mem_cons, List.not_mem_nil, or_false] at hname
  have hconstant : hasName name (w.classConstants c) = false := by
    simp only [World.classConstants, hasName, List.any_append, Bool.or_eq_false_iff]
    refine ⟨⟨⟨⟨?_, ?_⟩, ?_⟩, ?_⟩, ?_⟩ <;> rcases hname with rfl | rfl
    all_goals try split
    all_goals rfl
  have hroutine : (w.objectRoutines c).contains name = false := by
    unfold World.objectRoutines
    rcases hname with rfl | rfl <;> split <;> rfl
  have hclass : w.classMember? c name = none := by
    rcases hname with rfl | rfl <;> simp only [World.classMember?, hmember, hconstant, hroutine] <;> rfl
  have hfound : w.member? (.type c) name = none := by
    rw [World.member?, hclass]
    rcases hname with rfl | rfl <;> rfl
  have hmissing : (read (.type c) name).start w = (.error (w.missingAttribute (.type c) name), w) := by
    simp only [read, outermost, bind_assoc, pure_bind, start_bind, start_get, readWith, readOrdinary, hfound]
    rfl
  exact start_attribute?_of_error hmissing rfl

/-- A class is asked for how its objects take part in reading or setting attributes. -/
theorem start_attribute?_type {c : ClassId} {name : String} (hname : name ∈ ["__get__", "__set__"])
    (hstill : ∀ member ∈ w.ownMember? c name, member.IsStill) :
    ∃ answer, (attribute? (.type c) name).start w = (.ok answer, w) ∧
      answer.isSome = (w.ownMember? c name).isSome := by
  have hslot : name ∉ specialSlots := by
    simp only [List.mem_cons, List.not_mem_nil, or_false] at hname
    rcases hname with rfl | rfl <;> decide
  cases hmember : w.ownMember? c name with
  | none => exact ⟨none, start_attribute?_type_of_none hname hmember, rfl⟩
  | some member =>
    obtain ⟨v, hv⟩ := start_attribute?_type_of_isStill hslot hmember (hstill member hmember)
    exact ⟨some v, hv, rfl⟩

theorem start_onlyReads_of_answersQuietly (h : w.AnswersQuietly (w.object id).kind) :
    (onlyReads (.object id)).start w = (.ok (w.onlyReads (w.object id).kind), w) := by
  obtain ⟨reader, hget, hreader⟩ := start_attribute?_type (by simp) h.reader
  obtain ⟨setter, hset, hsetter⟩ := start_attribute?_type (by simp) h.setter
  simp only [onlyReads, World.onlyReads, start_bind, start_get, hget, ← hreader, ← Option.not_isSome, ← hsetter]
  cases reader with
  | none => rfl
  | some v => exact start_map hset

/-! ## Routines -/

/-- An object whose class answers is seen to be a routine just if it only takes part in reading. -/
theorem start_isRoutine_object (h : w.AnswersQuietly (w.object id).kind) :
    (Strategy.isRoutine (.value (.object id))).start w = (.ok (w.onlyReads (w.object id).kind), w) := by
  have hmember : (Member.value (.object id)).isRoutine = false := rfl
  simp only [Strategy.isRoutine, hmember, Bool.false_eq_true, if_false, start_bind,
    start_askKind_of_isPlain h.toIsPlain, start_onlyReads_of_answersQuietly h]
  cases w.onlyReads (w.object id).kind with
  | true => rfl
  | false =>
    simp only [Bool.false_eq_true, if_false, start_bind, start_askKind_of_isPlain h.toIsPlain]
    rfl

/-- Data is seen to be no routine, and nothing is done to see that. -/
theorem start_isRoutine_of_isDatum {v : Value} (hv : w.IsDatum v) :
    (Strategy.isRoutine (.value v)).start w = (.ok false, w) := by
  cases v with
  | function id => exact hv.elim
  | method receiver id => exact hv.elim
  | builtinMethod receiver name => exact hv.elim
  | object id => rw [start_isRoutine_object hv.toAnswersQuietly, hv.isData]
  | _ => rfl

/-! ## Signatures -/

section

variable {value : Value} {signature : Signature} {w' : World}

/-- A signature that is found out is known. -/
theorem start_signatureOf_of_ok (h : (inspect w.depth value).start w = (.ok signature, w')) :
    (signatureOf value).start w = (.ok (some signature), w') := by
  rw [signatureOf, start_bind, start_get]
  exact start_orElse_of_ok (start_map h) _

/-- A signature that cannot be found out is unknown, and nothing else happens. -/
theorem start_signatureOf_of_error {failure : Failure} (h : (inspect w.depth value).start w = (.error failure, w'))
    (hunknown : (failure.isA .typeError || failure.isA .valueError) = true) :
    (signatureOf value).start w = (.ok none, w') := by
  rw [signatureOf, start_bind, start_get]
  dsimp only
  rw [start_orElse_of_error (start_map_of_error h), if_pos hunknown]
  rfl

/-- A value that has no signature is written down for the message. -/
theorem start_complain {α : Type} {text : String} (h : (shownOf value).start w = (.ok text, w')) :
    (complain value : Run α).start w = (.error (.typeError text), w') := by
  simp only [complain, start_bind, h, start_fail]

theorem start_inspect_method {receiver : Value} {f : FunctionId}
    (hrest : (w.function f).signature.afterReceiver? = some signature) (depth : Nat) :
    (inspect (depth + 1) (.method receiver f)).start w = (.ok signature, w) := by
  rw [inspect, start_bind, start_get]
  simp only [afterReceiver, hrest, start_pure]

/-- The signature of a function that is read through a receiver is known. -/
theorem start_signatureOf_method {receiver : Value} {f : FunctionId} (hdepth : 0 < w.depth)
    (hrest : (w.function f).signature.afterReceiver? = some signature) :
    (signatureOf (.method receiver f)).start w = (.ok (some signature), w) := by
  obtain ⟨depth, hdepth⟩ := Nat.exists_eq_add_one.mpr hdepth
  refine start_signatureOf_of_ok ?_
  rw [hdepth]
  exact start_inspect_method hrest depth

end

end

end Run

end SqlTemplate
