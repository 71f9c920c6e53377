import SqlTemplate.Proofs.Secrecy.Scope
import SqlTemplate.Proofs.Object.Quiet
import Mathlib.Data.List.Forall2
import Mathlib.Data.List.GetD
/-!
# Alike worlds

Two worlds are alike if they differ only in secrets: in what some private attributes and slots of their objects hold.
`Secrets` says which these are, and `World.IsInert` which values may be there: such that are seen to be no routines
without running code.

Whatever runs leaves classes and functions as they are, and only adds to what is noted (`World.Extends`). The class of
an object may be exchanged for one that a function gives (`World.Admits`). So what was read stays noted, and what is
inert stays so.
-/

namespace SqlTemplate

open Run

/-! ## Secrets -/

/-- The names under which things are looked up in objects whatever the objects are: what operations on all values call,
and what is asked to find out how an object is called. -/
def consulted : List String :=
  ["__class__", "__dict__", "__getattribute__", "__getattr__", "__call__", "__init__", "__set__",
   "__bool__", "__len__", "__index__", "__getitem__", "__setitem__", "__missing__", "__contains__",
   "__iter__", "__next__", "__hash__", "__eq__", "__str__", "__repr__", "__format__",
   "__wrapped__", "__signature__", "__text_signature__", "_partialmethod", "__name__", "__code__",
   "__defaults__", "__kwdefaults__", "__annotations__"]

/-- Attributes and slots of objects, by name. All are private, and none is looked up in all objects. Besides, the
classes that the class of an object may be exchanged for. -/
structure Secrets where
  hides : ObjectId → String → Prop
  exchanged : ClassId → Prop
  isPrivate_of_hides : ∀ {id name}, hides id name → Strategy.isPrivate name = true
  not_mem_consulted_of_hides : ∀ {id name}, hides id name → name ∉ consulted

/-- Reading an attribute of an object tells no secret. That of all its attributes tells those of the object. -/
def Secrets.Spares (S : Secrets) (id : ObjectId) (name : String) : Prop :=
  ¬ S.hides id name ∧ (name = "__dict__" → ∀ other, ¬ S.hides id other)

/-- Reading an attribute of a value tells no secret. -/
def Secrets.SparesValue (S : Secrets) (value : Value) (name : String) : Prop :=
  ∀ id, value = .object id → S.Spares id name

theorem Secrets.not_hides_of_mem (S : Secrets) (id : ObjectId) {name : String} (h : name ∈ consulted) :
    ¬ S.hides id name :=
  fun hhides => S.not_mem_consulted_of_hides hhides h

theorem Secrets.spares_of_mem (S : Secrets) (id : ObjectId) {name : String} (h : name ∈ consulted)
    (hdict : name ≠ "__dict__") : S.Spares id name :=
  ⟨S.not_hides_of_mem id h, fun heq => absurd heq hdict⟩

theorem Secrets.spares_of_not_private (S : Secrets) (id : ObjectId) {name : String}
    (h : Strategy.isPrivate name = false) : S.Spares id name := by
  refine ⟨fun hhides => ?_, fun hdict => ?_⟩
  · rw [S.isPrivate_of_hides hhides] at h
    cases h
  · subst hdict
    cases h

/-! ## Worlds along a run -/

namespace World

variable {w w₁ w₂ : World}

/-- What depends on classes only is the same in worlds of the same classes. -/
theorem eq_of_classes {β : Sort*} (f : World → β)
    (hf : ∀ w, f w = f { World.empty with classes := w.classes }) (h : w₁.classes = w.classes) :
    f w₁ = f w := by
  rw [hf w₁, hf w, h]

theorem buildOf_eq_of_classes (h : w₁.classes = w.classes) : w₁.buildOf = w.buildOf := by
  have hclassOf : w₁.classOf = w.classOf := eq_of_classes World.classOf (fun _ => rfl) h
  have haddition : w₁.additionOf = w.additionOf := eq_of_classes World.additionOf (fun _ => rfl) h
  have hmapping : w₁.startsMapping = w.startsMapping :=
    eq_of_classes World.startsMapping (fun _ => rfl) h
  have halong (ids : List ClassId) : w₁.buildAlong ids = w.buildAlong ids := by
    induction ids with
    | nil => rfl
    | cons id more ih => simp only [buildAlong, hclassOf, haddition, hmapping, ih]
  funext c
  rw [buildOf, buildOf, halong, eq_of_classes World.lineage (fun _ => rfl) h]

/-- All classes that functions of a world give to objects are among those that may be given. -/
def Admits (S : Secrets) (w : World) : Prop :=
  ∀ f ∈ w.functions, ∀ argument step, f.action.select argument = .perform step →
    ∀ c, ("__class__", Value.type c) ∈ step.assignments → S.exchanged c

variable {S : Secrets}

/-- A world comes from another one by running something: the program is the same, objects are still built as they
were, if perhaps of a class that was given to them, and what was noted stays noted. -/
structure Extends (S : Secrets) (w w₁ : World) : Prop where
  classes : w₁.classes = w.classes
  functions : w₁.functions = w.functions
  depth : w₁.depth = w.depth
  length_objects : w.objects.length ≤ w₁.objects.length
  kind : ∀ id, id < w.objects.length →
    (w₁.object id).kind = (w.object id).kind ∨ S.exchanged (w₁.object id).kind
  buildOf : ∀ id, id < w.objects.length → w.buildOf (w₁.object id).kind = w.buildOf (w.object id).kind
  done : w.done <+: w₁.done
  calls : w.calls <+: w₁.calls
  reads : w.reads <+: w₁.reads

theorem Extends.refl (S : Secrets) (w : World) : w.Extends S w where
  classes := rfl
  functions := rfl
  depth := rfl
  length_objects := Nat.le_refl _
  kind _ _ := .inl rfl
  buildOf _ _ := rfl
  done := List.prefix_refl _
  calls := List.prefix_refl _
  reads := List.prefix_refl _

theorem Extends.trans (h : w.Extends S w₁) (h' : w₁.Extends S w₂) : w.Extends S w₂ where
  classes := h'.classes.trans h.classes
  functions := h'.functions.trans h.functions
  depth := h'.depth.trans h.depth
  length_objects := Nat.le_trans h.length_objects h'.length_objects
  kind id hid := by
    rcases h'.kind id (Nat.lt_of_lt_of_le hid h.length_objects) with hsame | hexchanged
    · rw [hsame]
      exact h.kind id hid
    · exact .inr hexchanged
  buildOf id hid := by
    rw [← h.buildOf id hid, ← buildOf_eq_of_classes h.classes]
    exact h'.buildOf id (Nat.lt_of_lt_of_le hid h.length_objects)
  done := h.done.trans h'.done
  calls := h.calls.trans h'.calls
  reads := h.reads.trans h'.reads

theorem Admits.of_function (hw : w.Admits S) (id : FunctionId) (argument : Option Value) (step : Step)
    (hstep : (w.function id).action.select argument = .perform step) (c : ClassId)
    (hc : ("__class__", Value.type c) ∈ step.assignments) : S.exchanged c := by
  rw [World.function, List.getD_eq_getElem?_getD] at hstep
  rcases hf : w.functions[id]? with _ | f
  · -- the function that stands for a missing one sets nothing
    rw [hf] at hstep
    cases hstep
  · rw [hf] at hstep
    exact hw f (List.mem_of_getElem? hf) argument step hstep c hc

theorem Extends.admits (h : w.Extends S w₁) (hw : w.Admits S) : w₁.Admits S := by
  intro f hf
  rw [h.functions] at hf
  exact hw f hf

/-! ### Objects of changed worlds -/

theorem object_updateObject (w : World) (id other : ObjectId) (change : Object → Object) :
    (w.updateObject id change).object other
      = if id = other ∧ id < w.objects.length then change (w.object other) else w.object other := by
  simp only [updateObject, object, List.getD_eq_getElem?_getD, List.getElem?_modify]
  by_cases h : id = other
  · subst h
    by_cases hlt : id < w.objects.length
    · simp [hlt]
    · simp [hlt]
  · simp [h]

theorem object_addObject_of_lt (w : World) (o : Object) {id : ObjectId} (h : id < w.objects.length) :
    (w.addObject o).2.object id = w.object id := by
  simp only [addObject, object, List.getD_append _ _ _ _ h]

theorem object_addObject_length (w : World) (o : Object) :
    (w.addObject o).2.object w.objects.length = o := by
  simp [addObject, object]

theorem extends_updateObject_of_buildOf (w : World) (id : ObjectId) (change : Object → Object)
    (h : w.buildOf (change (w.object id)).kind = w.buildOf (w.object id).kind)
    (hkind : (change (w.object id)).kind = (w.object id).kind ∨ S.exchanged (change (w.object id)).kind) :
    w.Extends S (w.updateObject id change) := by
  refine { Extends.refl S w with
    length_objects := by simp [updateObject], kind := fun other _ => ?_, buildOf := fun other _ => ?_ }
  · rw [object_updateObject]
    split
    · rename_i hid
      rw [← hid.1]
      exact hkind
    · exact .inl rfl
  · rw [object_updateObject]
    split
    · rename_i hid
      rw [← hid.1, h]
    · rfl

theorem extends_updateObject (w : World) (id : ObjectId) (change : Object → Object)
    (h : (change (w.object id)).kind = (w.object id).kind) : w.Extends S (w.updateObject id change) :=
  extends_updateObject_of_buildOf w id change (congrArg w.buildOf h) (.inl h)

theorem extends_addObject (w : World) (o : Object) : w.Extends S (w.addObject o).2 where
  __ := Extends.refl S w
  length_objects := by simp [addObject]
  kind id hid := by rw [object_addObject_of_lt w o hid]; exact .inl rfl
  buildOf id hid := by rw [object_addObject_of_lt w o hid]

end World

/-! ## Inert values -/

namespace World

variable {S : Secrets} {w w₁ : World}

/-- A value is seen to be no routine without running code, also after the class of an object has been exchanged for one
whose objects are built alike. -/
def IsInert (S : Secrets) (w : World) : Value → Prop
  | .function _ => False
  | .method _ _ => False
  | .builtinMethod _ _ => False
  | .object id =>
    id < w.objects.length ∧ ∀ c, c = (w.object id).kind ∨ S.exchanged c →
      w.buildOf c = w.buildOf (w.object id).kind → w.IsQuiet c
  | _ => True

theorem IsQuiet.of_extends {c : ClassId} (h : w.Extends S w₁) (hc : w.IsQuiet c) : w₁.IsQuiet c := by
  have hmember : w₁.ownMember? = w.ownMember? := eq_of_classes World.ownMember? (fun _ => rfl) h.classes
  constructor
  · constructor
    · constructor
      · rw [hmember]
        exact hc.getattribute
      · rw [hmember]
        exact hc.kind
    · rw [hmember]
      exact hc.reader
    · rw [hmember]
      exact hc.setter
  · rw [onlyReads, hmember]
    exact hc.isData

/-- What is inert is data. -/
theorem IsInert.isDatum {v : Value} (hv : w.IsInert S v) : w.IsDatum v := by
  cases v with
  | object id => exact hv.2 _ (.inl rfl) rfl
  | function id => exact hv
  | method receiver id => exact hv
  | builtinMethod receiver name => exact hv
  | _ => trivial

theorem IsInert.of_extends {value : Value} (h : w.Extends S w₁) (hv : w.IsInert S value) :
    w₁.IsInert S value := by
  cases value with
  | object id =>
    refine ⟨Nat.lt_of_lt_of_le hv.1 h.length_objects, fun c hc hbuild => ?_⟩
    rw [buildOf_eq_of_classes h.classes, h.buildOf id hv.1] at hbuild
    -- the class that the object has by now may itself have been given to it
    have hc : c = (w.object id).kind ∨ S.exchanged c := by
      rcases hc with rfl | hexchanged
      · exact h.kind id hv.1
      · exact .inr hexchanged
    exact (hv.2 c hc hbuild).of_extends h
  | function id => exact hv
  | method receiver id => exact hv
  | builtinMethod receiver name => exact hv
  | _ => trivial

end World

/-! ## What is kept in alike worlds -/

/-- Two values may stand in the same place: they are one value within a scope, or the place is secret and both are
inert. -/
def Value.Alike (V : Scope) (inert inert' : Value → Prop) (isSecret : Prop) (v v' : Value) : Prop :=
  v' = v ∧ v.Within V ∨ isSecret ∧ inert v ∧ inert' v'

/-- Two lists hold the same under the same names, but for secrets. -/
def NamedAlike (V : Scope) (inert inert' : Value → Prop) (secret : String → Prop) :
    List (String × Value) → List (String × Value) → Prop :=
  List.Forall₂ fun a a' => a'.1 = a.1 ∧ Value.Alike V inert inert' (secret a.1) a.2 a'.2

/-- Two lists hold the same under the same keys, but for secrets under texts. -/
def EntriesAlike (V : Scope) (inert inert' : Value → Prop) (secret : String → Prop) :
    List (Value × Value) → List (Value × Value) → Prop :=
  List.Forall₂ fun e e' => e'.1 = e.1 ∧ e.1.Within V ∧
    Value.Alike V inert inert' (∃ name, e.1 = .text name ∧ secret name) e.2 e'.2

section

variable {V V' : Scope} {inert inert' inert₁ inert₁' : Value → Prop} {secret : String → Prop}

theorem Value.Alike.mono {isSecret : Prop} {v v' : Value} (h : Value.Alike V inert inert' isSecret v v')
    (hV : V ≤ V') (hinert : ∀ v, inert v → inert₁ v) (hinert' : ∀ v, inert' v → inert₁' v) :
    Value.Alike V' inert₁ inert₁' isSecret v v' := by
  rcases h with ⟨heq, hv⟩ | ⟨hs, hv, hv'⟩
  · exact .inl ⟨heq, hv.mono hV⟩
  · exact .inr ⟨hs, hinert v hv, hinert' v' hv'⟩

namespace NamedAlike

variable {as as' : List (String × Value)}

theorem mono (h : NamedAlike V inert inert' secret as as') (hV : V ≤ V')
    (hinert : ∀ v, inert v → inert₁ v) (hinert' : ∀ v, inert' v → inert₁' v) :
    NamedAlike V' inert₁ inert₁' secret as as' :=
  h.imp fun _ _ hpair => ⟨hpair.1, hpair.2.mono hV hinert hinert'⟩

theorem setNamed (h : NamedAlike V inert inert' secret as as') (name : String) {v : Value}
    (hv : v.Within V) : NamedAlike V inert inert' secret (setNamed name v as) (setNamed name v as') := by
  induction h with
  | nil => exact .cons ⟨rfl, .inl ⟨rfl, hv⟩⟩ .nil
  | @cons a a' as as' hpair hrest ih =>
    rw [SqlTemplate.setNamed, SqlTemplate.setNamed, hpair.1]
    split
    · exact .cons ⟨rfl, .inl ⟨rfl, hv⟩⟩ hrest
    · exact .cons hpair ih

/-- A name stands for nothing in both lists, or for values that are alike. -/
theorem lookup_cases (h : NamedAlike V inert inert' secret as as') (name : String) :
    (as.lookup name = none ∧ as'.lookup name = none) ∨
      ∃ v v', as.lookup name = some v ∧ as'.lookup name = some v' ∧
        Value.Alike V inert inert' (secret name) v v' := by
  induction h with
  | nil => exact .inl ⟨rfl, rfl⟩
  | @cons a a' as as' hpair hrest ih =>
    obtain ⟨key, v⟩ := a
    obtain ⟨key', v'⟩ := a'
    obtain ⟨rfl, hv⟩ := hpair
    rw [List.lookup_cons, List.lookup_cons]
    by_cases hname : name = key'
    · subst hname
      simpa using hv
    · have hne : (name == key') = false := by simpa using hname
      simp only [hne]
      exact ih

theorem lookup_eq (h : NamedAlike V inert inert' secret as as') {name : String} (hname : ¬ secret name) :
    as'.lookup name = as.lookup name := by
  rcases h.lookup_cases name with ⟨hnone, hnone'⟩ | ⟨v, v', hv, hv', ⟨rfl, -⟩ | ⟨hsecret, -⟩⟩
  · rw [hnone, hnone']
  · rw [hv, hv']
  · exact absurd hsecret hname

theorem within_of_lookup (h : NamedAlike V inert inert' secret as as') {name : String}
    (hname : ¬ secret name) {found : Value} (hfound : as.lookup name = some found) : found.Within V := by
  rcases h.lookup_cases name with ⟨hnone, -⟩ | ⟨v, v', hv, -, ⟨-, hwithin⟩ | ⟨hsecret, -⟩⟩
  · rw [hnone] at hfound
    cases hfound
  · rw [hv] at hfound
    cases hfound
    exact hwithin
  · exact absurd hsecret hname

end NamedAlike

namespace EntriesAlike

variable {es es' : List (Value × Value)}

theorem mono (h : EntriesAlike V inert inert' secret es es') (hV : V ≤ V')
    (hinert : ∀ v, inert v → inert₁ v) (hinert' : ∀ v, inert' v → inert₁' v) :
    EntriesAlike V' inert₁ inert₁' secret es es' :=
  h.imp fun _ _ hpair => ⟨hpair.1, hpair.2.1.mono hV, hpair.2.2.mono hV hinert hinert'⟩

theorem put (h : EntriesAlike V inert inert' secret es es') {key v : Value} (hkey : key.Within V)
    (hv : v.Within V) : EntriesAlike V inert inert' secret (Value.put key v es) (Value.put key v es') := by
  induction h with
  | nil => exact .cons ⟨rfl, hkey, .inl ⟨rfl, hv⟩⟩ .nil
  | @cons e e' es es' hpair hrest ih =>
    rw [Value.put, Value.put, hpair.1]
    split
    · exact .cons ⟨rfl, hpair.2.1, .inl ⟨rfl, hv⟩⟩ hrest
    · exact .cons hpair ih

/-- Without secrets, alike entries are the same ones. -/
theorem eq_of_forall (h : EntriesAlike V inert inert' secret es es') (hnone : ∀ name, ¬ secret name) :
    es' = es ∧ ∀ e ∈ es, e.1.Within V ∧ e.2.Within V := by
  induction h with
  | nil => exact ⟨rfl, by simp⟩
  | @cons e e' es es' hpair hrest ih =>
    obtain ⟨hkey, hwithin, ⟨hvalue, hv⟩ | ⟨⟨name, -, hsecret⟩, -⟩⟩ := hpair
    · refine ⟨List.cons_eq_cons.mpr ⟨Prod.ext hkey hvalue, ih.1⟩, ?_⟩
      exact List.forall_mem_cons.mpr ⟨⟨hwithin, hv⟩, ih.2⟩
    · exact absurd hsecret (hnone name)

theorem of_within (h : ∀ e ∈ es, e.1.Within V ∧ e.2.Within V) :
    EntriesAlike V inert inert' secret es es :=
  List.forall₂_same.mpr fun e he => ⟨rfl, (h e he).1, .inl ⟨rfl, (h e he).2⟩⟩

/-- The entries under texts, as attributes. -/
theorem namedEntries (h : EntriesAlike V inert inert' secret es es') :
    NamedAlike V inert inert' secret (World.namedEntries es) (World.namedEntries es') := by
  induction h with
  | nil => exact .nil
  | @cons e e' es es' hpair hrest ih =>
    obtain ⟨key, v⟩ := e
    obtain ⟨key', v'⟩ := e'
    obtain ⟨rfl, -, hv⟩ := hpair
    cases key' with
    | text name => exact .cons ⟨rfl, by simpa using hv⟩ ih
    | _ => exact ih

/-- A name that is no secret stands for the same in both. -/
theorem entry?_eq (h : EntriesAlike V inert inert' secret es es') {name : String}
    (hname : ¬ secret name) :
    Value.entry? (.text name) es' = Value.entry? (.text name) es ∧
      ∀ v ∈ Value.entry? (.text name) es, v.Within V := by
  induction h with
  | nil => simp [ Value.entry?]
  | @cons e e' es es' hpair hrest ih =>
    obtain ⟨key, v⟩ := e
    obtain ⟨key', v'⟩ := e'
    obtain ⟨rfl, -, hv⟩ := hpair
    simp only [ Value.entry?, List.find?_cons] at ih ⊢
    cases hsame : Value.sameKey key' (.text name) with
    | false => exact ih
    | true =>
      have hkey : key' = .text name := by
        cases key' with
        | text other => simpa [Value.sameKey] using hsame
        | _ => cases hsame
      rcases hv with ⟨rfl, hv⟩ | ⟨⟨other, hother, hsecret⟩, -⟩
      · simpa using hv
      · rw [hkey] at hother
        cases hother
        exact absurd hsecret hname

end EntriesAlike

/-- Attributes as entries. -/
theorem NamedAlike.toEntries {as as' : List (String × Value)} (h : NamedAlike V inert inert' secret as as') :
    EntriesAlike V inert inert' secret (as.map fun a => (.text a.1, a.2))
      (as'.map fun a => (.text a.1, a.2)) := by
  induction h with
  | nil => exact .nil
  | cons hpair hrest ih =>
    exact .cons ⟨congrArg Value.text hpair.1, trivial, by simpa using hpair.2⟩ ih

end

end SqlTemplate
