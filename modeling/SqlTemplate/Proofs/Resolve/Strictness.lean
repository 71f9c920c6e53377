import SqlTemplate.Proofs.Resolve.Chain
/-!
# Strict keys

Whether keys are strict is asked by the last strategy only: strictly, a mapping is asked whether it has the key, and
then for the item under it; otherwise it is asked for the value that it has for the key. For a key that is there
these ought to be two ways to the same value. A class may define each of the three lookups by a method, and nothing
makes them agree.

`segment_strict_iff` is the main theorem: for a key that the mapping says it has, both ways come to the same just when
using the item behind the test comes to the same as using the value. They do for every mapping that keeps the lookups
that it was built with (`World.KeepsLookups`), and they do not for one that defines its item lookup only
(`segment_strict_differs`).
-/

namespace SqlTemplate

open Text

/-! ## Mappings that keep their lookups -/

/-- A mapping looks keys up in its entries: it is a built-in one, or an object whose class defines none of the three
lookups and does not intercept readings, and that has no attribute in their place. -/
inductive World.KeepsLookups (w : World) : Value → Prop where
  | mapping (kind : MappingKind) (entries : List (Value × Value)) : KeepsLookups w (.mapping kind entries)
  | object {id : ObjectId}
    (hbase : w.mappingBase? (w.object id).kind = some .builtin ∨
      w.mappingBase? (w.object id).kind = some .protocol)
    (hcontains : w.ownMember? (w.object id).kind "__contains__" = none)
    (hitem : w.ownMember? (w.object id).kind "__getitem__" = none)
    (hget : w.ownMember? (w.object id).kind "get" = none)
    (hreading : w.ownMember? (w.object id).kind "__getattribute__" = none)
    (hattribute : (w.attributesOf id).lookup "get" = none) :
    KeepsLookups w (.object id)

namespace Run

variable {w w' : World} {value key found : Value} {id : ObjectId}

/-- The built-in item lookup finds what the entries have. -/
theorem start_itemWith_of_entry (inner : Inner)
    (hbase : w.mappingBase? (w.object id).kind = some .builtin ∨
      w.mappingBase? (w.object id).kind = some .protocol)
    (hitem : w.ownMember? (w.object id).kind "__getitem__" = none)
    (hfound : Value.entry? key (w.object id).entries = some found) :
    (itemWith inner (.object id) key).start w = (.ok found, w) := by
  rw [itemWith, start_bind, start_get]
  simp only [World.specialMember?, hitem, hfound]
  rcases hbase with hbase | hbase
  · rw [hbase]
    rfl
  · rw [hbase]
    rfl

/-- The built-in item lookup of an implementation of the protocol fails for a key that the entries do not have. -/
theorem start_itemWith_of_absent (inner : Inner)
    (hbase : w.mappingBase? (w.object id).kind = some .protocol)
    (hitem : w.ownMember? (w.object id).kind "__getitem__" = none)
    (habsent : Value.entry? key (w.object id).entries = none) :
    (itemWith inner (.object id) key).start w = (.error (.plain (.standard .keyError) [key]), w) := by
  rw [itemWith, start_bind, start_get]
  simp only [World.specialMember?, hitem, habsent, hbase]
  rfl

/-- The built-in test for a key succeeds for what the entries have, and runs nothing. -/
theorem start_hasKey_object
    (hbase : w.mappingBase? (w.object id).kind = some .builtin ∨
      w.mappingBase? (w.object id).kind = some .protocol)
    (hcontains : w.ownMember? (w.object id).kind "__contains__" = none)
    (hitem : w.mappingBase? (w.object id).kind = some .protocol →
      w.ownMember? (w.object id).kind "__getitem__" = none) :
    (hasKey (.object id) key).start w
      = (.ok (Value.entry? key (w.object id).entries).isSome, w) := by
  rw [hasKey, start_bind, start_get]
  simp only [World.specialMember?, hcontains]
  rcases hbase with hbase | hbase
  · simp only [hbase]
    rfl
  · simp only [hbase]
    -- the protocol tests for a key by looking its item up
    have hlookup : (item (.object id) key).start w
        = (itemWith (inner w.depth) (.object id) key).start w := rfl
    cases hentry : Value.entry? key (w.object id).entries with
    | some found =>
      rw [start_itemWith_of_entry _ (.inr hbase) (hitem hbase) hentry] at hlookup
      have htest : (do let _ ← item (.object id) key; return true : Run Bool).start w = (.ok true, w) := by
        rw [start_bind, hlookup]
        rfl
      exact start_orElse_of_ok htest _
    | none =>
      rw [start_itemWith_of_absent _ hbase (hitem hbase) hentry] at hlookup
      have htest : (do let _ ← item (.object id) key; return true : Run Bool).start w
          = (.error (.plain (.standard .keyError) [key]), w) := by
        rw [start_bind, hlookup]
      exact start_orElse_of_error htest _

/-- A class that extends or implements a mapping and defines no `get` has the built-in one. -/
theorem classMember?_get {c : ClassId}
    (hbase : w.mappingBase? c = some .builtin ∨ w.mappingBase? c = some .protocol)
    (hget : w.ownMember? c "get" = none) : w.classMember? c "get" = some .routine := by
  have hspecial : specialSlots.contains "get" = false := by decide
  have hconstant : hasName "get" (w.classConstants c) = false := by
    rw [World.classConstants]
    rcases hbase with hbase | hbase <;> rw [hbase] <;> cases w.implementsProtocol c <;>
      cases w.declaredSlots? c <;> cases w.standard? c <;> simp [hasName]
  have hroutine : (w.objectRoutines c).contains "get" = true := by
    rcases hbase with hbase | hbase
    · simp [World.objectRoutines, hbase, mappingRoutines]
    · simp [World.objectRoutines, hbase, protocolRoutines]
  simp only [World.classMember?, hspecial, hget, hconstant, hroutine]
  rfl

/-- What is read the ordinary way is read, if the class does not intercept readings. -/
theorem start_readWith_of_readOrdinary {inner : Inner} {name : String}
    (hgetattribute : w.specialMember? value "__getattribute__" = none)
    (hordinary : (readOrdinary inner value name).start w = (.ok found, w')) :
    (readWith inner value name).start w = (.ok found, w') := by
  rw [readWith, start_bind, start_get]
  cases value with
  | object id =>
    simp only [World.specialMember?] at hgetattribute
    simp only [hgetattribute]
    cases w.ownMember? (w.object id).kind "__getattr__" with
    | none => exact hordinary
    | some hook => exact start_orElse_of_ok hordinary _
  | _ => exact hordinary

/-- The built-in `get` is read without running anything. -/
theorem start_readWith_get (inner : Inner)
    (hmember : w.classMember? (w.object id).kind "get" = some .routine)
    (hreading : w.ownMember? (w.object id).kind "__getattribute__" = none)
    (hattribute : (w.attributesOf id).lookup "get" = none) :
    (readWith inner (.object id) "get").start w = (.ok (.builtinMethod (.object id) "get"), w) := by
  refine start_readWith_of_readOrdinary hreading ?_
  rw [readOrdinary, start_bind, start_get]
  simp only [hmember, hattribute]
  rfl

theorem start_read_get
    (hmember : w.classMember? (w.object id).kind "get" = some .routine)
    (hreading : w.ownMember? (w.object id).kind "__getattribute__" = none)
    (hattribute : (w.attributesOf id).lookup "get" = none) :
    (read (.object id) "get").start w = (.ok (.builtinMethod (.object id) "get"), w) :=
  start_readWith_get (inner w.depth) hmember hreading hattribute

/-- The built-in `get` gives what the entries have, and null for what they do not have. -/
theorem start_callBuiltin_get (inner : Inner)
    (hbase : w.mappingBase? (w.object id).kind = some .builtin ∨
      w.mappingBase? (w.object id).kind = some .protocol)
    (hitem : w.ownMember? (w.object id).kind "__getitem__" = none) :
    (callBuiltin inner (.object id) "get" [key]).start w
      = (.ok ((Value.entry? key (w.object id).entries).getD .null), w) := by
  rw [callBuiltin, start_bind, start_get]
  simp only [List.head?_cons]
  rcases hbase with hbase | hbase
  · simp only [hbase]
    rfl
  · simp only [hbase]
    -- the protocol gets a value by looking the item up
    cases hentry : Value.entry? key (w.object id).entries with
    | some found => exact start_orElse_of_ok (start_itemWith_of_entry inner (.inr hbase) hitem hentry) _
    | none => exact start_orElse_of_error (start_itemWith_of_absent inner hbase hitem hentry) _

/-- Calling a built-in method takes one level of nesting. -/
theorem start_callValue_builtinMethod (hdepth : 0 < w.depth) (receiver : Value) (name : String)
    (arguments : List Value) : ∃ inner, (callValue (.builtinMethod receiver name) arguments).start w
      = (callBuiltin inner receiver name arguments).start w := by
  obtain ⟨depth, hdepth⟩ := Nat.exists_eq_add_one.mpr hdepth
  refine ⟨inner depth, ?_⟩
  have hcall : (callValue (.builtinMethod receiver name) arguments).start w
      = ((inner w.depth).builtin receiver name arguments).start w := rfl
  rw [hcall, hdepth]
  rfl

/-- A mapping that keeps its lookups keeps entries. -/
theorem exists_entriesOf?_of_keepsLookups (h : w.KeepsLookups value) : ∃ entries, w.entriesOf? value = some entries := by
  cases h with
  | mapping kind entries => exact ⟨entries, rfl⟩
  | @object id hbase _ _ _ _ _ =>
    refine ⟨(w.object id).entries, ?_⟩
    rcases hbase with hbase | hbase <;> simp [World.entriesOf?, hbase]

theorem entries_of_entriesOf? {entries : List (Value × Value)}
    (hbase : w.mappingBase? (w.object id).kind = some .builtin ∨ w.mappingBase? (w.object id).kind = some .protocol)
    (hentries : w.entriesOf? (.object id) = some entries) : (w.object id).entries = entries := by
  rcases hbase with hbase | hbase <;> simpa [World.entriesOf?, hbase] using hentries

section

variable {entries : List (Value × Value)}

/-- A mapping that keeps its lookups has the keys of its entries. -/
theorem start_hasKey_of_keepsLookups (h : w.KeepsLookups value) (hentries : w.entriesOf? value = some entries)
    (key : Value) : (hasKey value key).start w = (.ok (Value.entry? key entries).isSome, w) := by
  cases h with
  | mapping kind entries =>
    cases hentries
    rfl
  | object hbase hcontains hitem hget hreading hattribute =>
    obtain rfl := entries_of_entriesOf? hbase hentries
    exact start_hasKey_object hbase hcontains fun _ => hitem

/-- The item of a key that it has is the value of its entries. -/
theorem start_item_of_keepsLookups (h : w.KeepsLookups value) (hentries : w.entriesOf? value = some entries)
    (hfound : Value.entry? key entries = some found) : (item value key).start w = (.ok found, w) := by
  show (itemWith (inner w.depth) value key).start w = _
  cases h with
  | mapping kind entries =>
    cases hentries
    rw [itemWith, start_bind, start_get]
    simp only [hfound]
    rfl
  | object hbase hcontains hitem hget hreading hattribute =>
    obtain rfl := entries_of_entriesOf? hbase hentries
    exact start_itemWith_of_entry (inner w.depth) hbase hitem hfound

/-- The value that it has for a key is that of its entries, or null. -/
theorem start_valueOf_of_keepsLookups (h : w.KeepsLookups value) (hentries : w.entriesOf? value = some entries)
    (hdepth : 0 < w.depth) (key : Value) :
    (valueOf value key).start w = (.ok ((Value.entry? key entries).getD .null), w) := by
  obtain ⟨inner, hcall⟩ := start_callValue_builtinMethod hdepth value "get" [key]
  cases h with
  | mapping kind entries =>
    cases hentries
    have hread : (read (.mapping kind entries) "get").start w
        = (.ok (.builtinMethod (.mapping kind entries) "get"), w) := by
      cases kind <;> rfl
    rw [valueOf, start_bind, hread]
    simp only [hcall]
    rfl
  | @object id hbase hcontains hitem hget hreading hattribute =>
    obtain rfl := entries_of_entriesOf? hbase hentries
    rw [valueOf, start_bind, start_read_get (classMember?_get hbase hget) hreading hattribute]
    simp only [hcall]
    exact start_callBuiltin_get inner hbase hitem

end

/-- A mapping that keeps its lookups and has a key has one value for it, in whatever way it is looked up. -/
theorem exists_start_lookups (h : w.KeepsLookups value) (hdepth : 0 < w.depth)
    (hkey : (hasKey value key).start w = (.ok true, w')) :
    w' = w ∧ ∃ found, (item value key).start w = (.ok found, w) ∧
      (valueOf value key).start w = (.ok found, w) := by
  obtain ⟨entries, hentries⟩ := exists_entriesOf?_of_keepsLookups h
  rw [start_hasKey_of_keepsLookups h hentries, Prod.mk.injEq, Except.ok.injEq, Option.isSome_iff_exists] at hkey
  obtain ⟨⟨found, hfound⟩, rfl⟩ := hkey
  refine ⟨rfl, found, start_item_of_keepsLookups h hentries hfound, ?_⟩
  have hvalue := start_valueOf_of_keepsLookups h hentries hdepth key
  rw [hfound] at hvalue
  exact hvalue

end Run

namespace Resolve

open Strategy

/-! ## The last strategy -/

/-- The accessor for an item of a mapping, given how it is read. -/
def itemAccessor (w : World) (value : Value) (qualifier : String) (invoke : Run Value) : Accessor :=
  ⟨w.kindName value ++ "[" ++ quote qualifier ++ "]", invoke, false, false⟩

section

variable {value : Value} {qualifier path : String} {strict : Bool} {w w₀ w₁ w₂ : World}

/-- Strictly, the item of a key that is there is located behind the test for the key. -/
theorem start_locateItem_strict (hmapping : (Run.isMapping value).start w = (.ok true, w₁))
    (hkey : (Run.hasKey value (.text qualifier)).start w₁ = (.ok true, w₂)) :
    (locateItem true value qualifier).start w
      = (.ok (some (itemAccessor w₁ value qualifier (Run.item value (.text qualifier)))), w₂) := by
  rw [locateItem, Run.start_bind, hmapping]
  simp only [Bool.not_true, Bool.false_eq_true, if_false, if_true, Run.start_bind, Run.start_get, hkey]
  rfl

/-- Otherwise the value for the key is located without a test. -/
theorem start_locateItem_lenient (hmapping : (Run.isMapping value).start w = (.ok true, w₁)) :
    (locateItem false value qualifier).start w
      = (.ok (some (itemAccessor w₁ value qualifier (Run.valueOf value (.text qualifier)))), w₁) := by
  rw [locateItem, Run.start_bind, hmapping]
  simp only [Bool.not_true, Bool.false_eq_true, if_false, Run.start_bind, Run.start_get]
  rfl

/-- An accessor that needs no truth value and is not dynamic decides, whatever it comes to. -/
theorem start_use_of_plain {accessor : Accessor} (hbool : accessor.requiresBool = false)
    (hdynamic : accessor.dynamic = false) (path : String) (w : World) :
    ∃ attempt outcome w', Used path accessor w attempt w' ∧ attempt.decision? = some outcome ∧
      (use accessor path).start w = (Reading.accepted <$> outcome, w') := by
  obtain ⟨attempt, w', hused⟩ := exists_used accessor path w
  have huse := start_use_of_used hused
  cases hused with
  | accepted hinvoke hneeds => exact ⟨_, _, w', .accepted hinvoke hneeds, rfl, huse⟩
  | failed hinvoke hrefusal => exact ⟨_, _, w', .failed hinvoke hrefusal, rfl, huse⟩
  | noAttribute _ h => simp [hdynamic] at h
  | notBool _ h => simp [hbool] at h
  | acceptedBool _ h => simp [hbool] at h
  | unchecked _ h => simp [hbool] at h

/-- Where all strategies but the last are exhausted, the qualifier is read by what the last one locates. -/
theorem start_segment_of_last {passed : List Strategy} (last : Strategy) {accessor : Accessor}
    (hvalue : value ≠ .null) (hexhausts : Exhausts value qualifier path passed w w₀)
    (hlocate : (last.locate value qualifier).start w₀ = (.ok (some accessor), w₁))
    (hbool : accessor.requiresBool = false) (hdynamic : accessor.dynamic = false) (owner : String) :
    ∃ outcome w', (segment (passed ++ [last]) value owner qualifier path).start w = (outcome, w') ∧
      (use accessor path).start w₁ = (Reading.accepted <$> outcome, w') := by
  obtain ⟨attempt, outcome, w', hused, hdecides, huse⟩ := start_use_of_plain hbool hdynamic path w₁
  refine ⟨outcome, w', ?_, huse⟩
  rw [hexhausts.start_segment hvalue, Tried.start_segment (.located hlocate hused) hvalue, hdecides]

theorem accepted_map_inj {outcome other : Except Failure Value} :
    Reading.accepted <$> outcome = Reading.accepted <$> other ↔ outcome = other := by
  refine ⟨fun h => ?_, fun h => h ▸ rfl⟩
  cases outcome with
  | error failure => cases other <;> cases h; rfl
  | ok result => cases other <;> cases h; rfl

end

/-- The strategies in front of the one for items of mappings: a value that exhausts them has no accessor and no field
for the qualifier. -/
def beforeItems : List Strategy := [booleanAccessor, generalAccessor, publicField]

/-- A mapping that has neither an accessor nor a field for a qualifier, and that says that it has the key, is read
alike with strict keys and without just when using the item behind the test for the key comes to the same as using the
value that it has for the key. If it keeps its lookups, both give the one value that it has, and run nothing. -/
theorem segment_strict_iff {value : Value} {qualifier path : String} {w w₀ w₁ w₂ : World}
    (hexhausts : Exhausts value qualifier path beforeItems w w₀)
    (hmapping : (Run.isMapping value).start w₀ = (.ok true, w₁))
    (hkey : (Run.hasKey value (.text qualifier)).start w₁ = (.ok true, w₂)) (owner : String) :
    let reading (strict : Bool) := (segment (standard strict) value owner qualifier path).start w
    let item := itemAccessor w₁ value qualifier (Run.item value (.text qualifier))
    let entry := itemAccessor w₁ value qualifier (Run.valueOf value (.text qualifier))
    ((reading true).1 = (reading false).1 ↔
      ((use item path).start w₂).1 = ((use entry path).start w₁).1) ∧
    (w₁.KeepsLookups value → 0 < w₁.depth →
      ∃ found, reading true = (.ok found, w₁) ∧ reading false = (.ok found, w₁)) := by
  intro reading item entry
  have hvalue : value ≠ .null := by
    rintro rfl
    cases hmapping
  obtain ⟨strict, w₃, hstrict, hitem⟩ := start_segment_of_last (keyedLookup true) hvalue hexhausts
    (start_locateItem_strict hmapping hkey) rfl rfl owner
  obtain ⟨lenient, w₄, hlenient, hentry⟩ := start_segment_of_last (keyedLookup false) hvalue hexhausts
    (start_locateItem_lenient hmapping) rfl rfl owner
  have hreadStrict : reading true = (strict, w₃) := hstrict
  have hreadLenient : reading false = (lenient, w₄) := hlenient
  constructor
  · rw [hreadStrict, hreadLenient, hitem, hentry]
    exact accepted_map_inj.symm
  · intro hkeeps hdepth
    obtain ⟨rfl, found, hfound, hgiven⟩ := Run.exists_start_lookups hkeeps hdepth hkey
    have huse : (use item path).start w₂ = (Reading.accepted <$> .ok found, w₂) := start_use_of_ok hfound
    have huse' : (use entry path).start w₂ = (Reading.accepted <$> .ok found, w₂) := start_use_of_ok hgiven
    rw [hitem, Prod.mk.injEq, accepted_map_inj] at huse
    rw [hentry, Prod.mk.injEq, accepted_map_inj] at huse'
    exact ⟨found, by rw [hreadStrict, huse.1, huse.2], by rw [hreadLenient, huse'.1, huse'.2]⟩

/-- Strategies that locate nothing and run nothing are exhausted. -/
theorem exhausts_of_none {value : Value} {qualifier : String} (path : String) {w : World} {chain : List Strategy}
    (h : ∀ strategy ∈ chain, (strategy.locate value qualifier).start w = (.ok none, w)) :
    Exhausts value qualifier path chain w w := by
  induction chain with
  | nil => exact ⟨[], .done w, nofun⟩
  | cons strategy chain ih =>
    obtain ⟨hfirst, hrest⟩ := List.forall_mem_cons.mp h
    exact (exhausts_singleton (.nothing hfirst) rfl).append (ih hrest)

/-- A world with an object that extends the built-in mapping and has one entry. Its class defines one method, which
gives a key in upper case. -/
def upperMapping (name : String) : World :=
  let upper : Function :=
    ⟨"Upper." ++ name, ⟨[Parameter.plain "self", Parameter.plain "key"], .absent⟩, .perform ⟨0, [], .upper⟩⟩
  let kind : Class :=
    { Class.ofMembers "Upper" [(name, .value (.function 0))] with mapping := some .builtin }
  { World.empty with
    classes := World.empty.classes ++ [kind]
    functions := [upper]
    objects := [{ Object.ofKind 2 with entries := [(.text "a", .text "raw")] }] }

/-- The key of such a mapping is neither an accessor nor a field of it. -/
theorem exhausts_upperMapping {name : String} (h : name ∈ ["__missing__", "__getitem__"]) :
    Exhausts (.object 0) "a" "o.a" beforeItems (upperMapping name) (upperMapping name) := by
  refine exhausts_of_none "o.a" fun strategy hmem => ?_
  simp only [List.mem_cons, List.not_mem_nil, or_false] at h
  simp only [beforeItems, List.mem_cons, List.not_mem_nil, or_false] at hmem
  rcases h with rfl | rfl
  · rcases hmem with rfl | rfl | rfl <;> rfl
  · rcases hmem with rfl | rfl | rfl <;> rfl

/-- A mapping that only says what an absent key stands for keeps its lookups, and is read alike. -/
theorem segment_strict_iff_missing :
    let w := upperMapping "__missing__"
    Exhausts (.object 0) "a" "o.a" beforeItems w w ∧
    (Run.isMapping (.object 0)).start w = (.ok true, w) ∧
    (Run.hasKey (.object 0) (.text "a")).start w = (.ok true, w) ∧
    w.KeepsLookups (.object 0) ∧ 0 < w.depth ∧
    ∃ found, (segment (standard true) (.object 0) "o" "a" "o.a").start w = (.ok found, w) ∧
      (segment (standard false) (.object 0) "o" "a" "o.a").start w = (.ok found, w) := by
  intro w
  have hexhausts : Exhausts (.object 0) "a" "o.a" beforeItems w w := exhausts_upperMapping (by simp)
  have hmapping : (Run.isMapping (.object 0)).start w = (.ok true, w) := rfl
  have hkey : (Run.hasKey (.object 0) (.text "a")).start w = (.ok true, w) := rfl
  have hkeeps : w.KeepsLookups (.object 0) := .object (.inl rfl) rfl rfl rfl rfl rfl
  have hdepth : 0 < w.depth := by decide
  exact ⟨hexhausts, hmapping, hkey, hkeeps, hdepth,
    (segment_strict_iff hexhausts hmapping hkey "o").2 hkeeps hdepth⟩

/-- A mapping with an item lookup of its own says that it has the key, and is read in two ways. -/
theorem segment_strict_differs :
    let w := upperMapping "__getitem__"
    Exhausts (.object 0) "a" "o.a" beforeItems w w ∧
    (Run.isMapping (.object 0)).start w = (.ok true, w) ∧
    (Run.hasKey (.object 0) (.text "a")).start w = (.ok true, w) ∧
    ((segment (standard true) (.object 0) "o" "a" "o.a").start w).1 = .ok (.text "A") ∧
    ((segment (standard false) (.object 0) "o" "a" "o.a").start w).1 = .ok (.text "raw") := by
  intro w
  have hexhausts : Exhausts (.object 0) "a" "o.a" beforeItems w w := exhausts_upperMapping (by simp)
  exact ⟨hexhausts, rfl, rfl, rfl, rfl⟩

end Resolve

end SqlTemplate
