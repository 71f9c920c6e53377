import SqlTemplate.Proofs.Resolve.Following
import SqlTemplate.Proofs.Resolve.Locating
import SqlTemplate.Proofs.Text.UpperCase
/-!
# Nested mappings

The keys of a mapping and the names of its members are asked for by the same qualifiers. A plain mapping has members of
its own: some built-in data, whose names are private, and routines. None of them gets in front of a key. A routine is no
field, no routine is called by the name of an accessor (`not_mem_of_mem_candidates`), and of the data there are only
three pieces. So each strategy in front of the one for items passes a plain mapping over, whatever keys it has
(`exhausts_of_plainEntries?`).

`parts_nested` is the main theorem: the standard chain looks a path up in nested plain mappings (`nested`), and runs
nothing for it.
-/

namespace SqlTemplate

open Text

/-! ## Plain mappings -/

/-- A class is that of the built-in plain mappings, which has no members but the built-in ones. -/
def Class.isPlainMapping (c : Class) : Bool :=
  c.ancestors.isEmpty && c.members.isEmpty && c.slots == some [] && c.mapping == some .builtin &&
    c.standard == some .plain

/-- The entries of a value that is a plain mapping: one by itself, or one that others may see. -/
def World.plainEntries? (w : World) : Value → Option (List (Value × Value))
  | .mapping .plain entries => some entries
  | .object id =>
    if (w.classOf (w.object id).kind).isPlainMapping && (w.attributesOf id).isEmpty then some (w.object id).entries
    else none
  | _ => none

/-- The names of the data that each plain mapping has. -/
def plainFields : List String := ["__class__", "__doc__", "__hash__"]

/-- The names of the routines that each plain mapping has. -/
def plainRoutines : List String := mappingRoutines ++ operatorRoutines ++ commonRoutines

namespace World

section

variable {w : World} {c : ClassId} {id : ObjectId} {value : Value} {entries : List (Value × Value)} {name : String}

/-- What the class of plain mappings is made of. -/
theorem classOf_of_isPlainMapping (h : (w.classOf c).isPlainMapping = true) :
    (w.classOf c).ancestors = [] ∧ (w.classOf c).members = [] ∧ (w.classOf c).slots = some [] ∧
      (w.classOf c).mapping = some .builtin ∧ (w.classOf c).standard = some .plain := by
  simpa only [Class.isPlainMapping, Bool.and_eq_true, List.isEmpty_iff, beq_iff_eq, and_assoc] using h

theorem lineage_of_isPlainMapping (h : (w.classOf c).isPlainMapping = true) : w.lineage c = [c] := by
  rw [lineage, (classOf_of_isPlainMapping h).1]

/-- The class of plain mappings itself has no member. -/
theorem classMembers_of_isPlainMapping (h : (w.classOf c).isPlainMapping = true) (name : String) :
    (w.classOf c).member? name = none := by
  obtain ⟨-, hmembers, hslots, -, -⟩ := classOf_of_isPlainMapping h
  simp [Class.member?, Class.places, hmembers, hslots, hasName]

theorem ownMember?_of_isPlainMapping (h : (w.classOf c).isPlainMapping = true) (name : String) :
    w.ownMember? c name = none := by
  rw [ownMember?, lineage_of_isPlainMapping h, List.findSome?_singleton]
  exact classMembers_of_isPlainMapping h name

theorem mappingBase?_of_isPlainMapping (h : (w.classOf c).isPlainMapping = true) :
    w.mappingBase? c = some .builtin := by
  obtain ⟨-, -, -, hmapping, -⟩ := classOf_of_isPlainMapping h
  simp [mappingBase?, lineage_of_isPlainMapping h, hmapping]

/-- The objects of the class have no place for attributes. -/
theorem placeMember?_of_isPlainMapping (h : (w.classOf c).isPlainMapping = true) (slot : String) :
    w.placeMember? c slot = none := by
  obtain ⟨hancestors, -, hslots, -, -⟩ := classOf_of_isPlainMapping h
  have hadds : w.adds (w.classOf c) slot = false := by
    simp [adds, anyProvides, Class.provides, hancestors, hslots]
  rw [placeMember?, lineage_of_isPlainMapping h, List.findSome?_singleton]
  simp only [classMembers_of_isPlainMapping h, hadds, Bool.false_and, Bool.false_eq_true, if_false]

theorem classConstants_of_isPlainMapping (h : (w.classOf c).isPlainMapping = true) :
    w.classConstants c = [("__doc__", .null), ("__hash__", .null)] := by
  obtain ⟨-, -, hslots, hmapping, hstandard⟩ := classOf_of_isPlainMapping h
  have hprotocol : w.implementsProtocol c = false := by
    simp [implementsProtocol, lineage_of_isPlainMapping h, hmapping]
  simp [classConstants, mappingBase?_of_isPlainMapping h, hprotocol, standard?, hstandard]

/-- What else the class has under a name is a routine. -/
theorem routine_of_classMember? (h : (w.classOf c).isPlainMapping = true) (hname : name ∉ plainFields) {member : Member}
    (hmember : w.classMember? c name = some member) : member = .routine ∧ name ∈ plainRoutines := by
  simp only [plainFields, List.mem_cons, List.not_mem_nil, or_false, not_or] at hname
  -- the class defines nothing and has three pieces of data, so only the routines are left
  have hown : (if specialSlots.contains name then w.placeMember? c name else w.ownMember? c name) = none := by
    rw [placeMember?_of_isPlainMapping h, ownMember?_of_isPlainMapping h, ite_self]
  have hconstant : hasName name (w.classConstants c) = false := by
    simp [classConstants_of_isPlainMapping h, hasName, Ne.symm hname.2.1, Ne.symm hname.2.2]
  have hroutines : w.objectRoutines c = plainRoutines := by
    rw [objectRoutines, mappingBase?_of_isPlainMapping h]
    rfl
  simp only [classMember?, hown, if_neg hname.1, hconstant, Bool.false_eq_true, if_false, hroutines] at hmember
  by_cases hroutine : name ∈ plainRoutines
  · rw [if_pos (List.contains_iff_mem.mpr hroutine)] at hmember
    cases hmember
    exact ⟨rfl, hroutine⟩
  · rw [if_neg (mt List.contains_iff_mem.mp hroutine)] at hmember
    cases hmember

theorem plainEntries?_object (h : w.plainEntries? (.object id) = some entries) :
    (w.classOf (w.object id).kind).isPlainMapping = true ∧ w.attributesOf id = [] ∧
      (w.object id).entries = entries := by
  rw [plainEntries?] at h
  split at h
  case isTrue hplain =>
    rw [Bool.and_eq_true, List.isEmpty_iff] at hplain
    exact ⟨hplain.1, hplain.2, Option.some.inj h⟩
  case isFalse => cases h

/-- A member of a plain mapping, apart from its data, is a routine. -/
theorem routine_of_plainEntries? (h : w.plainEntries? value = some entries) (hname : name ∉ plainFields)
    {member : Member} (hmember : w.member? value name = some member) : member = .routine ∧ name ∈ plainRoutines := by
  cases value with
  | mapping kind entries =>
    cases kind with
    | plain =>
      have hfield : (Value.mapping .plain entries).fields.contains name = false := by
        rw [List.contains_eq_mem, decide_eq_false_iff_not]
        exact hname
      simp only [member?, Value.builtinMember?, hfield, Bool.false_eq_true, if_false] at hmember
      split at hmember
      case isTrue hroutine =>
        cases hmember
        exact ⟨rfl, List.mem_append_left _ (List.mem_append_left _ (List.contains_iff_mem.mp hroutine))⟩
      case isFalse => cases hmember
    | _ => cases h
  | object id =>
    obtain ⟨hclass, hattributes, -⟩ := plainEntries?_object h
    simp only [member?, objectMember?, hattributes, List.lookup_nil, ite_self] at hmember
    cases hown : w.classMember? (w.object id).kind name with
    | none =>
      rw [hown] at hmember
      cases hmember
    | some own =>
      rw [hown] at hmember
      cases hmember
      exact routine_of_classMember? hclass hname hown
  | _ => cases h

/-- The class of a plain mapping, if it has one, defines nothing. -/
theorem specialMember?_of_plainEntries? (h : w.plainEntries? value = some entries) (name : String) :
    w.specialMember? value name = none := by
  cases value with
  | object id => exact ownMember?_of_isPlainMapping (plainEntries?_object h).1 name
  | _ => rfl

theorem isPlainValue_of_plainEntries? (h : w.plainEntries? value = some entries) : w.IsPlainValue value := by
  rintro id rfl
  have hclass := (plainEntries?_object h).1
  exact ⟨ownMember?_of_isPlainMapping hclass _, ownMember?_of_isPlainMapping hclass _⟩

/-- A plain mapping keeps the lookups that it was built with, and looks keys up in its entries. -/
theorem keepsLookups_of_plainEntries? (h : w.plainEntries? value = some entries) :
    w.KeepsLookups value ∧ w.entriesOf? value = some entries := by
  cases value with
  | mapping kind own =>
    cases kind with
    | plain => exact ⟨.mapping .plain own, h⟩
    | _ => cases h
  | object id =>
    obtain ⟨hclass, hattributes, rfl⟩ := plainEntries?_object h
    have hown := ownMember?_of_isPlainMapping hclass
    have hbase := mappingBase?_of_isPlainMapping hclass
    have hattribute : (w.attributesOf id).lookup "get" = none := by
      rw [hattributes]
      rfl
    refine ⟨.object (.inl hbase) (hown _) (hown _) (hown _) (hown _) hattribute, ?_⟩
    simp only [entriesOf?, hbase]
  | _ => cases h

/-- It is found to be a mapping. -/
theorem start_isMapping_of_plainEntries? (h : w.plainEntries? value = some entries) :
    (Run.isMapping value).start w = (.ok true, w) := by
  cases value with
  | mapping kind entries => rfl
  | object id =>
    obtain ⟨answer, hanswer, hobject⟩ := Run.exists_start_isMapping (isPlainValue_of_plainEntries? h)
    rw [hanswer, hobject id rfl, mappingBase?_of_isPlainMapping (plainEntries?_object h).1]
    rfl
  | _ => cases h

end

end World

namespace Resolve

open Strategy

/-! ## The names of accessors -/

theorem ne_empty_of_isQualifier {qualifier : String} (h : isQualifier qualifier = true) : qualifier ≠ "" := by
  rintro rfl
  revert h
  decide

theorem capitalize_ne_empty {qualifier : String} (h : qualifier ≠ "") : capitalize qualifier ≠ "" := by
  unfold capitalize
  split
  case h_1 hnil => exact absurd (String.toList_eq_nil_iff.mp hnil) h
  case h_2 c rest _ =>
    intro hempty
    have hlist := congrArg String.toList hempty
    rw [String.toList_ofList] at hlist
    exact upperChar_ne_nil c (List.append_eq_nil_iff.mp hlist).1

/-- The name of an accessor is the stem with something behind. -/
theorem exists_of_mem_candidates {stem qualifier name : String} (hqualifier : qualifier ≠ "")
    (hname : name ∈ candidates stem qualifier) : ∃ rest, rest ≠ "" ∧ name = stem ++ rest := by
  simp only [candidates, List.mem_cons, List.not_mem_nil, or_false] at hname
  rcases hname with rfl | rfl
  · refine ⟨"_" ++ qualifier, ?_, String.append_assoc⟩
    intro hempty
    exact hqualifier (String.append_eq_empty_iff.mp hempty).2
  · exact ⟨capitalize qualifier, capitalize_ne_empty hqualifier, rfl⟩

/-- No routine or datum of a plain mapping is called by the name of an accessor. -/
theorem not_mem_of_mem_candidates {stem qualifier name : String} (hstem : stem ∈ ["is", "get"])
    (hqualifier : qualifier ≠ "") (hname : name ∈ candidates stem qualifier) : name ∉ plainFields ++ plainRoutines := by
  intro hmem
  obtain ⟨rest, hrest, rfl⟩ := exists_of_mem_candidates hqualifier hname
  -- the only name there that starts with a stem is the stem itself
  have hnames : ∀ stem ∈ ["is", "get"], ∀ name ∈ plainFields ++ plainRoutines,
      stem.toList.isPrefixOf name.toList = true → name = stem := by decide
  have hprefix : stem.toList.isPrefixOf (stem ++ rest).toList = true := by
    rw [List.isPrefixOf_iff_prefix, String.toList_append]
    exact List.prefix_append _ _
  have heq : stem ++ rest = stem := hnames stem hstem _ hmem hprefix
  exact hrest (by simpa using heq)

/-! ## Reading a key by the chain -/

section

variable {w : World} {value : Value} {entries : List (Value × Value)} {qualifier : String}

/-- A plain mapping has no method under the name of an accessor. -/
theorem hasNoMethod_of_plainEntries? (h : w.plainEntries? value = some entries) {stem name : String}
    (hstem : stem ∈ ["is", "get"]) (hqualifier : isQualifier qualifier = true)
    (hname : name ∈ candidates stem qualifier) : HasNoMethod w value name := by
  have hmem := not_mem_of_mem_candidates hstem (ne_empty_of_isQualifier hqualifier) hname
  rw [List.mem_append, not_or] at hmem
  refine .inl ?_
  cases hmember : w.member? value name with
  | none => rfl
  | some member => exact absurd (World.routine_of_plainEntries? h hmem.1 hmember).2 hmem.2

/-- A routine of a plain mapping is no field of it. -/
theorem start_locateField_of_plainEntries? (h : w.plainEntries? value = some entries)
    (hfield : qualifier ∉ plainFields) : (locateField value qualifier).start w = (.ok none, w) := by
  rw [locateField, Run.start_bind, Run.start_get]
  cases hmember : w.member? value qualifier with
  | none =>
    have hnone : (w.specialMember? value "__getattr__").isNone = true := by
      rw [World.specialMember?_of_plainEntries? h]
      rfl
    simp only [hmember, hnone, Bool.or_true, if_true]
    rfl
  | some member =>
    obtain ⟨rfl, -⟩ := World.routine_of_plainEntries? h hfield hmember
    simp only [hmember]
    rfl

/-- The strategies in front of the one for items pass a plain mapping over. -/
theorem exhausts_of_plainEntries? (h : w.plainEntries? value = some entries) (hqualifier : isQualifier qualifier = true)
    (hfield : qualifier ∉ plainFields) (path : String) : Exhausts value qualifier path beforeItems w w := by
  refine exhausts_of_none path fun strategy hmem => ?_
  simp only [beforeItems, List.mem_cons, List.not_mem_nil, or_false] at hmem
  rcases hmem with rfl | rfl | rfl
  · exact start_locateMethod_eq_none fun name hname => hasNoMethod_of_plainEntries? h (by simp) hqualifier hname
  · exact start_locateMethod_eq_none fun name hname => hasNoMethod_of_plainEntries? h (by simp) hqualifier hname
  · exact start_locateField_of_plainEntries? h hfield

/-- What a plain mapping has under a key. A missing key stands for null, unless keys are strict. -/
def keyed (strict : Bool) (entries : List (Value × Value)) (qualifier : String) : Option Value :=
  (Value.entry? (.text qualifier) entries).or (if strict then none else some .null)

/-- The strategy for items reads what a plain mapping has under a key, or passes it over. -/
theorem exists_tried_keyedLookup (h : w.plainEntries? value = some entries) (hdepth : 0 < w.depth) (strict : Bool)
    (qualifier path : String) : ∃ attempt, Tried value qualifier path (keyedLookup strict) w attempt w ∧
      attempt.decision? = (keyed strict entries qualifier).map .ok := by
  have hmapping := World.start_isMapping_of_plainEntries? h
  obtain ⟨hkeeps, hentries⟩ := World.keepsLookups_of_plainEntries? h
  have hkey := Run.start_hasKey_of_keepsLookups hkeeps hentries (.text qualifier)
  have hvalue := Run.start_valueOf_of_keepsLookups hkeeps hentries hdepth (.text qualifier)
  -- the key is tested first if keys are strict, and else its value is asked for at once
  cases strict with
  | false =>
    refine ⟨_, .located (start_locateItem_lenient hmapping) (.accepted hvalue rfl), ?_⟩
    cases hentry : Value.entry? (.text qualifier) entries with
    | none => simp [Attempt.decision?, keyed, hentry]
    | some found => simp [Attempt.decision?, keyed, hentry]
  | true =>
    cases hentry : Value.entry? (.text qualifier) entries with
    | none =>
      refine ⟨.nothing, .nothing ?_, ?_⟩
      · rw [hentry] at hkey
        show (locateItem true value qualifier).start w = _
        simp only [locateItem, Run.start_bind, hmapping, Run.start_get, hkey, Bool.not_true, Bool.false_eq_true,
          if_false, if_true, Option.isSome_none]
        rfl
      · simp [Attempt.decision?, keyed, hentry]
    | some found =>
      rw [hentry] at hkey
      refine ⟨_, .located (start_locateItem_strict hmapping hkey)
        (.accepted (Run.start_item_of_keepsLookups hkeeps hentries hentry) rfl), ?_⟩
      simp [Attempt.decision?, keyed, hentry]

/-- A key is read out of a plain mapping, whatever the key, and nothing is run for it. -/
theorem start_segment_of_plainEntries? (h : w.plainEntries? value = some entries)
    (hqualifier : isQualifier qualifier = true) (hfield : qualifier ∉ plainFields) (hdepth : 0 < w.depth)
    (strict : Bool) (owner path : String) :
    (segment (standard strict) value owner qualifier path).start w
      = match keyed strict entries qualifier with
        | some found => (.ok found, w)
        | none => (.error (.fault (.noProperty qualifier owner path "") none), w) := by
  have hvalue : value ≠ .null := by
    rintro rfl
    cases h
  have hexhausts := exhausts_of_plainEntries? h hqualifier hfield path
  obtain ⟨attempt, htried, hdecision⟩ := exists_tried_keyedLookup h hdepth strict qualifier path
  have hlast : (segment (standard strict) value owner qualifier path).start w
      = (segment [keyedLookup strict] value owner qualifier path).start w :=
    hexhausts.start_segment hvalue owner [keyedLookup strict]
  rw [hlast, htried.start_segment hvalue, hdecision]
  cases keyed strict entries qualifier with
  | some found => rfl
  | none =>
    rw [segment_eq_readBy hvalue]
    rfl

end

/-! ## Looking a path up -/

/-- Looks names up in nested plain mappings, one in what the one before it led to. What is missing in a mapping stands
for null, or is no property if keys are strict, and nothing is a property of null. There is no answer if a name is to be
looked up in anything else. -/
def nested (strict : Bool) (w : World) (path : String) : Value → String → List String → Option (Except Failure Value)
  | value, _, [] => some (.ok value)
  | value, owner, qualifier :: more =>
    match w.plainEntries? value with
    | some entries =>
      match keyed strict entries qualifier with
      | some found => nested strict w path found qualifier more
      | none => some (.error (.fault (.noProperty qualifier owner path "") none))
    | none =>
      match value with
      | .null =>
        some (.error (.fault (.noProperty qualifier owner path ("The value of '" ++ owner ++ "' is None.")) none))
      | _ => none

section

variable {strict : Bool} {w : World}

/-- Names that are looked up in nested mappings are followed by the standard chain to the same end. -/
theorem start_follow_of_nested (hdepth : 0 < w.depth) {path owner : String} {value : Value} {names : List String}
    {outcome : Except Failure Value} (hnames : ∀ name ∈ names, isQualifier name = true ∧ name ∉ plainFields)
    (h : nested strict w path value owner names = some outcome) :
    (follow (standard strict) path value owner names).start w = (outcome, w) := by
  -- the world stays, so what is a plain mapping there is one all the way
  induction names generalizing value owner with
  | nil =>
    cases h
    rfl
  | cons qualifier names ih =>
    obtain ⟨⟨hqualifier, hfield⟩, hnames⟩ := List.forall_mem_cons.mp hnames
    rw [follow, Run.start_bind]
    unfold nested at h
    -- a name is looked up in a plain mapping or in null, as there is an answer
    cases hplain : w.plainEntries? value with
    | some entries =>
      rw [start_segment_of_plainEntries? hplain hqualifier hfield hdepth]
      cases hkeyed : keyed strict entries qualifier with
      | some found =>
        simp only [hplain, hkeyed] at h
        exact ih hnames h
      | none =>
        simp only [hplain, hkeyed] at h
        cases h
        rfl
    | none =>
      rw [hplain] at h
      cases value with
      | null =>
        cases h
        rfl
      | _ => cases h

/-- The standard chain looks a path up in nested plain mappings, whatever keys they have and whatever is a leaf: no
member of a mapping gets in front of a key. There has to be room for one call, by which a mapping is asked for a value.
Only the names of the data that each mapping has are left out, and what stands in the mappings is not changed. -/
theorem parts_nested {invocation : Invocation} {root : String} {more : List String} {argument : Value}
    {outcome : Except Failure Value} (hargument : invocation.Has root argument)
    (hnames : ∀ name ∈ more, isQualifier name = true ∧ name ∉ plainFields) (hdepth : 0 < w.depth)
    (hnested : nested strict w (".".intercalate (root :: more)) argument root more = some outcome) :
    (parts (standard strict) invocation (root :: more)).start w = (outcome, w) := by
  rw [parts_of_has hargument]
  exact start_follow_of_nested hdepth hnames hnested

/-- The keys of a mapping that others may see, and of one in it, are found though they are called like a routine and
like something that is not public. A routine for which there is no key is not found, and nothing is looked up behind it.
-/
theorem parts_nested_routine :
    let w := (World.empty.share .plain [(.text "get", .mapping .plain [(.text "_zip", .text "12345")])]).2
    let invocation : Invocation := ⟨.ofNames "find" ["o"], [("o", .object 0)]⟩
    let fault := Fault.noProperty "x" "pop" "o.pop.x" "The value of 'pop' is None."
    invocation.Has "o" (.object 0) ∧ 0 < w.depth ∧
    (∀ name ∈ ["get", "_zip", "pop", "x"], isQualifier name = true ∧ name ∉ plainFields) ∧
    nested true w "o.get._zip" (.object 0) "o" ["get", "_zip"] = some (.ok (.text "12345")) ∧
    (parts (standard true) invocation ["o", "get", "_zip"]).start w = (.ok (.text "12345"), w) ∧
    nested false w "o.pop.x" (.object 0) "o" ["pop", "x"] = some (.error (.fault fault none)) ∧
    (parts (standard false) invocation ["o", "pop", "x"]).start w = (.error (.fault fault none), w) := by
  intro w invocation fault
  have hargument : invocation.Has "o" (.object 0) := ⟨by decide, rfl⟩
  have hdepth : 0 < w.depth := by decide
  have hnames : ∀ name ∈ ["get", "_zip", "pop", "x"], isQualifier name = true ∧ name ∉ plainFields := by
    decide +kernel
  have hfound : nested true w "o.get._zip" (.object 0) "o" ["get", "_zip"] = some (.ok (.text "12345")) := rfl
  have hmissing : nested false w "o.pop.x" (.object 0) "o" ["pop", "x"] = some (.error (.fault fault none)) := rfl
  refine ⟨hargument, hdepth, hnames, hfound, ?_, hmissing, ?_⟩
  · exact parts_nested hargument (fun name hname => hnames name (List.mem_append_left ["pop", "x"] hname)) hdepth hfound
  · exact parts_nested hargument (fun name hname => hnames name (List.mem_append_right ["get", "_zip"] hname)) hdepth
      hmissing

end

end Resolve

end SqlTemplate
