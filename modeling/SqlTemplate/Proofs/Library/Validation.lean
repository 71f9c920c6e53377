import SqlTemplate.Library.Validation
import SqlTemplate.Proofs.Named
import SqlTemplate.Proofs.Run
/-!
# Reading fields

The library takes what it is given for a field as it is, if that is what the field holds: settings that are read from
their own values are the same (`readRecord_values`), and where nothing is given there are the defaults (`readRecord_nil`). What it
refuses it reports by name: `mem_of_readRecord` says which names there are faults for.
-/

namespace SqlTemplate

/-- The value that what there is in a field of a kind is given by. -/
def FieldKind.value : (kind : FieldKind) → kind.Carrier → Value
  | integer _, held => .int held.1
  | text, held => .text held
  | switch, held => .bool held

/-- What there is in fields, as named values. -/
def Record.values : (fields : List Field) → Record fields → List (String × Value)
  | [], _ => []
  | field :: more, record => (field.name, field.kind.value record.1) :: values more record.2

theorem Record.map_fst_values (fields : List Field) (record : Record fields) :
    (record.values fields).map (·.1) = fields.map (·.name) := by
  induction fields with
  | nil => rfl
  | cons field more ih => rw [values, List.map_cons, List.map_cons, ih]

namespace Library

variable {field : Field} {fields : List Field} {given : List (String × Value)} {w w' : World}

/-! ## What fields hold -/

theorem start_readKind (kind : FieldKind) (held : kind.Carrier) (w : World) :
    (readKind kind (kind.value held)).start w = (.ok (.ok held), w) := by
  cases kind with
  | integer least =>
    have hbound : least ≤ held.1 := held.2
    simp only [FieldKind.value, readKind, countSetting, pure_bind, toInt, hbound, ↓reduceDIte]
    rfl
  | text => rfl
  | switch => rfl

theorem start_readField {held : field.kind.Carrier}
    (h : given.lookup field.name = some (field.kind.value held)) (w : World) :
    (readField field given).start w = (.ok (.ok held), w) := by
  rw [readField, h]
  exact Run.start_map (start_readKind field.kind held w)

theorem start_readField_of_lookup_eq_none (h : given.lookup field.name = none) (w : World) :
    (readField field given).start w = (.ok (.ok field.default), w) := by
  rw [readField, h]
  rfl

theorem start_readFields_cons {more : List Field} {held : field.kind.Carrier} {record : Record more} {w₁ : World}
    (hfirst : (readField field given).start w = (.ok (.ok held), w₁))
    (hmore : (readFields more given).start w₁ = (.ok (.ok record), w')) :
    (readFields (field :: more) given).start w = (.ok (.ok (held, record)), w') := by
  rw [readFields, Run.start_bind, hfirst]
  show (readFields more given >>= _).start w₁ = _
  rw [Run.start_bind, hmore]
  rfl

/-- The values behind `before` are found if its names are other ones. -/
theorem start_readFields_values (before : List (String × Value)) (record : Record fields)
    (hnodup : (fields.map (·.name)).Nodup) (hfresh : ∀ field ∈ fields, before.lookup field.name = none) (w : World) :
    (readFields fields (before ++ record.values)).start w = (.ok (.ok record), w) := by
  -- the values of the fields that have been read move over to `before`
  induction fields generalizing before with
  | nil => rfl
  | cons field more ih =>
    obtain ⟨hfirst, hmore⟩ := List.forall_mem_cons.mp hfresh
    obtain ⟨hname, hnodup⟩ := List.nodup_cons.mp hnodup
    have hlookup : (before ++ Record.values (field :: more) record).lookup field.name
        = some (field.kind.value record.1) := by
      rw [List.lookup_append, hfirst, Record.values, List.lookup_cons_self, Option.none_or]
    refine start_readFields_cons (start_readField hlookup w) ?_
    rw [Record.values, List.append_cons]
    refine ih _ record.2 hnodup fun other hother => ?_
    have hne : (other.name == field.name) = false :=
      beq_eq_false_iff_ne.mpr fun heq => hname (List.mem_map.mpr ⟨other, hother, heq⟩)
    rw [List.lookup_append, hmore other hother, Option.none_or, List.lookup_cons, hne]
    rfl

theorem start_readFields_nil (fields : List Field) (w : World) :
    (readFields fields []).start w = (.ok (.ok (.defaults fields)), w) := by
  induction fields with
  | nil => rfl
  | cons field more ih => exact start_readFields_cons (start_readField_of_lookup_eq_none rfl w) ih

/-- Nothing is unknown among names of fields. -/
theorem unknownFields_eq_nil_iff :
    unknownFields fields given = [] ↔ ∀ entry ∈ given, ∃ field ∈ fields, field.name = entry.1 := by
  simp [unknownFields]

theorem start_readRecord_of_ok {record : Record fields} (hread : (readFields fields given).start w = (.ok (.ok record), w'))
    (hknown : unknownFields fields given = []) :
    (readRecord fields given).start w = (.ok (.ok record), w') := by
  rw [readRecord, Run.start_bind, hread, hknown]
  rfl

/-- Settings that are read from their own values are the same, and nothing is run for that. -/
theorem readRecord_values (record : Record fields) (hnodup : (fields.map (·.name)).Nodup) (w : World) :
    (readRecord fields record.values).start w = (.ok (.ok record), w) := by
  refine start_readRecord_of_ok (start_readFields_values [] record hnodup (fun _ _ => rfl) w) ?_
  rw [unknownFields_eq_nil_iff]
  intro entry hentry
  have hname : entry.1 ∈ fields.map (·.name) := by
    rw [← Record.map_fst_values fields record]
    exact List.mem_map_of_mem hentry
  exact List.mem_map.mp hname

/-- Where nothing is given there are the defaults. -/
theorem readRecord_nil (fields : List Field) (w : World) :
    (readRecord fields []).start w = (.ok (.ok (.defaults fields)), w) :=
  start_readRecord_of_ok (start_readFields_nil fields w) rfl

/-! ## What is refused -/

theorem fault_of_readField {fault : FieldFault}
    (h : (readField field given).start w = (.ok (.error fault), w')) :
    fault.field = field.name ∧ fault.field ∈ given.map (·.1) := by
  rw [readField] at h
  cases hlookup : given.lookup field.name with
  | none =>
    rw [hlookup] at h
    cases h
  | some value =>
    rw [hlookup] at h
    obtain ⟨result, w₁, -, h⟩ := Run.start_bind_eq_ok.mp h
    have hmem : field.name ∈ given.map (·.1) := List.mem_map_of_mem (mem_of_lookup hlookup)
    cases result with
    | ok held => cases h
    | error problem =>
      cases h
      exact ⟨rfl, hmem⟩

theorem mem_of_both_eq_error {α β : Type} {first : Except FieldFault α} {rest : Except (List FieldFault) β}
    {faults : List FieldFault} (h : both first rest = .error faults) {fault : FieldFault} (hfault : fault ∈ faults) :
    first = .error fault ∨ ∃ others, rest = .error others ∧ fault ∈ others := by
  cases first with
  | ok one =>
    cases rest with
    | ok other => cases h
    | error others =>
      cases h
      exact .inr ⟨_, rfl, hfault⟩
  | error one =>
    cases rest with
    | ok other =>
      cases h
      exact .inl (congrArg _ (List.mem_singleton.mp hfault).symm)
    | error others =>
      cases h
      rcases List.mem_cons.mp hfault with rfl | hmem
      · exact .inl rfl
      · exact .inr ⟨_, rfl, hmem⟩

/-- Fields are refused only for what is given for them. -/
theorem mem_of_readFields {faults : List FieldFault}
    (h : (readFields fields given).start w = (.ok (.error faults), w')) {fault : FieldFault} (hfault : fault ∈ faults) :
    (∃ field ∈ fields, field.name = fault.field) ∧ fault.field ∈ given.map (·.1) := by
  induction fields generalizing faults w w' with
  | nil => cases h
  | cons field more ih =>
    rw [readFields] at h
    obtain ⟨first, w₁, hfirst, h⟩ := Run.start_bind_eq_ok.mp h
    obtain ⟨rest, w₂, hrest, h⟩ := Run.start_bind_eq_ok.mp h
    have hboth : both first rest = .error faults := Except.ok.inj (congrArg Prod.fst h)
    obtain rfl | ⟨others, rfl, hmem⟩ := mem_of_both_eq_error hboth hfault
    · obtain ⟨hname, hgiven⟩ := fault_of_readField hfirst
      exact ⟨⟨field, List.mem_cons_self, hname.symm⟩, hgiven⟩
    · obtain ⟨⟨other, hother, hname⟩, hgiven⟩ := ih hrest hmem
      exact ⟨⟨other, List.mem_cons_of_mem _ hother, hname⟩, hgiven⟩

theorem mem_unknownFields {fault : FieldFault} (h : fault ∈ unknownFields fields given) :
    fault.problem = .unknownField ∧ fault.field ∈ given.map (·.1) ∧ ∀ field ∈ fields, field.name ≠ fault.field := by
  obtain ⟨entry, hentry, rfl⟩ := List.mem_map.mp h
  obtain ⟨hgiven, hunknown⟩ := List.mem_filter.mp hentry
  exact ⟨rfl, List.mem_map_of_mem hgiven, by simpa using hunknown⟩

/-- A fault is for a name that is given: that of a field, or of none. -/
theorem mem_of_readRecord {faults : List FieldFault}
    (h : (readRecord fields given).start w = (.ok (.error faults), w')) {fault : FieldFault} (hfault : fault ∈ faults) :
    fault.field ∈ given.map (·.1) ∧
      ((∃ field ∈ fields, field.name = fault.field) ∨
        fault.problem = .unknownField ∧ ∀ field ∈ fields, field.name ≠ fault.field) := by
  have hunknown : fault ∈ unknownFields fields given → fault.field ∈ given.map (·.1) ∧
      ((∃ field ∈ fields, field.name = fault.field) ∨
        fault.problem = .unknownField ∧ ∀ field ∈ fields, field.name ≠ fault.field) := by
    intro hmem
    obtain ⟨hproblem, hgiven, hnone⟩ := mem_unknownFields hmem
    exact ⟨hgiven, .inr ⟨hproblem, hnone⟩⟩
  obtain ⟨result, w₁, hresult, h⟩ := Run.start_bind_eq_ok.mp h
  cases result with
  | ok record =>
    cases hfields : unknownFields fields given with
    | nil =>
      rw [hfields] at h
      cases h
    | cons one others =>
      rw [hfields] at h hunknown
      cases h
      exact hunknown hfault
  | error refused =>
    -- what is wrong with fields stands in front of names that are no field
    cases h
    rcases List.mem_append.mp hfault with hfield | hother
    · obtain ⟨hnamed, hgiven⟩ := mem_of_readFields hresult hfield
      exact ⟨hgiven, .inl hnamed⟩
    · exact hunknown hother

/-- What is read has taken all that is given. -/
theorem names_of_readRecord {record : Record fields}
    (h : (readRecord fields given).start w = (.ok (.ok record), w')) :
    ∀ entry ∈ given, ∃ field ∈ fields, field.name = entry.1 := by
  obtain ⟨result, w₁, -, h⟩ := Run.start_bind_eq_ok.mp h
  rw [← unknownFields_eq_nil_iff]
  cases result with
  | ok record =>
    cases hfields : unknownFields fields given with
    | nil => rfl
    | cons fault others =>
      rw [hfields] at h
      cases h
  | error refused => cases h

end Library

/-- Settings are what is read from their values. -/
theorem Settings.read_values (settings : Settings) (w : World) :
    (Settings.read Library.validation
      [("cache_max_size", .int settings.cacheSize), ("paramstyle", .text settings.paramstyle),
        ("strict_mapping_keys", .bool settings.strictKeys)]).start w = (.ok (.ok settings), w) := by
  let record : Record Settings.fields :=
    (⟨settings.cacheSize, Int.natCast_nonneg _⟩, settings.paramstyle, settings.strictKeys, ())
  exact Run.start_map (Library.readRecord_values record (by decide) w)

end SqlTemplate
