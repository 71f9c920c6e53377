import SqlTemplate.Proofs.Session.Compile
import SqlTemplate.Proofs.SqlType.Spelling
import SqlTemplate.Proofs.SqlType.Table
/-!
# Types that were registered

A name denotes the type that it was registered for last, in any of its spellings, or else the type that the table has had
from the start (`findType_registerAll`). A registration whose code is no type's fails and leaves all tables alone.

The names that a table lists are the normal forms of these names. Each is accepted as a name of the type that is stored
under it, unless it ends in an argument list, which it has if a line feed was in the list that the name was registered
with: the listed name is then taken for a spelling of what is in front of the list (`findType_of_mem_knownNames`).
-/

namespace SqlTemplate

open Stateful

/-! ## Tables -/

namespace TypeTable

/-- The table after names have been registered for types, one after the other. -/
def registerAll (table : TypeTable) (registered : List (String × SqlType)) : TypeTable :=
  registered.foldl (fun table entry => table.register entry.1 entry.2) table

/-- A normal name is that of a type, by what was registered: the last registration of the name decides, and if there is
none the name is one of the standard names. -/
inductive Denotes (registered : List (String × SqlType)) (normal : String) (type : SqlType) : Prop
  | last {before after : List (String × SqlType)} {name : String}
      (hsplit : registered = before ++ (name, type) :: after) (hname : normalName name = normal)
      (hlast : ∀ later ∈ after, normalName later.1 ≠ normal) : Denotes registered normal type
  | standard (hnone : ∀ entry ∈ registered, normalName entry.1 ≠ normal)
      (hmem : (normal, type) ∈ standard.entries) : Denotes registered normal type

variable {registered : List (String × SqlType)} {normal name : String} {type : SqlType}

theorem forall_standard_normalName : ∀ entry ∈ standard.entries, normalName entry.1 = entry.1 := by
  decide +kernel

/-- The standard names are in their normal forms. -/
theorem normalName_of_mem_standard (h : (normal, type) ∈ standard.entries) : normalName normal = normal :=
  forall_standard_normalName (normal, type) h

theorem nodup_standard : (standard.entries.map (·.1)).Nodup := by
  decide +kernel

theorem get?_standard_iff : standard.get? normal = some type ↔ (normal, type) ∈ standard.entries := by
  constructor
  · exact mem_of_lookup
  · exact lookup_of_mem nodup_standard

/-- Registrations of other names do not touch what is stored under a name. -/
theorem get?_registerAll_of_forall_ne (hnone : ∀ entry ∈ registered, normalName entry.1 ≠ normal) (table : TypeTable) :
    (table.registerAll registered).get? normal = table.get? normal := by
  induction registered generalizing table with
  | nil => rfl
  | cons entry registered ih =>
    obtain ⟨hentry, hrest⟩ := List.forall_mem_cons.mp hnone
    have hkept : (table.register entry.1 entry.2).get? normal = table.get? normal := by
      rw [get?_register, if_neg (Ne.symm hentry)]
    exact (ih hrest (table.register entry.1 entry.2)).trans hkept

theorem get?_registerAll_of_last {before after : List (String × SqlType)}
    (hlast : ∀ later ∈ after, normalName later.1 ≠ normalName name) (table : TypeTable) :
    (table.registerAll (before ++ (name, type) :: after)).get? (normalName name) = some type := by
  have hsplit : table.registerAll (before ++ (name, type) :: after)
      = ((table.registerAll before).register name type).registerAll after := List.foldl_append
  rw [hsplit, get?_registerAll_of_forall_ne hlast, get?_register, if_pos rfl]

/-- A name was registered, the last time with some type, or never. -/
theorem last_or_forall_ne (registered : List (String × SqlType)) (normal : String) :
    (∃ before name type after, registered = before ++ (name, type) :: after ∧ normalName name = normal ∧
        ∀ later ∈ after, normalName later.1 ≠ normal) ∨
      ∀ entry ∈ registered, normalName entry.1 ≠ normal := by
  induction registered with
  | nil => exact .inr (by simp)
  | cons entry registered ih =>
    rcases ih with ⟨before, name, type, after, rfl, hname, hlast⟩ | hnone
    · exact .inl ⟨entry :: before, name, type, after, rfl, hname, hlast⟩
    · by_cases hentry : normalName entry.1 = normal
      · exact .inl ⟨[], entry.1, entry.2, registered, rfl, hentry, hnone⟩
      · exact .inr (List.forall_mem_cons.mpr ⟨hentry, hnone⟩)

/-- What is stored is what the registrations say. -/
theorem get?_registerAll_iff :
    (standard.registerAll registered).get? normal = some type ↔ Denotes registered normal type := by
  constructor
  · intro h
    rcases last_or_forall_ne registered normal with ⟨before, name, last, after, rfl, rfl, hlast⟩ | hnone
    · rw [get?_registerAll_of_last hlast, Option.some.injEq] at h
      subst h
      exact .last rfl rfl hlast
    · rw [get?_registerAll_of_forall_ne hnone, get?_standard_iff] at h
      exact .standard hnone h
  · rintro (⟨rfl, rfl, hlast⟩ | ⟨hnone, hmem⟩)
    · exact get?_registerAll_of_last hlast standard
    · rw [get?_registerAll_of_forall_ne hnone, get?_standard_iff]
      exact hmem

theorem mem_knownNames_iff {table : TypeTable} : name ∈ table.knownNames ↔ ∃ type, table.get? name = some type := by
  rw [knownNames, List.mem_mergeSort, ← Option.ne_none_iff_exists', ne_eq, get?, lookup_eq_none_iff_not_mem, not_not]

/-- A listed name that ends in no argument list denotes what is stored under it. -/
theorem Denotes.normalName_eq (h : Denotes registered normal type) (hnormal : ¬ EndsInArguments normal.toList) :
    normalName normal = normal := by
  rcases h with ⟨-, rfl, -⟩ | ⟨-, hmem⟩
  · exact normalName_normalName hnormal
  · exact normalName_of_mem_standard hmem

/-- A listed name that ends in an argument list was registered with a line feed in the list, and denotes something
else. -/
theorem Denotes.normalName_ne (h : Denotes registered normal type) (hnormal : EndsInArguments normal.toList) :
    normalName normal ≠ normal ∧
      ∃ entry ∈ registered, normalName entry.1 = normal ∧ BreaksArguments entry.1.toList := by
  rcases h with ⟨hsplit, rfl, -⟩ | ⟨-, hmem⟩
  · refine ⟨normalName_normalName_ne hnormal, (_, type), ?_, rfl, breaksArguments_of_endsInArguments hnormal⟩
    rw [hsplit]
    simp
  · have hsame := normalName_of_mem_standard hmem
    rw [← hsame] at hnormal
    exact absurd (congrArg normalName hsame) (normalName_normalName_ne hnormal)

end TypeTable

/-! ## Registrations in a session -/

/-- The session after registrations in a table, of which some may fail. -/
def Session.registerAll (table : TableId) (session : Session) (registrations : List (String × Value)) : Session :=
  registrations.foldl (fun session entry => ((Job.registerType table entry.1 entry.2).start session).2) session

namespace Job

/-- The type that a value is the code of. -/
def codeType? (code : Value) : Option SqlType :=
  code.asInt?.bind SqlType.ofCode?

/-- The registrations that succeed, with their types. -/
def accepted (registrations : List (String × Value)) : List (String × SqlType) :=
  registrations.filterMap fun entry => (codeType? entry.2).map (entry.1, ·)

variable {session fresh : Session} {table : TableId} {aliases : List (String × Value)}

theorem accepted_cons_of_some {code : Value} {type : SqlType} (h : codeType? code = some type) (name : String)
    (registrations : List (String × Value)) :
    accepted ((name, code) :: registrations) = (name, type) :: accepted registrations := by
  have hentry : (codeType? code).map (name, ·) = some (name, type) := by
    rw [h]
    rfl
  exact List.filterMap_cons_some hentry

theorem accepted_cons_of_none {code : Value} (h : codeType? code = none) (name : String)
    (registrations : List (String × Value)) : accepted ((name, code) :: registrations) = accepted registrations := by
  have hentry : (codeType? code).map (name, ·) = none := by
    rw [h]
    rfl
  exact List.filterMap_cons_none hentry

/-- What a table comes to be by registrations in a session. -/
theorem tables_registerAll {types : TypeTable} (h : session.tables[table]? = some types)
    (registrations : List (String × Value)) :
    (session.registerAll table registrations).tables[table]? = some (types.registerAll (accepted registrations)) := by
  induction registrations generalizing session types with
  | nil => exact h
  | cons entry registrations ih =>
    obtain ⟨name, code⟩ := entry
    rw [Session.registerAll, List.foldl_cons]
    cases hcode : codeType? code with
    | some type =>
      rw [registerType_of_some hcode, accepted_cons_of_some hcode]
      apply ih
      rw [List.getElem?_modify, h]
      simp
    | none =>
      -- only the world has changed
      obtain ⟨failure, world, hfails⟩ := registerType_of_none hcode table name session
      rw [hfails, accepted_cons_of_none hcode]
      exact ih h

/-- Codes are read without a change of the session, if all are types'. -/
theorem mapM_typeOfCode_eq_ok {types : List (String × SqlType)}
    (h : (aliases.mapM fun entry => do return (entry.1, ← typeOfCode entry.2) : Job _) session = (.ok types, fresh)) :
    types = accepted aliases ∧ fresh = session := by
  induction aliases generalizing types with
  | nil =>
    cases h
    exact ⟨rfl, rfl⟩
  | cons entry aliases ih =>
    obtain ⟨name, code⟩ := entry
    rw [List.mapM_cons] at h
    obtain ⟨first, between, hfirst, hmore⟩ := exists_of_bind_eq_ok h
    obtain ⟨type, reading, htype, hpair⟩ := exists_of_bind_eq_ok hfirst
    cases hpair
    obtain ⟨more, rest, hrest, hdone⟩ := exists_of_bind_eq_ok hmore
    cases hdone
    cases hcode : codeType? code with
    | some found =>
      rw [typeOfCode_of_some hcode] at htype
      cases htype
      obtain ⟨rfl, rfl⟩ := ih hrest
      exact ⟨(accepted_cons_of_some hcode name aliases).symm, rfl⟩
    | none =>
      obtain ⟨failure, world, hfails⟩ := typeOfCode_of_none hcode session
      rw [hfails] at htype
      cases htype

/-- A new table is the standard one with the aliases registered, and comes last. -/
theorem tables_of_newTable (h : (newTable aliases).start session = (.ok table, fresh)) :
    fresh.tables[table]? = some (TypeTable.standard.registerAll (accepted aliases)) := by
  rw [start, newTable] at h
  obtain ⟨types, between, htypes, hadded⟩ := exists_of_bind_eq_ok h
  obtain ⟨rfl, rfl⟩ := mapM_typeOfCode_eq_ok htypes
  cases hadded
  exact List.getElem?_concat_length

/-! ## Names of types -/

theorem accepted_append (registrations more : List (String × Value)) :
    accepted (registrations ++ more) = accepted registrations ++ accepted more :=
  List.filterMap_append

theorem table_registerAll (h : (newTable aliases).start session = (.ok table, fresh))
    (registrations : List (String × Value)) :
    (fresh.registerAll table registrations).table table
      = TypeTable.standard.registerAll (accepted (aliases ++ registrations)) := by
  have htables := tables_registerAll (tables_of_newTable h) registrations
  rw [Session.table, List.getD_eq_getElem?_getD, htables, Option.getD_some, accepted_append]
  exact List.foldl_append.symm

theorem findType_of_some {name : String} {type : SqlType} (h : (session.table table).find? name = some type) :
    (findType table name).start session = (.ok type, session) := by
  rw [start, findType, get_bind, h]
  rfl

theorem findType_of_none {name : String} (h : (session.table table).find? name = none) :
    (findType table name).start session
      = (.error (.fault (.unknownType name (session.table table).knownNames) none), session) := by
  rw [start, findType, get_bind, h]
  rfl

theorem findType_eq_ok_iff {name : String} {type : SqlType} :
    (findType table name).start session = (.ok type, session) ↔ (session.table table).find? name = some type := by
  cases hfound : (session.table table).find? name with
  | some found => simp [findType_of_some hfound]
  | none => simp [findType_of_none hfound]

/-- The registrations that fail are those of no type's code. They change nothing but the world, since what the code is
has to be shown. -/
theorem registerType_eq_ok_iff {name : String} {code : Value} :
    ((registerType table name code).start session).1 = .ok () ↔ (codeType? code).isSome = true := by
  cases hcode : codeType? code with
  | some type => simp [registerType_of_some hcode]
  | none =>
    obtain ⟨failure, world, hfails⟩ := registerType_of_none hcode table name session
    simp [hfails]

theorem exists_world_of_registerType {name : String} {code : Value} {failure : Failure} {later : Session}
    (h : (registerType table name code).start session = (.error failure, later)) :
    ∃ world, later = { session with world } := by
  cases hcode : codeType? code with
  | some type =>
    rw [registerType_of_some hcode] at h
    cases h
  | none =>
    obtain ⟨failure, world, hfails⟩ := registerType_of_none hcode table name session
    rw [hfails] at h
    cases h
    exact ⟨world, rfl⟩

/-- After any registrations in a new table, of which those of types' codes succeed and the others leave all tables as they
are, a name denotes the type that its normal form was registered for last, or else the standard one; it is reported as
unknown if there is neither. Names have one normal form if they have words with the same upper case forms, whatever blanks
and arguments they are spelled with. -/
theorem findType_registerAll (h : (newTable aliases).start session = (.ok table, fresh))
    (registrations : List (String × Value)) :
    let after := fresh.registerAll table registrations
    let registered := accepted (aliases ++ registrations)
    (∀ name type, (findType table name).start after = (.ok type, after) ↔
        TypeTable.Denotes registered (normalName name) type) ∧
      (∀ name, (∀ type, ¬ TypeTable.Denotes registered (normalName name) type) →
        (findType table name).start after
          = (.error (.fault (.unknownType name (after.table table).knownNames) none), after)) ∧
      (∀ name code, ((registerType table name code).start after).1 = .ok () ↔ (codeType? code).isSome = true) ∧
      (∀ name code failure later, (registerType table name code).start after = (.error failure, later) →
        ∃ world, later = { after with world }) ∧
      ∀ parts others (name other : String), Spelling parts name.toList → Spelling others other.toList →
        parts.map Text.upper = others.map Text.upper → normalName name = normalName other := by
  intro after registered
  have htable : after.table table = TypeTable.standard.registerAll registered := table_registerAll h registrations
  have hfound (name : String) (type : SqlType) :
      (after.table table).find? name = some type ↔ TypeTable.Denotes registered (normalName name) type := by
    rw [htable]
    exact TypeTable.get?_registerAll_iff
  refine ⟨fun name type => ?_, fun name hnone => ?_, fun name code => registerType_eq_ok_iff,
    fun name code failure later => exists_world_of_registerType, fun parts others name other => normalName_eq_of_spellings⟩
  · rw [findType_eq_ok_iff, hfound]
  · apply findType_of_none
    rw [Option.eq_none_iff_forall_ne_some]
    exact fun type hsome => hnone type ((hfound name type).mp hsome)

/-- Of three registrations in a new table the last one fails, and a name is found in another spelling. -/
theorem findType_registerAll_money :
    let fresh := ((newTable []).start default).2
    let after := fresh.registerAll 1 [("money", .int 3), ("Big\tMoney (12)", .int 2), ("MONEY", .int 99999)]
    (newTable []).start default = (.ok 1, fresh) ∧
      (findType 1 " Money (10, (2))\n").start after = (.ok .decimal, after) ∧
      (findType 1 "big  money").start after = (.ok .numeric, after) ∧
      (findType 1 "int4").start after = (.ok .integer, after) ∧
      (findType 1 "moneys").start after
        = (.error (.fault (.unknownType "moneys" (after.table 1).knownNames) none), after) := by
  intro fresh after
  have hnew : (newTable []).start default = (.ok 1, fresh) := rfl
  obtain ⟨hfound, hunknown, -⟩ := findType_registerAll hnew
    [("money", .int 3), ("Big\tMoney (12)", .int 2), ("MONEY", .int 99999)]
  have haccepted : accepted [("money", .int 3), ("Big\tMoney (12)", .int 2), ("MONEY", .int 99999)]
      = [("money", .decimal), ("Big\tMoney (12)", .numeric)] := by
    decide +kernel
  rw [List.nil_append, haccepted] at hfound hunknown
  have hmoney : [("money", .decimal), ("Big\tMoney (12)", .numeric)]
      = [] ++ ("money", SqlType.decimal) :: [("Big\tMoney (12)", .numeric)] := rfl
  have hbig : [("money", .decimal), ("Big\tMoney (12)", .numeric)]
      = [("money", SqlType.decimal)] ++ ("Big\tMoney (12)", .numeric) :: [] := rfl
  refine ⟨hnew, (hfound _ _).mpr ?_, (hfound _ _).mpr ?_, (hfound _ _).mpr ?_, hunknown _ ?_⟩
  · exact .last hmoney (by decide +kernel) (by decide +kernel)
  · exact .last hbig (by decide +kernel) (by decide +kernel)
  · exact .standard (by decide +kernel) (by decide +kernel)
  · intro type hdenotes
    have hnone : (TypeTable.standard.registerAll [("money", .decimal), ("Big\tMoney (12)", .numeric)]).get?
        (normalName "moneys") = none := by
      decide +kernel
    have hsome := TypeTable.get?_registerAll_iff.mpr hdenotes
    rw [hnone] at hsome
    cases hsome

/-! ## Listed names -/

/-- Every name that a table lists after any registrations has a type stored under it, and denotes that type unless it ends
in an argument list. A name that does was registered with a line feed in the list, and as the spelling of another name it
denotes whatever that one does. A failing search reports the listed names. -/
theorem findType_of_mem_knownNames (h : (newTable aliases).start session = (.ok table, fresh))
    (registrations : List (String × Value)) :
    let after := fresh.registerAll table registrations
    let registered := accepted (aliases ++ registrations)
    (∀ name ∈ (after.table table).knownNames, ∃ type, (after.table table).get? name = some type ∧
        (¬ EndsInArguments name.toList → (findType table name).start after = (.ok type, after)) ∧
        (EndsInArguments name.toList → normalName name ≠ name ∧
          (∀ found, (findType table name).start after = (.ok found, after) ↔
            (after.table table).get? (normalName name) = some found) ∧
          ∃ entry ∈ registered, normalName entry.1 = name ∧ BreaksArguments entry.1.toList)) ∧
      ∀ name failure, (findType table name).start after = (.error failure, after) →
        failure = .fault (.unknownType name (after.table table).knownNames) none := by
  intro after registered
  have htable : after.table table = TypeTable.standard.registerAll registered := table_registerAll h registrations
  constructor
  · intro name hname
    obtain ⟨type, htype⟩ := TypeTable.mem_knownNames_iff.mp hname
    have hdenotes : TypeTable.Denotes registered name type := by
      rwa [htable, TypeTable.get?_registerAll_iff] at htype
    refine ⟨type, htype, fun hends => ?_, fun hends => ?_⟩
    · rw [findType_eq_ok_iff, TypeTable.find?, hdenotes.normalName_eq hends]
      exact htype
    · obtain ⟨hne, hregistered⟩ := hdenotes.normalName_ne hends
      exact ⟨hne, fun found => findType_eq_ok_iff, hregistered⟩
  · intro name failure hfails
    cases hfound : (after.table table).find? name with
    | some found =>
      rw [findType_of_some hfound] at hfails
      cases hfails
    | none =>
      rw [findType_of_none hfound] at hfails
      cases hfails
      rfl

/-- Two names are listed after a registration: the one that was registered, and one of the standard ones. -/
theorem findType_of_mem_knownNames_money :
    let fresh := ((newTable []).start default).2
    let after := fresh.registerAll 1 [("Big Money", .int 3)]
    (newTable []).start default = (.ok 1, fresh) ∧
      ("BIG MONEY" ∈ (after.table 1).knownNames ∧ (findType 1 "BIG MONEY").start after = (.ok .decimal, after)) ∧
      "XML" ∈ (after.table 1).knownNames ∧ (findType 1 "XML").start after = (.ok .sqlXml, after) := by
  intro fresh after
  have hnew : (newTable []).start default = (.ok 1, fresh) := rfl
  obtain ⟨haccepted, -⟩ := findType_of_mem_knownNames hnew [("Big Money", .int 3)]
  have hends {text : List Char} (hclose : text.getLast? ≠ some ')') : ¬ EndsInArguments text := by
    rintro ⟨front, arguments, rfl⟩
    exact hclose List.getLast?_concat
  have hmoney : (after.table 1).get? "BIG MONEY" = some .decimal := by decide +kernel
  have hxml : (after.table 1).get? "XML" = some .sqlXml := by decide +kernel
  have hmoneyListed := TypeTable.mem_knownNames_iff.mpr ⟨_, hmoney⟩
  have hxmlListed := TypeTable.mem_knownNames_iff.mpr ⟨_, hxml⟩
  obtain ⟨type, hstored, hdenotes, -⟩ := haccepted "BIG MONEY" hmoneyListed
  obtain ⟨type', hstored', hdenotes', -⟩ := haccepted "XML" hxmlListed
  obtain rfl := Option.some.inj (hmoney.symm.trans hstored)
  obtain rfl := Option.some.inj (hxml.symm.trans hstored')
  exact ⟨hnew, ⟨hmoneyListed, hdenotes (hends (by decide))⟩, hxmlListed, hdenotes' (hends (by decide))⟩

/-- A line feed in the argument list of a registered name: one listed name denotes nothing, and another one a type that is
not the one stored under it. -/
theorem findType_of_mem_knownNames_fails :
    let fresh := ((newTable []).start default).2
    let after := fresh.registerAll 1 [("MONEY(10,\n2)", .int 3), ("INT(\n4)", .int (-5))]
    (newTable []).start default = (.ok 1, fresh) ∧
      ("MONEY(10, 2)" ∈ (after.table 1).knownNames ∧
        (after.table 1).get? "MONEY(10, 2)" = some .decimal ∧
        (findType 1 "MONEY(10, 2)").start after
          = (.error (.fault (.unknownType "MONEY(10, 2)" (after.table 1).knownNames) none), after)) ∧
      "INT( 4)" ∈ (after.table 1).knownNames ∧
        (after.table 1).get? "INT( 4)" = some .bigInt ∧
        (findType 1 "INT( 4)").start after = (.ok .integer, after) := by
  intro fresh after
  have hmoney : (after.table 1).get? "MONEY(10, 2)" = some .decimal := by decide +kernel
  have hint : (after.table 1).get? "INT( 4)" = some .bigInt := by decide +kernel
  exact ⟨rfl, ⟨TypeTable.mem_knownNames_iff.mpr ⟨_, hmoney⟩, hmoney, findType_of_none (by decide +kernel)⟩,
    TypeTable.mem_knownNames_iff.mpr ⟨_, hint⟩, hint, findType_of_some (by decide +kernel)⟩

end Job

end SqlTemplate
