import SqlTemplate.Proofs.Cache.Entries
import SqlTemplate.Proofs.SqlType.Table
import SqlTemplate.Session.Compile
/-!
# Compiling and registering

What the jobs that compile a template and register the name of a type do to a session. A compilation changes no table,
and brings nothing into its cache but what it has compiled; a registration changes no cache, and after it a table knows
all names that it knew before.
-/

namespace SqlTemplate

open Stateful

namespace Session

/-- A cache that is put in its place is found there, if the place is one. -/
theorem mem_entries_set {session : Session} {id : CacheId} {cache : TemplateCache}
    {entry : CacheKey × CompiledTemplate}
    (h : entry ∈ (((cachePlace id).set cache session).cache id).entries) : entry ∈ cache.entries := by
  have hset : ((cachePlace id).set cache session).cache id
      = (session.caches.set id cache).getD id (.empty 0) := rfl
  rw [hset, List.getD_eq_getElem?_getD, List.getElem?_set_self'] at h
  -- where there is no such place, the cache found there is empty and stays so
  cases hplace : session.caches[id]? with
  | none =>
    rw [hplace] at h
    cases h
  | some kept =>
    rw [hplace] at h
    exact h

/-- A cache may be put where it stands already. -/
theorem cachePlace_set_self (id : CacheId) (session : Session) :
    (cachePlace id).set (session.cache id) session = session := by
  have hcaches : session.caches.set id (session.cache id) = session.caches := by
    by_cases hid : id < session.caches.length
    · rw [cache, List.getD_eq_getElem?_getD, List.getElem?_eq_getElem hid, Option.getD_some, List.set_getElem_self]
    · exact List.set_eq_of_length_le (Nat.not_lt.mp hid)
  show { session with caches := session.caches.set id (session.cache id) } = session
  rw [hcaches]

/-- A table with a further name knows all names that it knew, and the other tables are as they were. -/
theorem knows_modify (session : Session) (id other : TableId) (name : String) (type : SqlType) :
    ({ session with tables := session.tables.modify id (·.register name type) }.table other).Knows
      (session.table other) := by
  rw [table, table, List.getD_eq_getElem?_getD, List.getD_eq_getElem?_getD]
  show TypeTable.Knows (((session.tables.modify id _)[other]?).getD _) _
  rw [List.getElem?_modify]
  cases session.tables[other]? with
  | none => exact .refl _
  | some kept =>
    show TypeTable.Knows (if id = other then kept.register name type else kept) kept
    split
    · exact kept.knows_register name type
    · exact .refl kept

end Session

namespace Job

section Compile

variable {cache : CacheId} {table : TableId} {source : String} {types : List (String × String)}
  {session : Session}

theorem parse_of_error {fault : ParseFault}
    (h : Template.parse (session.table table) source types = .error fault) :
    (parse table source types).start session
      = (.error (fault.toFailure (session.table table) source), session) := by
  rw [start, parse, get_bind, h]
  rfl

theorem parse_of_ok {template : Template}
    (h : Template.parse (session.table table) source types = .ok template) :
    (parse table source types).start session
      = (.ok ⟨session.compiled, template⟩, { session with compiled := session.compiled + 1 }) := by
  rw [start, parse, get_bind, h]
  rfl

theorem compileIn_of_some {compiled : CompiledTemplate}
    (h : (session.cache cache).get? (keyOf table source types) = some compiled) :
    (compileIn cache table source types).start session
      = (.ok compiled, (Session.cachePlace cache).modify (·.touch (keyOf table source types)) session) :=
  Cache.getOrCompute_of_some h

theorem compileIn_of_error (hget : (session.cache cache).get? (keyOf table source types) = none)
    {fault : ParseFault} (h : Template.parse (session.table table) source types = .error fault) :
    (compileIn cache table source types).start session
      = (.error (fault.toFailure (session.table table) source), session) :=
  Cache.getOrCompute_of_error hget (parse_of_error h)

/-- What is compiled anew changes only the count and the cache, and nothing else comes into the cache. -/
theorem exists_compileIn_of_ok (hget : (session.cache cache).get? (keyOf table source types) = none)
    {template : Template} (h : Template.parse (session.table table) source types = .ok template) :
    ∃ kept, (compileIn cache table source types).start session
        = (.ok ⟨session.compiled, template⟩,
          (Session.cachePlace cache).set kept { session with compiled := session.compiled + 1 }) ∧
      ∀ entry ∈ kept.entries, entry ∈ (session.cache cache).entries ∨
        entry = (keyOf table source types, ⟨session.compiled, template⟩) := by
  by_cases hsize : (session.cache cache).maxSize = 0
  · refine ⟨session.cache cache, ?_, fun entry hmem => .inl hmem⟩
    have hself := Session.cachePlace_set_self cache { session with compiled := session.compiled + 1 }
    exact (Cache.getOrCompute_of_zero hget (parse_of_ok h) hsize).trans (congrArg (Prod.mk _) hself.symm)
  · have hpublished : ((session.cache cache).publish (keyOf table source types)
        ⟨session.compiled, template⟩).1 = ⟨session.compiled, template⟩ := by
      rw [Cache.publish_of_none hget]
    have hcall : (compileIn cache table source types).start session
        = (.ok ((session.cache cache).publish (keyOf table source types) ⟨session.compiled, template⟩).1,
          (Session.cachePlace cache).set
            ((session.cache cache).publish (keyOf table source types) ⟨session.compiled, template⟩).2
            { session with compiled := session.compiled + 1 }) :=
      Cache.getOrCompute_of_ok hget (parse_of_ok h) hsize
    rw [hpublished] at hcall
    exact ⟨_, hcall, fun entry hmem => (Cache.mem_publish hmem).imp_right And.right⟩

/-- So what is compiled anew is given, the tables stay, and the cache has nothing else that is new. -/
theorem compileIn_of_ok (hget : (session.cache cache).get? (keyOf table source types) = none)
    {template : Template} (h : Template.parse (session.table table) source types = .ok template) :
    ∃ after, (compileIn cache table source types).start session = (.ok ⟨session.compiled, template⟩, after) ∧
      after.tables = session.tables ∧
      ∀ entry ∈ (after.cache cache).entries, entry ∈ (session.cache cache).entries ∨
        entry = (keyOf table source types, ⟨session.compiled, template⟩) := by
  obtain ⟨kept, hcompile, hkept⟩ := exists_compileIn_of_ok hget h
  exact ⟨_, hcompile, rfl, fun entry hmem => hkept entry (Session.mem_entries_set hmem)⟩

/-- Without a cache and a table of its own a text is compiled with those in use. -/
theorem start_compile (source : String) (types : List (String × String)) (session : Session) :
    (compile source types).start session
      = (compileIn session.current Session.standardTable source types).start session := by
  rw [start, compile, get_bind, start]

end Compile

section Register

variable {session : Session}

theorem run_snd {α : Type} (computation : Run α) (session : Session) :
    (run computation session).2 = { session with world := (computation.start session.world).2 } := by
  rw [run, get_bind]
  rcases computation.start session.world with ⟨result, world⟩
  cases result <;> rfl

/-- A code that is no type's is reported in the world, which may change. -/
theorem typeOfCode_of_none {code : Value} (h : code.asInt?.bind SqlType.ofCode? = none) (session : Session) :
    ∃ failure world, typeOfCode code session = (.error failure, { session with world }) := by
  rw [typeOfCode, h]
  simp only
  -- to show the code may run code, which may fail; either way only the world has changed
  have hworld := run_snd (Run.shownOf code) session
  rcases hshown : run (Run.shownOf code) session with ⟨result, after⟩
  rw [hshown] at hworld
  subst hworld
  cases result with
  | ok shown =>
    rw [bind_of_ok hshown]
    exact ⟨_, _, rfl⟩
  | error failure =>
    rw [bind_of_error hshown]
    exact ⟨_, _, rfl⟩

theorem typeOfCode_of_some {code : Value} {type : SqlType} (h : code.asInt?.bind SqlType.ofCode? = some type)
    (session : Session) : typeOfCode code session = (.ok type, session) := by
  rw [typeOfCode, h]
  rfl

/-- A registration of a type's code changes the table. -/
theorem registerType_of_some {code : Value} {type : SqlType} (h : code.asInt?.bind SqlType.ofCode? = some type)
    (table : TableId) (name : String) (session : Session) :
    (registerType table name code).start session
      = (.ok (), { session with tables := session.tables.modify table (·.register name type) }) := by
  rw [start, registerType, bind_of_ok (typeOfCode_of_some h session)]
  rfl

/-- A registration of any other code fails, and just the world may have changed. -/
theorem registerType_of_none {code : Value} (h : code.asInt?.bind SqlType.ofCode? = none) (table : TableId)
    (name : String) (session : Session) :
    ∃ failure world, (registerType table name code).start session = (.error failure, { session with world }) := by
  obtain ⟨failure, world, htype⟩ := typeOfCode_of_none h session
  exact ⟨failure, world, bind_of_error htype _⟩

/-- A registration changes the world when it fails, and a table otherwise. -/
theorem registerType_start (table : TableId) (name : String) (code : Value) (session : Session) :
    (∃ world, ((registerType table name code).start session).2 = { session with world }) ∨
      ∃ type, ((registerType table name code).start session).2
        = { session with tables := session.tables.modify table (·.register name type) } := by
  cases hcode : code.asInt?.bind SqlType.ofCode? with
  | some type => exact .inr ⟨type, by rw [registerType_of_some hcode]⟩
  | none =>
    obtain ⟨failure, world, hfails⟩ := registerType_of_none hcode table name session
    exact .inl ⟨world, by rw [hfails]⟩

end Register

end Job

end SqlTemplate
