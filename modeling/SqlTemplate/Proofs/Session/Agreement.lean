import SqlTemplate.Proofs.Session.Calls
import SqlTemplate.Proofs.Session.Freshness
/-!
# Declared statements and texts that are bound at once

A statement is compiled, checked and given its marker style when it is declared, and keeps all of this. A text that is
bound at once to the same call takes its template from the cache that is in use by then, and looks its marker style up
anew. `call_eq_bindCall` says that both come to the same, in the same world, whatever has been requested of the
session since the declaration and before it: cached templates may have been given up, and the cache in use replaced.

The invariant of the session is `Session.Coherent`: as long as no type is registered in the table in use and no style at
all, whatever a cache has under a key of this table is what a compilation would give. The caches may be shared with
other tables, to which types are added freely.
-/

namespace SqlTemplate

open Stateful

/-! ## Coherent sessions -/

/-- What a cache has under a key of the table in use is what this table compiles. -/
def FreshIn (table : TypeTable) (entry : CacheKey × CompiledTemplate) : Prop :=
  ∀ source types, entry.1 = Job.keyOf Session.standardTable source types →
    Template.parse table source types = .ok entry.2.template

namespace Session

/-- A session has the marker styles and the standard table of another one, and what its caches have for that table is
what the table compiles. -/
structure Coherent (origin session : Session) : Prop where
  styles : session.styles = origin.styles
  table : session.table standardTable = origin.table standardTable
  fresh : ∀ id, ∀ entry ∈ (session.cache id).entries, FreshIn (origin.table standardTable) entry

theorem Coherent.of_empty {origin : Session} (hempty : ∀ id, (origin.cache id).entries = []) :
    Coherent origin origin where
  styles := rfl
  table := rfl
  fresh id entry hmem := by
    rw [hempty id] at hmem
    cases hmem

/-- What is found in a cache after another one is put in its place was there before, or has been brought in. -/
theorem mem_entries_cache_set {session : Session} {id other : CacheId} {cache : TemplateCache}
    {entry : CacheKey × CompiledTemplate}
    (h : entry ∈ (((cachePlace id).set cache session).cache other).entries) :
    entry ∈ cache.entries ∨ entry ∈ (session.cache other).entries := by
  by_cases hid : id = other
  · subst hid
    exact .inl (mem_entries_set h)
  · have hother : ((cachePlace id).set cache session).cache other = session.cache other := by
      show (session.caches.set id cache).getD other (.empty 0) = session.caches.getD other (.empty 0)
      rw [List.getD_eq_getElem?_getD, List.getElem?_set_ne hid, List.getD_eq_getElem?_getD]
    rw [hother] at h
    exact .inr h

section

variable {origin session : Session}

theorem Coherent.set (h : Coherent origin session) (id : CacheId) {cache : TemplateCache}
    (hcache : ∀ entry ∈ cache.entries, FreshIn (origin.table standardTable) entry) :
    Coherent origin ((cachePlace id).set cache session) where
  styles := h.styles
  table := h.table
  fresh other entry hmem := (mem_entries_cache_set hmem).elim (hcache entry) (h.fresh other entry)

/-- What runs in the world changes nothing else of a session. -/
theorem Coherent.withWorld (h : Coherent origin session) (world : World) :
    Coherent origin { session with world } :=
  ⟨h.styles, h.table, h.fresh⟩

/-- A cache that is added is empty. -/
theorem Coherent.addCache (h : Coherent origin session) (maxSize : Nat) :
    Coherent origin { session with caches := session.caches ++ [Cache.empty maxSize] } where
  styles := h.styles
  table := h.table
  fresh id entry hmem := by
    have hadded : ∀ place : Nat,
        ((([Cache.empty maxSize] : List TemplateCache)[place]?).getD (.empty 0)).entries = [] := by
      rintro (_ | place) <;> rfl
    change entry ∈ ((session.caches ++ [Cache.empty maxSize]).getD id (.empty 0)).entries at hmem
    rw [List.getD_eq_getElem?_getD] at hmem
    by_cases hid : id < session.caches.length
    · rw [List.getElem?_append_left hid, ← List.getD_eq_getElem?_getD] at hmem
      exact h.fresh id entry hmem
    · rw [List.getElem?_append_right (Nat.not_lt.mp hid), hadded] at hmem
      cases hmem

/-- A type that is registered in another table is none of the standard table's. -/
theorem Coherent.registerIn (h : Coherent origin session) {id : TableId} (hid : id ≠ standardTable)
    (name : String) (type : SqlType) :
    Coherent origin { session with tables := session.tables.modify id (·.register name type) } where
  styles := h.styles
  table := by
    rw [← h.table, Session.table, Session.table, List.getD_eq_getElem?_getD, List.getD_eq_getElem?_getD]
    show ((session.tables.modify id (·.register name type))[standardTable]?).getD .standard = _
    rw [List.getElem?_modify]
    simp only [if_neg hid, Option.map_eq_map, Option.map_id']
  fresh := h.fresh

end

end Session

/-! ## Jobs that keep a session coherent -/

namespace Job

/-- A job keeps a property of the session, whether it succeeds or fails. -/
def Keeps {α : Type} (holds : Session → Prop) (job : Job α) : Prop :=
  ∀ session, holds session → holds (job.start session).2

section

variable {α β : Type} {holds : Session → Prop} {origin : Session}

theorem Keeps.pure (a : α) : Keeps holds (Pure.pure a : Job α) :=
  fun _ h => h

theorem Keeps.throw (failure : Failure) : Keeps holds (MonadExcept.throw failure : Job α) :=
  fun _ h => h

theorem Keeps.bind {first : Job α} {next : α → Job β} (hfirst : Keeps holds first)
    (hnext : ∀ a, Keeps holds (next a)) : Keeps holds (first >>= next) := by
  intro session h
  have hbetween : holds (first session).2 := hfirst session h
  rw [start, bind_apply]
  generalize first session = done at hbetween
  rcases done with ⟨failure | a, between⟩
  · exact hbetween
  · exact hnext a between hbetween

theorem Keeps.getBind {next : Session → Job β} (hnext : ∀ session, Keeps holds (next session)) :
    Keeps holds (get >>= next) :=
  fun session h => hnext session session h

theorem Keeps.ofFault (result : Except Fault α) : Keeps holds (Job.ofFault result) := by
  cases result with
  | ok a => exact .pure a
  | error fault => exact .throw (.fault fault none)

theorem Keeps.style (name : String) : Keeps holds (Job.style name) :=
  .getBind fun session => .ofFault (session.styles.find name)

theorem keeps_run (computation : Run α) : Keeps (Session.Coherent origin) (run computation) := by
  intro session h
  rw [start, run_snd]
  exact h.withWorld _

theorem keeps_bindTemplate (template : Template) (invocation : Invocation) (settings : Settings) :
    Keeps (Session.Coherent origin) (bindTemplate template invocation settings) :=
  .bind (.style settings.paramstyle) fun _ => keeps_run _

theorem keeps_configure (settings : Settings) : Keeps (Session.Coherent origin) (configure settings) := by
  have hcache : ∀ maxSize, Keeps (Session.Coherent origin) (newCache maxSize) := by
    intro maxSize
    unfold newCache
    split
    · exact .throw _
    · exact fun session h => h.addCache maxSize.toNat
  have hcurrent : ∀ cache, Keeps (Session.Coherent origin)
      (modify fun session => { session with current := cache } : Job PUnit) :=
    fun _ session h => ⟨h.styles, h.table, h.fresh⟩
  unfold configure
  exact .bind (.style settings.paramstyle) fun _ =>
    .bind (hcache settings.cacheSize) fun cache => .bind (hcurrent cache) fun _ => .pure cache

theorem keeps_registerType {table : TableId} (htable : table ≠ Session.standardTable) (name : String)
    (code : Value) : Keeps (Session.Coherent origin) (registerType table name code) := by
  intro session h
  rcases registerType_start table name code session with ⟨world, hafter⟩ | ⟨type, hafter⟩
  · rw [hafter]
    exact h.withWorld world
  · rw [hafter]
    exact h.registerIn htable name type

/-- What a compilation brings into its cache is what the table compiles. -/
theorem keeps_compileIn (cache : CacheId) (table : TableId) (source : String)
    (types : List (String × String)) :
    Keeps (Session.Coherent origin) (compileIn cache table source types) := by
  intro session h
  cases hget : (session.cache cache).get? (keyOf table source types) with
  | some compiled =>
    rw [compileIn_of_some hget]
    refine h.set cache fun entry hmem => ?_
    exact h.fresh cache entry ((Cache.moveToEnd_perm _ _).mem_iff.mp hmem)
  | none =>
    cases hparse : Template.parse (session.table table) source types with
    | error fault =>
      rw [compileIn_of_error hget hparse]
      exact h
    | ok template =>
      obtain ⟨kept, hcompile, hkept⟩ := exists_compileIn_of_ok hget hparse
      have hcounted : Session.Coherent origin { session with compiled := session.compiled + 1 } :=
        ⟨h.styles, h.table, h.fresh⟩
      rw [hcompile]
      refine hcounted.set cache fun entry hmem => ?_
      rcases hkept entry hmem with hold | rfl
      · exact h.fresh cache entry hold
      · -- the key names the table, so an entry for the standard table was compiled by it
        intro source' types' hkey
        obtain ⟨rfl, rfl, rfl⟩ := CacheKey.compilation.inj hkey
        rw [← h.table]
        exact hparse

theorem keeps_compile (source : String) (types : List (String × String)) :
    Keeps (Session.Coherent origin) (compile source types) :=
  .getBind fun session => keeps_compileIn session.current Session.standardTable source types

theorem keeps_bindText (source : String) (types : List (String × String)) (invocation : Invocation)
    (settings : Settings) : Keeps (Session.Coherent origin) (bindText source types invocation settings) :=
  .bind (keeps_compile source types) fun compiled => keeps_bindTemplate compiled.template invocation settings

theorem keeps_declare (method : Method) (source : String) (types : List (String × String))
    (settings : Settings) :
    Keeps (Session.Coherent origin) (Declared.declare method source types settings) :=
  .bind (keeps_compile source types) fun compiled =>
    .bind (.ofFault (method.validate compiled.template)) fun _ =>
      .bind (.style settings.paramstyle) fun _ => .pure _

end

end Job

/-! ## Requests -/

/-- Something that is requested of a session. A text may be compiled through any cache and by any table; types may be
registered in any table but the standard one. -/
inductive Request where
  | compile (cache : CacheId) (table : TableId) (source : String) (types : List (String × String))
  | compileInCurrent (source : String) (types : List (String × String))
  | bindText (source : String) (types : List (String × String)) (invocation : Invocation) (settings : Settings)
  | bindTemplate (template : Template) (invocation : Invocation) (settings : Settings)
  | configure (settings : Settings)
  | declare (method : Method) (source : String) (types : List (String × String)) (settings : Settings)
  | register (table : TableId) (other : table ≠ Session.standardTable) (name : String) (code : Value)

namespace Session

/-- The session after a request, whether it succeeds or fails. -/
def serve (session : Session) : Request → Session
  | .compile cache table source types => ((Job.compileIn cache table source types).start session).2
  | .compileInCurrent source types => ((Job.compile source types).start session).2
  | .bindText source types invocation settings =>
    ((Job.bindText source types invocation settings).start session).2
  | .bindTemplate template invocation settings =>
    ((Job.bindTemplate template invocation settings).start session).2
  | .configure settings => ((Job.configure settings).start session).2
  | .declare method source types settings =>
    ((Declared.declare method source types settings).start session).2
  | .register table _ name code => ((Job.registerType table name code).start session).2

/-- The session after some requests. -/
def serveAll (session : Session) (requests : List Request) : Session :=
  requests.foldl serve session

variable {origin session : Session}

theorem Coherent.serve (h : Coherent origin session) (request : Request) :
    Coherent origin (session.serve request) := by
  cases request with
  | compile cache table source types => exact Job.keeps_compileIn cache table source types session h
  | compileInCurrent source types => exact Job.keeps_compile source types session h
  | bindText source types invocation settings =>
    exact Job.keeps_bindText source types invocation settings session h
  | bindTemplate template invocation settings =>
    exact Job.keeps_bindTemplate template invocation settings session h
  | configure settings => exact Job.keeps_configure settings session h
  | declare method source types settings =>
    exact Job.keeps_declare method source types settings session h
  | register table other name code => exact Job.keeps_registerType other name code session h

theorem Coherent.serveAll (h : Coherent origin session) (requests : List Request) :
    Coherent origin (session.serveAll requests) := by
  induction requests generalizing session with
  | nil => exact h
  | cons request requests ih => exact ih (h.serve request)

/-! ## Compiling in a coherent session -/

/-- What a coherent session gives for a text is what the standard table compiles, and no code runs. -/
theorem Coherent.compile_cases (h : Coherent origin session) (source : String)
    {types : List (String × String)} (hdistinct : DistinctPaths types) :
    (∃ fault, Template.parse (origin.table standardTable) source types = .error fault ∧
        (Job.compile source types).start session
          = (.error (fault.toFailure (origin.table standardTable) source), session)) ∨
      ∃ compiled after, Template.parse (origin.table standardTable) source types = .ok compiled.template ∧
        (Job.compile source types).start session = (.ok compiled, after) ∧ after.world = session.world := by
  rw [Job.start_compile, ← h.table]
  cases hget : (session.cache session.current).get? (Job.keyOf standardTable source types) with
  | some compiled =>
    obtain ⟨kept, hmem, hkept⟩ := Cache.exists_mem_of_get? hget
    have hsame : ∃ types', kept = Job.keyOf standardTable source types' ∧ types'.Perm types := by
      cases kept with
      | value key => cases hkept
      | compilation source' types' table' =>
        obtain ⟨rfl, hperm, rfl⟩ := CacheKey.beq_compilation.mp hkept
        exact ⟨types', rfl, hperm⟩
    obtain ⟨types', rfl, hperm⟩ := hsame
    have hparse := h.fresh session.current _ hmem source types' rfl
    rw [← h.table] at hparse
    exact .inr ⟨compiled, _, hdistinct.parse_of_perm hperm hparse, Job.compileIn_of_some hget, rfl⟩
  | none =>
    cases hparse : Template.parse (session.table standardTable) source types with
    | error fault => exact .inl ⟨fault, rfl, Job.compileIn_of_error hget hparse⟩
    | ok template =>
      obtain ⟨kept, hcompile, -⟩ := Job.exists_compileIn_of_ok hget hparse
      exact .inr ⟨_, _, rfl, hcompile, rfl⟩

end Session

/-! ## Declared statements -/

namespace Job

/-- Binds the arguments of a call to a method and then a text to the invocation, all at once. -/
def bindCall (method : Method) (source : String) (types : List (String × String)) (settings : Settings)
    (positional : List Value) (keywords : Arguments) : Job Statement :=
  match Invocation.bindCall method positional keywords with
  | .error fault => throw (.typeError fault.message)
  | .ok invocation => bindText source types invocation settings

variable {session after : Session}

theorem ofFault_eq_ok {α : Type} {result : Except Fault α} {a : α}
    (h : ofFault result session = (.ok a, after)) : result = .ok a ∧ after = session := by
  cases result with
  | error fault => cases h
  | ok a =>
    cases h
    exact ⟨rfl, rfl⟩

theorem style_eq_ok {name : String} {style : MarkerStyle}
    (h : Job.style name session = (.ok style, after)) :
    session.styles.find name = .ok style ∧ after = session := by
  rw [Job.style, get_bind] at h
  exact ofFault_eq_ok h

/-- Where the style is known, a template is bound in the world of the session. -/
theorem start_bindTemplate {settings : Settings} {style : MarkerStyle}
    (hstyle : session.styles.find settings.paramstyle = .ok style) (template : Template)
    (invocation : Invocation) :
    let bound := (Statement.bind settings.paramstyle style (Strategy.standard settings.strictKeys) template
      invocation).start session.world
    ((bindTemplate template invocation settings).start session).1 = bound.1 ∧
      ((bindTemplate template invocation settings).start session).2.world = bound.2 := by
  have hfound : Job.style settings.paramstyle session = (.ok style, session) := by
    rw [Job.style, get_bind, hstyle]
    rfl
  rw [start, bindTemplate, bind_of_ok hfound, run, get_bind]
  rcases (Statement.bind settings.paramstyle style (Strategy.standard settings.strictKeys) template
    invocation).start session.world with ⟨failure | statement, world⟩
  · exact ⟨rfl, rfl⟩
  · exact ⟨rfl, rfl⟩

end Job

namespace Declared

variable {origin session after : Session} {method : Method} {source : String} {types : List (String × String)}
  {settings : Settings} {declared : Declared}

/-- What a statement keeps from its declaration is what the session stands for. -/
theorem eq_of_start_declare (h : Session.Coherent origin session) (hdistinct : DistinctPaths types)
    (hdeclare : (declare method source types settings).start session = (.ok declared, after)) :
    Template.parse (origin.table Session.standardTable) source types = .ok declared.template ∧
      origin.styles.find settings.paramstyle = .ok declared.style ∧
      declared = ⟨method, declared.template, settings.paramstyle, declared.style,
        Strategy.standard settings.strictKeys⟩ := by
  rw [Job.start, declare] at hdeclare
  obtain ⟨compiled, between, hcompile, hrest⟩ := exists_of_bind_eq_ok hdeclare
  obtain ⟨_, checked, hvalidate, hrest⟩ := exists_of_bind_eq_ok hrest
  obtain ⟨style, styled, hstyle, hdeclared⟩ := exists_of_bind_eq_ok hrest
  cases hdeclared
  have hparse : Template.parse (origin.table Session.standardTable) source types = .ok compiled.template := by
    rcases h.compile_cases source hdistinct with ⟨fault, -, hfails⟩ | ⟨compiled', after', hparse, hmakes, -⟩
    · rw [Job.start, hcompile] at hfails
      cases hfails
    · rw [Job.start, hcompile] at hmakes
      cases hmakes
      exact hparse
  -- neither the check nor the lookup of the style changes the session that the compilation left
  have hbetween : Session.Coherent origin between := by
    have hkept := Job.keeps_compile source types session h
    rwa [Job.start, hcompile] at hkept
  obtain ⟨-, rfl⟩ := Job.ofFault_eq_ok hvalidate
  obtain ⟨hfound, rfl⟩ := Job.style_eq_ok hstyle
  rw [hbetween.styles] at hfound
  exact ⟨hparse, hfound, rfl⟩

/-- A declared statement and its text agree about every call. The caches are empty at first; then anything is requested
of the session, the statement is declared, and anything is requested again. Calling the statement gives the same then,
and leaves the same world, as to bind the text to the call with the types and the settings of the declaration. A
call that has a keyword for the statement itself is none of the method's. -/
theorem call_eq_bindCall {origin : Session} (hempty : ∀ id, (origin.cache id).entries = [])
    (earlier later : List Request) (hdistinct : DistinctPaths types)
    (hdeclare : (declare method source types settings).start (origin.serveAll earlier) = (.ok declared, after))
    (positional : List Value) {keywords : Arguments} (hself : hasName "self" keywords = false) :
    let now := after.serveAll later
    let called := (declared.call positional keywords).start now.world
    let bound := (Job.bindCall method source types settings positional keywords).start now
    bound.1 = called.1 ∧ bound.2.world = called.2 := by
  intro now called bound
  have hbefore : Session.Coherent origin (origin.serveAll earlier) :=
    (Session.Coherent.of_empty hempty).serveAll earlier
  have hafter : Session.Coherent origin after := by
    have hkept := Job.keeps_declare method source types settings _ hbefore
    rwa [hdeclare] at hkept
  have hnow : Session.Coherent origin now := hafter.serveAll later
  obtain ⟨hparse, hstyle, hdeclared⟩ := eq_of_start_declare hbefore hdistinct hdeclare
  have hinvocation : declared.invocation positional keywords
      = Invocation.bindCall method positional keywords := by
    rw [invocation, hself, hdeclared]
    rfl
  cases hbind : Invocation.bindCall method positional keywords with
  | error fault =>
    have hcalled : called = (.error (.typeError fault.message), now.world) :=
      start_call_of_error (hinvocation.trans hbind) now.world
    have hbound : bound = (.error (.typeError fault.message), now) := by
      show (Job.bindCall method source types settings positional keywords).start now = _
      rw [Job.bindCall, hbind]
      rfl
    rw [hcalled, hbound]
    exact ⟨rfl, rfl⟩
  | ok invocation =>
    -- the template is compiled again or found, and is the one that the statement keeps
    obtain ⟨fault, hfault, -⟩ | ⟨compiled, compiledAt, hagain, hcompile, hworld⟩ :=
      hnow.compile_cases source hdistinct
    · cases hparse.symm.trans hfault
    have htemplate : compiled.template = declared.template :=
      Except.ok.inj (hagain.symm.trans hparse)
    have hcoherent : Session.Coherent origin compiledAt := by
      have hkept := Job.keeps_compile source types now hnow
      rwa [hcompile] at hkept
    have hbound : bound = (Job.bindTemplate declared.template invocation settings).start compiledAt := by
      show (Job.bindCall method source types settings positional keywords).start now = _
      rw [Job.bindCall, hbind]
      show Job.bindText source types invocation settings now = _
      rw [Job.start] at hcompile
      rw [Job.bindText, bind_of_ok hcompile, htemplate]
      rfl
    have hcalled : called = (Statement.bind settings.paramstyle declared.style
        (Strategy.standard settings.strictKeys) declared.template invocation).start now.world := by
      show (declared.call positional keywords).start now.world = _
      rw [call_of_ok (hinvocation.trans hbind), hdeclared]
    rw [hbound, hcalled, ← hworld]
    exact Job.start_bindTemplate (hcoherent.styles ▸ hstyle) declared.template invocation

/-- The template of the statement was compiled for the same types in another order, and is given up with the cache
that it was kept in; the text is compiled again. -/
theorem call_eq_bindCall_new_cache :
    let method := Method.ofSignature "query" ⟨[.plain "a", .plain "b"], .absent⟩
    let types := [("a", "INT"), ("b", "VARCHAR")]
    let earlier : List Request := [.compileInCurrent "\x7ba\x7d, \x7bb\x7d" [("b", "VARCHAR"), ("a", "INT")]]
    let later : List Request := [.configure { Settings.standard with cacheSize := 1 }, .compileInCurrent "1" []]
    DistinctPaths types ∧
    ∃ declared after,
      (declare method "\x7ba\x7d, \x7bb\x7d" types .standard).start ((Session.start .empty).serveAll earlier)
        = (.ok declared, after) ∧
      let now := after.serveAll later
      let called := (declared.call [.int 1] [("b", .int 2)]).start now.world
      let bound := (Job.bindCall method "\x7ba\x7d, \x7bb\x7d" types .standard [.int 1] [("b", .int 2)]).start now
      bound.1 = called.1 ∧ bound.2.world = called.2 := by
  intro method types earlier later
  have hempty : ∀ id, ((Session.start .empty).cache id).entries = [] := by
    rintro (_ | id) <;> rfl
  have hdiffer : PathsDiffer ("a", "INT") ("b", "VARCHAR") := by
    intro path hpath hpath'
    have hparts : Path.split "a".toList = Path.split "b".toList :=
      (Path.ofExpression_eq_ok_iff.mp hpath).symm.trans (Path.ofExpression_eq_ok_iff.mp hpath')
    exact absurd hparts (by decide +kernel)
  have hdistinct : DistinctPaths types := List.pairwise_pair.mpr hdiffer
  have hrun : ((declare method "\x7ba\x7d, \x7bb\x7d" types .standard).start
      ((Session.start .empty).serveAll earlier)).1.toOption.isSome = true := by decide +kernel
  refine ⟨hdistinct, ?_⟩
  rcases hdeclare : (declare method "\x7ba\x7d, \x7bb\x7d" types .standard).start
      ((Session.start .empty).serveAll earlier) with ⟨failure | declared, after⟩
  · rw [hdeclare] at hrun
    cases hrun
  · exact ⟨declared, after, rfl,
      call_eq_bindCall hempty earlier later hdistinct hdeclare [.int 1] (by decide)⟩

end Declared

end SqlTemplate
