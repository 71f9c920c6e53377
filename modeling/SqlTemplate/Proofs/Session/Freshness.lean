import Mathlib.Data.List.Induction
import Mathlib.Data.List.Pairwise
import SqlTemplate.Proofs.Object.SameKey
import SqlTemplate.Proofs.Session.Compile
import SqlTemplate.Proofs.Template.Declared
/-!
# How fresh a cached template is

A compiled template is kept under its text, the declared types by their names, and the table that the names are
looked up in. A table may come to say something else of a name, and a template that was compiled before still has
the type that the name denoted then. `compileIn_after` says what a cache gives after any number of compilations and
registrations: it fails just when a compilation would, and what it gives was compiled at some time before; this is
what a compilation would give just when the names that are declared for its parameters still denote the types
that these have.
-/

namespace SqlTemplate

/-! ## Distinct paths -/

/-- The expressions of two entries do not denote one path. -/
def PathsDiffer (entry other : String × String) : Prop :=
  ∀ path, Path.ofExpression entry.1.toList = .ok path → Path.ofExpression other.1.toList ≠ .ok path

instance : Std.Symm PathsDiffer :=
  ⟨fun _ _ hdiffer path hpath hpath' => hdiffer path hpath' hpath⟩

/-- No two of the expressions that types are declared for denote one path. -/
def DistinctPaths (types : List (String × String)) : Prop :=
  types.Pairwise PathsDiffer

section DistinctPaths

variable {types types' : List (String × String)} {table table' : TypeTable} {source : String}
  {template : Template}

theorem DistinctPaths.perm (h : DistinctPaths types) (hperm : types'.Perm types) : DistinctPaths types' :=
  (hperm.pairwise_iff symm).mpr h

theorem DistinctPaths.eq_of_path (h : DistinctPaths types) {entry other : String × String}
    (hentry : entry ∈ types) (hother : other ∈ types) {path : Path}
    (hpath : Path.ofExpression entry.1.toList = .ok path)
    (hpath' : Path.ofExpression other.1.toList = .ok path) : other = entry := by
  by_contra hne
  exact List.Pairwise.forall h hother hentry hne path hpath' hpath

/-- Where there is one declaration for a path at most, it declares the type of the path. -/
theorem DistinctPaths.declaresTypesOf (h : DistinctPaths types)
    (hparse : Template.parse table source types = .ok template) :
    DeclaresTypesOf table types template.fragments := by
  intro path type hmem entry hentry hpath
  obtain ⟨declarations, _, hdeclared, -, -⟩ := parse_eq_ok_iff.mp hparse
  rw [← typeOf_of_parse hparse hdeclared hmem]
  exact find?_of_typeOf hdeclared hentry hpath fun other hother hpath' =>
    h.eq_of_path hentry hother hpath hpath'

/-- The order of such a mapping makes no difference. -/
theorem DistinctPaths.parse_of_perm (h : DistinctPaths types) (hperm : types'.Perm types)
    (hparse : Template.parse table source types' = .ok template) :
    Template.parse table source types = .ok template := by
  have hknown := exists_declarationsOf_of_perm hperm.symm (exists_declarationsOf_of_parse hparse)
  refine parse_eq_of_declaresTypesOf hparse hperm.symm hknown ?_
  intro path type hmem entry hentry hpath
  exact (h.perm hperm).declaresTypesOf hparse path type hmem entry (hperm.mem_iff.mpr hentry) hpath

/-- A template that was compiled by one table is what another one compiles just when this declares the types that the
parameters have. -/
theorem DistinctPaths.eq_iff_declaresTypesOf (h : DistinctPaths types)
    (hparse : Template.parse table source types = .ok template) {template' : Template}
    (hparse' : Template.parse table' source types = .ok template') :
    template = template' ↔ DeclaresTypesOf table' types template.fragments := by
  constructor
  · rintro rfl
    exact h.declaresTypesOf hparse'
  · intro hdeclares
    have hknown := exists_declarationsOf_of_parse hparse'
    have hagain := parse_eq_of_declaresTypesOf hparse (.refl types) hknown hdeclares
    exact Except.ok.inj (hagain.symm.trans hparse')

/-- A table that knows more names has declarations too. -/
theorem exists_declarationsOf_of_knows (h : table'.Knows table)
    (hdeclared : ∃ declarations, declarationsOf table types = .ok declarations) :
    ∃ declarations, declarationsOf table' types = .ok declarations := by
  rw [exists_declarationsOf_iff] at hdeclared ⊢
  intro entry hentry
  obtain ⟨⟨path, type⟩, hdeclaration⟩ := hdeclared entry hentry
  obtain ⟨hpath, htype⟩ := declaration_eq_ok_iff.mp hdeclaration
  obtain ⟨type', htype'⟩ := Option.isSome_iff_exists.mp (h entry.2 (by rw [htype, Option.isSome_some]))
  exact ⟨(path, type'), declaration_eq_ok_iff.mpr ⟨hpath, htype'⟩⟩

/-- What has been compiled is compiled by a table that knows more names, if perhaps with other types. -/
theorem exists_parse_of_knows (h : table'.Knows table)
    (hparse : Template.parse table source types = .ok template) :
    ∃ template', Template.parse table' source types = .ok template' := by
  obtain ⟨declarations, hdeclared⟩ :=
    exists_declarationsOf_of_knows h (exists_declarationsOf_of_parse hparse)
  exact ⟨_, parse_retype hparse hdeclared⟩

end DistinctPaths

/-! ## Uses of a cache -/

/-- A use of a session: a template is compiled through its cache, or the name of a type is registered. -/
inductive Use where
  | compile (table : TableId) (source : String) (types : List (String × String))
  | register (table : TableId) (name : String) (code : Value)

namespace Session

/-- The session after a use, whether it succeeds or fails. -/
def step (cache : CacheId) (session : Session) : Use → Session
  | .compile table source types => ((Job.compileIn cache table source types).start session).2
  | .register table name code => ((Job.registerType table name code).start session).2

/-- The session after some uses. -/
def steps (cache : CacheId) (session : Session) (uses : List Use) : Session :=
  uses.foldl (step cache) session

variable {cache : CacheId} {session : Session}

/-- A compilation changes no table. -/
theorem tables_step_compile (table : TableId) (source : String) (types : List (String × String)) :
    (session.step cache (.compile table source types)).tables = session.tables := by
  rw [step]
  cases hget : (session.cache cache).get? (Job.keyOf table source types) with
  | some compiled =>
    rw [Job.compileIn_of_some hget]
    rfl
  | none =>
    cases hparse : Template.parse (session.table table) source types with
    | error fault => rw [Job.compileIn_of_error hget hparse]
    | ok template =>
      obtain ⟨after, hcompile, htables, -⟩ := Job.compileIn_of_ok hget hparse
      rw [hcompile]
      exact htables

theorem knows_step (use : Use) (id : TableId) :
    ((session.step cache use).table id).Knows (session.table id) := by
  cases use with
  | compile table source types =>
    rw [Session.table, tables_step_compile]
    exact .refl _
  | register table name code =>
    rw [step]
    rcases Job.registerType_start table name code session with ⟨world, hafter⟩ | ⟨type, hafter⟩
    · rw [hafter]
      exact .refl _
    · rw [hafter]
      exact knows_modify session table id name type

theorem knows_steps (uses : List Use) (id : TableId) :
    ((session.steps cache uses).table id).Knows (session.table id) := by
  induction uses generalizing session with
  | nil => exact .refl _
  | cons use uses ih =>
    have hrest : ((session.steps cache (use :: uses)).table id).Knows ((session.step cache use).table id) := ih
    exact hrest.trans (knows_step use id)

/-- What comes into the cache by a use was compiled by it, for the key that it stands under. -/
theorem mem_entries_step {use : Use} {entry : CacheKey × CompiledTemplate}
    (h : entry ∈ ((session.step cache use).cache cache).entries) :
    entry ∈ (session.cache cache).entries ∨
      ∃ table source types, entry.1 = Job.keyOf table source types ∧
        Template.parse (session.table table) source types = .ok entry.2.template := by
  cases use with
  | compile table source types =>
    rw [step] at h
    cases hget : (session.cache cache).get? (Job.keyOf table source types) with
    | some compiled =>
      rw [Job.compileIn_of_some hget] at h
      exact .inl ((Cache.moveToEnd_perm _ _).mem_iff.mp (mem_entries_set h))
    | none =>
      cases hparse : Template.parse (session.table table) source types with
      | error fault =>
        rw [Job.compileIn_of_error hget hparse] at h
        exact .inl h
      | ok template =>
        obtain ⟨after, hcompile, -, hentries⟩ := Job.compileIn_of_ok hget hparse
        rw [hcompile] at h
        rcases hentries entry h with hold | rfl
        · exact .inl hold
        · exact .inr ⟨table, source, types, rfl, hparse⟩
  | register table name code =>
    rw [step] at h
    rcases Job.registerType_start table name code session with ⟨world, hafter⟩ | ⟨type, hafter⟩
    · rw [hafter] at h
      exact .inl h
    · rw [hafter] at h
      exact .inl h

/-- What is in a cache that was empty was compiled at some time, for the key that it stands under. -/
theorem mem_entries_steps (hempty : (session.cache cache).entries = []) (uses : List Use)
    {entry : CacheKey × CompiledTemplate}
    (h : entry ∈ ((session.steps cache uses).cache cache).entries) :
    ∃ earlier later table source types, uses = earlier ++ later ∧
      entry.1 = Job.keyOf table source types ∧
      Template.parse ((session.steps cache earlier).table table) source types
        = .ok entry.2.template := by
  induction uses using List.reverseRecOn with
  | nil =>
    rw [steps, List.foldl_nil, hempty] at h
    cases h
  | append_singleton uses use ih =>
    rw [steps, List.foldl_append] at h
    -- either the last use has brought it in, or it was there before
    rcases mem_entries_step h with hold | ⟨table, source, types, hkey, hparse⟩
    · obtain ⟨earlier, later, table, source, types, rfl, hkey, hparse⟩ := ih hold
      exact ⟨earlier, later ++ [use], table, source, types, List.append_assoc _ _ _, hkey, hparse⟩
    · exact ⟨uses, [use], table, source, types, rfl, hkey, hparse⟩

/-- What is found in a cache that was empty was compiled at some time from the text and the types that it is looked up
for, whatever their order was then. -/
theorem parse_of_get? (hempty : (session.cache cache).entries = []) {uses : List Use} {table : TableId}
    {source : String} {types : List (String × String)} (hdistinct : DistinctPaths types)
    {compiled : CompiledTemplate}
    (h : ((session.steps cache uses).cache cache).get? (Job.keyOf table source types) = some compiled) :
    ∃ earlier later, uses = earlier ++ later ∧
      Template.parse ((session.steps cache earlier).table table) source types = .ok compiled.template := by
  obtain ⟨kept, hmem, hkept⟩ := Cache.exists_mem_of_get? h
  obtain ⟨earlier, later, table', source', types', huses, hkey, hparse⟩ := mem_entries_steps hempty uses hmem
  obtain rfl : kept = Job.keyOf table' source' types' := hkey
  obtain ⟨rfl, hperm, rfl⟩ := CacheKey.beq_compilation.mp hkept
  exact ⟨earlier, later, huses, hdistinct.parse_of_perm hperm hparse⟩

/-- What has been compiled at some time can be compiled at any later time. -/
theorem exists_parse_steps {earlier later : List Use} {table : TableId} {source : String}
    {types : List (String × String)} {template : Template}
    (h : Template.parse ((session.steps cache earlier).table table) source types = .ok template) :
    ∃ template', Template.parse ((session.steps cache (earlier ++ later)).table table) source types
      = .ok template' := by
  have hsteps : session.steps cache (earlier ++ later) = (session.steps cache earlier).steps cache later :=
    List.foldl_append
  rw [hsteps]
  exact exists_parse_of_knows (knows_steps later table) h

end Session

/-! ## What a cache gives -/

/-- What a cache that was empty gives for a text and declared types after any uses. Where a compilation would fail, so
does it, in the same way. Where a compilation would make a template, it gives one that a compilation has made at some
time; and this is the same as the one that would be made now just when the declared names denote the types of its
parameters still. -/
theorem compileIn_after {cache : CacheId} {session : Session}
    (hempty : (session.cache cache).entries = []) (uses : List Use) (table : TableId) (source : String)
    {types : List (String × String)} (hdistinct : DistinctPaths types) :
    let now := session.steps cache uses
    let given := ((Job.compileIn cache table source types).start now).1
    (∀ fault, Template.parse (now.table table) source types = .error fault →
        given = .error (fault.toFailure (now.table table) source)) ∧
      ∀ template, Template.parse (now.table table) source types = .ok template →
        ∃ compiled, given = .ok compiled ∧
          (∃ earlier later, uses = earlier ++ later ∧
            Template.parse ((session.steps cache earlier).table table) source types
              = .ok compiled.template) ∧
          (compiled.template = template ↔
            DeclaresTypesOf (now.table table) types compiled.template.fragments) := by
  intro now given
  cases hget : (now.cache cache).get? (Job.keyOf table source types) with
  | some compiled =>
    -- a compilation made this before, so one cannot fail now
    have hgiven : given = .ok compiled := congrArg Prod.fst (Job.compileIn_of_some hget)
    obtain ⟨earlier, later, huses, hearlier⟩ := Session.parse_of_get? hempty hdistinct hget
    obtain ⟨template', hnow⟩ : ∃ template', Template.parse (now.table table) source types = .ok template' := by
      show ∃ template', Template.parse ((session.steps cache uses).table table) source types = _
      rw [huses]
      exact Session.exists_parse_steps hearlier
    refine ⟨fun fault hfault => ?_, fun template htemplate => ?_⟩
    · cases hnow.symm.trans hfault
    · exact ⟨compiled, hgiven, ⟨earlier, later, huses, hearlier⟩,
        hdistinct.eq_iff_declaresTypesOf hearlier htemplate⟩
  | none =>
    -- the template is compiled now
    refine ⟨fun fault hfault => ?_, fun template htemplate => ?_⟩
    · exact congrArg Prod.fst (Job.compileIn_of_error hget hfault)
    · obtain ⟨after, hcompile, -, -⟩ := Job.compileIn_of_ok hget htemplate
      exact ⟨_, congrArg Prod.fst hcompile, ⟨uses, [], (List.append_nil uses).symm, htemplate⟩,
        hdistinct.eq_iff_declaresTypesOf htemplate htemplate⟩

/-- A name for another type is registered after a compilation: the cache gives the template with the type that the name
denoted before, and not the one that is compiled now. -/
theorem compileIn_stale :
    let now := (Session.start .empty).steps 0
      [.compile 0 "\x7ba\x7d" [("a", "INT")], .register 0 "INT" (.int (-5))]
    DistinctPaths [("a", "INT")] ∧
      ((Job.compileIn 0 0 "\x7ba\x7d" [("a", "INT")]).start now).1.toOption.map (·.template)
        = some ⟨"\x7ba\x7d", [.parameter ⟨["a"], by simp, by decide⟩ .integer]⟩ ∧
      Template.parse (now.table 0) "\x7ba\x7d" [("a", "INT")]
        = .ok ⟨"\x7ba\x7d", [.parameter ⟨["a"], by simp, by decide⟩ .bigInt]⟩ ∧
      ((Job.compileIn 0 0 "\x7ba\x7d" [("a", "INT")]).start now).1.toOption.map (·.template)
        ≠ (Template.parse (now.table 0) "\x7ba\x7d" [("a", "INT")]).toOption := by
  refine ⟨List.pairwise_singleton _ _, ?_, ?_, ?_⟩
  · decide +kernel
  · decide +kernel
  · decide +kernel

/-- What is given there was compiled at some time, and is the same as what is compiled now just when the table still
says what it said then. -/
theorem compileIn_after_register :
    let uses : List Use := [.compile 0 "\x7ba\x7d" [("a", "INT")], .register 0 "INT" (.int (-5))]
    let now := (Session.start .empty).steps 0 uses
    ((Session.start .empty).cache 0).entries = [] ∧ DistinctPaths [("a", "INT")] ∧
      ∃ template, Template.parse (now.table 0) "\x7ba\x7d" [("a", "INT")] = .ok template ∧
        ∃ compiled, ((Job.compileIn 0 0 "\x7ba\x7d" [("a", "INT")]).start now).1 = .ok compiled ∧
          (∃ earlier later, uses = earlier ++ later ∧
            Template.parse (((Session.start .empty).steps 0 earlier).table 0) "\x7ba\x7d" [("a", "INT")]
              = .ok compiled.template) ∧
          (compiled.template = template ↔
            DeclaresTypesOf (now.table 0) [("a", "INT")] compiled.template.fragments) := by
  have hdistinct : DistinctPaths [("a", "INT")] := List.pairwise_singleton _ _
  refine ⟨rfl, hdistinct,
    ⟨"\x7ba\x7d", [.parameter ⟨["a"], by simp, by decide +kernel⟩ .bigInt]⟩, by decide +kernel, ?_⟩
  exact (compileIn_after rfl _ 0 "\x7ba\x7d" hdistinct).2 _ (by decide +kernel)

end SqlTemplate
