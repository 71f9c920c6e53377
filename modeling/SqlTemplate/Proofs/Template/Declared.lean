import Mathlib.Data.List.Forall2
import Mathlib.Data.List.Nodup
import SqlTemplate.Proofs.Template.Placeholder
import SqlTemplate.Proofs.Template.Reading
/-!
# Declared types

Types are declared apart from the text of a template and decide nothing about how it is read. The same text read
with other declarations gives the same fragments, with the types of its parameters exchanged (`parse_retype`).

A mapping of declared types is an ordered list here, and the order counts where two expressions denote one path:
the last of them decides. So the orders of one mapping agree on whether a template compiles, and they agree
on the template just when no parameter in it has declarations that differ (`parse_perm_iff`).
-/

namespace SqlTemplate

/-! ## Accepted declarations -/

theorem declaration_eq_ok_iff {table : TypeTable} {entry : String × String} {path : Path}
    {type : SqlType} :
    declaration table entry = .ok (path, type) ↔
      Path.ofExpression entry.1.toList = .ok path ∧ table.find? entry.2 = some type := by
  rw [declaration]
  cases Path.ofExpression entry.1.toList with
  | error fault => simp
  | ok denoted =>
    cases table.find? entry.2 with
    | none => simp
    | some found => simp

/-- The declarations of a mapping are those of its entries, one by one. -/
theorem declarationsOf_eq_ok_iff {table : TypeTable} {types : List (String × String)}
    {declarations : Declarations} :
    declarationsOf table types = .ok declarations ↔
      List.Forall₂ (fun entry declared => declaration table entry = .ok declared) types
        declarations := by
  rw [declarationsOf]
  induction types generalizing declarations with
  | nil => cases declarations <;> simp [pure, Except.pure]
  | cons entry types ih =>
    rw [List.mapM_cons]
    cases hentry : declaration table entry with
    | error fault => cases declarations <;> simp [bind, Except.bind, hentry]
    | ok declared =>
      cases hmore : types.mapM (declaration table) with
      | error fault => cases declarations <;> simp [bind, Except.bind, ← ih, hmore]
      | ok more =>
        cases declarations <;> simp [bind, Except.bind, pure, Except.pure, ← ih, hmore, hentry]

/-- A mapping of declared types is accepted if each of its entries is. -/
theorem exists_declarationsOf_iff {table : TypeTable} {types : List (String × String)} :
    (∃ declarations, declarationsOf table types = .ok declarations) ↔
      ∀ entry ∈ types, ∃ declared, declaration table entry = .ok declared := by
  simp only [declarationsOf_eq_ok_iff]
  induction types with
  | nil => simp
  | cons entry types ih =>
    rw [List.forall_mem_cons, ← ih]
    constructor
    · rintro ⟨declarations, h⟩
      obtain ⟨declared, more, hentry, hmore, -⟩ := List.forall₂_cons_left_iff.mp h
      exact ⟨⟨declared, hentry⟩, more, hmore⟩
    · rintro ⟨⟨declared, hentry⟩, more, hmore⟩
      exact ⟨declared :: more, .cons hentry hmore⟩

/-- The orders of a mapping are accepted or refused together. -/
theorem exists_declarationsOf_of_perm {table : TypeTable} {types types' : List (String × String)}
    (hperm : types'.Perm types) (h : ∃ declarations, declarationsOf table types = .ok declarations) :
    ∃ declarations, declarationsOf table types' = .ok declarations := by
  rw [exists_declarationsOf_iff] at h ⊢
  exact fun entry hentry => h entry (hperm.mem_iff.mp hentry)

/-- The last entry of a mapping makes the last declaration. -/
theorem declarationsOf_append_singleton {table : TypeTable} {types : List (String × String)}
    {entry : String × String} {declarations : Declarations}
    (h : declarationsOf table (types ++ [entry]) = .ok declarations) :
    ∃ more declared, declarations = more ++ [declared] ∧
      declaration table entry = .ok declared := by
  rw [declarationsOf, List.mapM_append] at h
  cases hmore : types.mapM (declaration table) with
  | error fault => simp [hmore, bind, Except.bind] at h
  | ok more =>
    cases hentry : declaration table entry with
    | error fault => simp [hmore, hentry, bind, Except.bind] at h
    | ok declared =>
      refine ⟨more, declared, ?_, rfl⟩
      simpa [hmore, hentry, bind, Except.bind, pure, Except.pure, eq_comm] using h

/-- The declarations of a mapping, without their order. -/
theorem mem_declarationsOf_iff {table : TypeTable} {types : List (String × String)}
    {declarations : Declarations} (h : declarationsOf table types = .ok declarations)
    {path : Path} {type : SqlType} :
    (path, type) ∈ declarations ↔
      ∃ entry ∈ types, Path.ofExpression entry.1.toList = .ok path ∧ table.find? entry.2 = some type := by
  have hforall := declarationsOf_eq_ok_iff.mp h
  simp only [← declaration_eq_ok_iff]
  clear h
  induction hforall with
  | nil => simp
  | @cons entry declared types declarations hentry _ ih =>
    constructor
    · intro hmem
      rcases List.mem_cons.mp hmem with heq | hmem
      · exact ⟨entry, List.mem_cons_self, heq ▸ hentry⟩
      · obtain ⟨entry', hmem', hdeclared⟩ := ih.mp hmem
        exact ⟨entry', List.mem_cons_of_mem _ hmem', hdeclared⟩
    · rintro ⟨entry', hmem, hdeclared⟩
      rcases List.mem_cons.mp hmem with rfl | hmem
      · rw [hentry, Except.ok.injEq] at hdeclared
        exact hdeclared ▸ List.mem_cons_self
      · exact List.mem_cons_of_mem _ (ih.mpr ⟨entry', hmem, hdeclared⟩)

/-! ## The type of a path -/

theorem typeOf_append_singleton (declarations : Declarations) (declared : Path × SqlType)
    (path : Path) :
    Declarations.typeOf (declarations ++ [declared]) path
      = if declared.1 = path then declared.2 else declarations.typeOf path := by
  rw [Declarations.typeOf, List.reverse_append, List.reverse_singleton, List.singleton_append,
    List.find?_cons]
  by_cases h : declared.1 = path
  · simp [h]
  · simp [h, beq_eq_false_iff_ne.mpr h, Declarations.typeOf]

/-- Where the declarations for a path agree, it does not matter which of them counts. -/
theorem typeOf_eq_of_agree {declarations : Declarations} {path : Path} {type : SqlType}
    (hmem : (path, type) ∈ declarations)
    (hagree : ∀ type', (path, type') ∈ declarations → type' = type) :
    declarations.typeOf path = type := by
  rw [Declarations.typeOf]
  cases hfound : declarations.reverse.find? (·.1 == path) with
  | none =>
    have hne := List.find?_eq_none.mp hfound (path, type) (List.mem_reverse.mpr hmem)
    simp at hne
  | some declared =>
    obtain ⟨denoted, type'⟩ := declared
    obtain rfl : denoted = path := by simpa using List.find?_some hfound
    have htype := hagree type' (List.mem_reverse.mp (List.mem_of_find?_eq_some hfound))
    rw [Option.map_some, Option.getD_some, htype]

theorem typeOf_eq_unknown {declarations : Declarations} {path : Path}
    (h : ∀ type, (path, type) ∉ declarations) : declarations.typeOf path = .unknown := by
  have hnone : declarations.reverse.find? (·.1 == path) = none := by
    rw [List.find?_eq_none]
    rintro ⟨denoted, type⟩ hmem
    have hne : denoted ≠ path := by
      rintro rfl
      exact h type (List.mem_reverse.mp hmem)
    simpa using hne
  rw [Declarations.typeOf, hnone, Option.map_none, Option.getD_none]

/-! ## Other declarations for the same text -/

/-- A fragment with its type taken from other declarations. -/
def Fragment.retype (declarations : Declarations) : Fragment → Fragment
  | .literal text => .literal text
  | .parameter path _ => .parameter path (declarations.typeOf path)
  | .substitution path => .substitution path

/-- A piece with its type taken from other declarations. -/
def Piece.retype (declarations : Declarations) : Piece → Piece
  | .char c => .char c
  | .hole fragment => .hole (fragment.retype declarations)

theorem placeholder_retype {declarations : Declarations} {body : List Char} {fragment : Fragment}
    (h : placeholder declarations body = .ok fragment) (others : Declarations) :
    placeholder others body = .ok (fragment.retype others) := by
  rw [placeholder_eq_ok_iff] at h ⊢
  rcases h with ⟨path, hpath, rfl⟩ | ⟨mark, expression, path, hcontent, hmark, hpath, rfl⟩
  · exact .inl ⟨path, hpath, rfl⟩
  · exact .inr ⟨mark, expression, path, hcontent, hmark, hpath, rfl⟩

/-- A text is read the same whatever is declared. -/
theorem Reads.retype {declarations : Declarations} {ahead text : List Char} {position : Nat}
    {opens opens' : List Nat} {pieces : List Piece}
    (h : Reads declarations ahead position opens text pieces opens') (others : Declarations) :
    Reads others ahead position opens text (pieces.map (·.retype others)) opens' := by
  induction h with
  | done => exact .done
  | char hc _ ih => exact .char hc ih
  | close _ ih => exact .close ih
  | escape hmark _ ih => exact .escape hmark ih
  | hole hbody hmark hfragment _ ih =>
    exact .hole hbody hmark (placeholder_retype hfragment others) ih

theorem literalBefore_map_retype (others : Declarations) (run : List Char)
    (fragments : List Fragment) :
    literalBefore run (fragments.map (·.retype others))
      = (literalBefore run fragments).map (·.retype others) := by
  rw [literalBefore, literalBefore]
  split <;> rfl

theorem gatherAfter_map_retype (others : Declarations) (run : List Char) (pieces : List Piece) :
    gatherAfter run (pieces.map (·.retype others))
      = (gatherAfter run pieces).map (·.retype others) := by
  induction pieces generalizing run with
  | nil => exact literalBefore_map_retype others run []
  | cons piece pieces ih =>
    cases piece with
    | char c => exact ih (c :: run)
    | hole fragment =>
      have hmore : gatherAfter run ((Piece.hole fragment :: pieces).map (·.retype others))
          = literalBefore run ((fragment :: gatherAfter [] pieces).map (·.retype others)) := by
        rw [List.map_cons, List.map_cons, ← ih []]
        rfl
      rw [hmore, literalBefore_map_retype]
      rfl

theorem source_of_parse {table : TypeTable} {types : List (String × String)} {source : String}
    {template : Template} (h : Template.parse table source types = .ok template) :
    template.source = source := by
  obtain ⟨_, _, -, -, rfl⟩ := parse_eq_ok_iff.mp h
  rfl

theorem exists_declarationsOf_of_parse {table : TypeTable} {types : List (String × String)}
    {source : String} {template : Template} (h : Template.parse table source types = .ok template) :
    ∃ declarations, declarationsOf table types = .ok declarations := by
  obtain ⟨declarations, _, hdeclared, -, -⟩ := parse_eq_ok_iff.mp h
  exact ⟨declarations, hdeclared⟩

/-- With other declarations a template compiles to the same fragments, and only types are exchanged. -/
theorem parse_retype {table table' : TypeTable} {types types' : List (String × String)}
    {source : String} {template : Template} {declarations : Declarations}
    (h : Template.parse table source types = .ok template)
    (hdeclared : declarationsOf table' types' = .ok declarations) :
    Template.parse table' source types'
      = .ok ⟨source, template.fragments.map (·.retype declarations)⟩ := by
  obtain ⟨_, pieces, -, hreads, rfl⟩ := parse_eq_ok_iff.mp h
  refine parse_eq_ok_iff.mpr ⟨declarations, _, hdeclared, hreads.retype declarations, ?_⟩
  rw [gather, gather, gatherAfter_map_retype]

/-- A template is its own with other declarations if these give each of its parameters the type it has. -/
theorem map_retype_eq_self_iff {declarations : Declarations} {fragments : List Fragment} :
    fragments.map (·.retype declarations) = fragments ↔
      ∀ path type, .parameter path type ∈ fragments → declarations.typeOf path = type := by
  induction fragments with
  | nil => simp
  | cons fragment fragments ih =>
    rw [List.map_cons, List.cons.injEq, ih]
    cases fragment with
    | literal text => simp [Fragment.retype]
    | parameter path type =>
      constructor
      · rintro ⟨hfirst, hmore⟩ path' type' hmem
        rcases List.mem_cons.mp hmem with heq | hmem
        · injection heq with hpath htype
          subst hpath htype
          injection hfirst
        · exact hmore path' type' hmem
      · intro h
        refine ⟨?_, fun path' type' hmem => h path' type' (List.mem_cons_of_mem _ hmem)⟩
        rw [Fragment.retype, h path type List.mem_cons_self]
    | substitution path => simp [Fragment.retype]

/-- The parameters of a compiled template have the types that are declared for their paths. -/
theorem typeOf_of_parse {table : TypeTable} {types : List (String × String)} {source : String}
    {template : Template} {declarations : Declarations}
    (h : Template.parse table source types = .ok template)
    (hdeclared : declarationsOf table types = .ok declarations) {path : Path} {type : SqlType}
    (hmem : .parameter path type ∈ template.fragments) : declarations.typeOf path = type := by
  have hself : template.fragments.map (·.retype declarations) = template.fragments := by
    have hagain := parse_retype h hdeclared
    rw [h, Except.ok.injEq] at hagain
    exact (congrArg Template.fragments hagain).symm
  exact map_retype_eq_self_iff.mp hself path type hmem

/-! ## Orders and states of a mapping -/

/-- Every entry of a mapping that is about a parameter names the type which that parameter has. -/
def DeclaresTypesOf (table : TypeTable) (types : List (String × String)) (fragments : List Fragment) :
    Prop :=
  ∀ path type, .parameter path type ∈ fragments → ∀ entry ∈ types,
    Path.ofExpression entry.1.toList = .ok path → table.find? entry.2 = some type

/-- Entries that name the types of a template's parameters compile to that template, in any order and by any table
that knows their names. -/
theorem parse_eq_of_declaresTypesOf {table table' : TypeTable} {types types' : List (String × String)}
    {source : String} {template : Template}
    (h : Template.parse table source types = .ok template) (hperm : types'.Perm types)
    (hknown : ∃ declarations, declarationsOf table' types' = .ok declarations)
    (hdeclares : DeclaresTypesOf table' types' template.fragments) :
    Template.parse table' source types' = .ok template := by
  obtain ⟨declarations', hdeclared'⟩ := hknown
  obtain ⟨declarations, _, hdeclared, -, -⟩ := parse_eq_ok_iff.mp h
  have hself : template.fragments.map (·.retype declarations') = template.fragments := by
    rw [map_retype_eq_self_iff]
    intro path type hmem
    by_cases hentry : ∃ entry ∈ types', Path.ofExpression entry.1.toList = .ok path
    · obtain ⟨entry, hentry, hpath⟩ := hentry
      apply typeOf_eq_of_agree
      · rw [mem_declarationsOf_iff hdeclared']
        exact ⟨entry, hentry, hpath, hdeclares path type hmem entry hentry hpath⟩
      · intro type' hmem'
        obtain ⟨entry', hentry', hpath', htype'⟩ := (mem_declarationsOf_iff hdeclared').mp hmem'
        rw [hdeclares path type hmem entry' hentry' hpath', Option.some.injEq] at htype'
        exact htype'.symm
    · -- a path without an entry has no type, by whichever table
      have hunknown : declarations.typeOf path = .unknown := by
        apply typeOf_eq_unknown
        intro type' hmem'
        obtain ⟨entry, hmem', hpath, -⟩ := (mem_declarationsOf_iff hdeclared).mp hmem'
        exact hentry ⟨entry, hperm.mem_iff.mpr hmem', hpath⟩
      rw [← typeOf_of_parse h hdeclared hmem, hunknown]
      apply typeOf_eq_unknown
      intro type' hmem'
      obtain ⟨entry, hmem', hpath, -⟩ := (mem_declarationsOf_iff hdeclared').mp hmem'
      exact hentry ⟨entry, hmem', hpath⟩
  rw [parse_retype h hdeclared', hself, ← source_of_parse h]

/-- An entry that is the only one about a parameter names the type which that parameter has. -/
theorem find?_of_typeOf {table : TypeTable} {types : List (String × String)}
    {declarations : Declarations} (hdeclared : declarationsOf table types = .ok declarations)
    {path : Path} {entry : String × String} (hentry : entry ∈ types)
    (hpath : Path.ofExpression entry.1.toList = .ok path)
    (honly : ∀ entry' ∈ types, Path.ofExpression entry'.1.toList = .ok path → entry' = entry) :
    table.find? entry.2 = some (declarations.typeOf path) := by
  obtain ⟨⟨path', type⟩, hmem⟩ := exists_declarationsOf_iff.mp ⟨declarations, hdeclared⟩ entry hentry
  obtain ⟨hpath', htype⟩ := declaration_eq_ok_iff.mp hmem
  obtain rfl : path = path' := by rwa [hpath, Except.ok.injEq] at hpath'
  have htypeOf : declarations.typeOf path = type := by
    apply typeOf_eq_of_agree
    · exact (mem_declarationsOf_iff hdeclared).mpr ⟨entry, hentry, hpath, htype⟩
    · intro type' hmem'
      obtain ⟨entry', hentry', hpath', htype'⟩ := (mem_declarationsOf_iff hdeclared).mp hmem'
      rw [honly entry' hentry' hpath', htype, Option.some.injEq] at htype'
      exact htype'.symm
  rw [htype, htypeOf]

theorem exists_parse_of_perm {table : TypeTable} {types types' : List (String × String)}
    {source : String} (hperm : types'.Perm types)
    (h : ∃ template, Template.parse table source types = .ok template) :
    ∃ template, Template.parse table source types' = .ok template := by
  obtain ⟨template, htemplate⟩ := h
  obtain ⟨declarations, hdeclared⟩ :=
    exists_declarationsOf_of_perm hperm (exists_declarationsOf_of_parse htemplate)
  exact ⟨_, parse_retype htemplate hdeclared⟩

/-- The orders of a mapping of declared types. They compile a template or refuse it together. They all compile it to
the same template just when every entry that is about one of its parameters names the type which that parameter
has, so that no two entries for one parameter differ. -/
theorem parse_perm_iff (table : TypeTable) (source : String) (types : List (String × String)) :
    (∀ types', types'.Perm types →
        ((∃ template, Template.parse table source types' = .ok template) ↔
          ∃ template, Template.parse table source types = .ok template)) ∧
      ∀ template, Template.parse table source types = .ok template →
        ((∀ types', types'.Perm types → Template.parse table source types' = .ok template) ↔
          DeclaresTypesOf table types template.fragments) := by
  refine ⟨fun types' hperm => ⟨exists_parse_of_perm hperm.symm, exists_parse_of_perm hperm⟩,
    fun template h => ⟨?_, ?_⟩⟩
  · intro hsame path type hmem entry hentry hpath
    -- put last, the entry decides the type of the path
    obtain ⟨before, after, rfl⟩ := List.append_of_mem hentry
    have hperm : ((before ++ after) ++ [entry]).Perm (before ++ entry :: after) := by
      rw [List.append_assoc]
      exact (List.perm_append_singleton entry after).append_left before
    have hlast := hsame _ hperm
    obtain ⟨declarations, _, hdeclared, -, -⟩ := parse_eq_ok_iff.mp hlast
    obtain ⟨more, ⟨path', type'⟩, rfl, hentry'⟩ := declarationsOf_append_singleton hdeclared
    obtain ⟨hpath', htype'⟩ := declaration_eq_ok_iff.mp hentry'
    obtain rfl : path' = path := by rwa [hpath, Except.ok.injEq, eq_comm] at hpath'
    have htype := typeOf_of_parse hlast hdeclared hmem
    rw [typeOf_append_singleton, if_pos rfl] at htype
    exact htype'.trans (congrArg some htype)
  · intro hdeclares types' hperm
    have hknown := exists_declarationsOf_of_perm hperm (exists_declarationsOf_of_parse h)
    refine parse_eq_of_declaresTypesOf h hperm hknown ?_
    exact fun path type hmem entry hentry => hdeclares path type hmem entry (hperm.mem_iff.mp hentry)

/-- Two spellings of one path with different types: the order of the mapping decides which of them counts. -/
theorem parse_differs_between_orders :
    [(" a ", "VARCHAR"), ("a", "INT")].Perm [("a", "INT"), (" a ", "VARCHAR")] ∧
      Template.parse .standard "\x7ba\x7d" [("a", "INT"), (" a ", "VARCHAR")]
        = .ok ⟨"\x7ba\x7d", [.parameter ⟨["a"], by simp, by decide +kernel⟩ .varChar]⟩ ∧
      Template.parse .standard "\x7ba\x7d" [(" a ", "VARCHAR"), ("a", "INT")]
        = .ok ⟨"\x7ba\x7d", [.parameter ⟨["a"], by simp, by decide +kernel⟩ .integer]⟩ ∧
      Template.parse .standard "\x7ba\x7d" [("a", "INT"), (" a ", "VARCHAR")]
        ≠ Template.parse .standard "\x7ba\x7d" [(" a ", "VARCHAR"), ("a", "INT")] := by
  refine ⟨by decide, by decide +kernel, by decide +kernel, by decide +kernel⟩

end SqlTemplate
