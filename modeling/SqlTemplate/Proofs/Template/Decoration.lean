import SqlTemplate.Proofs.Template.Declared
/-!
# Declared types as decoration

A mapping of declared types is checked before the text of a template, entry by entry, and the first entry that is wrong
is what is reported. If none is, the text decides: it is accepted or refused as it is without declared types, with the
same fault at the same place, and the fragments are the same but for the types of parameters. A parameter has the type of
the last entry that is about its path.

`parse_decorates` says all of this. The declarations of a mapping are read off it by `declaresType_typeOf`, and
`scan_error_retype` says that a refused text is refused alike whatever is declared.
-/

namespace SqlTemplate

/-! ## Entries of a mapping -/

/-- An entry is about a path and names a type. -/
def AcceptedEntry (table : TypeTable) (entry : String × String) : Prop :=
  (∃ path, Path.ofExpression entry.1.toList = .ok path) ∧ ∃ type, table.find? entry.2 = some type

/-- What is wrong with an entry: its expression, and if that is a path, the name of its type. -/
inductive EntryFault (table : TypeTable) (entry : String × String) : ParseFault → Prop where
  | expression {fault : PathFault} (h : Path.ofExpression entry.1.toList = .error fault) :
    EntryFault table entry (.badDeclaration fault)
  | typeName {path : Path} (hpath : Path.ofExpression entry.1.toList = .ok path)
    (h : table.find? entry.2 = none) : EntryFault table entry (.unknownType entry.2)

/-- The first entry of a mapping that is not accepted, and what is wrong with it. -/
def FirstEntryFault (table : TypeTable) (types : List (String × String)) (fault : ParseFault) : Prop :=
  ∃ before entry after, types = before ++ entry :: after ∧
    (∀ earlier ∈ before, AcceptedEntry table earlier) ∧ EntryFault table entry fault

theorem acceptedEntry_iff {table : TypeTable} {entry : String × String} :
    AcceptedEntry table entry ↔ ∃ declared, declaration table entry = .ok declared := by
  constructor
  · rintro ⟨⟨path, hpath⟩, type, htype⟩
    exact ⟨(path, type), declaration_eq_ok_iff.mpr ⟨hpath, htype⟩⟩
  · rintro ⟨⟨path, type⟩, h⟩
    obtain ⟨hpath, htype⟩ := declaration_eq_ok_iff.mp h
    exact ⟨⟨path, hpath⟩, type, htype⟩

theorem declaration_eq_error_iff {table : TypeTable} {entry : String × String} {fault : ParseFault} :
    declaration table entry = .error fault ↔ EntryFault table entry fault := by
  rw [declaration]
  constructor
  · intro h
    cases hpath : Path.ofExpression entry.1.toList with
    | error badPath =>
      rw [hpath] at h
      obtain rfl := Except.error.inj h
      exact .expression hpath
    | ok path =>
      rw [hpath] at h
      cases htype : table.find? entry.2 with
      | none =>
        rw [htype] at h
        obtain rfl := Except.error.inj h
        exact .typeName hpath htype
      | some type =>
        rw [htype] at h
        cases h
  · intro h
    cases h with
    | expression hpath => rw [hpath]
    | typeName hpath htype => rw [hpath, htype]

/-- The first fault is that of the first entry, or the first one behind an entry that is accepted. -/
theorem firstEntryFault_cons_iff {table : TypeTable} {entry : String × String}
    {types : List (String × String)} {fault : ParseFault} :
    FirstEntryFault table (entry :: types) fault ↔
      EntryFault table entry fault ∨ AcceptedEntry table entry ∧ FirstEntryFault table types fault := by
  constructor
  · rintro ⟨before, other, after, hsplit, hbefore, hfault⟩
    cases before with
    | nil =>
      obtain ⟨rfl, -⟩ := List.cons.inj hsplit
      exact .inl hfault
    | cons earlier before =>
      obtain ⟨rfl, rfl⟩ := List.cons.inj hsplit
      obtain ⟨haccepted, hbefore⟩ := List.forall_mem_cons.mp hbefore
      exact .inr ⟨haccepted, before, other, after, rfl, hbefore, hfault⟩
  · rintro (hfault | ⟨haccepted, before, other, after, rfl, hbefore, hfault⟩)
    · exact ⟨[], entry, types, rfl, by simp, hfault⟩
    · exact ⟨entry :: before, other, after, rfl, List.forall_mem_cons.mpr ⟨haccepted, hbefore⟩, hfault⟩

/-- A mapping is refused for its first entry that is not accepted. -/
theorem declarationsOf_eq_error_iff {table : TypeTable} {types : List (String × String)}
    {fault : ParseFault} : declarationsOf table types = .error fault ↔ FirstEntryFault table types fault := by
  rw [declarationsOf]
  induction types with
  | nil => simp [FirstEntryFault, pure, Except.pure]
  | cons entry types ih =>
    rw [List.mapM_cons, firstEntryFault_cons_iff, ← declaration_eq_error_iff, acceptedEntry_iff, ← ih]
    cases hentry : declaration table entry with
    | error first => simp [bind, Except.bind]
    | ok declared =>
      cases hmore : types.mapM (declaration table) with
      | error later => simp [bind, Except.bind]
      | ok more => simp [bind, Except.bind, pure, Except.pure]

/-! ## The type that a mapping declares -/

/-- The type that a mapping declares for a path: that of the last entry about the path, and `unknown` if no entry is. -/
inductive DeclaresType (table : TypeTable) (types : List (String × String)) (path : Path) : SqlType → Prop where
  | last {before after : List (String × String)} {entry : String × String} {type : SqlType}
    (hsplit : types = before ++ entry :: after) (hpath : Path.ofExpression entry.1.toList = .ok path)
    (htype : table.find? entry.2 = some type)
    (hlast : ∀ later ∈ after, Path.ofExpression later.1.toList ≠ .ok path) : DeclaresType table types path type
  | none (h : ∀ entry ∈ types, Path.ofExpression entry.1.toList ≠ .ok path) :
    DeclaresType table types path .unknown

/-- A declaration counts if no later one is for the same path. -/
theorem typeOf_cons (declared : Path × SqlType) (declarations : Declarations) (path : Path) :
    Declarations.typeOf (declared :: declarations) path
      = if path ∈ declarations.map (·.1) then declarations.typeOf path
        else if declared.1 = path then declared.2 else .unknown := by
  have hfind : (declarations.reverse.find? (·.1 == path)).isSome = true ↔ path ∈ declarations.map (·.1) := by
    rw [List.find?_isSome]
    simp
  rw [Declarations.typeOf, Declarations.typeOf, List.reverse_cons, List.find?_append]
  cases hfound : declarations.reverse.find? (·.1 == path) with
  | some found =>
    rw [if_pos (hfind.mp (by rw [hfound]; rfl))]
    rfl
  | none =>
    have hnot : path ∉ declarations.map (·.1) := by
      rw [← hfind, hfound]
      simp
    rw [if_neg hnot]
    by_cases hpath : declared.1 = path
    · simp [hpath]
    · simp [hpath]

/-- The paths with declarations are those that entries are about. -/
theorem mem_map_fst_iff_exists_entry {table : TypeTable} {types : List (String × String)}
    {declarations : Declarations} (h : declarationsOf table types = .ok declarations) {path : Path} :
    path ∈ declarations.map (·.1) ↔ ∃ entry ∈ types, Path.ofExpression entry.1.toList = .ok path := by
  constructor
  · intro hpath
    obtain ⟨⟨_, type⟩, hdeclaration, rfl⟩ := List.mem_map.mp hpath
    obtain ⟨entry, hentry, hdenotes, -⟩ := (mem_declarationsOf_iff h).mp hdeclaration
    exact ⟨entry, hentry, hdenotes⟩
  · rintro ⟨entry, hentry, hdenotes⟩
    obtain ⟨⟨path', type⟩, hok⟩ := exists_declarationsOf_iff.mp ⟨_, h⟩ entry hentry
    obtain ⟨hdenotes', hname⟩ := declaration_eq_ok_iff.mp hok
    obtain rfl : path = path' := by rwa [hdenotes, Except.ok.injEq] at hdenotes'
    exact List.mem_map_of_mem ((mem_declarationsOf_iff h).mpr ⟨entry, hentry, hdenotes, hname⟩)

/-- The declarations of a mapping give each path the type that the mapping declares for it. -/
theorem declaresType_typeOf {table : TypeTable} {types : List (String × String)} {declarations : Declarations}
    (h : declarationsOf table types = .ok declarations) (path : Path) :
    DeclaresType table types path (declarations.typeOf path) := by
  have hforall := declarationsOf_eq_ok_iff.mp h
  clear h
  induction hforall with
  | nil => exact .none (by simp)
  | @cons entry declared types declarations hentry hmore ih =>
    obtain ⟨hpath, htype⟩ := declaration_eq_ok_iff.mp hentry
    have hmem : path ∈ declarations.map (·.1) ↔ ∃ later ∈ types, Path.ofExpression later.1.toList = .ok path :=
      mem_map_fst_iff_exists_entry (declarationsOf_eq_ok_iff.mpr hmore)
    rw [typeOf_cons]
    by_cases hlater : path ∈ declarations.map (·.1)
    · rw [if_pos hlater]
      generalize Declarations.typeOf declarations path = type at ih ⊢
      cases ih with
      | @last before after other type hsplit hpath htype hlast =>
        have hlonger : entry :: types = (entry :: before) ++ other :: after := by
          rw [hsplit]
          rfl
        exact .last hlonger hpath htype hlast
      | none hnone =>
        obtain ⟨later, hmem', hdenotes⟩ := hmem.mp hlater
        exact absurd hdenotes (hnone later hmem')
    · rw [if_neg hlater]
      have hafter : ∀ later ∈ types, Path.ofExpression later.1.toList ≠ .ok path :=
        fun later hmem' hdenotes => hlater (hmem.mpr ⟨later, hmem', hdenotes⟩)
      by_cases hself : declared.1 = path
      · rw [if_pos hself]
        subst hself
        exact .last (List.nil_append (entry :: types)).symm hpath htype hafter
      · rw [if_neg hself]
        refine .none (List.forall_mem_cons.mpr ⟨?_, hafter⟩)
        rw [hpath, ne_eq, Except.ok.injEq]
        exact hself

/-! ## A text that is refused -/

/-- What a placeholder denotes depends on the declarations only in its type. -/
theorem placeholder_map_retype (declarations others : Declarations) (body : List Char) :
    (placeholder declarations body).map (·.retype others) = placeholder others body := by
  simp only [placeholder]
  split
  · rfl
  · split
    · cases Path.ofExpression ((Text.trim body).drop 4) <;> rfl
    · cases Path.ofExpression (Text.trim body) <;> rfl

theorem Blocks.retype {declarations : Declarations} {position : Nat} {opens : List Nat} {text : List Char}
    {fault : LocatedFault} (h : Blocks declarations position opens text fault) (others : Declarations) :
    Blocks others position opens text fault := by
  cases h with
  | unclosedEscape => exact .unclosedEscape
  | unmatchedClose => exact .unmatchedClose
  | unclosedPlaceholder hbody hmark hrest => exact .unclosedPlaceholder hbody hmark hrest
  | nestedOpen hbody hmark hrest => exact .nestedOpen hbody hmark hrest
  | @badBody _ body _ _ hbody hmark hfault =>
    refine .badBody hbody hmark ?_
    rw [← placeholder_map_retype declarations others body, hfault]
    rfl

/-- A text is refused with the same fault whatever is declared. -/
theorem scan_error_retype {declarations : Declarations} {text : List Char} {fault : LocatedFault}
    (h : scan declarations 0 [] text = .error fault) (others : Declarations) :
    scan others 0 [] text = .error fault := by
  obtain ⟨done, ahead, pieces, opens, rfl, hreads, hblocks⟩ := scan_eq_error_iff.mp h
  exact scan_eq_error_iff.mpr ⟨done, ahead, _, opens, rfl, hreads.retype others, hblocks.retype others⟩

section

variable {table : TypeTable} {types : List (String × String)} {source : String}

theorem declarationsOf_nil (table : TypeTable) : declarationsOf table [] = .ok [] := rfl

theorem exists_declarationsOf_iff_accepted :
    (∃ declarations, declarationsOf table types = .ok declarations) ↔
      ∀ entry ∈ types, AcceptedEntry table entry := by
  simp only [exists_declarationsOf_iff, acceptedEntry_iff]

/-- A template compiles with a mapping if it does without and all entries are accepted. -/
theorem exists_parse_iff_accepted :
    (∃ template, Template.parse table source types = .ok template) ↔
      (∃ plain, Template.parse table source [] = .ok plain) ∧ ∀ entry ∈ types, AcceptedEntry table entry := by
  rw [← exists_declarationsOf_iff_accepted]
  constructor
  · rintro ⟨template, h⟩
    exact ⟨⟨_, parse_retype h (declarationsOf_nil table)⟩, exists_declarationsOf_of_parse h⟩
  · rintro ⟨⟨plain, hplain⟩, declarations, hdeclared⟩
    exact ⟨_, parse_retype hplain hdeclared⟩

/-- With declared types that are accepted, a text has the faults that it has without declared types. -/
theorem parse_eq_error_iff_of_accepted (h : ∀ entry ∈ types, AcceptedEntry table entry) (fault : ParseFault) :
    Template.parse table source types = .error fault ↔ Template.parse table source [] = .error fault := by
  obtain ⟨declarations, hdeclared⟩ := exists_declarationsOf_iff_accepted.mpr h
  simp only [Template.parse, Template.ofText, hdeclared, declarationsOf_nil]
  cases hscan : scan declarations 0 [] source.toList with
  | error located => rw [scan_error_retype hscan []]
  | ok pieces =>
    have hplain := (scan_eq_ok_iff.mp hscan).retype []
    rw [scan_eq_ok_iff.mpr hplain]
    constructor <;> intro h <;> cases h

/-- The first entry that is not accepted is reported whatever the text is. -/
theorem parse_of_firstEntryFault {fault : ParseFault} (h : FirstEntryFault table types fault) :
    Template.parse table source types = .error fault := by
  rw [Template.parse, declarationsOf_eq_error_iff.mpr h]

/-! ## Decorated fragments -/

/-- A fragment without a type, and the same fragment with the type that a mapping declares for its path. -/
inductive Decorates (table : TypeTable) (types : List (String × String)) : Fragment → Fragment → Prop where
  | literal (text : String) : Decorates table types (.literal text) (.literal text)
  | parameter {path : Path} {type : SqlType} (h : DeclaresType table types path type) :
    Decorates table types (.parameter path .unknown) (.parameter path type)
  | substitution (path : Path) : Decorates table types (.substitution path) (.substitution path)

/-- Compiled with declared types, a template has the fragments that it has without them, decorated. -/
theorem forall₂_decorates {plain template : Template} (hplain : Template.parse table source [] = .ok plain)
    (h : Template.parse table source types = .ok template) :
    List.Forall₂ (Decorates table types) plain.fragments template.fragments := by
  obtain ⟨declarations, hdeclared⟩ := exists_declarationsOf_of_parse h
  have hretyped := parse_retype hplain hdeclared
  rw [h, Except.ok.injEq] at hretyped
  rw [congrArg Template.fragments hretyped, List.forall₂_map_right_iff, List.forall₂_same]
  intro fragment hmem
  cases fragment with
  | literal text => exact .literal text
  | parameter path type =>
    obtain rfl : SqlType.unknown = type := typeOf_of_parse hplain (declarationsOf_nil table) hmem
    exact .parameter (declaresType_typeOf hdeclared path)
  | substitution path => exact .substitution path

end

/-- Declared types only decorate. A template compiles with a mapping of declared types if it does without and every entry
of the mapping is about a path and names a type; its fragments are then the same, each parameter with the type of the
last entry about its path. Otherwise the fault is that of the first entry that is not accepted, and if all are, that of
the text. -/
theorem parse_decorates (table : TypeTable) (types : List (String × String)) (source : String) :
    ((∃ template, Template.parse table source types = .ok template) ↔
        (∃ plain, Template.parse table source [] = .ok plain) ∧
          ∀ entry ∈ types, AcceptedEntry table entry) ∧
      (∀ plain template, Template.parse table source [] = .ok plain →
        Template.parse table source types = .ok template →
        template.source = plain.source ∧
          List.Forall₂ (Decorates table types) plain.fragments template.fragments) ∧
      ∀ fault, Template.parse table source types = .error fault ↔
        FirstEntryFault table types fault ∨
          (∀ entry ∈ types, AcceptedEntry table entry) ∧ Template.parse table source [] = .error fault := by
  refine ⟨exists_parse_iff_accepted, ?_, fun fault => ⟨?_, ?_⟩⟩
  · intro plain template hplain h
    exact ⟨(source_of_parse h).trans (source_of_parse hplain).symm, forall₂_decorates hplain h⟩
  · intro h
    cases hdeclared : declarationsOf table types with
    | error first =>
      have hfirst := declarationsOf_eq_error_iff.mp hdeclared
      rw [parse_of_firstEntryFault hfirst, Except.error.injEq] at h
      exact .inl (h ▸ hfirst)
    | ok declarations =>
      have haccepted := exists_declarationsOf_iff_accepted.mp ⟨declarations, hdeclared⟩
      exact .inr ⟨haccepted, (parse_eq_error_iff_of_accepted haccepted fault).mp h⟩
  · rintro (hfirst | ⟨haccepted, hplain⟩)
    · exact parse_of_firstEntryFault hfirst
    · exact (parse_eq_error_iff_of_accepted haccepted fault).mpr hplain

/-- Two entries for one path in an escape sequence, an entry for no path of the text, and a text that is refused: the last
entry for the path decides, the first entry that is not accepted is reported though the text is refused too, and without
such an entry the text's own fault is. -/
theorem parse_decorates_respelled :
    let types := [(" e . n ", "INT"), ("other", "DATE"), ("e.n", "text")]
    let path : Path := ⟨["e", "n"], by simp, by decide +kernel⟩
    let source := "\x7bfn f(\x7be .n\x7d)\x7d"
    let fragments (type : SqlType) : List Fragment :=
      [.literal "\x7bfn f(", .parameter path type, .literal ")\x7d"]
    (∃ template, Template.parse .standard source types = .ok template ∧
        List.Forall₂ (Decorates .standard types) (fragments .unknown) template.fragments ∧
        template.fragments = fragments .longVarChar) ∧
      Template.parse .standard "\x7b" (types ++ [("e.n", "no type"), ("e-n", "INT")])
        = .error (.unknownType "no type") ∧
      Template.parse .standard "\x7b" types = .error (.malformed ⟨.unclosedPlaceholder, 0⟩) := by
  intro types path source fragments
  have hplain : Template.parse .standard source [] = .ok ⟨source, fragments .unknown⟩ := by decide +kernel
  have htyped : Template.parse .standard source types = .ok ⟨source, fragments .longVarChar⟩ := by decide +kernel
  have haccepted : ∀ entry ∈ types, AcceptedEntry .standard entry := by
    rw [← exists_declarationsOf_iff_accepted]
    exact exists_declarationsOf_of_parse htyped
  obtain ⟨-, hdecorates, -⟩ := parse_decorates .standard types source
  have hfaults := (parse_decorates .standard (types ++ [("e.n", "no type"), ("e-n", "INT")]) "\x7b").2.2
  have hfault := (parse_decorates .standard types "\x7b").2.2
  refine ⟨⟨_, htyped, (hdecorates _ _ hplain htyped).2, rfl⟩, ?_, ?_⟩
  · refine (hfaults _).mpr (.inl ⟨types, ("e.n", "no type"), [("e-n", "INT")], rfl, haccepted, ?_⟩)
    have hpath : Path.ofExpression "e.n".toList = .ok path := by decide +kernel
    exact .typeName hpath (by decide +kernel)
  · exact (hfault _).mpr (.inr ⟨haccepted, by decide +kernel⟩)

end SqlTemplate
