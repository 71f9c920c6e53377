import SqlTemplate.Proofs.Invocation
/-!
# Methods known by the names of their parameters

A method may be known by the names of its parameters only. A function with these parameters, each to be passed by position
or by name and without a default, takes a call just when it has one argument for each: the first ones by position and
all others by keyword (`FitsNames`, `Signature.exists_bind_ofNames_iff`).

Without keywords, a method that is known by names takes the same calls and gives the same arguments. With keywords it
takes every call: arguments by position are paired with the names as far as both go, and the keywords are set on top of
that, whatever their names. So the two agree just when the call has no keywords or fits the names
(`bindCall_ofNames_agree_iff`); `bindCall_ofNames_overwrites` shows a call about which they differ.
-/

namespace SqlTemplate

open Text

/-- A call has one argument for each of some names: by position for the first ones, by keyword for all others. -/
structure FitsNames (names : List String) (positional : List Value) (keywords : Arguments) : Prop where
  length_le : positional.length ≤ names.length
  keywords_perm : (keywords.map (·.1)).Perm (names.drop positional.length)

section

variable {names : List String} {positional : List Value} {keywords bound others arguments : Arguments}

/-! ## Arguments paired with names -/

theorem map_fst_zip_of_length_le (h : positional.length ≤ names.length) :
    (names.zip positional).map (·.1) = names.take positional.length := by
  induction names generalizing positional with
  | nil =>
    obtain rfl : positional = [] := by simpa using h
    rfl
  | cons name names ih =>
    cases positional with
    | nil => rfl
    | cons value positional =>
      rw [List.zip_cons_cons, List.map_cons, List.length_cons, List.take_succ_cons, ih (Nat.le_of_succ_le_succ h)]

/-- The arguments of a call that fits have the names, in some order. -/
theorem FitsNames.map_fst_perm (h : FitsNames names positional keywords) :
    ((names.zip positional ++ keywords).map (·.1)).Perm names := by
  rw [List.map_append, map_fst_zip_of_length_le h.length_le]
  have hperm := h.keywords_perm.append_left (names.take positional.length)
  rwa [List.take_append_drop] at hperm

/-- Without keywords a call fits if it has as many arguments as there are names. -/
theorem fitsNames_nil_iff : FitsNames names positional [] ↔ positional.length = names.length := by
  constructor
  · intro h
    have hnone : names.drop positional.length = [] := h.keywords_perm.symm.eq_nil
    exact Nat.le_antisymm h.length_le (List.drop_eq_nil_iff.mp hnone)
  · intro h
    refine ⟨Nat.le_of_eq h, ?_⟩
    rw [h, List.drop_length]
    exact .refl []

namespace Signature

/-- The signature of a function with parameters of some names, each to be passed by position or by name and without a
default. -/
def ofNames (names : List String) : Signature :=
  ⟨names.map .plain, .absent⟩

/-! ## The two passes -/

theorem bindPositions_plain_nil (keywords : Arguments) (name : String) (more : List Parameter) :
    bindPositions keywords (.plain name :: more) []
      = if hasName name keywords then .ok ([], .plain name :: more) else .error (.missing name) := by
  simp [bindPositions, Parameter.plain]

theorem bindPositions_plain_cons (keywords : Arguments) (name : String) (more : List Parameter) (value : Value)
    (values : List Value) :
    bindPositions keywords (.plain name :: more) (value :: values)
      = if hasName name keywords then .error (.repeated name)
        else (bindPositions keywords more values).map fun (bound, left) => ((name, value) :: bound, left) := rfl

theorem bindKeywords_plain_cons (name : String) (more : List Parameter) (keywords : Arguments) :
    bindKeywords (.plain name :: more) keywords
      = match keywords.lookup name with
        | some value =>
          (bindKeywords more (withoutName name keywords)).map fun (bound, left) => ((name, value) :: bound, left)
        | none => .error (.missing name) := by
  rw [bindKeywords, if_neg (by simp [Parameter.plain])]
  cases hlookup : keywords.lookup name <;> simp [Parameter.plain, hlookup]

/-- Positions that are bound are paired with the names, and the names behind are left for keywords. -/
theorem bindPositions_plain_eq_ok {left : List Parameter}
    (h : bindPositions keywords (names.map .plain) positional = .ok (bound, left)) :
    positional.length ≤ names.length ∧ bound = names.zip positional ∧
      left = (names.drop positional.length).map .plain := by
  induction names generalizing positional bound left with
  | nil =>
    cases positional with
    | nil =>
      cases h
      exact ⟨Nat.le_refl _, rfl, rfl⟩
    | cons value positional => cases h
  | cons name names ih =>
    cases positional with
    | nil =>
      rw [List.map_cons, bindPositions_plain_nil] at h
      split at h
      · cases h
        exact ⟨Nat.zero_le _, rfl, rfl⟩
      · cases h
    | cons value positional =>
      rw [List.map_cons, bindPositions_plain_cons] at h
      split at h
      · cases h
      · cases hmore : bindPositions keywords (names.map .plain) positional with
        | error fault =>
          rw [hmore] at h
          cases h
        | ok more =>
          rw [hmore] at h
          obtain ⟨hlength, hbound, hleft⟩ := ih hmore
          cases h
          exact ⟨Nat.succ_le_succ hlength, congrArg _ hbound, hleft⟩

/-- The positions of a call that fits are bound. -/
theorem bindPositions_plain_of_fits (hnames : names.Nodup) (h : FitsNames names positional keywords) :
    bindPositions keywords (names.map .plain) positional
      = .ok (names.zip positional, (names.drop positional.length).map .plain) := by
  have hkeyword (name : String) : hasName name keywords = true ↔ name ∈ names.drop positional.length := by
    rw [hasName_eq_true_iff, h.keywords_perm.mem_iff]
  have hlength := h.length_le
  clear h
  induction names generalizing positional with
  | nil =>
    obtain rfl : positional = [] := by simpa using hlength
    rfl
  | cons name names ih =>
    obtain ⟨hfirst, hmore⟩ := List.nodup_cons.mp hnames
    cases positional with
    | nil =>
      have hname : hasName name keywords = true := (hkeyword name).mpr List.mem_cons_self
      rw [List.map_cons, bindPositions_plain_nil, if_pos hname]
      rfl
    | cons value positional =>
      -- the names that keywords have are behind this one
      have hname : ¬ hasName name keywords = true := by
        rw [hkeyword, List.length_cons, List.drop_succ_cons]
        exact fun hmem => hfirst (List.mem_of_mem_drop hmem)
      rw [List.map_cons, bindPositions_plain_cons, if_neg hname, ih hmore hkeyword (Nat.le_of_succ_le_succ hlength)]
      rfl

/-- Keywords that are bound have the names of the parameters, and make up the mapping together with the others. -/
theorem bindKeywords_plain_eq_ok (hkeywords : (keywords.map (·.1)).Nodup)
    (h : bindKeywords (names.map .plain) keywords = .ok (bound, others)) :
    bound.map (·.1) = names ∧ keywords.Perm (bound ++ others) := by
  induction names generalizing keywords bound with
  | nil =>
    cases h
    exact ⟨rfl, .refl _⟩
  | cons name names ih =>
    rw [List.map_cons, bindKeywords_plain_cons] at h
    cases hlookup : keywords.lookup name with
    | none =>
      rw [hlookup] at h
      cases h
    | some value =>
      rw [hlookup] at h
      cases hmore : bindKeywords (names.map .plain) (withoutName name keywords) with
      | error fault =>
        simp only [hmore] at h
        cases h
      | ok more =>
        obtain ⟨boundMore, left⟩ := more
        simp only [hmore] at h
        cases h
        have hkept : ((withoutName name keywords).map (·.1)).Nodup :=
          hkeywords.sublist (List.filter_sublist.map _)
        obtain ⟨hbound, hperm⟩ := ih hkept hmore
        exact ⟨congrArg _ hbound, (perm_cons_withoutName hkeywords hlookup).trans (hperm.cons _)⟩

/-- Keywords are bound if there is one for each parameter. -/
theorem exists_bindKeywords_plain (hnames : names.Nodup) (h : ∀ name ∈ names, name ∈ keywords.map (·.1)) :
    ∃ result, bindKeywords (names.map .plain) keywords = .ok result := by
  induction names generalizing keywords with
  | nil => exact ⟨_, rfl⟩
  | cons name names ih =>
    obtain ⟨hfirst, hmore⟩ := List.nodup_cons.mp hnames
    obtain ⟨value, hlookup⟩ := exists_lookup_of_mem (h name List.mem_cons_self)
    have hkept : ∀ other ∈ names, other ∈ (withoutName name keywords).map (·.1) := by
      intro other hother
      obtain ⟨keyword, hkeyword, rfl⟩ := List.mem_map.mp (h other (List.mem_cons_of_mem name hother))
      have hne : keyword.1 ≠ name := by
        rintro rfl
        exact hfirst hother
      exact List.mem_map_of_mem (List.mem_filter.mpr ⟨hkeyword, bne_iff_ne.mpr hne⟩)
    obtain ⟨⟨bound, left⟩, hresult⟩ := ih hmore hkept
    rw [List.map_cons, bindKeywords_plain_cons, hlookup]
    simp only [hresult]
    exact ⟨_, rfl⟩

/-! ## Binding -/

/-- Arguments for all parameters, in their order, are what they are with defaults. -/
theorem withDefaults_eq_self {parameters : List Parameter} (hnames : (parameters.map (·.name)).Nodup)
    (h : bound.map (·.1) = parameters.map (·.name)) : withDefaults parameters bound = bound := by
  -- every parameter is looked up in all of the arguments, so the induction is on a part of them
  have hpart : ∀ (parameters : List Parameter) (part : Arguments), part ⊆ bound →
      part.map (·.1) = parameters.map (·.name) → withDefaults parameters bound = part := by
    intro parameters
    induction parameters with
    | nil =>
      intro part _ hnone
      exact (List.map_eq_nil_iff.mp hnone).symm
    | cons p parameters ih =>
      intro part hpart hsame
      cases part with
      | nil => cases hsame
      | cons argument more =>
        obtain ⟨hfirst, hmore⟩ : argument.1 = p.name ∧ more.map (·.1) = parameters.map (·.name) :=
          List.cons.inj hsame
        obtain ⟨hmem, hsubset⟩ := List.cons_subset.mp hpart
        have hlookup : bound.lookup p.name = some argument.2 := by
          rw [← hfirst]
          exact lookup_of_mem (h ▸ hnames) hmem
        rw [withDefaults, List.filterMap_cons, hlookup, ← withDefaults, ih more hsubset hmore, ← hfirst]
  exact hpart parameters bound (List.Subset.refl _) h

theorem find?_keywordRest_plain (names : List String) :
    (names.map Parameter.plain).find? (·.kind == .keywordRest) = none := by
  simp [List.find?_eq_none, Parameter.plain]

/-- A call that fits is bound to the arguments it has. -/
theorem exists_bind_of_fits (hnames : names.Nodup) (hkeywords : (keywords.map (·.1)).Nodup)
    (h : FitsNames names positional keywords) :
    ∃ arguments, (ofNames names).bind positional keywords = .ok arguments ∧
      arguments.Perm (names.zip positional ++ keywords) := by
  have hleft : (names.drop positional.length).Nodup := hnames.sublist (List.drop_sublist _ _)
  obtain ⟨⟨byName, others⟩, hbound⟩ :=
    exists_bindKeywords_plain hleft fun name hname => h.keywords_perm.mem_iff.mpr hname
  obtain ⟨hbyName, hperm⟩ := bindKeywords_plain_eq_ok hkeywords hbound
  -- the keywords that are bound have all the names there are, so no others are left
  have hnone : others = [] := by
    have hlength := (hperm.map (·.1)).symm.trans h.keywords_perm
    rw [List.map_append, hbyName] at hlength
    simpa using hlength.length_eq
  subst hnone
  rw [List.append_nil] at hperm
  have hall : (names.zip positional ++ byName).map (·.1) = (names.map Parameter.plain).map (·.name) := by
    rw [List.map_append, map_fst_zip_of_length_le h.length_le, hbyName, List.take_append_drop, List.map_map]
    exact (List.map_id names).symm
  have hdistinct : ((names.map Parameter.plain).map (·.name)).Nodup := by
    rw [List.map_map]
    exact (List.map_id names).symm ▸ hnames
  refine ⟨names.zip positional ++ byName, ?_, hperm.symm.append_left _⟩
  rw [bind, ofNames, bindPositions_plain_of_fits hnames h]
  simp only [Bind.bind, Except.bind, hbound, withDefaults_eq_self hdistinct hall]

/-- Only a call that fits is bound. -/
theorem fits_of_bind (hkeywords : (keywords.map (·.1)).Nodup)
    (h : (ofNames names).bind positional keywords = .ok arguments) : FitsNames names positional keywords := by
  rw [bind, ofNames] at h
  cases hpositions : bindPositions keywords (names.map .plain) positional with
  | error fault =>
    rw [hpositions] at h
    cases h
  | ok positions =>
    obtain ⟨byPosition, left⟩ := positions
    obtain ⟨hlength, -, rfl⟩ := bindPositions_plain_eq_ok hpositions
    rw [hpositions] at h
    cases hnames : bindKeywords ((names.drop positional.length).map .plain) keywords with
    | error fault =>
      simp only [Bind.bind, Except.bind, hnames] at h
      cases h
    | ok byName =>
      obtain ⟨byName, others⟩ := byName
      simp only [Bind.bind, Except.bind, hnames, find?_keywordRest_plain] at h
      obtain ⟨hbyName, hperm⟩ := bindKeywords_plain_eq_ok hkeywords hnames
      cases others with
      | cons other others => cases h
      | nil =>
        rw [List.append_nil] at hperm
        exact ⟨hlength, hbyName ▸ hperm.map (·.1)⟩

end Signature

/-! ## Calls of a method that is known by names -/

namespace Invocation

/-- Two ways of binding a call both refuse it, or give it the same arguments, in whatever order. -/
inductive Agree : Except InvocationFault Invocation → Except InvocationFault Invocation → Prop where
  | refused (fault fault' : InvocationFault) : Agree (.error fault) (.error fault')
  | bound {a b : Invocation} (h : a.arguments.Perm b.arguments) : Agree (.ok a) (.ok b)

variable {name function : String}

/-- The arguments of a call that fits are merged as they are. -/
theorem ofArguments_of_fits {method : Method} (hnames : names.Nodup) (h : FitsNames names positional keywords) :
    ofArguments method (names.zip positional ++ keywords) = ⟨method, names.zip positional ++ keywords⟩ := by
  rw [ofArguments, namedOfList_eq_self (h.map_fst_perm.nodup_iff.mpr hnames)]

theorem parameterNames_ofNames (name : String) (names : List String) :
    (Method.ofNames name names).parameterNames = names := by
  rw [Method.parameterNames, Method.ofNames, List.map_map]
  exact List.map_id names

/-- Without keywords a method takes one argument for each name. -/
theorem bind_ofNames_nil (name : String) (names : List String) (positional : List Value) :
    bind (.ofNames name names) positional []
      = if positional.length = names.length then
          .ok (ofArguments (.ofNames name names) (names.zip positional))
        else .error (.wrongCount name names.length positional.length) := by
  have hlength : (Method.ofNames name names).parameters.length = names.length := List.length_map _
  rw [bind, Method.ofNames]
  simp only [List.isEmpty_nil, if_true]
  rw [← Method.ofNames, ofPositions, hlength, parameterNames_ofNames]
  rfl

/-- With keywords it takes every call, and sets the keywords on top of what is passed by position. -/
theorem bind_ofNames_of_ne_nil (h : keywords ≠ []) :
    bind (.ofNames name names) positional keywords
      = .ok (ofArguments (.ofNames name names) (names.zip positional ++ keywords)) := by
  have hsome : ¬ keywords.isEmpty = true := by rwa [List.isEmpty_iff]
  rw [bind, Method.ofNames]
  simp only [if_neg hsome]
  rw [← Method.ofNames, parameterNames_ofNames]

/-- A method that is known by names gives a call that fits the arguments it has. -/
theorem bind_ofNames_of_fits (h : FitsNames names positional keywords) :
    bind (.ofNames name names) positional keywords
      = .ok (ofArguments (.ofNames name names) (names.zip positional ++ keywords)) := by
  by_cases hkeywords : keywords = []
  · subst hkeywords
    rw [bind_ofNames_nil, if_pos (fitsNames_nil_iff.mp h), List.append_nil]
  · exact bind_ofNames_of_ne_nil hkeywords

/-- A function with parameters of some names takes just the calls that fit the names. -/
theorem exists_bind_ofNames_iff (hnames : names.Nodup) (hkeywords : (keywords.map (·.1)).Nodup) (function : String) :
    (∃ invocation, bind (.ofSignature function (.ofNames names)) positional keywords = .ok invocation) ↔
      FitsNames names positional keywords := by
  constructor
  · rintro ⟨invocation, h⟩
    cases hbind : (Signature.ofNames names).bind positional keywords with
    | error fault =>
      rw [bind_of_error hbind] at h
      cases h
    | ok arguments => exact Signature.fits_of_bind hkeywords hbind
  · intro h
    obtain ⟨arguments, hbind, -⟩ := Signature.exists_bind_of_fits hnames hkeywords h
    exact ⟨_, bind_of_ok hbind⟩

/-- Both ways of binding agree about a call that fits. -/
theorem agree_of_fits (hnames : names.Nodup) (hkeywords : (keywords.map (·.1)).Nodup)
    (h : FitsNames names positional keywords) (name function : String) :
    Agree (bind (.ofNames name names) positional keywords)
      (bind (.ofSignature function (.ofNames names)) positional keywords) := by
  obtain ⟨arguments, hbind, hperm⟩ := Signature.exists_bind_of_fits hnames hkeywords h
  have hdistinct : (arguments.map (·.1)).Nodup :=
    ((hperm.map (·.1)).trans h.map_fst_perm).nodup_iff.mpr hnames
  rw [bind_ofNames_of_fits h, bind_of_ok hbind, ofArguments_of_fits hnames h, ofArguments,
    namedOfList_eq_self hdistinct]
  exact .bound hperm.symm

/-- A method that is known by the names of its parameters, and a function with these parameters, each to be passed by
position or by name and without a default. They agree about a call, each refusing it or both giving the same arguments,
just when the call has no keywords, or fits the names. The function takes only calls that fit; the method takes every call
with a keyword, and sets the keywords on top of what is passed by position. -/
theorem bindCall_ofNames_agree_iff (hnames : names.Nodup) (hkeywords : (keywords.map (·.1)).Nodup)
    (hown : ¬ keywords.ClashesWith ["method", "cls"]) (positional : List Value) (name function : String) :
    (Agree (bindCall (.ofNames name names) positional keywords)
        (bindCall (.ofSignature function (.ofNames names)) positional keywords) ↔
      keywords = [] ∨ FitsNames names positional keywords) ∧
    ((∃ invocation, bindCall (.ofSignature function (.ofNames names)) positional keywords = .ok invocation) ↔
      FitsNames names positional keywords) ∧
    (keywords ≠ [] → bindCall (.ofNames name names) positional keywords
      = .ok (ofArguments (.ofNames name names) (names.zip positional ++ keywords))) := by
  rw [bindCall_of_not_clashes hown, bindCall_of_not_clashes hown]
  have htakes : (∃ invocation, bind (.ofSignature function (.ofNames names)) positional keywords = .ok invocation) ↔
      FitsNames names positional keywords := exists_bind_ofNames_iff hnames hkeywords function
  refine ⟨⟨?_, ?_⟩, htakes, bind_ofNames_of_ne_nil⟩
  · intro hagree
    by_cases hnone : keywords = []
    · exact .inl hnone
    · right
      rw [bind_ofNames_of_ne_nil hnone] at hagree
      rw [← htakes]
      generalize bind (.ofSignature function (.ofNames names)) positional keywords = outcome at hagree ⊢
      cases hagree
      exact ⟨_, rfl⟩
  · intro h
    by_cases hfits : FitsNames names positional keywords
    · exact agree_of_fits hnames hkeywords hfits name function
    · -- the call has no keywords then, and another number of arguments than there are names
      obtain rfl := h.resolve_right hfits
      rw [bind_ofNames_nil, if_neg (fitsNames_nil_iff.not.mp hfits)]
      cases houtcome : bind (.ofSignature function (.ofNames names)) positional [] with
      | error fault => exact .refused _ _
      | ok invocation => exact absurd (htakes.mp ⟨invocation, houtcome⟩) hfits

end Invocation

end

namespace Invocation

/-- One argument by position and the others by keyword, in another order than that of the parameters; and a call with a
keyword that is none of the names. -/
theorem bindCall_ofNames_agree_iff_reordered :
    let names := ["a", "b", "c"]
    let keywords : Arguments := [("c", .int 3), ("b", .int 2)]
    let unknown : Arguments := [("d", .int 4)]
    let byNames := bindCall (.ofNames "query" names) [.int 1]
    let bySignature := bindCall (.ofSignature "query" (.ofNames names)) [.int 1]
    names.Nodup ∧ (keywords.map (·.1)).Nodup ∧ ¬ keywords.ClashesWith ["method", "cls"] ∧
      FitsNames names [.int 1] keywords ∧ Agree (byNames keywords) (bySignature keywords) ∧
      ¬ Agree (byNames unknown) (bySignature unknown) := by
  intro names keywords unknown byNames bySignature
  have hnames : names.Nodup := by decide
  have hkeywords : (keywords.map (·.1)).Nodup := by decide
  have hunknown : (unknown.map (·.1)).Nodup := by decide
  have hclash : ¬ keywords.ClashesWith ["method", "cls"] := by
    rintro ⟨own, hown, hname⟩
    revert own
    decide
  have hother : ¬ unknown.ClashesWith ["method", "cls"] := by
    rintro ⟨own, hown, hname⟩
    revert own
    decide
  have hfits : FitsNames names [.int 1] keywords := ⟨by decide, .swap _ _ _⟩
  refine ⟨hnames, hkeywords, hclash, hfits, ?_, ?_⟩
  · exact (bindCall_ofNames_agree_iff hnames hkeywords hclash [.int 1] "query" "query").1.mpr (.inr hfits)
  · rw [(bindCall_ofNames_agree_iff hnames hunknown hother [.int 1] "query" "query").1]
    rintro (hnone | hfit)
    · exact absurd hnone (List.cons_ne_nil _ _)
    · exact absurd hfit.keywords_perm.length_eq (by decide)

/-- An argument that is passed by position and by keyword: the method takes the keyword for it, where the function refuses
the call. -/
theorem bindCall_ofNames_overwrites :
    let method := Method.ofNames "query" ["a"]
    let function := Method.ofSignature "query" (.ofNames ["a"])
    let keywords : Arguments := [("a", .int 2)]
    bindCall method [.int 1] keywords = .ok ⟨method, [("a", .int 2)]⟩ ∧
      bindCall function [.int 1] keywords = .error (.misfit (.repeated "a")) ∧
      ¬ Agree (bindCall method [.int 1] keywords) (bindCall function [.int 1] keywords) := by
  intro method function keywords
  have haccepted : bindCall method [.int 1] keywords = .ok ⟨method, [("a", .int 2)]⟩ := rfl
  have hrefused : bindCall function [.int 1] keywords = .error (.misfit (.repeated "a")) := rfl
  refine ⟨haccepted, hrefused, ?_⟩
  rw [haccepted, hrefused]
  intro hagree
  cases hagree

end Invocation

end SqlTemplate
