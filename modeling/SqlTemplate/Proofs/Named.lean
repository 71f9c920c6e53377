import Mathlib.Data.List.Nodup
import SqlTemplate.Named
/-!
# Lists of named things

`setNamed` puts a new name last, so pairs with different names are their own list of named things
(`namedOfList_eq_self`), and in such a list each name leads to the thing in its place (`lookup_zip`). A name leads to
something just when it is among the names (`lookup_eq_none_iff_not_mem`).
-/

namespace SqlTemplate

variable {α : Type}

theorem setNamed_of_not_mem {name : String} {entries : List (String × α)}
    (h : name ∉ entries.map (·.1)) (thing : α) :
    setNamed name thing entries = entries ++ [(name, thing)] := by
  induction entries with
  | nil => rfl
  | cons entry rest ih =>
    obtain ⟨hne, hrest⟩ : name ≠ entry.1 ∧ name ∉ rest.map (·.1) := by simpa using h
    rw [setNamed, if_neg (Ne.symm hne), ih hrest, List.cons_append]

/-- A name leads to nothing just when it is not among the names. -/
theorem lookup_eq_none_iff_not_mem {name : String} {entries : List (String × α)} :
    entries.lookup name = none ↔ name ∉ entries.map (·.1) := by
  rw [List.lookup_eq_none_iff, List.mem_map]
  constructor
  · rintro h ⟨entry, hmem, rfl⟩
    simpa using h entry hmem
  · intro h entry hmem
    rw [bne_iff_ne]
    rintro rfl
    exact h ⟨entry, hmem, rfl⟩

/-- What a name leads to stands beside it. -/
theorem mem_of_lookup {β : Type} [BEq β] [LawfulBEq β] {name : β} {thing : α} {entries : List (β × α)}
    (h : entries.lookup name = some thing) : (name, thing) ∈ entries := by
  obtain ⟨before, after, rfl, -⟩ := List.lookup_eq_some_iff.mp h
  exact List.mem_append_right _ List.mem_cons_self

theorem exists_lookup_of_mem {name : String} {entries : List (String × α)}
    (h : name ∈ entries.map (·.1)) : ∃ thing, entries.lookup name = some thing := by
  rw [← Option.ne_none_iff_exists', ne_eq, lookup_eq_none_iff_not_mem, not_not]
  exact h

theorem hasName_eq_true_iff {name : String} {entries : List (String × α)} :
    hasName name entries = true ↔ name ∈ entries.map (·.1) := by
  simp [hasName]

/-- A name leads to what it was set to last. -/
theorem lookup_setNamed (name other : String) (thing : α) (entries : List (String × α)) :
    (setNamed name thing entries).lookup other
      = if other = name then some thing else entries.lookup other := by
  induction entries with
  | nil =>
    rw [setNamed, List.lookup_cons]
    by_cases h : other = name
    · simp [h]
    · rw [if_neg h, beq_false_of_ne h]
  | cons entry rest ih =>
    rw [setNamed]
    by_cases hentry : entry.1 = name
    · subst hentry
      rw [if_pos rfl, List.lookup_cons, List.lookup_cons]
      by_cases h : other = entry.1
      · simp [h]
      · rw [if_neg h, beq_false_of_ne h]
    · rw [if_neg hentry, List.lookup_cons, List.lookup_cons, ih]
      by_cases h : other = name
      · subst h
        rw [if_pos rfl, if_pos rfl, beq_false_of_ne (Ne.symm hentry)]
      · rw [if_neg h, if_neg h]

/-- The names of a list are those that were set. -/
theorem mem_namedOfList {name : String} {pairs : List (String × α)} (h : name ∈ pairs.map (·.1)) :
    name ∈ (namedOfList pairs).map (·.1) := by
  have hkept {entries : List (String × α)} (pair : String × α)
      (hname : name = pair.1 ∨ name ∈ entries.map (·.1)) :
      name ∈ (setNamed pair.1 pair.2 entries).map (·.1) := by
    by_contra hnot
    rw [← lookup_eq_none_iff_not_mem, lookup_setNamed] at hnot
    rcases hname with heq | hmem
    · simp [heq] at hnot
    · obtain ⟨thing, hthing⟩ := exists_lookup_of_mem hmem
      rw [hthing] at hnot
      split at hnot <;> cases hnot
  -- a name is there before the pairs that are left, or among these
  have hfold : ∀ (pairs entries : List (String × α)),
      name ∈ entries.map (·.1) ∨ name ∈ pairs.map (·.1) →
      name ∈ (pairs.foldl (fun entries pair => setNamed pair.1 pair.2 entries) entries).map (·.1) := by
    intro pairs
    induction pairs with
    | nil => intro entries hname; simpa using hname
    | cons pair pairs ih =>
      intro entries hname
      rw [List.foldl_cons]
      apply ih
      rw [List.map_cons, List.mem_cons, ← or_assoc] at hname
      exact hname.imp_left fun hname => hkept pair hname.symm
  exact hfold pairs [] (.inr h)

/-- Setting new names one after the other appends them. -/
theorem foldl_setNamed {entries pairs : List (String × α)}
    (h : ((entries ++ pairs).map (·.1)).Nodup) :
    pairs.foldl (fun entries pair => setNamed pair.1 pair.2 entries) entries = entries ++ pairs := by
  induction pairs generalizing entries with
  | nil => simp
  | cons pair pairs ih =>
    have hnew : pair.1 ∉ entries.map (·.1) := by
      rw [List.map_append, List.map_cons, List.nodup_middle, List.nodup_cons] at h
      exact fun hmem => h.1 (List.mem_append_left _ hmem)
    rw [List.foldl_cons, setNamed_of_not_mem hnew, ih (by simpa using h)]
    simp

theorem namedOfList_eq_self {pairs : List (String × α)} (h : (pairs.map (·.1)).Nodup) :
    namedOfList pairs = pairs := by
  rw [namedOfList, foldl_setNamed (by simpa using h), List.nil_append]

/-- A name leads to the thing with its number. -/
theorem lookup_zip {names : List String} {things : List α} (h : names.Nodup) {place : Nat}
    {name : String} {thing : α} (hname : names[place]? = some name)
    (hthing : things[place]? = some thing) : (names.zip things).lookup name = some thing := by
  induction names generalizing things place with
  | nil => simp at hname
  | cons first names ih =>
    obtain ⟨hfirst, hnames⟩ := List.nodup_cons.mp h
    cases things with
    | nil => simp at hthing
    | cons other things =>
      cases place with
      | zero =>
        obtain rfl : first = name := by simpa using hname
        obtain rfl : other = thing := by simpa using hthing
        exact List.lookup_cons_self
      | succ place =>
        have hmem : name ∈ names := List.mem_of_getElem? (by simpa using hname)
        have hne : (name == first) = false := by
          rw [beq_eq_false_iff_ne]
          rintro rfl
          exact hfirst hmem
        rw [List.zip_cons_cons, List.lookup_cons, hne]
        exact ih hnames (by simpa using hname) (by simpa using hthing)

/-- In a list of named things a name leads to the thing it stands with. -/
theorem lookup_of_mem {entries : List (String × α)} (hnames : (entries.map (·.1)).Nodup) {entry : String × α}
    (h : entry ∈ entries) : entries.lookup entry.1 = some entry.2 := by
  induction entries with
  | nil => cases h
  | cons first rest ih =>
    obtain ⟨hfirst, hrest⟩ := List.nodup_cons.mp hnames
    rcases List.mem_cons.mp h with rfl | hmem
    · exact List.lookup_cons_self
    · have hne : (entry.1 == first.1) = false := by
        rw [beq_eq_false_iff_ne]
        intro heq
        exact hfirst (List.mem_map.mpr ⟨entry, hmem, heq⟩)
      rw [List.lookup_cons, hne]
      exact ih hrest hmem

/-- A list of named things is what it has under a name and what it has under the other names. -/
theorem perm_cons_withoutName {entries : List (String × α)} (hnames : (entries.map (·.1)).Nodup) {name : String}
    {thing : α} (h : entries.lookup name = some thing) :
    entries.Perm ((name, thing) :: withoutName name entries) := by
  induction entries with
  | nil => cases h
  | cons entry rest ih =>
    obtain ⟨hfirst, hrest⟩ := List.nodup_cons.mp hnames
    by_cases hname : entry.1 = name
    · subst hname
      rw [List.lookup_cons, beq_self_eq_true, Option.some.injEq] at h
      subst h
      have hkept : withoutName entry.1 (entry :: rest) = rest := by
        rw [withoutName, List.filter_cons_of_neg (by simp), List.filter_eq_self]
        intro other hother
        rw [bne_iff_ne]
        intro heq
        exact hfirst (List.mem_map.mpr ⟨other, hother, heq⟩)
      rw [hkept]
    · have hne : (name == entry.1) = false := beq_eq_false_iff_ne.mpr (Ne.symm hname)
      have hkept : withoutName name (entry :: rest) = entry :: withoutName name rest :=
        List.filter_cons_of_pos (bne_iff_ne.mpr hname)
      rw [List.lookup_cons, hne] at h
      rw [hkept]
      exact ((ih hrest h).cons entry).trans (.swap _ _ _)

end SqlTemplate
