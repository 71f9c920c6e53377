import Mathlib.Data.List.Forall2
import Mathlib.Data.List.Perm.Basic
import SqlTemplate.Cache
import SqlTemplate.Proofs.Stateful
/-!
# The entries of a cache

What the operations of a cache do to its entries. Keys are compared by a relation that need not be reflexive on
all of them (a value that cannot be a key equals nothing), so what is stored is found again only under a key that
equals itself, a `Key`.

A cache is `Sound` if it holds no more entries than it may and no two for one key. In a sound cache an entry is found
wherever it stands (`Sound.get?_eq_some_iff`), so a use of a key, which only moves an entry, changes no lookup.
-/

namespace SqlTemplate.Cache

variable {κ α : Type} [BEq κ]

/-- A key that equals itself. -/
abbrev Key (κ : Type) [BEq κ] := {key : κ // (key == key) = true}

/-! ## Lookups -/

section Lookup

variable {cache : Cache κ α} {key : κ}

theorem get?_eq_none_iff :
    cache.get? key = none ↔ ∀ entry ∈ cache.entries, (entry.1 == key) = false := by
  simp [get?]

/-- What is found stands in the first entry for the key. -/
theorem exists_split_of_get? {value : α} (h : cache.get? key = some value) :
    ∃ before kept after, cache.entries = before ++ (kept, value) :: after ∧ (kept == key) = true ∧
      ∀ entry ∈ before, (entry.1 == key) = false := by
  obtain ⟨⟨kept, value'⟩, hfind, rfl⟩ := Option.map_eq_some_iff.mp h
  obtain ⟨hkept, before, after, hentries, hbefore⟩ := List.find?_eq_some_iff_append.mp hfind
  exact ⟨before, kept, after, hentries, hkept, fun entry hmem => by simpa using hbefore entry hmem⟩

theorem exists_mem_of_get? {value : α} (h : cache.get? key = some value) :
    ∃ kept, (kept, value) ∈ cache.entries ∧ (kept == key) = true := by
  obtain ⟨before, kept, after, hentries, hkept, -⟩ := exists_split_of_get? h
  exact ⟨kept, by simp [hentries], hkept⟩

end Lookup

/-! ## Moving an entry -/

section Move

variable {key : κ} {entries : List (κ × α)}

theorem moveToEnd_append {before after : List (κ × α)} {entry : κ × α}
    (hbefore : ∀ entry ∈ before, (entry.1 == key) = false) (hentry : (entry.1 == key) = true) :
    moveToEnd key (before ++ entry :: after) = before ++ after ++ [entry] := by
  induction before with
  | nil => rw [List.nil_append, moveToEnd, if_pos hentry, List.nil_append]
  | cons first before ih =>
    obtain ⟨hfirst, hbefore⟩ := List.forall_mem_cons.mp hbefore
    rw [List.cons_append, moveToEnd, if_neg (Bool.eq_false_iff.mp hfirst), ih hbefore]
    rfl

theorem moveToEnd_perm (key : κ) (entries : List (κ × α)) :
    (moveToEnd key entries).Perm entries := by
  induction entries with
  | nil => exact .refl _
  | cons entry more ih =>
    rw [moveToEnd]
    split
    · exact List.perm_append_singleton entry more
    · exact ih.cons entry

end Move

/-! ## Publishing -/

section Publish

variable {cache : Cache κ α} {key : κ}

theorem publish_of_some {kept : α} (h : cache.get? key = some kept) (value : α) :
    cache.publish key value = (kept, { cache with
      entries := (moveToEnd key cache.entries).drop (cache.entries.length - cache.maxSize) }) := by
  have hcontains : cache.contains key = true := by rw [contains, h, Option.isSome_some]
  rw [publish, h, Option.getD_some]
  simp only [hcontains, if_true, (moveToEnd_perm key cache.entries).length_eq]

theorem publish_of_none (h : cache.get? key = none) (value : α) :
    cache.publish key value = (value, { cache with
      entries := (cache.entries ++ [(key, value)]).drop
        (cache.entries.length + 1 - cache.maxSize) }) := by
  have hcontains : cache.contains key = false := by rw [contains, h, Option.isSome_none]
  rw [publish, h, Option.getD_none]
  simp [hcontains]

/-- Publishing stores nothing but what is published. -/
theorem mem_publish {value : α} {entry : κ × α} (h : entry ∈ (cache.publish key value).2.entries) :
    entry ∈ cache.entries ∨ cache.get? key = none ∧ entry = (key, value) := by
  cases hget : cache.get? key with
  | some kept =>
    rw [publish_of_some hget] at h
    exact .inl ((moveToEnd_perm key cache.entries).mem_iff.mp (List.mem_of_mem_drop h))
  | none =>
    rw [publish_of_none hget] at h
    rcases List.mem_append.mp (List.mem_of_mem_drop h) with hold | hnew
    · exact .inl hold
    · exact .inr ⟨rfl, List.mem_singleton.mp hnew⟩

end Publish

/-! ## Sound caches -/

/-- A cache holds no more entries than it may, and no two for one key. -/
structure Sound (cache : Cache κ α) : Prop where
  bounded : cache.entries.length ≤ cache.maxSize
  distinct : cache.entries.Pairwise fun entry other => (entry.1 == other.1) = false

theorem Sound.clear (cache : Cache κ α) : cache.clear.Sound :=
  ⟨Nat.zero_le _, .nil⟩

theorem Sound.empty (maxSize : Nat) : (Cache.empty maxSize : Cache κ α).Sound :=
  ⟨Nat.zero_le _, .nil⟩

section Sound

variable {cache : Cache κ α}

/-- The last entry after a use of a key that is there. -/
theorem getLast?_touch {key : κ} {value : α} (h : cache.get? key = some value) :
    ∃ kept, (kept == key) = true ∧ (cache.touch key).entries.getLast? = some (kept, value) := by
  obtain ⟨before, kept, after, hentries, hkept, hbefore⟩ := exists_split_of_get? h
  refine ⟨kept, hkept, ?_⟩
  show (moveToEnd key cache.entries).getLast? = some (kept, value)
  rw [hentries, moveToEnd_append hbefore hkept, List.getLast?_concat]

/-- Where something stands under the key already, a sound cache is only touched by publishing. -/
theorem Sound.publish_of_some (h : cache.Sound) {key : κ} {kept : α}
    (hget : cache.get? key = some kept) (value : α) :
    cache.publish key value = (kept, cache.touch key) := by
  rw [Cache.publish_of_some hget, Nat.sub_eq_zero_of_le h.bounded, List.drop_zero]
  rfl

variable [PartialEquivBEq κ]

/-- In a sound cache a lookup finds whatever stands under the key. -/
theorem Sound.get?_eq_some_iff (h : cache.Sound) {key : κ} {value : α} :
    cache.get? key = some value ↔ ∃ kept, (kept, value) ∈ cache.entries ∧ (kept == key) = true := by
  refine ⟨exists_mem_of_get?, ?_⟩
  rintro ⟨kept, hmem, hkept⟩
  obtain ⟨before, after, hentries⟩ := List.append_of_mem hmem
  have hdistinct := h.distinct
  rw [hentries] at hdistinct
  -- what stands in front is for other keys, so the entry is the first one that is found
  have hbefore : ∀ entry ∈ before, (entry.1 == key) = false := by
    intro entry hentry
    have hne := (List.pairwise_append.mp hdistinct).2.2 entry hentry (kept, value) List.mem_cons_self
    rwa [← BEq.congr_right hkept]
  have hfind : cache.entries.find? (·.1 == key) = some (kept, value) := by
    rw [List.find?_eq_some_iff_append]
    exact ⟨hkept, before, after, hentries, fun entry hentry => by simp [hbefore entry hentry]⟩
  rw [get?, hfind, Option.map_some]

theorem Sound.touch (h : cache.Sound) (key : κ) : (cache.touch key).Sound where
  bounded := by
    show (moveToEnd key cache.entries).length ≤ cache.maxSize
    rw [(moveToEnd_perm key cache.entries).length_eq]
    exact h.bounded
  distinct := ((moveToEnd_perm key cache.entries).pairwise_iff BEq.symm_false).mpr h.distinct

/-- A use of a key changes no lookup. -/
theorem Sound.get?_touch (h : cache.Sound) (key other : κ) :
    (cache.touch key).get? other = cache.get? other := by
  apply Option.ext
  intro value
  rw [(h.touch key).get?_eq_some_iff, h.get?_eq_some_iff]
  simp only [Cache.touch, (moveToEnd_perm key cache.entries).mem_iff]

theorem Sound.publish (h : cache.Sound) (key : κ) (value : α) : (cache.publish key value).2.Sound := by
  cases hget : cache.get? key with
  | some kept =>
    rw [h.publish_of_some hget]
    exact h.touch key
  | none =>
    rw [publish_of_none hget]
    refine ⟨?_, ?_⟩
    · -- there is one entry more, and as many are given up as are too many
      show ((cache.entries ++ [(key, value)]).drop _).length ≤ cache.maxSize
      rw [List.length_drop, List.length_append, List.length_singleton]
      omega
    · apply List.Pairwise.drop
      rw [List.pairwise_append]
      refine ⟨h.distinct, List.pairwise_singleton _ _, ?_⟩
      intro entry hentry other hother
      rw [List.mem_singleton.mp hother]
      exact get?_eq_none_iff.mp hget entry hentry

end Sound

/-! ## Calls -/

section Call

open Stateful

variable {σ ε : Type} {place : Place σ (Cache κ α)} {key : κ} {compute : ExceptT ε (StateM σ) α}
  {before after : σ}

theorem getOrCompute_of_some {value : α} (h : (place.get before).get? key = some value) :
    getOrCompute place key compute before = (.ok value, place.modify (·.touch key) before) := by
  rw [getOrCompute, get_bind, h]
  rfl

theorem getOrCompute_of_error {failure : ε} (h : (place.get before).get? key = none)
    (hcompute : compute before = (.error failure, after)) :
    getOrCompute place key compute before = (.error failure, after) := by
  rw [getOrCompute, get_bind, h]
  exact bind_of_error hcompute _

theorem getOrCompute_of_zero {value : α} (h : (place.get before).get? key = none)
    (hcompute : compute before = (.ok value, after)) (hsize : (place.get after).maxSize = 0) :
    getOrCompute place key compute before = (.ok value, after) := by
  rw [getOrCompute, get_bind, h]
  simp only
  rw [bind_of_ok hcompute, get_bind, if_pos hsize]
  rfl

theorem getOrCompute_of_ok {value : α} (h : (place.get before).get? key = none)
    (hcompute : compute before = (.ok value, after)) (hsize : (place.get after).maxSize ≠ 0) :
    getOrCompute place key compute before
      = (.ok ((place.get after).publish key value).1,
          place.set ((place.get after).publish key value).2 after) := by
  rw [getOrCompute, get_bind, h]
  simp only
  rw [bind_of_ok hcompute, get_bind, if_neg hsize]
  rfl

end Call

end SqlTemplate.Cache
