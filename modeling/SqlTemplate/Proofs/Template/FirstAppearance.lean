import Mathlib.Data.List.Nodup
import SqlTemplate.Template
/-!
# Names in order of first appearance

Names are collected one after the other, and a name that has been collected is not collected again. What is left in the
end are the names that appeared, each once, in the order in which they appeared first (`firstAppearances_foldl`).
-/

namespace SqlTemplate

/-- Names are those that appeared in a row, each once, in order of their first appearance there. -/
structure FirstAppearances (names appeared : List String) : Prop where
  nodup : names.Nodup
  mem_iff : ∀ name, name ∈ names ↔ name ∈ appeared
  ordered : names.Pairwise fun a b => appeared.idxOf a < appeared.idxOf b

namespace FirstAppearances

theorem nil : FirstAppearances [] [] :=
  ⟨List.nodup_nil, fun _ => Iff.rfl, List.Pairwise.nil⟩

/-- One more name appears. -/
theorem addName {names appeared : List String} (h : FirstAppearances names appeared) (name : String) :
    FirstAppearances (Template.addName names name) (appeared ++ [name]) := by
  -- the place of a first appearance stays what it was
  have hplace : ∀ other ∈ names, (appeared ++ [name]).idxOf other = appeared.idxOf other :=
    fun other hother => List.idxOf_append_of_mem ((h.mem_iff other).mp hother)
  have hordered : names.Pairwise fun a b =>
      (appeared ++ [name]).idxOf a < (appeared ++ [name]).idxOf b := by
    refine h.ordered.imp_of_mem fun {a b} ha hb hlt => ?_
    rw [hplace a ha, hplace b hb]
    exact hlt
  unfold Template.addName
  by_cases hname : name ∈ names
  · rw [if_pos hname]
    refine ⟨h.nodup, fun other => ?_, hordered⟩
    rw [List.mem_append, List.mem_singleton, ← h.mem_iff]
    constructor
    · exact .inl
    · rintro (hother | rfl)
      · exact hother
      · exact hname
  · rw [if_neg hname]
    have hnew : name ∉ appeared := fun happeared => hname ((h.mem_iff name).mpr happeared)
    refine ⟨?_, fun other => ?_, ?_⟩
    · rw [← List.concat_eq_append]
      exact h.nodup.concat hname
    · rw [List.mem_append, List.mem_append, h.mem_iff]
    · rw [List.pairwise_append]
      refine ⟨hordered, List.pairwise_singleton _ _, fun other hother last hlast => ?_⟩
      obtain rfl := List.mem_singleton.mp hlast
      rw [hplace other hother, List.idxOf_append_of_notMem hnew, List.idxOf_cons_self, Nat.add_zero]
      exact List.idxOf_lt_length_of_mem ((h.mem_iff other).mp hother)

/-- More names appear, one after the other. -/
theorem foldl {names appeared : List String} (h : FirstAppearances names appeared) (more : List String) :
    FirstAppearances (more.foldl Template.addName names) (appeared ++ more) := by
  induction more generalizing names appeared with
  | nil => simpa using h
  | cons name more ih => simpa using ih (h.addName name)

end FirstAppearances

/-- The names that are collected from a row are its names in order of first appearance. -/
theorem firstAppearances_foldl (appeared : List String) :
    FirstAppearances (appeared.foldl Template.addName []) appeared :=
  FirstAppearances.nil.foldl appeared

end SqlTemplate
