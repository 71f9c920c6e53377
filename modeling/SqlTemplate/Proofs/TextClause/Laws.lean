import Mathlib.Data.List.Nodup
import SqlTemplate.Library.Toolkit
import SqlTemplate.Proofs.Run
import SqlTemplate.Proofs.Template.FirstAppearance
/-!
# What is relied on of a toolkit

Nothing is known of a toolkit but what `Toolkit.Laws` says: that values are taken as they are given, and that the clause of
a text has the marked names. The second is said up to what is found of a word that a colon ends, which is left to the
toolkit. The toolkit of the library keeps these laws (`Library.laws_toolkit`).
-/

namespace SqlTemplate

/-- A value is a plain datum: it has no parts and refers to nothing. -/
def Value.isDatum : Value → Bool
  | null | bool _ | int _ | real _ | text _ | bytes _ => true
  | _ => false

namespace Toolkit

/-- The names in a clause. -/
def names (toolkit : Toolkit) (clause : toolkit.Clause) : List String :=
  (toolkit.values clause).map (·.name)

/-- What is relied on of a toolkit. -/
structure Laws (toolkit : Toolkit) (cut : List Char → Option (List Char)) : Prop where
  /-- A value of a given type is just taken. -/
  bindValue_some : ∀ name value type, toolkit.bindValue name value (some type) = pure ⟨name, value, type⟩
  /-- A value may be given any type if none is given. -/
  bindValue_none : ∀ name value given w w',
    (toolkit.bindValue name value none).start w = (.ok given, w') → given.name = name ∧ given.value = value
  /-- Plain data have types that fit them, and nothing has to be run to know these. -/
  bindValue_datum : ∀ name value, value.isDatum = true →
    ∃ type, toolkit.bindValue name value none = pure ⟨name, value, type⟩
  text_ofText : ∀ text, toolkit.text (toolkit.ofText text) = text
  /-- The names in the clause of a text are those that are marked in it, each once. -/
  nodup_names : ∀ text, (toolkit.names (toolkit.ofText text)).Nodup
  mem_names_iff : ∀ text name, name ∈ toolkit.names (toolkit.ofText text) ↔ name ∈ Text.markedNames cut text
  /-- Values for names in a clause are taken, and nothing else changes. -/
  withValues_ok : ∀ clause values, (values.map (·.name)).Nodup →
    (∀ given ∈ values, given.name ∈ toolkit.names clause) →
    ∃ clause', toolkit.withValues clause values = .ok clause' ∧ toolkit.text clause' = toolkit.text clause ∧
      toolkit.names clause' = toolkit.names clause ∧ ∀ given ∈ values, given ∈ toolkit.values clause'
  /-- The first value for a name that is not in a clause is refused. -/
  withValues_undefined : ∀ clause before given after, (∀ other ∈ before, other.name ∈ toolkit.names clause) →
    given.name ∉ toolkit.names clause →
    toolkit.withValues clause (before ++ given :: after) = .error (toolkit.undefined given.name)

end Toolkit

/-! ## The toolkit of the library -/

namespace Library

namespace Clause

variable {clause : Clause} {given : List (BoundValue TypeClass)}

theorem names_ofText (text : String) :
    (ofText text).names = (Text.markedNames (fun _ => none) text).foldl Template.addName [] := by
  rw [names, ofText, List.map_map]
  exact List.map_id _

theorem names_renew : (clause.renew given).names = clause.names := by
  rw [names, names, renew, List.map_map]
  refine List.map_congr_left fun had _ => ?_
  rw [Function.comp_apply]
  -- a new value stands for the name that it is looked up by
  cases hfound : given.find? (·.name == had.name) with
  | some new => simpa using List.find?_some hfound
  | none => rfl

/-- New values with different names are all in the clause if their names are. -/
theorem mem_values_renew (hnodup : (given.map (·.name)).Nodup) {new : BoundValue TypeClass} (hnew : new ∈ given)
    (hname : new.name ∈ clause.names) : new ∈ (clause.renew given).values := by
  obtain ⟨had, hhad, heq⟩ := List.mem_map.mp hname
  have hfound : given.find? (·.name == new.name) = some new := by
    cases hfound : given.find? (·.name == new.name) with
    | some other =>
      have hother : other.name = new.name := by simpa using List.find?_some hfound
      rw [List.inj_on_of_nodup_map hnodup (List.mem_of_find?_eq_some hfound) hnew hother]
    | none => exact absurd (beq_self_eq_true new.name) (List.find?_eq_none.mp hfound new hnew)
  refine List.mem_map.mpr ⟨had, hhad, ?_⟩
  rw [heq, hfound, Option.getD_some]

theorem withValues_of_forall_mem (h : ∀ new ∈ given, new.name ∈ clause.names) :
    clause.withValues given = .ok (clause.renew given) := by
  have hnone : given.find? (fun new => !decide (new.name ∈ clause.names)) = none := by
    rw [List.find?_eq_none]
    intro new hnew
    simpa using h new hnew
  rw [withValues, hnone]

theorem withValues_of_not_mem {before after : List (BoundValue TypeClass)} {new : BoundValue TypeClass}
    (hbefore : ∀ other ∈ before, other.name ∈ clause.names) (hnew : new.name ∉ clause.names) :
    clause.withValues (before ++ new :: after) = .error (undefined new.name) := by
  have hsome : (before ++ new :: after).find? (fun new => !decide (new.name ∈ clause.names)) = some new := by
    rw [List.find?_eq_some_iff_append]
    exact ⟨by simpa using hnew, before, after, rfl, fun other hother => by simpa using hbefore other hother⟩
  rw [withValues, hsome]

end Clause

/-- A plain datum has a generic type, which is known without running anything. -/
theorem exists_fitting {value : Value} (h : value.isDatum = true) : ∃ type, TypeClass.fitting value = pure type := by
  have hsome : (TypeClass.genericOfDatum? value).isSome = true := by
    cases value <;> first | rfl | exact absurd h Bool.false_ne_true
  obtain ⟨generic, hgeneric⟩ := Option.isSome_iff_exists.mp hsome
  exact ⟨_, by rw [TypeClass.fitting, hgeneric]⟩

/-- In front of a colon the toolkit of the library finds no name. -/
theorem laws_toolkit : toolkit.Laws fun _ => none where
  bindValue_some name value type := rfl
  bindValue_none name value given w w' h := by
    obtain ⟨type, w₁, -, hgiven⟩ := Run.start_bind_eq_ok.mp h
    cases hgiven
    exact ⟨rfl, rfl⟩
  bindValue_datum name value h := by
    obtain ⟨type, hfitting⟩ := exists_fitting h
    exact ⟨type, congrArg (fun fitted => (do return ⟨name, value, ← fitted⟩ : Run (BoundValue TypeClass))) hfitting⟩
  text_ofText text := rfl
  nodup_names text := by
    show (Clause.ofText text).names.Nodup
    rw [Clause.names_ofText]
    exact (firstAppearances_foldl _).nodup
  mem_names_iff text name := by
    show name ∈ (Clause.ofText text).names ↔ _
    rw [Clause.names_ofText]
    exact (firstAppearances_foldl _).mem_iff name
  withValues_ok clause given hnodup hmem :=
    ⟨Clause.renew clause given, Clause.withValues_of_forall_mem hmem, rfl, Clause.names_renew,
      fun new hnew => Clause.mem_values_renew hnodup hnew (hmem new hnew)⟩
  withValues_undefined clause before new after hbefore hnew := Clause.withValues_of_not_mem hbefore hnew

end Library

end SqlTemplate
