import SqlTemplate.Proofs.Path.Split
import SqlTemplate.Template.Parser
/-!
# What a placeholder denotes

`placeholder` looks for a substitution mark by cutting four characters off the trimmed body.
`placeholder_eq_ok_iff` says what that comes to: the body is an expression, or it is a mark in some case with an
expression behind it. It cannot be both, because a mark ends in a colon and no expression holds one.
-/

namespace SqlTemplate

open Text

/-! ## Substitution marks -/

theorem length_of_mark {mark : List Char} (h : mark.map Char.toLower = substitutionMark) :
    mark.length = 4 := by
  simpa [substitutionMark] using congrArg List.length h

/-- A character with a lower case that is no letter is the same in any case. -/
theorem eq_of_toLower_eq_colon {c : Char} (h : c.toLower = ':') : c = ':' := by
  by_cases hupper : c.val ≥ 'A'.val ∧ c.val ≤ 'Z'.val
  · -- capital letters are moved by 32 places, and the colon is not among those behind them
    have hlower : c.toLower.val = c.val + 32 := congrArg Char.val (dif_pos hupper)
    have hmoved : (c.val + 32).toNat = 58 := by
      rw [← hlower, h]
      rfl
    have hfirst : 65 ≤ c.val.toNat := hupper.1
    have hlast : c.val.toNat ≤ 90 := hupper.2
    have hplaces : (32 : UInt32).toNat = 32 := rfl
    rw [UInt32.toNat_add, hplaces] at hmoved
    omega
  · exact (dif_neg hupper).symm.trans h

theorem colon_mem_of_mark {mark : List Char} (h : mark.map Char.toLower = substitutionMark) :
    ':' ∈ mark := by
  have hmem : ':' ∈ mark.map Char.toLower := by
    rw [h]
    decide
  obtain ⟨c, hc, hlower⟩ := List.mem_map.mp hmem
  rwa [eq_of_toLower_eq_colon hlower] at hc

/-! ## Bodies of placeholders -/

/-- A body denotes a parameter if it is an expression, and a substitution if it is a mark with an expression
behind it. -/
theorem placeholder_eq_ok_iff {declarations : Declarations} {body : List Char} {fragment : Fragment} :
    placeholder declarations body = .ok fragment ↔
      (∃ path, Path.ofExpression (trim body) = .ok path ∧
        fragment = .parameter path (declarations.typeOf path)) ∨
      ∃ mark expression path, trim body = mark ++ expression ∧
        mark.map Char.toLower = substitutionMark ∧ Path.ofExpression expression = .ok path ∧
        fragment = .substitution path := by
  rw [placeholder]
  generalize trim body = content
  by_cases hempty : content = []
  · subst hempty
    constructor
    · intro h
      cases h
    · rintro (⟨path, hpath, -⟩ | ⟨mark, expression, path, hcontent, hmark, -⟩)
      · exact absurd hpath (Path.ofExpression_nil_ne_ok path)
      · have hlength := length_of_mark hmark
        simp [(List.append_eq_nil_iff.mp hcontent.symm).1] at hlength
  rw [if_neg (by simpa using hempty)]
  by_cases htake : (content.take 4).map Char.toLower = substitutionMark
  · rw [if_pos htake]
    constructor
    · intro h
      cases hpath : Path.ofExpression (content.drop 4) with
      | error fault => simp [hpath] at h
      | ok path =>
        obtain rfl : Fragment.substitution path = fragment := by simpa [hpath] using h
        exact .inr ⟨_, _, path, (List.take_append_drop 4 content).symm, htake, hpath, rfl⟩
    · rintro (⟨path, hpath, -⟩ | ⟨mark, expression, path, rfl, hmark, hpath, rfl⟩)
      · -- an expression holds no colon, but the mark does
        exact absurd (List.mem_of_mem_take (colon_mem_of_mark htake)) (Path.colon_not_mem hpath)
      · rw [List.drop_left' (length_of_mark hmark), hpath]
  · rw [if_neg htake]
    constructor
    · intro h
      cases hpath : Path.ofExpression content with
      | error fault => simp [hpath] at h
      | ok path =>
        obtain rfl : Fragment.parameter path (declarations.typeOf path) = fragment := by
          simpa [hpath] using h
        exact .inl ⟨path, rfl, rfl⟩
    · rintro (⟨path, hpath, rfl⟩ | ⟨mark, expression, path, rfl, hmark, -⟩)
      · rw [hpath]
      · rw [List.take_left' (length_of_mark hmark)] at htake
        exact absurd hmark htake

theorem takesValue_of_placeholder {declarations : Declarations} {body : List Char}
    {fragment : Fragment} (h : placeholder declarations body = .ok fragment) :
    fragment.takesValue = true := by
  rcases placeholder_eq_ok_iff.mp h with ⟨path, -, rfl⟩ | ⟨mark, expression, path, -, -, -, rfl⟩ <;> rfl

end SqlTemplate
