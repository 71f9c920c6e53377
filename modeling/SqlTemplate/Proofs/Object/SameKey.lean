import SqlTemplate.Object.Value
import SqlTemplate.Proofs.Number.Binary64
import SqlTemplate.Session.Key
/-!
# Keys that are the same

Whether two values are the same key is told by a form of each of them (`Value.keyForm?`): a number that counts as an
integer has the form of the integer, and what cannot be a key has no form. So what `Value.sameKey` says is symmetric and
transitive, and the keys of a cache are compared likewise.
-/

namespace SqlTemplate

namespace Value

/-- The form of a floating point number as a key. -/
def realForm (x : Binary64) : Value :=
  (x.toInt?.map .int).getD (.real x)

mutual

/-- The form in which a value is told from other keys, if it can be a key. -/
def keyForm? : Value → Option Value
  | .bool b => some (.int (if b then 1 else 0))
  | .int i => some (.int i)
  | .real x => some (realForm x)
  | .tuple items => (keyForms? items).map .tuple
  | .list _ | .mapping .. | .method .. | .builtinMethod .. | .property _ | .place .. | .descriptor _ =>
    none
  | value => some value

/-- The forms of some values. -/
def keyForms? : List Value → Option (List Value)
  | [] => some []
  | item :: more => (keyForm? item).bind fun form => (keyForms? more).map (form :: ·)

end

/-! ## Numbers -/

theorem realForm_eq_int {x : Binary64} {i : Int} : realForm x = .int i ↔ x.toInt? = some i := by
  cases h : x.toInt? <;> simp [realForm, h]

theorem realForm_eq_realForm {x y : Binary64} : realForm x = realForm y ↔ x.sameNumber y = true := by
  constructor
  · intro h
    cases hx : x.toInt? with
    | some i =>
      have hy : realForm y = .int i := h ▸ realForm_eq_int.mpr hx
      exact Binary64.sameNumber_of_toInt? hx (realForm_eq_int.mp hy)
    | none =>
      cases hy : y.toInt? with
      | some i =>
        have hform : realForm x = .int i := h ▸ realForm_eq_int.mpr hy
        rw [realForm_eq_int, hx] at hform
        cases hform
      | none =>
        rw [realForm, realForm, hx, hy] at h
        obtain rfl : x = y := Value.real.inj h
        rw [Binary64.sameNumber, beq_self_eq_true, Bool.true_or]
  · intro h
    rcases Binary64.eq_or_isTrue_of_sameNumber h with rfl | ⟨hx, hy⟩
    · rfl
    · rw [realForm_eq_int.mpr (Binary64.toInt?_of_isTrue hx),
        realForm_eq_int.mpr (Binary64.toInt?_of_isTrue hy)]

/-- A floating point number is the same key as what has its form. -/
theorem sameKey_real_left (x : Binary64) (b : Value) :
    sameKey (.real x) b = true ↔ b.keyForm? = some (realForm x) := by
  cases b with
  | real y =>
    rw [sameKey, ← realForm_eq_realForm, keyForm?, Option.some.injEq]
    exact eq_comm
  | bool b =>
    rw [sameKey, beq_iff_eq, ← realForm_eq_int, keyForm?, Option.some.injEq]
    exact eq_comm
  | int i =>
    rw [sameKey, beq_iff_eq, ← realForm_eq_int, keyForm?, Option.some.injEq]
    exact eq_comm
  | _ => cases hx : x.toInt? <;> simp [sameKey, keyForm?, realForm, hx]

theorem sameKey_real_right (a : Value) (y : Binary64) :
    sameKey a (.real y) = true ↔ a.keyForm? = some (realForm y) := by
  cases a with
  | real x => rw [keyForm?, Option.some.injEq, realForm_eq_realForm, sameKey]
  | bool b =>
    rw [sameKey, beq_iff_eq, ← realForm_eq_int, keyForm?, Option.some.injEq]
    exact eq_comm
  | int i =>
    rw [sameKey, beq_iff_eq, ← realForm_eq_int, keyForm?, Option.some.injEq]
    exact eq_comm
  | _ => cases hy : y.toInt? <;> simp [sameKey, keyForm?, realForm, hy]

/-! ## Forms of keys -/

mutual

/-- Values that are the same key have one form. -/
theorem sameKey_iff (a b : Value) :
    sameKey a b = true ↔ ∃ form, b.keyForm? = some form ∧ a.keyForm? = some form := by
  -- a floating point number may have the form of another kind of value, so its cases come from the lemmas above
  cases a with
  | real x =>
    rw [sameKey_real_left, keyForm?]
    simp
  | tuple as =>
    cases b with
    | tuple bs =>
      rw [sameKey, sameKeys_iff as bs]
      simp [keyForm?]
    | real y => simp [sameKey_real_right, keyForm?.eq_def (.real y)]
    | _ => simp [sameKey, keyForm?]
  | bool value =>
    cases b with
    | bool other => cases value <;> cases other <;> simp [sameKey, keyForm?]
    | real y => simp [sameKey_real_right, keyForm?.eq_def (.real y)]
    | _ => simp [sameKey, keyForm?]
  | _ =>
    cases b with
    | real y => simp [sameKey_real_right, keyForm?.eq_def (.real y)]
    | _ => simp [sameKey, keyForm?]

/-- Tuples that are the same key have the same forms part by part. -/
theorem sameKeys_iff (as bs : List Value) :
    sameKeys as bs = true ↔ ∃ forms, keyForms? bs = some forms ∧ keyForms? as = some forms := by
  cases as with
  | nil =>
    cases bs with
    | nil => simp [sameKeys, keyForms?]
    | cons b bs =>
      simp only [sameKeys, keyForms?]
      cases b.keyForm? <;> cases keyForms? bs <;> simp
  | cons a as =>
    cases bs with
    | nil =>
      simp only [sameKeys, keyForms?]
      cases a.keyForm? <;> cases keyForms? as <;> simp
    | cons b bs =>
      rw [sameKeys, Bool.and_eq_true, sameKey_iff a b, sameKeys_iff as bs, keyForms?, keyForms?]
      cases a.keyForm? <;> cases b.keyForm? <;> cases keyForms? as <;> cases keyForms? bs <;> simp

end

instance : PartialEquivBEq Value where
  symm := by
    intro a b h
    obtain ⟨form, hb, ha⟩ := (sameKey_iff a b).mp h
    exact (sameKey_iff b a).mpr ⟨form, ha, hb⟩
  trans := by
    intro a b c hab hbc
    obtain ⟨form, hb, ha⟩ := (sameKey_iff a b).mp hab
    obtain ⟨form', hc, hb'⟩ := (sameKey_iff b c).mp hbc
    obtain rfl : form = form' := Option.some.inj (hb.symm.trans hb')
    exact (sameKey_iff a c).mpr ⟨form, hc, ha⟩

end Value

/-! ## Keys of a cache -/

namespace CacheKey

theorem beq_value {a b : HashedKey} :
    ((value a == value b) = true) ↔ (a.hash == b.hash) = true ∧ (a.key == b.key) = true := by
  show same (value a) (value b) = true ↔ _
  rw [same, Bool.and_eq_true]

theorem beq_compilation {source source' : String} {types types' : List (String × String)}
    {table table' : TableId} :
    (compilation source types table == compilation source' types' table') = true ↔
      source = source' ∧ types.Perm types' ∧ table = table' := by
  show same _ _ = true ↔ _
  rw [same, Bool.and_eq_true, Bool.and_eq_true, beq_iff_eq, beq_iff_eq, List.isPerm_iff, and_assoc]

instance : PartialEquivBEq CacheKey where
  symm := by
    intro a b h
    match a, b, h with
    | value a, value b, h =>
      obtain ⟨hhash, hkey⟩ := beq_value.mp h
      exact beq_value.mpr ⟨BEq.symm hhash, BEq.symm hkey⟩
    | compilation .., compilation .., h =>
      obtain ⟨hsource, htypes, htable⟩ := beq_compilation.mp h
      exact beq_compilation.mpr ⟨hsource.symm, htypes.symm, htable.symm⟩
  trans := by
    intro a b c hab hbc
    match a, b, c, hab, hbc with
    | value a, value b, value c, hab, hbc =>
      obtain ⟨hhash, hkey⟩ := beq_value.mp hab
      obtain ⟨hhash', hkey'⟩ := beq_value.mp hbc
      exact beq_value.mpr ⟨PartialEquivBEq.trans hhash hhash', PartialEquivBEq.trans hkey hkey'⟩
    | compilation .., compilation .., compilation .., hab, hbc =>
      obtain ⟨hsource, htypes, htable⟩ := beq_compilation.mp hab
      obtain ⟨hsource', htypes', htable'⟩ := beq_compilation.mp hbc
      exact beq_compilation.mpr
        ⟨hsource.trans hsource', htypes.trans htypes', htable.trans htable'⟩

end CacheKey

end SqlTemplate
