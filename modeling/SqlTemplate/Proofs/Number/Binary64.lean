import Mathlib.Algebra.Order.Ring.Nat
import Mathlib.Tactic.Ring
import SqlTemplate.Number.Binary64
/-!
# Numbers that count as integers

A finite number has one form only: its significand has its leading bit, unless the exponent is the smallest there is
(`Normal`). So the integer that a number counts as tells the number, except that there are two zeros:
`sameNumber_of_toInt?`.

Finite numbers are compared scaled by `2 ^ 1074`, which makes integers of all of them.
-/

namespace SqlTemplate.Binary64

/-! ## Fields -/

section Fields

variable {x y : Binary64} {significand : Nat} {exponent : Int}

/-- A number is told by its sign, its exponent and its fraction. -/
theorem eq_of_fields (hsign : x.isNegative = y.isNegative) (hexponent : x.exponentBits = y.exponentBits)
    (hfraction : x.fractionBits = y.fractionBits) : x = y := by
  have hx := x.bits.toNat_lt
  have hy := y.bits.toNat_lt
  have hsign' : x.bits.toNat ≥ 2 ^ 63 ↔ y.bits.toNat ≥ 2 ^ 63 := decide_eq_decide.mp hsign
  have hexponent' : x.bits.toNat / 2 ^ 52 % 2 ^ 11 = y.bits.toNat / 2 ^ 52 % 2 ^ 11 := hexponent
  have hfraction' : x.bits.toNat % 2 ^ 52 = y.bits.toNat % 2 ^ 52 := hfraction
  have hbits : x.bits.toNat = y.bits.toNat := by omega
  exact congrArg Binary64.mk (UInt64.toNat_inj.mp hbits)

theorem fractionBits_lt (x : Binary64) : x.fractionBits < 2 ^ 52 :=
  Nat.mod_lt _ (by decide)

/-- The bits of a finite number. -/
theorem fields_of_magnitude (h : x.magnitude = .finite significand exponent) :
    (x.exponentBits = 0 ∧ significand = x.fractionBits ∧ exponent = -1074) ∨
      (x.exponentBits ≠ 0 ∧ significand = 2 ^ 52 + x.fractionBits ∧
        exponent = x.exponentBits - 1075) := by
  rw [magnitude] at h
  split at h
  · split at h <;> cases h
  · split at h
    · injection h with hsignificand hexponent
      exact .inl ⟨‹_›, hsignificand.symm, hexponent.symm⟩
    · injection h with hsignificand hexponent
      exact .inr ⟨‹_›, hsignificand.symm, hexponent.symm⟩

/-- A finite number is told by its sign and its magnitude. -/
theorem eq_of_magnitude (hx : x.magnitude = .finite significand exponent)
    (hy : y.magnitude = .finite significand exponent) (hsign : x.isNegative = y.isNegative) : x = y := by
  have hfractionx := x.fractionBits_lt
  have hfractiony := y.fractionBits_lt
  -- a number without the leading bit has a smaller significand than any with it
  rcases fields_of_magnitude hx with ⟨hex, hsx, hux⟩ | ⟨hex, hsx, hux⟩ <;>
    rcases fields_of_magnitude hy with ⟨hey, hsy, huy⟩ | ⟨hey, hsy, huy⟩
  · exact eq_of_fields hsign (hex.trans hey.symm) (hsx.symm.trans hsy)
  · omega
  · omega
  · exact eq_of_fields hsign (by omega) (by omega)

end Fields

/-! ## Forms of finite numbers -/

/-- The significand has its leading bit, unless the exponent is the smallest. -/
structure Normal (significand : Nat) (exponent : Int) : Prop where
  bounded : significand < 2 ^ 53
  smallest : -1074 ≤ exponent
  leading : exponent = -1074 ∨ 2 ^ 52 ≤ significand

/-- A finite number without its sign, scaled. -/
def scaled (significand : Nat) (exponent : Int) : Nat :=
  significand * 2 ^ (exponent + 1074).toNat

theorem normal_of_magnitude {x : Binary64} {significand : Nat} {exponent : Int}
    (h : x.magnitude = .finite significand exponent) : Normal significand exponent := by
  have hfraction := x.fractionBits_lt
  rcases fields_of_magnitude h with ⟨-, rfl, rfl⟩ | ⟨hexponent, rfl, rfl⟩
  · exact ⟨by omega, by omega, .inl rfl⟩
  · exact ⟨by omega, by omega, .inr (by omega)⟩

namespace Normal

variable {significand other : Nat} {exponent exponent' : Int}

/-- The number with the smaller exponent is the smaller one. -/
theorem scaled_lt (h : Normal significand exponent) (h' : Normal other exponent')
    (hlt : exponent < exponent') : scaled significand exponent < scaled other exponent' := by
  have hsmallest := h.smallest
  -- the larger exponent is not the smallest there is, so the leading bit is there
  have hother : 2 ^ 52 ≤ other := by
    rcases h'.leading with heq | hle
    · omega
    · exact hle
  have hexponents : (exponent' + 1074).toNat
      = (exponent + 1074).toNat + 1 + (exponent' - exponent - 1).toNat := by omega
  calc scaled significand exponent
      < 2 ^ 53 * 2 ^ (exponent + 1074).toNat :=
        Nat.mul_lt_mul_of_pos_right h.bounded (Nat.pow_pos (by decide))
    _ = 2 ^ 52 * 2 ^ ((exponent + 1074).toNat + 1) := by ring
    _ ≤ other * 2 ^ (exponent' + 1074).toNat :=
        Nat.mul_le_mul hother (Nat.pow_le_pow_right (by decide) (by omega))

/-- A finite number has one form. -/
theorem eq_of_scaled (h : Normal significand exponent) (h' : Normal other exponent')
    (heq : scaled significand exponent = scaled other exponent') :
    significand = other ∧ exponent = exponent' := by
  rcases lt_trichotomy exponent exponent' with hlt | rfl | hgt
  · exact absurd heq (h.scaled_lt h' hlt).ne
  · exact ⟨Nat.eq_of_mul_eq_mul_right (Nat.pow_pos (by decide)) heq, rfl⟩
  · exact absurd heq (h'.scaled_lt h hgt).ne'

end Normal

/-! ## Integers -/

section Integers

variable {x y : Binary64} {i : Int}

/-- A number with the sign of a floating point number. -/
def signed (x : Binary64) (n : Nat) : Int :=
  if x.isNegative then -n else n

theorem natAbs_signed (x : Binary64) (n : Nat) : (x.signed n).natAbs = n := by
  rw [signed]
  split
  · rw [Int.natAbs_neg, Int.natAbs_natCast]
  · rw [Int.natAbs_natCast]

theorem isNegative_of_signed_eq {n : Nat} (h : x.signed n = y.signed n) :
    n = 0 ∨ x.isNegative = y.isNegative := by
  rw [signed, signed] at h
  cases hx : x.isNegative <;> cases hy : y.isNegative <;> simp [hx, hy] at h ⊢ <;> omega

/-- Exponents of either sign are brought to one scale. -/
theorem mul_pow_scale {a : Int} {exponent : Int} {scale : Nat} (hscale : 0 ≤ exponent + scale)
    (h : a * 2 ^ exponent.toNat = i * 2 ^ (-exponent).toNat) :
    a * 2 ^ (exponent + scale).toNat = i * 2 ^ scale := by
  rcases le_total 0 exponent with hle | hle
  · have hneg : (-exponent).toNat = 0 := by omega
    have hsum : (exponent + scale).toNat = exponent.toNat + scale := by omega
    rw [hneg, Int.pow_zero, Int.mul_one] at h
    rw [hsum, Int.pow_add, ← Int.mul_assoc, h]
  · have hpos : exponent.toNat = 0 := by omega
    have hsum : scale = (-exponent).toNat + (exponent + scale).toNat := by omega
    rw [hpos, Int.pow_zero, Int.mul_one] at h
    conv_rhs => rw [hsum, Int.pow_add, ← Int.mul_assoc, ← h]

theorem toFraction?_of_magnitude {significand : Nat} {exponent : Int}
    (h : x.magnitude = .finite significand exponent) :
    x.toFraction? = some (x.signed significand * 2 ^ exponent.toNat, 2 ^ (-exponent).toNat) := by
  rw [toFraction?, h]
  rfl

/-- A number that counts as an integer, scaled. -/
theorem exists_magnitude_of_toInt? (h : x.toInt? = some i) :
    ∃ significand exponent, x.magnitude = .finite significand exponent ∧
      x.signed significand * 2 ^ (exponent + 1074).toNat = i * 2 ^ 1074 := by
  cases hmagnitude : x.magnitude with
  | notANumber =>
    rw [toInt?, toFraction?, hmagnitude] at h
    cases h
  | infinite =>
    rw [toInt?, toFraction?, hmagnitude] at h
    cases h
  | finite significand exponent =>
    have hsmallest := (normal_of_magnitude hmagnitude).smallest
    rw [toInt?, toFraction?_of_magnitude hmagnitude, Option.ite_none_right_eq_some,
      Option.some.injEq] at h
    obtain ⟨hrest, rfl⟩ := h
    have hquotient := Int.ediv_mul_cancel (Int.dvd_of_emod_eq_zero hrest)
    refine ⟨significand, exponent, rfl, mul_pow_scale ?_ ?_⟩
    · show 0 ≤ exponent + 1074
      omega
    · rw [Nat.cast_pow, Nat.cast_ofNat] at hquotient ⊢
      exact hquotient.symm

/-- A number that is not true is one of the zeros. -/
theorem toInt?_of_isTrue (h : x.isTrue = false) : x.toInt? = some 0 := by
  have hmagnitude : x.magnitude = .finite 0 (-1074) := by simpa [isTrue] using h
  have hzero : x.signed 0 = 0 := Int.natAbs_eq_zero.mp (natAbs_signed x 0)
  rw [toInt?, toFraction?_of_magnitude hmagnitude, hzero, Int.zero_mul]
  simp only [Int.zero_emod, Int.zero_ediv, if_true]

theorem isTrue_of_scaled_zero {exponent : Int} (h : x.magnitude = .finite 0 exponent) :
    x.isTrue = false := by
  rcases (normal_of_magnitude h).leading with rfl | hleading
  · rw [isTrue, h]
    rfl
  · omega

/-- The integer that a number counts as tells the number. -/
theorem sameNumber_of_toInt? (hx : x.toInt? = some i) (hy : y.toInt? = some i) :
    x.sameNumber y = true := by
  obtain ⟨significand, exponent, hmx, hix⟩ := exists_magnitude_of_toInt? hx
  obtain ⟨other, exponent', hmy, hiy⟩ := exists_magnitude_of_toInt? hy
  -- without their signs the two are equal when scaled, so they have one form
  have hscaled : scaled significand exponent = scaled other exponent' := by
    have habs := congrArg Int.natAbs (hix.trans hiy.symm)
    rwa [Int.natAbs_mul, Int.natAbs_mul, natAbs_signed, natAbs_signed, Int.natAbs_pow,
      Int.natAbs_pow] at habs
  obtain ⟨rfl, rfl⟩ := (normal_of_magnitude hmx).eq_of_scaled (normal_of_magnitude hmy) hscaled
  have hpow : (2 : Int) ^ (exponent + 1074).toNat ≠ 0 := pow_ne_zero _ (by decide)
  have hsigned := Int.eq_of_mul_eq_mul_right hpow (hix.trans hiy.symm)
  rcases isNegative_of_signed_eq hsigned with rfl | hsign
  · rw [sameNumber, isTrue_of_scaled_zero hmx, isTrue_of_scaled_zero hmy]
    exact Bool.or_true _
  · rw [eq_of_magnitude hmx hmy hsign, sameNumber, beq_self_eq_true, Bool.true_or]

theorem eq_or_isTrue_of_sameNumber (h : x.sameNumber y = true) :
    x = y ∨ x.isTrue = false ∧ y.isTrue = false := by
  rwa [sameNumber, Bool.or_eq_true, Bool.and_eq_true, Bool.not_eq_true', Bool.not_eq_true',
    beq_iff_eq] at h

end Integers

end SqlTemplate.Binary64
