import Mathlib.Algebra.Order.Field.Rat
import Mathlib.Tactic.NormNum
import MemberDispatch.Number.Decimal.Basic
import MemberDispatch.Proofs.Number.IntegerText

/-!
# Whole numbers among the others

A finite decimal number and a finite floating-point number are a whole number scaled by a power of ten
or of two. What is extracted from one as its whole number is the number itself, and nothing is
extracted exactly where it is no whole number, however large the power is.
-/

namespace MemberDispatch

/-- A magnitude under a sign. -/
def signed (negative : Bool) (magnitude : ℕ) : ℤ :=
  if negative then -(magnitude : ℤ) else magnitude

/-- The number that a decimal number is, if it is finite. -/
def Decimal.value? : Decimal → Option ℚ
  | .finite negative coefficient exponent =>
      some ((signed negative coefficient : ℚ) * 10 ^ exponent)
  | _ => none

/-- The number that a floating-point number is, if it is finite. -/
def Binary64.value? : Binary64 → Option ℚ
  | .finite negative mantissa exponent => some ((signed negative mantissa : ℚ) * 2 ^ exponent)
  | _ => none

section Scaling

variable {base power magnitude : ℕ} {negative : Bool} {number : ℤ}

theorem signed_mul (negative : Bool) (magnitude factor : ℕ) :
    signed negative (magnitude * factor) = signed negative magnitude * factor := by
  cases negative <;> simp [signed]

theorem signed_zero (negative : Bool) : signed negative 0 = 0 := by
  cases negative <;> rfl

theorem natAbs_signed (negative : Bool) (magnitude : ℕ) :
    (signed negative magnitude).natAbs = magnitude := by
  cases negative <;> simp [signed]

/-- Scaling up gives whole numbers. -/
theorem scaled_up_eq_iff (base power : ℕ) :
    (signed negative magnitude : ℚ) * (base : ℚ) ^ (power : ℤ) = number ↔
      signed negative (magnitude * base ^ power) = number := by
  rw [zpow_natCast, signed_mul]
  exact_mod_cast Iff.rfl

/-- Scaling down gives a whole number just where the power divides the magnitude. -/
theorem scaled_down_eq_iff (positive : 0 < base) :
    (signed negative magnitude : ℚ) * (base : ℚ) ^ (-(power : ℤ)) = number ↔
      base ^ power ∣ magnitude ∧ signed negative (magnitude / base ^ power) = number := by
  have nonzero : ((base ^ power : ℕ) : ℚ) ≠ 0 := by
    exact_mod_cast (Nat.pow_pos positive).ne'
  have multiplied : (signed negative magnitude : ℚ) * (base : ℚ) ^ (-(power : ℤ)) = number ↔
      signed negative magnitude = number * (base ^ power : ℕ) := by
    rw [zpow_neg, zpow_natCast, ← div_eq_mul_inv, ← Nat.cast_pow, div_eq_iff nonzero]
    exact_mod_cast Iff.rfl
  rw [multiplied]
  constructor
  · intro same
    have divides : base ^ power ∣ magnitude := by
      have cast : ((base ^ power : ℕ) : ℤ) ∣ signed negative magnitude := Dvd.intro_left _ same.symm
      rwa [Int.natCast_dvd, natAbs_signed] at cast
    refine ⟨divides, ?_⟩
    obtain ⟨quotient, rfl⟩ := divides
    have positive_power : 0 < base ^ power := Nat.pow_pos positive
    rw [Nat.mul_div_cancel_left _ positive_power]
    rw [Nat.mul_comm, signed_mul] at same
    exact Int.eq_of_mul_eq_mul_right (by exact_mod_cast positive_power.ne') same
  · rintro ⟨divides, rfl⟩
    rw [← signed_mul, Nat.div_mul_cancel divides]

end Scaling

theorem Decimal.value_ofInt (number : ℤ) : (ofInt number).value? = some (number : ℚ) := by
  have same : signed (decide (number < 0)) number.natAbs = number := by
    by_cases negative : number < 0
    · rw [signed, decide_eq_true negative, if_pos rfl]
      omega
    · rw [signed, decide_eq_false negative, if_neg Bool.false_ne_true]
      omega
  rw [ofInt, value?, same, zpow_zero, mul_one]

/-- What is extracted from a decimal number is the whole number that it is. -/
theorem Decimal.whole_eq_some_iff (number : Decimal) (whole : ℤ) :
    number.whole? = some whole ↔ number.value? = some (whole : ℚ) := by
  cases number with
  | infinite negative => simp [whole?, value?]
  | nan negative signaling payload => simp [whole?, value?]
  | finite negative coefficient exponent =>
      rw [value?, Option.some_inj, whole?]
      dsimp only
      split
      · rename_i zero
        rw [beq_iff_eq.mp zero, signed_zero, Int.cast_zero, zero_mul, Option.some_inj]
        exact_mod_cast Iff.rfl
      · rename_i nonzero
        rw [beq_iff_eq] at nonzero
        split
        · rename_i up
          obtain ⟨power, rfl⟩ := Int.eq_ofNat_of_zero_le up
          -- With a power from zero on, every coefficient gives a whole number.
          have scaled : (signed negative coefficient : ℚ) * 10 ^ (power : ℤ) = whole ↔
              signed negative (coefficient * 10 ^ power) = whole := scaled_up_eq_iff 10 power
          rw [Option.some_inj]
          exact scaled.symm
        · rename_i down
          obtain ⟨power, rfl⟩ : ∃ power : ℕ, exponent = -(power : ℤ) := ⟨exponent.natAbs, by omega⟩
          have same : (-(power : ℤ)).natAbs = power := by omega
          -- With one below zero, the number is whole if the power divides the coefficient. A coefficient with
          -- fewer digits is smaller than the power, which is not computed for it.
          have scaled : (signed negative coefficient : ℚ) * 10 ^ (-(power : ℤ)) = whole ↔
              10 ^ power ∣ coefficient ∧ signed negative (coefficient / 10 ^ power) = whole :=
            scaled_down_eq_iff (by decide)
          rw [same, scaled]
          split
          · rename_i many
            have less : coefficient < 10 ^ power :=
              (lt_tenTo_digitCount coefficient).trans_le (Nat.pow_le_pow_right (by decide) many)
            refine iff_of_false (Option.some_ne_none _).symm ?_
            rintro ⟨divides, -⟩
            exact absurd (Nat.le_of_dvd (Nat.pos_of_ne_zero nonzero) divides) (Nat.not_le.mpr less)
          · split
            · rename_i divides
              have divides : 10 ^ power ∣ coefficient :=
                Nat.dvd_of_mod_eq_zero (beq_iff_eq.mp divides)
              rw [Option.some_inj, and_iff_right divides]
              rfl
            · rename_i rest
              refine iff_of_false (Option.some_ne_none _).symm ?_
              rintro ⟨divides, -⟩
              exact rest (beq_iff_eq.mpr (Nat.mod_eq_zero_of_dvd divides))

theorem div_gcd_eq_one_iff {magnitude divisor : ℕ} (positive : 0 < divisor) :
    divisor / Nat.gcd magnitude divisor = 1 ↔ divisor ∣ magnitude := by
  have shared : 0 < Nat.gcd magnitude divisor := Nat.gcd_pos_of_pos_right _ positive
  rw [Nat.div_eq_iff_eq_mul_left shared (Nat.gcd_dvd_right _ _), Nat.one_mul, eq_comm,
    Nat.gcd_eq_right_iff_dvd]

theorem signed_tdiv (negative : Bool) (magnitude divisor : ℕ) :
    Int.tdiv (signed negative magnitude) divisor = signed negative (magnitude / divisor) := by
  cases negative with
  | true => simp [signed, Int.neg_tdiv]
  | false => simp [signed]

theorem Binary64.whole_eq_some_iff_ratio {number : Binary64} {whole numerator : ℤ}
    {denominator : ℕ} (ratio : number.ratio? = some (numerator, denominator)) :
    number.whole? = some whole ↔ denominator = 1 ∧ numerator = whole := by
  rw [whole?, ratio]
  by_cases undivided : denominator = 1
  · subst undivided
    simp
  · refine iff_of_false ?_ fun both => undivided both.1
    split
    · rename_i found
      exact absurd (congrArg Prod.snd (Option.some.inj found)) undivided
    · nofun

/-- What is extracted from a floating-point number is the whole number that it is. -/
theorem Binary64.whole_eq_some_iff (number : Binary64) (whole : ℤ) :
    number.whole? = some whole ↔ number.value? = some (whole : ℚ) := by
  cases number with
  | nan => simp [whole?, ratio?, value?]
  | infinite negative => simp [whole?, ratio?, value?]
  | finite negative mantissa exponent =>
      rw [value?, Option.some_inj]
      by_cases down : exponent < 0
      · obtain ⟨power, rfl⟩ : ∃ power : ℕ, exponent = -(power : ℤ) := ⟨exponent.natAbs, by omega⟩
        have same : (-(power : ℤ)).natAbs = power := by omega
        have scaled : (signed negative mantissa : ℚ) * 2 ^ (-(power : ℤ)) = whole ↔
            2 ^ power ∣ mantissa ∧ signed negative (mantissa / 2 ^ power) = whole :=
          scaled_down_eq_iff (by decide)
        have lowest : 2 ^ power / Nat.gcd mantissa (2 ^ power) = 1 ↔ 2 ^ power ∣ mantissa :=
          div_gcd_eq_one_iff (Nat.two_pow_pos power)
        have ratio : (Binary64.finite negative mantissa (-(power : ℤ))).ratio? =
            some (signed negative (mantissa / Nat.gcd mantissa (2 ^ power)),
              2 ^ power / Nat.gcd mantissa (2 ^ power)) := by
          rw [ratio?]
          dsimp only
          rw [if_pos down, same, ← signed_tdiv]
          rfl
        rw [whole_eq_some_iff_ratio ratio, scaled, ← lowest]
        refine and_congr_right fun undivided => ?_
        rw [Nat.gcd_eq_right (lowest.mp undivided)]
      · obtain ⟨power, rfl⟩ := Int.eq_ofNat_of_zero_le (Int.not_lt.mp down)
        have ratio : (Binary64.finite negative mantissa (power : ℤ)).ratio? =
            some (signed negative (mantissa * 2 ^ power), 1) := by
          rw [ratio?]
          dsimp only
          rw [if_neg down, signed_mul]
          rfl
        rw [whole_eq_some_iff_ratio ratio, and_iff_right rfl]
        exact (scaled_up_eq_iff 2 power).symm

end MemberDispatch
