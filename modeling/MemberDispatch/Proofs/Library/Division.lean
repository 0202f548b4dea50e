import Mathlib.Algebra.Order.Ring.Abs
import Mathlib.Algebra.Order.Ring.Int
import Mathlib.Tactic.Linarith
import MemberDispatch.Machine
import MemberDispatch.Proofs.Library.Calls

/-!
# The laws of division

Of the two ways to divide, one drops the fraction of the quotient and the other takes its floor. The
truncated quotient is made from the floored one: one is added where that is negative and not exact,
which is where the numbers have opposite signs and the divisor does not divide the dividend.
-/

namespace MemberDispatch

/-- The laws that tie a truncated quotient and a floored one to what each of them leaves. -/
structure DivisionLaws (dividend divisor quotient remainder floor rest : ℤ) : Prop where
  truncated : dividend = divisor * quotient + remainder
  remainder_small : |remainder| < |divisor|
  remainder_sign : remainder = 0 ∨ remainder.sign = dividend.sign
  floored : dividend = divisor * floor + rest
  rest_small : |rest| < |divisor|
  rest_sign : rest = 0 ∨ rest.sign = divisor.sign
  above_iff : quotient = floor + 1 ↔ ¬ divisor ∣ dividend ∧ dividend * divisor < 0
  same_iff : quotient = floor ↔ divisor ∣ dividend ∨ 0 ≤ dividend * divisor

namespace Integer

variable {dividend divisor : ℤ}

section Flooring

theorem rest_bounds_of_pos (positive : 0 < divisor) (dividend : ℤ) :
    0 ≤ dividend.fmod divisor ∧ dividend.fmod divisor < divisor :=
  ⟨Int.fmod_nonneg_of_pos dividend positive, Int.fmod_lt_of_pos dividend positive⟩

theorem rest_bounds_of_neg (negative : divisor < 0) (dividend : ℤ) :
    divisor < dividend.fmod divisor ∧ dividend.fmod divisor ≤ 0 := by
  have bounds := rest_bounds_of_pos (Int.neg_pos.mpr negative) (-dividend)
  rw [Int.neg_fmod_neg] at bounds
  omega

theorem abs_fmod_lt (nonzero : divisor ≠ 0) (dividend : ℤ) : |dividend.fmod divisor| < |divisor| := by
  rcases lt_or_gt_of_ne nonzero with negative | positive
  · have bounds := rest_bounds_of_neg negative dividend
    rw [abs_of_nonpos bounds.2, abs_of_neg negative]
    omega
  · have bounds := rest_bounds_of_pos positive dividend
    rw [abs_of_nonneg bounds.1, abs_of_pos positive]
    exact bounds.2

theorem sign_fmod (nonzero : divisor ≠ 0) (dividend : ℤ) :
    dividend.fmod divisor = 0 ∨ (dividend.fmod divisor).sign = divisor.sign := by
  rcases lt_or_gt_of_ne nonzero with negative | positive
  · have bounds := rest_bounds_of_neg negative dividend
    rcases eq_or_lt_of_le bounds.2 with zero | below
    · exact Or.inl zero
    · right
      rw [Int.sign_eq_neg_one_of_neg below, Int.sign_eq_neg_one_of_neg negative]
  · have bounds := rest_bounds_of_pos positive dividend
    rcases eq_or_lt_of_le bounds.1 with zero | above
    · exact Or.inl zero.symm
    · right
      rw [Int.sign_eq_one_of_pos above, Int.sign_eq_one_of_pos positive]

/-- The floor of a quotient is negative just if the numbers have opposite signs. -/
theorem fdiv_neg_iff (dividend divisor : ℤ) :
    dividend.fdiv divisor < 0 ↔ dividend * divisor < 0 := by
  have whole := Int.mul_fdiv_add_fmod dividend divisor
  rcases lt_trichotomy divisor 0 with negative | rfl | positive
  · have bounds := rest_bounds_of_neg negative dividend
    rw [mul_neg_iff]
    constructor
    · intro below
      have product_ge : -divisor ≤ divisor * dividend.fdiv divisor := by nlinarith
      omega
    · intro opposite
      by_contra above
      have product_nonpos := mul_nonpos_of_nonpos_of_nonneg negative.le (not_lt.mp above)
      omega
  · simp
  · have bounds := rest_bounds_of_pos positive dividend
    rw [mul_neg_iff]
    constructor
    · intro below
      have product_le : divisor * dividend.fdiv divisor ≤ -divisor := by nlinarith
      omega
    · intro opposite
      by_contra above
      have product_nonneg := mul_nonneg positive.le (not_lt.mp above)
      omega

end Flooring

section Truncating

theorem truncatedQuotient_eq (dividend divisor : ℤ) :
    truncatedQuotient dividend divisor =
      if ¬ divisor ∣ dividend ∧ dividend * divisor < 0 then dividend.fdiv divisor + 1
      else dividend.fdiv divisor := by
  have exact_iff : dividend.fdiv divisor * divisor = dividend ↔ divisor ∣ dividend := by
    constructor
    · intro same
      exact Dvd.intro_left _ same
    · intro divides
      exact Int.fdiv_mul_cancel divides
  unfold truncatedQuotient
  simp only [Bool.and_eq_true, decide_eq_true_eq, bne_iff_ne, ne_eq, exact_iff, fdiv_neg_iff]
  simp only [and_comm]

theorem truncatedQuotient_eq_tdiv (dividend divisor : ℤ) :
    truncatedQuotient dividend divisor = dividend.tdiv divisor := by
  rw [truncatedQuotient_eq, Int.tdiv_eq_fdiv]
  by_cases divides : divisor ∣ dividend
  · simp [divides]
  · have dividend_ne : dividend ≠ 0 := by
      rintro rfl
      exact divides (dvd_zero _)
    rcases lt_trichotomy divisor 0 with negative | rfl | positive
    · rcases lt_or_gt_of_ne dividend_ne with below | above
      · have alike : ¬ dividend * divisor < 0 := by nlinarith
        simp [divides, alike, not_le.mpr below, not_le.mpr negative,
          Int.sign_eq_neg_one_of_neg negative]
      · have opposite : dividend * divisor < 0 := by nlinarith
        simp [divides, opposite, above.le, not_le.mpr negative]
    · simp [divides]
    · rcases lt_or_gt_of_ne dividend_ne with below | above
      · have opposite : dividend * divisor < 0 := by nlinarith
        simp [divides, opposite, not_le.mpr below, positive.le, Int.sign_eq_one_of_pos positive]
      · have alike : ¬ dividend * divisor < 0 := by nlinarith
        simp [divides, alike, above.le, positive.le]

theorem truncatedRemainder_eq_tmod (dividend divisor : ℤ) :
    truncatedRemainder dividend divisor = dividend.tmod divisor := by
  have whole := Int.mul_tdiv_add_tmod dividend divisor
  rw [truncatedRemainder, truncatedQuotient_eq_tdiv]
  omega

theorem abs_tmod_lt (nonzero : divisor ≠ 0) (dividend : ℤ) : |dividend.tmod divisor| < |divisor| := by
  rw [Int.abs_eq_natAbs, Int.abs_eq_natAbs, Int.natAbs_tmod]
  exact_mod_cast Nat.mod_lt _ (Int.natAbs_pos.mpr nonzero)

end Truncating

/-- The quotients of a division by a number that is not zero, with what they leave. -/
theorem divisionLaws (nonzero : divisor ≠ 0) (dividend : ℤ) :
    DivisionLaws dividend divisor (truncatedQuotient dividend divisor)
      (truncatedRemainder dividend divisor) (dividend.fdiv divisor) (dividend.fmod divisor) where
  truncated := by
    rw [truncatedRemainder]
    omega
  remainder_small := by
    rw [truncatedRemainder_eq_tmod]
    exact abs_tmod_lt nonzero dividend
  remainder_sign := by
    rw [truncatedRemainder_eq_tmod, Int.sign_tmod]
    by_cases divides : divisor ∣ dividend
    · exact Or.inl (Int.tmod_eq_zero_of_dvd divides)
    · exact Or.inr (if_neg divides)
  floored := (Int.mul_fdiv_add_fmod dividend divisor).symm
  rest_small := abs_fmod_lt nonzero dividend
  rest_sign := sign_fmod nonzero dividend
  above_iff := by
    rw [truncatedQuotient_eq]
    split
    next apart => simp only [apart, not_false_eq_true, and_self]
    next alike => simp only [alike, left_eq_add, one_ne_zero]
  same_iff := by
    rw [truncatedQuotient_eq]
    split
    next apart => simp only [add_eq_left, one_ne_zero, apart.1, false_or, not_le.mpr apart.2]
    next alike =>
      rw [not_and, not_lt] at alike
      simp only [true_iff]
      exact or_iff_not_imp_left.mpr alike

end Integer

/-- A function of a provider that divides, with what it gives for a divisor that is not zero. -/
structure Division where
  cls : BuiltinClass
  name : String
  operation : ℤ → ℤ → ℤ

/-- The functions that divide a whole number by another. -/
def divisions : List Division :=
  [⟨.numberFunctions, "div", Integer.truncatedQuotient⟩,
    ⟨.numberFunctions, "divide", Integer.truncatedQuotient⟩,
    ⟨.numberFunctions, "mod", Integer.truncatedRemainder⟩,
    ⟨.mathFunctions, "floor_div", Int.fdiv⟩, ⟨.mathFunctions, "floor_mod", Int.fmod⟩]

namespace Engine

variable (engine : Engine) {division : Division} (dividend : ℤ) {divisor : ℤ}

theorem gives_of_mem_divisions (listed : division ∈ divisions) (nonzero : divisor ≠ 0) :
    engine.Gives division.cls division.name [.int dividend, .int divisor]
      (.int (division.operation dividend divisor)) := by
  intro session
  have passes : (divisor == 0) = false := beq_eq_false_iff_ne.mpr nonzero
  simp only [divisions, List.mem_cons, List.not_mem_nil, or_false] at listed
  rcases listed with rfl | rfl | rfl | rfl | rfl
  · simp only [callStatic_div, IntegerFunctions.divide, passes]
    rfl
  · simp only [callStatic_divide, IntegerFunctions.divide, passes]
    rfl
  · simp only [callStatic_mod, IntegerFunctions.remainder, passes]
    rfl
  · simp only [callStatic_floor_div, IntegerFunctions.floorDivide, passes]
    rfl
  · simp only [callStatic_floor_mod, IntegerFunctions.floorRemainder, passes]
    rfl

theorem refuses_zero_of_mem_divisions (listed : division ∈ divisions) :
    engine.Refuses division.cls division.name [.int dividend, .int 0] .zeroDivision := by
  intro session
  simp only [divisions, List.mem_cons, List.not_mem_nil, or_false] at listed
  rcases listed with rfl | rfl | rfl | rfl | rfl
  · exact ⟨_, rfl⟩
  · exact ⟨_, rfl⟩
  · exact ⟨_, rfl⟩
  · exact ⟨_, rfl⟩
  · exact ⟨_, rfl⟩

theorem refuses_iff_of_mem_divisions (listed : division ∈ divisions) :
    engine.Refuses division.cls division.name [.int dividend, .int divisor] .zeroDivision ↔
      divisor = 0 := by
  constructor
  · intro refuses
    by_contra nonzero
    exact not_refuses_of_gives (engine.gives_of_mem_divisions dividend listed nonzero) _ refuses
  · rintro rfl
    exact engine.refuses_zero_of_mem_divisions dividend listed

theorem gives_div (nonzero : divisor ≠ 0) :
    engine.Gives .numberFunctions "div" [.int dividend, .int divisor]
      (.int (dividend.tdiv divisor)) := by
  rw [← Integer.truncatedQuotient_eq_tdiv]
  exact engine.gives_of_mem_divisions dividend (.head _) nonzero

/-- Dividing fails just for the divisor zero. For any other, the functions give numbers that obey the
laws of division, and the truncated quotient changes its sign with each of the two numbers. -/
theorem divisions_obey (divisor : ℤ) :
    (∀ division ∈ divisions,
      (engine.Refuses division.cls division.name [.int dividend, .int divisor] .zeroDivision ↔
        divisor = 0)) ∧
    (divisor ≠ 0 → ∃ quotient remainder floor rest : ℤ,
      engine.Gives .numberFunctions "div" [.int dividend, .int divisor] (.int quotient) ∧
      engine.Gives .numberFunctions "divide" [.int dividend, .int divisor] (.int quotient) ∧
      engine.Gives .numberFunctions "mod" [.int dividend, .int divisor] (.int remainder) ∧
      engine.Gives .mathFunctions "floor_div" [.int dividend, .int divisor] (.int floor) ∧
      engine.Gives .mathFunctions "floor_mod" [.int dividend, .int divisor] (.int rest) ∧
      DivisionLaws dividend divisor quotient remainder floor rest ∧
      engine.Gives .numberFunctions "div" [.int (-dividend), .int divisor] (.int (-quotient)) ∧
      engine.Gives .numberFunctions "div" [.int dividend, .int (-divisor)] (.int (-quotient))) := by
  constructor
  · intro division listed
    exact engine.refuses_iff_of_mem_divisions dividend listed
  · intro nonzero
    have gives {division : Division} (listed : division ∈ divisions) :=
      engine.gives_of_mem_divisions dividend listed nonzero
    have minus_dividend := engine.gives_div (-dividend) nonzero
    have minus_divisor := engine.gives_div dividend (neg_ne_zero.mpr nonzero)
    rw [Int.neg_tdiv, ← Integer.truncatedQuotient_eq_tdiv] at minus_dividend
    rw [Int.tdiv_neg, ← Integer.truncatedQuotient_eq_tdiv] at minus_divisor
    exact ⟨_, _, _, _, gives (.head _), gives (.tail _ (.head _)),
      gives (.tail _ (.tail _ (.head _))), gives (.tail _ (.tail _ (.tail _ (.head _)))),
      gives (.tail _ (.tail _ (.tail _ (.tail _ (.head _))))),
      Integer.divisionLaws nonzero dividend, minus_dividend, minus_divisor⟩

/-- Minus seven by two, where the quotients differ. -/
theorem divisions_obey_apart :
    ∃ quotient remainder floor rest : ℤ,
      (World.engine {}).Gives .numberFunctions "div" [.int (-7), .int 2] (.int quotient) ∧
      (World.engine {}).Gives .mathFunctions "floor_div" [.int (-7), .int 2] (.int floor) ∧
      DivisionLaws (-7) 2 quotient remainder floor rest ∧ quotient = floor + 1 := by
  have laws := ((World.engine {}).divisions_obey (-7) 2).2 (by decide)
  rcases laws with ⟨quotient, remainder, floor, rest, div, -, -, floor_div, -, laws, -⟩
  exact ⟨quotient, remainder, floor, rest, div, floor_div, laws, laws.above_iff.mpr (by decide)⟩

end Engine

end MemberDispatch
