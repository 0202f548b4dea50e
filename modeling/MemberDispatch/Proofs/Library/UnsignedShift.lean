import Mathlib.Data.Nat.Bitwise
import MemberDispatch.Proofs.Library.Stretches
import MemberDispatch.Proofs.Value.WholeNumbers

/-!
# Unsigned shifts

A whole number is shifted as an unsigned one by masking it first, which leaves what the power of two
leaves of it, and the count is masked in the same way. What was masked is not negative, so from there on
the shift is a division.
-/

namespace MemberDispatch

section Masks

variable {bits : ℕ}

theorem mask_xor {number : ℕ} (short : number < 2 ^ bits) :
    (2 ^ bits - 1) ^^^ number = 2 ^ bits - 1 - number := by
  have same : 2 ^ bits - 1 - number = 2 ^ bits - (number + 1) := by omega
  rw [same]
  apply Nat.eq_of_testBit_eq
  intro place
  rw [Nat.testBit_xor, Nat.testBit_two_pow_sub_one, Nat.testBit_two_pow_sub_succ short]
  by_cases inside : place < bits
  · simp [inside]
  · have beyond : number.testBit place = false := by
      apply Nat.testBit_lt_two_pow
      exact Nat.lt_of_lt_of_le short (Nat.pow_le_pow_right (by decide) (by omega))
    simp [inside, beyond]

/-- Masking leaves the remainder, of negative numbers too. -/
theorem Integer.and_mask (number : ℤ) (bits : ℕ) :
    Integer.and number ((2 ^ bits - 1 : ℕ) : ℤ) = number % 2 ^ bits := by
  have positive : 0 < 2 ^ bits := Nat.two_pow_pos bits
  cases number with
  | ofNat number =>
    change ((number &&& (2 ^ bits - 1) : ℕ) : ℤ) = (number : ℤ) % 2 ^ bits
    rw [Nat.and_two_pow_sub_one_eq_mod]
    norm_cast
  | negSucc number =>
    have short : number % 2 ^ bits < 2 ^ bits := Nat.mod_lt _ positive
    change (((2 ^ bits - 1) ^^^ ((2 ^ bits - 1) &&& number) : ℕ) : ℤ) = Int.negSucc number % 2 ^ bits
    rw [Nat.and_comm, Nat.and_two_pow_sub_one_eq_mod, mask_xor short,
      Int.negSucc_emod number (by exact_mod_cast positive)]
    have cast : ((number % 2 ^ bits : ℕ) : ℤ) = (number : ℤ) % 2 ^ bits := by norm_cast
    have power : ((2 ^ bits : ℕ) : ℤ) = 2 ^ bits := by norm_cast
    omega

/-- A number that is not negative is divided by shifting it, whether or not any bit is left. -/
theorem Integer.shiftRight_of_nonneg {number : ℤ} (positive : 0 ≤ number) (count : ℕ) :
    Integer.shiftRight number count = number / 2 ^ count := by
  unfold Integer.shiftRight
  split
  -- Beyond the last bit the result is known without a power of two, which could be too large.
  · rename_i long
    have small : number.natAbs < 2 ^ count := by
      apply Nat.lt_of_lt_of_le Nat.lt_log2_self
      exact Nat.pow_le_pow_right (by decide) (Nat.le_of_lt long)
    have below : number < 2 ^ count := by
      have cast : ((number.natAbs : ℕ) : ℤ) < ((2 ^ count : ℕ) : ℤ) := by exact_mod_cast small
      rw [Int.natAbs_of_nonneg positive] at cast
      exact_mod_cast cast
    rw [if_neg (Int.not_lt.mpr positive), Int.ediv_eq_zero_of_lt positive below]
  · rw [Int.fdiv_eq_ediv_of_nonneg _ (Int.natCast_nonneg _), twoTo]
    norm_cast

end Masks

namespace IntegerFunctions

/-- The number of bits that a number is shifted in as an unsigned one. -/
def shiftBits (number : ℤ) : ℕ :=
  if Width.int32.Spans number then 32 else 64

theorem holds_iff {width : Width} (wide : 1 ≤ width.bits) (number : ℤ) :
    width.holds number = true ↔ width.Spans number := by
  have bounded : (width.bits == 0) = false := beq_eq_false_iff_ne.mpr (by omega)
  simp only [Width.holds, Width.inRange?, bounded, Width.bound_eq wide, Option.map_some,
    Option.getD_some, Width.Spans, Bool.false_eq_true, if_false, Bool.and_eq_true, decide_eq_true_eq]

theorem spans_int64_of_int32 {number : ℤ} (spans : Width.int32.Spans number) :
    Width.int64.Spans number := by
  change -2 ^ 31 ≤ number ∧ number < 2 ^ 31 at spans
  change -2 ^ 63 ≤ number ∧ number < 2 ^ 63
  omega

/-- Shifting what is left of a number by what is left of the count. -/
theorem shiftRight_masked (number count : ℤ) (bits places : ℕ) :
    Integer.shiftRight (Integer.and number ((2 ^ bits - 1 : ℕ) : ℤ))
        (Integer.and count ((2 ^ places - 1 : ℕ) : ℤ)).toNat =
      number % 2 ^ bits / 2 ^ (count % 2 ^ places).toNat := by
  have positive : 0 ≤ number % 2 ^ bits := Int.emod_nonneg _ (pow_ne_zero bits (by decide))
  rw [Integer.and_mask, Integer.and_mask, Integer.shiftRight_of_nonneg positive]

/-- Where the number has a width at all, the result is that of unsigned numbers of its bits. -/
theorem shiftRightUnsigned_eq (number count : ℤ) :
    shiftRightUnsigned number count =
      if Width.int64.Spans number then
        .ok (number % 2 ^ shiftBits number / 2 ^ (count % shiftBits number).toNat)
      else .error (.outside .int64 number) := by
  unfold shiftRightUnsigned shiftBits
  by_cases short : Width.int32.Spans number
  · have held : Width.int32.holds number = true := (holds_iff (by decide) number).mpr short
    rw [if_pos (spans_int64_of_int32 short), if_pos short]
    simp only [held, if_true]
    exact congrArg Except.ok (shiftRight_masked number count 32 5)
  · have beyond : Width.int32.holds number = false := by
      rw [Bool.eq_false_iff]
      exact fun held => short ((holds_iff (by decide) number).mp held)
    simp only [beyond, Bool.false_eq_true, if_false, if_neg short]
    by_cases long : Width.int64.Spans number
    · rw [if_pos ((holds_iff (by decide) number).mpr long), if_pos long]
      exact congrArg Except.ok (shiftRight_masked number count 64 6)
    · rw [if_neg (fun held => long ((holds_iff (by decide) number).mp held)), if_neg long]

end IntegerFunctions

/-- What the unsigned shift of a number comes to, in its narrowest width. It overflows just outside the
greatest width, as far as the number can be written in the complaint, and is the logical shift in any
other case: the bits of the number, moved by the last bits of the count. -/
structure UnsignedShiftLaws (engine : Engine) (number count : ℤ) (bits : ℕ) : Prop where
  overflow_iff (writable : Engine.Writable number) :
    engine.Refuses .numberFunctions "shift_right_unsigned" [.int number, .int count] .overflow ↔
      ¬ Width.int64.Spans number
  gives (spans : Width.int64.Spans number) : ∃ result : ℤ,
    engine.Gives .numberFunctions "shift_right_unsigned" [.int number, .int count] (.int result) ∧
      result = number % 2 ^ bits / 2 ^ (count % bits).toNat ∧ 0 ≤ result ∧ result < 2 ^ bits ∧
      (0 ≤ number → 0 ≤ count → count < bits →
        engine.Gives .numberFunctions "shift_right" [.int number, .int count] (.int result))

namespace Engine

variable (engine : Engine) (number count : ℤ)

theorem callStatic_shift_right :
    engine.callStatic .numberFunctions "shift_right" [.int number, .int count] =
      Act.ofInteger (IntegerFunctions.shiftRight number count) :=
  rfl

theorem callStatic_shift_right_unsigned :
    engine.callStatic .numberFunctions "shift_right_unsigned" [.int number, .int count] =
      Act.ofInteger (IntegerFunctions.shiftRightUnsigned number count) :=
  rfl

variable {number count}

theorem gives_shift_right (positive : 0 ≤ number) (forward : 0 ≤ count) :
    engine.Gives .numberFunctions "shift_right" [.int number, .int count]
      (.int (number / 2 ^ count.toNat)) := by
  intro session
  rw [callStatic_shift_right, IntegerFunctions.shiftRight, if_neg (Int.not_lt.mpr forward),
    Integer.shiftRight_of_nonneg positive]
  rfl

theorem gives_shift_right_unsigned (spans : Width.int64.Spans number) (count : ℤ) :
    engine.Gives .numberFunctions "shift_right_unsigned" [.int number, .int count]
      (.int (number % 2 ^ IntegerFunctions.shiftBits number /
        2 ^ (count % IntegerFunctions.shiftBits number).toNat)) := by
  intro session
  rw [callStatic_shift_right_unsigned, IntegerFunctions.shiftRightUnsigned_eq, if_pos spans]
  rfl

theorem refuses_shift_right_unsigned (beyond : ¬ Width.int64.Spans number)
    (writable : Writable number) (count : ℤ) :
    engine.Refuses .numberFunctions "shift_right_unsigned" [.int number, .int count] .overflow := by
  intro session
  rcases writable with ⟨written, writes⟩
  rw [callStatic_shift_right_unsigned, IntegerFunctions.shiftRightUnsigned_eq, if_neg beyond]
  have told := runFrom_integerText number session
  rw [writes] at told
  exact ⟨_, Act.runFrom_bind_of_ok told _⟩

theorem refuses_shift_right_unsigned_value (beyond : ¬ Width.int64.Spans number)
    (long : ¬ Writable number) (count : ℤ) :
    engine.Refuses .numberFunctions "shift_right_unsigned" [.int number, .int count] .valueError := by
  intro session
  rw [callStatic_shift_right_unsigned, IntegerFunctions.shiftRightUnsigned_eq, if_neg beyond]
  have told := runFrom_integerText number session
  cases writes : writeInteger number with
  | ok written => exact absurd ⟨written, writes⟩ long
  | error issue =>
      rw [writes] at told
      exact ⟨_, Act.runFrom_bind_of_error told _⟩

theorem number_lt_of_spans (spans : Width.int64.Spans number) :
    number < 2 ^ IntegerFunctions.shiftBits number := by
  change -2 ^ 63 ≤ number ∧ number < 2 ^ 63 at spans
  unfold IntegerFunctions.shiftBits
  split
  · rename_i short
    change -2 ^ 31 ≤ number ∧ number < 2 ^ 31 at short
    omega
  · omega

theorem unsignedShiftLaws (number count : ℤ) :
    UnsignedShiftLaws engine number count (IntegerFunctions.shiftBits number) where
  overflow_iff writable := by
    constructor
    · intro refuses spans
      exact not_refuses_of_gives (engine.gives_shift_right_unsigned spans count) _ refuses
    · intro beyond
      exact engine.refuses_shift_right_unsigned beyond writable count
  gives spans := by
    have bound : (0 : ℤ) < 2 ^ IntegerFunctions.shiftBits number :=
      Int.pow_pos (by decide)
    have masked_nonneg := Int.emod_nonneg number bound.ne'
    have masked_lt := Int.emod_lt_of_pos number bound
    refine ⟨_, engine.gives_shift_right_unsigned spans count, rfl, ?_, ?_, ?_⟩
    · exact Int.ediv_nonneg masked_nonneg (Int.le_of_lt (Int.pow_pos (by decide)))
    · exact Int.lt_of_le_of_lt (Int.ediv_le_self _ masked_nonneg) masked_lt
    · intro positive forward short
      rw [Int.emod_eq_of_lt positive (number_lt_of_spans spans), Int.emod_eq_of_lt forward short]
      exact engine.gives_shift_right positive forward

end Engine

end MemberDispatch
