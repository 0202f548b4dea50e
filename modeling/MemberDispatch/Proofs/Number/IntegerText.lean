import Mathlib.Data.List.TakeWhile
import Mathlib.Data.Nat.Digits.Defs
import MemberDispatch.Number.IntegerText
import MemberDispatch.Text.Utf8

/-!
# Reading back what was written

A whole number that can be written in decimal is read back from its text. The text has digits only,
behind a sign if the number is negative, and on such characters everything that reading does besides
evaluating the digits does nothing: there is no padding, no mark of a base and no underscore. The
bytes of such a text are read as the same text.
-/

namespace MemberDispatch

/-- Where so many digits are more than enough for so many bits, digits in proportion are enough. -/
theorem twoTo_lt_tenTo {bits digits length places : ℕ} (few : twoTo bits < tenTo digits)
    (enough : digits * length ≤ places * bits) (some_bits : 0 < length) :
    twoTo length < tenTo places := by
  change 2 ^ bits < 10 ^ digits at few
  have powers : (2 ^ length) ^ bits < (10 ^ places) ^ bits :=
    calc (2 ^ length) ^ bits
        = (2 ^ bits) ^ length := by rw [← pow_mul, Nat.mul_comm, pow_mul]
      _ < (10 ^ digits) ^ length := Nat.pow_lt_pow_left few some_bits.ne'
      _ = 10 ^ (digits * length) := (pow_mul _ _ _).symm
      _ ≤ 10 ^ (places * bits) := Nat.pow_le_pow_right (by decide) enough
      _ = (10 ^ places) ^ bits := pow_mul _ _ _
  exact lt_of_pow_lt_pow_left₀ bits (Nat.zero_le _) powers

/-- A number is below the power of ten of its number of digits. -/
theorem lt_tenTo_digitCount (number : ℕ) : number < tenTo (digitCount number) := by
  unfold digitCount
  dsimp only
  split
  · assumption
  · split
    · assumption
    · have few : twoTo 100000 < tenTo 30103 := by decide +kernel
      have below : number < twoTo (number.log2 + 1) := Nat.lt_log2_self
      exact below.trans (twoTo_lt_tenTo few (by omega) (Nat.succ_pos _))

/-- That characters are decimal digits. -/
def AllDigits (characters : List Char) : Prop :=
  ∀ character ∈ characters, 48 ≤ character.toNat ∧ character.toNat ≤ 57

theorem allDigits_toDigits (number : ℕ) : AllDigits (Nat.toDigits 10 number) := by
  intro character mem
  have digit := Nat.isDigit_of_mem_toDigits (by decide) (by decide) mem
  simp only [Char.isDigit, Bool.and_eq_true, decide_eq_true_eq, ge_iff_le,
    UInt32.le_iff_toNat_le] at digit
  exact digit

section Plain

variable {characters : List Char}

theorem plain_of_ascii (ascii : ∀ character ∈ characters, character.toNat < 0x80) :
    NumberText.plain characters = characters := by
  induction characters with
  | nil => rfl
  | cons first rest ih =>
      obtain ⟨here, others⟩ := List.forall_mem_cons.mp ascii
      rw [NumberText.plain, if_pos here, ih others]

theorem trimmed_of_solid {text : String}
    (ascii : ∀ character ∈ text.toList, character.toNat < 0x80)
    (solid : ∀ character ∈ text.toList, NumberText.isPadding character = false) :
    NumberText.trimmed text = text.toList := by
  have start : ∀ characters : List Char,
      (∀ character ∈ characters, NumberText.isPadding character = false) →
        characters.dropWhile NumberText.isPadding = characters := by
    intro characters solid
    cases characters with
    | nil => rfl
    | cons first rest => rw [List.dropWhile_cons_of_neg (by simp [solid first])]
  rw [NumberText.trimmed, plain_of_ascii ascii, Text.trimStart, Text.trimEnd, start _ solid,
    start, List.reverse_reverse]
  intro character mem
  exact solid character (List.mem_reverse.mp mem)

/-- Bytes of ASCII are read as the text that they are the bytes of. -/
theorem decodeUtf8_of_ascii {text : String}
    (ascii : ∀ character ∈ text.toList, character.toNat < 0x80) :
    Text.decodeUtf8 (Text.encodeUtf8 text) = .ok text := by
  have step : ∀ (characters : List Char) (position : ℕ),
      (∀ character ∈ characters, character.toNat < 0x80) →
        Text.decodeUtf8From position 0 (characters.flatMap Text.encodeCharacter) =
          .ok characters := by
    intro characters
    induction characters with
    | nil => exact fun _ _ => rfl
    | cons first rest ih =>
        intro position ascii
        obtain ⟨here, others⟩ := List.forall_mem_cons.mp ascii
        have byte : (UInt8.ofNat first.toNat).toNat = first.toNat := by
          rw [UInt8.toNat_ofNat']
          omega
        rw [List.flatMap_cons, Text.encodeCharacter, if_pos here, List.singleton_append,
          Text.decodeUtf8From]
        simp only [byte]
        rw [if_pos here, ih _ others, Char.ofNat_toNat]
        rfl
  rw [Text.decodeUtf8, Text.encodeUtf8, step _ 0 ascii]
  exact congrArg Except.ok String.ofList_toList

end Plain

namespace AllDigits

variable {characters : List Char}

theorem below (digits : AllDigits characters) {character : Char} (mem : character ∈ characters) :
    IntegerText.digits.below 10 character = some (character.toNat - 48) := by
  obtain ⟨low, high⟩ := digits character mem
  have within : ('0' ≤ character && character ≤ '9') = true := by
    simp only [Bool.and_eq_true, decide_eq_true_eq, Char.le_def, UInt32.le_iff_toNat_le]
    exact ⟨low, high⟩
  have small : character.toNat - 48 < 10 := by omega
  rw [IntegerText.digits.below, IntegerText.digit?, if_pos within, Option.filter_some,
    if_pos (decide_eq_true small)]

theorem ne_of_other (digits : AllDigits characters) {other : Char}
    (isOther : other.toNat < 48 ∨ 57 < other.toNat) : other ∉ characters := by
  intro mem
  have bounds := digits other mem
  omega

theorem digits_eq (digits : AllDigits characters) (nonempty : characters ≠ []) :
    IntegerText.digits 10 characters =
      some (characters.map fun character => character.toNat - 48) := by
  induction characters with
  | nil => exact absurd rfl nonempty
  | cons first rest ih =>
      have here := digits.below List.mem_cons_self
      have others : AllDigits rest := fun character mem =>
        digits character (List.mem_cons_of_mem _ mem)
      cases rest with
      | nil => simp only [IntegerText.digits, here, Option.map_some, List.map_cons, List.map_nil]
      | cons second rest =>
          have digit : second ≠ '_' := by
            rintro rfl
            exact others.ne_of_other (.inr (by decide)) List.mem_cons_self
          rw [IntegerText.digits, here, ih others (List.cons_ne_nil _ _)]
          · rfl
          · exact fun same => List.cons_ne_nil _ _ same
          · exact fun _ same => digit (List.cons.inj same).1

theorem runLength_eq (digits : AllDigits characters) :
    IntegerText.runLength 10 characters = characters.length := by
  have all : ∀ character ∈ characters,
      (IntegerText.digits.below 10 character).isSome = true := by
    intro character mem
    rw [digits.below mem, Option.isSome_some]
  rw [IntegerText.runLength]
  dsimp only
  have run : characters.takeWhile (fun character =>
      character == '_' || (IntegerText.digits.below 10 character).isSome) = characters := by
    refine List.takeWhile_eq_self_iff.mpr fun character mem => ?_
    rw [all character mem, Bool.or_true]
  rw [run, List.filter_eq_self.mpr all]

theorem splitBase_eq (digits : AllDigits characters) :
    IntegerText.splitBase 10 characters = (10, characters) := by
  have unmarked : IntegerText.announced? characters = none := by
    unfold IntegerText.announced?
    split
    · rename_i mark rest
      have others (other : Char) (isOther : other.toNat < 48 ∨ 57 < other.toNat) :
          (mark == other) = false := by
        refine beq_eq_false_iff_ne.mpr ?_
        rintro rfl
        exact digits.ne_of_other isOther (List.mem_cons_of_mem _ List.mem_cons_self)
      simp only [others 'x' (.inr (by decide)), others 'X' (.inr (by decide)),
        others 'o' (.inr (by decide)), others 'O' (.inr (by decide)),
        others 'b' (.inr (by decide)), others 'B' (.inr (by decide)), Bool.or_self]
      rfl
    · rfl
  rw [IntegerText.splitBase, unmarked]
  rfl

theorem ascii (digits : AllDigits characters) {character : Char} (mem : character ∈ characters) :
    character.toNat < 0x80 := by
  have bounds := digits character mem
  omega

theorem solid (digits : AllDigits characters) {character : Char} (mem : character ∈ characters) :
    NumberText.isPadding character = false := by
  have bounds := digits character mem
  have noSpace : (character == ' ') = false := by
    refine beq_eq_false_iff_ne.mpr ?_
    rintro rfl
    exact digits.ne_of_other (.inl (by decide)) mem
  have large : ¬ character.toNat ≤ 0xd := by omega
  rw [NumberText.isPadding, noSpace, decide_eq_false large, Bool.and_false, Bool.or_false]

theorem splitSign_eq (digits : AllDigits characters) :
    NumberText.splitSign characters = (false, characters) := by
  unfold NumberText.splitSign
  split
  · exact absurd List.mem_cons_self (digits.ne_of_other (.inl (by decide)))
  · exact absurd List.mem_cons_self (digits.ne_of_other (.inl (by decide)))
  · rfl

/-- Reading evaluates the digits behind the sign. -/
theorem readInteger_eq (digits : AllDigits characters) (nonempty : characters ≠ [])
    (few : characters.length ≤ digitLimit) {text : String} {negative : Bool}
    (shape : NumberText.splitSign (NumberText.trimmed text) = (negative, characters)) :
    readInteger 10 text =
      .ok (if negative then -(Nat.ofDigitChars 10 characters 0 : ℤ)
        else Nat.ofDigitChars 10 characters 0) := by
  have value (start : ℕ) :
      (characters.map fun character => character.toNat - 48).foldl
          (fun value digit => value * 10 + digit) start =
        Nat.ofDigitChars 10 characters start := by
    rw [List.foldl_map]
    unfold Nat.ofDigitChars
    congr 1
    funext value character
    rw [Nat.mul_comm]
    rfl
  have base : (10 : ℤ).toNat = 10 := rfl
  have short : ¬ digitLimit < characters.length := Nat.not_lt.mpr few
  simp only [readInteger, shape, base, digits.splitBase_eq, digits.runLength_eq,
    digits.digits_eq nonempty, value, decide_eq_false short, Bool.and_false, Bool.false_eq_true,
    if_false]
  rw [if_neg (by decide)]
  exact if_neg (by simp)

end AllDigits

section Writing

variable {number : ℤ} {text : String}

theorem length_toDigits_le {magnitude limit : ℕ} (positive : 0 < limit)
    (few : digitCount magnitude ≤ limit) : (Nat.toDigits 10 magnitude).length ≤ limit := by
  refine (Nat.length_toDigits_le_iff (by decide) positive).mpr ?_
  exact (lt_tenTo_digitCount magnitude).trans_le (Nat.pow_le_pow_right (by decide) few)

theorem few_digits_of_writeInteger (written : writeInteger number = .ok text) :
    (Nat.toDigits 10 number.natAbs).length ≤ digitLimit ∧ text = toString number := by
  unfold writeInteger at written
  split at written
  · cases written
  · rename_i few
    cases written
    exact ⟨length_toDigits_le (by decide) (Nat.le_of_not_gt few), rfl⟩

/-- What is written of a whole number: its digits, behind a sign if it is negative. -/
theorem toList_toString (number : ℤ) :
    (toString number).toList =
      (if 0 ≤ number then [] else ['-']) ++ Nat.toDigits 10 number.natAbs := by
  rw [Int.toString_eq_repr, Int.repr_eq_if]
  split
  · rename_i positive
    rw [Nat.toList_repr, List.nil_append]
    congr 1
    omega
  · rename_i negative
    rw [String.toList_append, Nat.toList_repr]
    have same : (-number).toNat = number.natAbs := by omega
    rw [same]
    rfl

/-- What is written of a whole number consists of digits and a sign. -/
theorem sign_or_digit_of_mem_toString {number : ℤ} {character : Char}
    (mem : character ∈ (toString number).toList) :
    character = '-' ∨ character ∈ Nat.toDigits 10 number.natAbs := by
  rw [toList_toString] at mem
  rcases List.mem_append.mp mem with sign | digit
  · split at sign
    · cases sign
    · exact .inl (List.mem_singleton.mp sign)
  · exact .inr digit

theorem ascii_toString (number : ℤ) :
    ∀ character ∈ (toString number).toList, character.toNat < 0x80 := by
  intro character mem
  rcases sign_or_digit_of_mem_toString mem with rfl | digit
  · decide
  · exact (allDigits_toDigits _).ascii digit

theorem trimmed_toString (number : ℤ) :
    NumberText.trimmed (toString number) = (toString number).toList := by
  refine trimmed_of_solid (ascii_toString number) ?_
  intro character mem
  rcases sign_or_digit_of_mem_toString mem with rfl | digit
  · decide
  · exact (allDigits_toDigits _).solid digit

/-- A whole number that can be written is read back from what is written. -/
theorem readInteger_of_writeInteger (written : writeInteger number = .ok text) :
    readInteger 10 text = .ok number := by
  obtain ⟨few, rfl⟩ := few_digits_of_writeInteger written
  have digits := allDigits_toDigits number.natAbs
  have shape : NumberText.splitSign (NumberText.trimmed (toString number)) =
      (!decide (0 ≤ number), Nat.toDigits 10 number.natAbs) := by
    rw [trimmed_toString, toList_toString]
    by_cases positive : 0 ≤ number
    · rw [if_pos positive, List.nil_append, digits.splitSign_eq, decide_eq_true positive]
      rfl
    · rw [if_neg positive, decide_eq_false positive]
      rfl
  rw [digits.readInteger_eq Nat.toDigits_ne_nil few shape,
    Nat.ofDigitChars_toDigits (by decide) (by decide)]
  congr 1
  by_cases positive : 0 ≤ number
  · rw [decide_eq_true positive, Bool.not_true, if_neg Bool.false_ne_true]
    omega
  · rw [decide_eq_false positive, Bool.not_false, if_pos rfl]
    omega

/-- The bytes of what is written of a whole number are read as the same text. -/
theorem decodeUtf8_of_writeInteger (written : writeInteger number = .ok text) :
    Text.decodeUtf8 (Text.encodeUtf8 text) = .ok text := by
  obtain ⟨-, rfl⟩ := few_digits_of_writeInteger written
  exact decodeUtf8_of_ascii (ascii_toString number)

end Writing

end MemberDispatch
