import Mathlib.Data.Int.Notation
import Mathlib.Tactic.ByContra
import MemberDispatch.Machine
import MemberDispatch.Proofs.Library.Calls

/-!
# Parts of texts

A part of a text is named by positions or by a number of characters, either of which may lie outside
of the text. Moving a position into the text and counting a negative one from its end are different
things, and where a computed position turns negative the second is what happens to it.
-/

namespace MemberDispatch

namespace Slice

/-- A position moved into a list of the length. -/
def clamp (length : Nat) (position : ℤ) : Nat := min position.toNat length

variable {α : Type} (items : List α)

theorem clamp_le (length : Nat) (position : ℤ) : clamp length position ≤ length :=
  Nat.min_le_right _ _

theorem bound_of_nonneg {position : ℤ} (nonneg : 0 ≤ position) (length : Nat) :
    bound length position = clamp length position :=
  if_neg (Int.not_lt.mpr nonneg)

theorem bound_of_neg {position : ℤ} (negative : position < 0) (length : Nat) :
    bound length position = clamp length (position + length) := by
  unfold bound clamp
  rw [if_pos negative]
  omega

section Ends

/-- The number of items that the last ones come to, where more of them are asked for than there are
as many as exceed the length. -/
def reach (length : Nat) (count : ℤ) : Nat :=
  if count ≤ length then clamp length count else clamp length (count - length)

theorem left_eq (count : ℤ) : left items count = items.take (clamp items.length count) := by
  have start : bound items.length (max count 0) = clamp items.length count := by
    rw [bound_of_nonneg (Int.le_max_right count 0)]
    simp only [clamp]
    omega
  simp only [left, upTo, start]

theorem right_eq (count : ℤ) :
    right items count = items.drop (items.length - reach items.length count) := by
  by_cases positive : 0 < count
  · have stop : bound items.length (items.length : ℤ) = items.length := by
      rw [bound_of_nonneg (Int.natCast_nonneg _)]
      exact Nat.min_self _
    have start : bound items.length (items.length - count) =
        items.length - reach items.length count := by
      unfold bound reach clamp
      split
      · rw [if_neg (by omega)]
        omega
      · rw [if_pos (by omega)]
        omega
    simp only [right, gt_iff_lt, if_pos positive, between, start, stop]
    apply List.take_of_length_le
    simp only [List.length_drop]
    omega
  · have none_left : reach items.length count = 0 := by
      unfold reach clamp
      rw [if_pos (by omega)]
      omega
    simp only [right, gt_iff_lt, if_neg positive, none_left, Nat.sub_zero, List.drop_length]

theorem length_left (count : ℤ) : (left items count).length = clamp items.length count := by
  simp only [left_eq, List.length_take]
  exact Nat.min_eq_left (clamp_le _ _)

theorem reach_le (length : Nat) (count : ℤ) : reach length count ≤ length := by
  unfold reach
  split
  · exact clamp_le length count
  · exact clamp_le length (count - length)

theorem length_right (count : ℤ) : (right items count).length = reach items.length count := by
  have inside := reach_le items.length count
  simp only [right_eq, List.length_drop]
  omega

theorem reach_eq_clamp_iff (length : Nat) (count : ℤ) :
    reach length count = clamp length count ↔ count ≤ length ∨ 2 * (length : ℤ) ≤ count := by
  unfold reach clamp
  split
  · simp only [true_iff]
    omega
  · omega

/-- What the first items and the last ones leave out between them. -/
theorem length_sub_reach_eq_clamp_iff (length : Nat) (count : ℤ) :
    length - reach length (length - count) = clamp length count ↔
      0 ≤ count ∨ count ≤ -length := by
  unfold reach clamp
  split
  · omega
  · omega

theorem left_append_right_iff (count : ℤ) :
    left items count ++ right items (items.length - count) = items ↔
      0 ≤ count ∨ count ≤ -items.length := by
  rw [← length_sub_reach_eq_clamp_iff]
  constructor
  · intro whole
    have lengths := congrArg List.length whole
    rw [List.length_append, length_left, length_right] at lengths
    omega
  · intro meets
    rw [left_eq, right_eq, meets, List.take_append_drop]

end Ends

section Bounds

/-- The positions name a part of a list of the length. -/
def Lies (length : Nat) (first stop : ℤ) : Prop := 0 ≤ first ∧ first ≤ stop ∧ stop ≤ length

instance (length : Nat) (first stop : ℤ) : Decidable (Lies length first stop) :=
  inferInstanceAs (Decidable (_ ∧ _ ∧ _))

/-- Where a part ends: before its last position, or with the list where that is left out. -/
def stopOf (length : Nat) (last : Option ℤ) : ℤ := last.getD length

/-- A position where a negative one counts from the end. -/
def counted (length : Nat) (position : ℤ) : ℤ :=
  if position < 0 then position + length else position

/-- The part of a list from one position to another, both of them moved into it. -/
def part (first stop : ℤ) : List α :=
  (items.drop (clamp items.length first)).take (clamp items.length stop - clamp items.length first)

theorem bound_eq_clamp (length : Nat) (position : ℤ) :
    bound length position = clamp length (counted length position) := by
  unfold counted
  split
  next negative => exact bound_of_neg negative length
  next nonneg => exact bound_of_nonneg (Int.not_lt.mp nonneg) length

theorem between_eq_part (first stop : ℤ) :
    between items first stop =
      part items (counted items.length first) (counted items.length stop) := by
  simp only [between, part, bound_eq_clamp]

theorem counted_of_nonneg {position : ℤ} (nonneg : 0 ≤ position) (length : Nat) :
    counted length position = position :=
  if_neg (Int.not_lt.mpr nonneg)

theorem strict_eq (first : ℤ) (last : Option ℤ) :
    strict items first last =
      if Lies items.length first (stopOf items.length last) then
        .ok (part items first (stopOf items.length last))
      else .error ⟨first, stopOf items.length last, items.length⟩ := by
  change (if first < 0 || stopOf items.length last > items.length ||
      first > stopOf items.length last then Except.error _
    else .ok (between items first (stopOf items.length last))) = _
  simp only [Bool.or_eq_true, decide_eq_true_eq]
  split
  next outside =>
    rw [if_neg]
    · rfl
    · unfold Lies
      omega
  next inside =>
    have lies : Lies items.length first (stopOf items.length last) := by
      unfold Lies
      omega
    rw [if_pos lies, between_eq_part, counted_of_nonneg lies.1,
      counted_of_nonneg (Int.le_trans lies.1 lies.2.1)]

theorem clamp_max_zero (length : Nat) (position : ℤ) :
    clamp length (max position 0) = clamp length position := by
  unfold clamp
  omega

theorem lenient_eq (first : ℤ) (last : Option ℤ) :
    lenient items first last =
      part items first (counted items.length (stopOf items.length last)) := by
  change between items (max first 0) (stopOf items.length last) = _
  rw [between_eq_part, counted_of_nonneg (Int.le_max_right first 0)]
  simp only [part, clamp_max_zero]

/-- Positions that are moved into a list, and brought into order, name the same part. -/
theorem part_clamp (first stop : ℤ) :
    part items (clamp items.length first)
      (max (clamp items.length first) (clamp items.length stop)) = part items first stop := by
  have first_same : clamp items.length (clamp items.length first) = clamp items.length first := by
    unfold clamp
    omega
  have count_same : clamp items.length (max (clamp items.length first : ℤ)
      (clamp items.length stop)) - clamp items.length first =
        clamp items.length stop - clamp items.length first := by
    unfold clamp
    omega
  unfold part
  rw [first_same, count_same]

theorem lies_clamp (length : Nat) (first stop : ℤ) :
    Lies length (clamp length first) (max (clamp length first) (clamp length stop)) := by
  unfold Lies clamp
  omega

theorem length_part (first stop : ℤ) :
    (part items first stop).length =
      clamp items.length stop - clamp items.length first := by
  unfold part clamp
  simp only [List.length_take, List.length_drop]
  omega

/-- Counting the second position from the end makes no difference just if it is not negative, or is
still not behind the first one when counted. -/
theorem part_counted_iff (first stop : ℤ) :
    part items first (counted items.length stop) = part items first stop ↔
      0 ≤ stop ∨ stop + items.length ≤ clamp items.length first := by
  constructor
  · intro same
    have lengths := congrArg List.length same
    rw [length_part, length_part] at lengths
    unfold counted clamp at lengths
    unfold clamp
    split at lengths
    · omega
    · omega
  · intro harmless
    have count_same : clamp items.length (counted items.length stop) - clamp items.length first =
        clamp items.length stop - clamp items.length first := by
      unfold counted
      unfold clamp at harmless ⊢
      split
      · omega
      · rfl
    unfold part
    rw [count_same]

end Bounds

end Slice

namespace Engine

variable (engine : Engine) (text : String)

theorem gives_of_ofCharacters {engine : Engine} {name : String} {arguments : List Value}
    {characters : List Char}
    (calls : engine.callStatic .stringFunctions name arguments = ofCharacters characters) :
    engine.Gives .stringFunctions name arguments (.text (String.ofList characters)) := by
  intro session
  rw [calls]
  rfl

section Ends

variable (count : ℤ)

theorem gives_leftstr :
    engine.Gives .stringFunctions "leftstr" [.text text, .int count]
      (.text (String.ofList (Slice.left text.toList count))) :=
  gives_of_ofCharacters (engine.callStatic_leftstr text count)

theorem gives_rightstr :
    engine.Gives .stringFunctions "rightstr" [.text text, .int count]
      (.text (String.ofList (Slice.right text.toList count))) :=
  gives_of_ofCharacters (engine.callStatic_rightstr text count)

/-- The first characters of a text and the last ones. Where more are asked for than there are, the
first ones are all, and the last ones are as many as the number exceeds the length by; so the two put
the text together again for every number but the negative ones that the length exceeds. -/
theorem leftstr_rightstr :
    ∃ front back rest : String,
      engine.Gives .stringFunctions "leftstr" [.text text, .int count] (.text front) ∧
      engine.Gives .stringFunctions "rightstr" [.text text, .int count] (.text back) ∧
      engine.Gives .stringFunctions "rightstr" [.text text, .int (text.length - count)]
        (.text rest) ∧
      front.toList <+: text.toList ∧ front.length = Slice.clamp text.length count ∧
      back.toList <:+ text.toList ∧ back.length = Slice.reach text.length count ∧
      (back.length = Slice.clamp text.length count ↔
        count ≤ text.length ∨ 2 * (text.length : ℤ) ≤ count) ∧
      (front ++ rest = text ↔ 0 ≤ count ∨ count ≤ -text.length) := by
  refine ⟨_, _, _, engine.gives_leftstr text count, engine.gives_rightstr text count,
    engine.gives_rightstr text (text.length - count), ?_, ?_, ?_, ?_, ?_, ?_⟩
  · rw [String.toList_ofList, Slice.left_eq]
    exact List.take_prefix _ _
  · rw [String.length_ofList, Slice.length_left, String.length_toList]
  · rw [String.toList_ofList, Slice.right_eq]
    exact List.drop_suffix _ _
  · rw [String.length_ofList, Slice.length_right, String.length_toList]
  · rw [String.length_ofList, Slice.length_right, String.length_toList]
    exact Slice.reach_eq_clamp_iff text.length count
  · have whole := Slice.left_append_right_iff text.toList count
    rw [String.length_toList] at whole
    rw [← String.toList_inj, String.toList_append, String.toList_ofList, String.toList_ofList]
    exact whole

/-- Four characters from the end of three are one. -/
theorem rightstr_beyond_length :
    ∃ back : String,
      (World.engine {}).Gives .stringFunctions "rightstr" [.text "abc", .int 4] (.text back) ∧
      back.length ≠ Slice.clamp "abc".length 4 ∧
      (World.engine {}).Gives .stringFunctions "leftstr" [.text "abc", .int (-1)] (.text "") ∧
      "" ++ back ≠ "abc" := by
  refine ⟨"c", fun _ => rfl, ?_, fun _ => rfl, ?_⟩
  · decide
  · decide

end Ends

section Bounds

variable (first : ℤ) (last : Option ℤ)

theorem runFrom_integerText (number : ℤ) (session : Session) :
    (Act.integerText number).runFrom session =
      match writeInteger number with
      | .ok written => (.ok written, session)
      | .error issue => (.error (.say .valueError issue.message), session) := by
  unfold Act.integerText
  cases writeInteger number with
  | ok written => rfl
  | error issue => rfl

theorem gives_substr :
    engine.Gives .stringFunctions "substr" (partArguments text first last)
      (.text (String.ofList (Slice.part text.toList first
        (Slice.counted text.length (Slice.stopOf text.length last))))) := by
  rw [← String.length_toList, ← Slice.lenient_eq]
  exact gives_of_ofCharacters (engine.callStatic_substr text first last)

theorem gives_substring
    (lies : Slice.Lies text.length first (Slice.stopOf text.length last)) :
    engine.Gives .stringFunctions "substring" (partArguments text first last)
      (.text (String.ofList (Slice.part text.toList first (Slice.stopOf text.length last)))) := by
  apply gives_of_ofCharacters
  rw [callStatic_substring, Slice.strict_eq, String.length_toList, if_pos lies]

/-- Positions that name no part are told, unless one of them has too many digits to be written. -/
theorem runFrom_substring_of_not_lies
    (outside : ¬ Slice.Lies text.length first (Slice.stopOf text.length last)) (session : Session) :
    (engine.callStatic .stringFunctions "substring" (partArguments text first last)).runFrom
        session =
      (.error (match writeInteger first, writeInteger (Slice.stopOf text.length last) with
        | .ok begins, .ok ends => .say .indexError
            ("begin " ++ begins ++ ", end " ++ ends ++ ", length " ++ toString text.length)
        | .error issue, _ => .say .valueError issue.message
        | _, .error issue => .say .valueError issue.message), session) := by
  rw [callStatic_substring, Slice.strict_eq, String.length_toList, if_neg outside]
  simp only [Act.runFrom_bind, runFrom_integerText]
  cases writeInteger first with
  | error issue => rfl
  | ok begins =>
    simp only
    cases writeInteger (Slice.stopOf text.length last) with
    | error issue => rfl
    | ok ends => rfl

/-- A whole number that can be written in decimal. -/
def Writable (number : ℤ) : Prop := ∃ written, writeInteger number = .ok written

theorem refuses_substring_index
    (outside : ¬ Slice.Lies text.length first (Slice.stopOf text.length last))
    (writable : Writable first ∧ Writable (Slice.stopOf text.length last)) :
    engine.Refuses .stringFunctions "substring" (partArguments text first last) .indexError := by
  intro session
  rcases writable with ⟨⟨begins, first_written⟩, ⟨ends, stop_written⟩⟩
  rw [runFrom_substring_of_not_lies engine text first last outside, first_written, stop_written]
  exact ⟨_, rfl⟩

theorem refuses_substring_value
    (outside : ¬ Slice.Lies text.length first (Slice.stopOf text.length last))
    (long : ¬ (Writable first ∧ Writable (Slice.stopOf text.length last))) :
    engine.Refuses .stringFunctions "substring" (partArguments text first last) .valueError := by
  intro session
  rw [runFrom_substring_of_not_lies engine text first last outside]
  cases begins : writeInteger first with
  | error issue => exact ⟨_, rfl⟩
  | ok written =>
    cases ends : writeInteger (Slice.stopOf text.length last) with
    | error issue => exact ⟨_, rfl⟩
    | ok other => exact absurd ⟨⟨written, begins⟩, ⟨other, ends⟩⟩ long

/-- How the strict part of a text and the lenient one are related. The strict one is given just if
the positions name a part. The lenient one is the strict one at positions inside the text, where a
negative second position has counted from the end first. -/
structure PartLaws (engine : Engine) (text : String) (first : ℤ) (last : Option ℤ) (stop : ℤ) :
    Prop where
  strict_iff :
    (∃ part, engine.Gives .stringFunctions "substring" (partArguments text first last)
      (.text part)) ↔ Slice.Lies text.length first stop
  index_iff :
    engine.Refuses .stringFunctions "substring" (partArguments text first last) .indexError ↔
      ¬ Slice.Lies text.length first stop ∧ Writable first ∧ Writable stop
  value_iff :
    engine.Refuses .stringFunctions "substring" (partArguments text first last) .valueError ↔
      ¬ Slice.Lies text.length first stop ∧ ¬ (Writable first ∧ Writable stop)
  lenient : ∃ part,
    engine.Gives .stringFunctions "substr" (partArguments text first last) (.text part) ∧
    engine.Gives .stringFunctions "substring"
      (partArguments text (Slice.clamp text.length first)
        (some (max (Slice.clamp text.length first)
          (Slice.clamp text.length (Slice.counted text.length stop))))) (.text part) ∧
    (engine.Gives .stringFunctions "substring"
      (partArguments text (Slice.clamp text.length first)
        (some (max (Slice.clamp text.length first) (Slice.clamp text.length stop)))) (.text part) ↔
      0 ≤ stop ∨ stop + text.length ≤ Slice.clamp text.length first) ∧
    (Slice.Lies text.length first stop →
      engine.Gives .stringFunctions "substring" (partArguments text first last) (.text part))

theorem gives_substring_clamped (stop : ℤ) :
    engine.Gives .stringFunctions "substring"
      (partArguments text (Slice.clamp text.length first)
        (some (max (Slice.clamp text.length first) (Slice.clamp text.length stop))))
      (.text (String.ofList (Slice.part text.toList first stop))) := by
  have same := Slice.part_clamp text.toList first stop
  rw [String.length_toList] at same
  rw [← same]
  exact engine.gives_substring text (Slice.clamp text.length first)
    (some (max (Slice.clamp text.length first) (Slice.clamp text.length stop)))
    (Slice.lies_clamp text.length first stop)

theorem strict_iff_of_lies_iff :
    (∃ part, engine.Gives .stringFunctions "substring" (partArguments text first last)
      (.text part)) ↔ Slice.Lies text.length first (Slice.stopOf text.length last) := by
  constructor
  · rintro ⟨part, gives⟩
    by_contra outside
    by_cases writable : Writable first ∧ Writable (Slice.stopOf text.length last)
    · exact not_refuses_of_gives gives _
        (engine.refuses_substring_index text first last outside writable)
    · exact not_refuses_of_gives gives _
        (engine.refuses_substring_value text first last outside writable)
  · intro lies
    exact ⟨_, engine.gives_substring text first last lies⟩

theorem not_lies_of_refuses {kind : FaultKind}
    (refuses : engine.Refuses .stringFunctions "substring" (partArguments text first last) kind) :
    ¬ Slice.Lies text.length first (Slice.stopOf text.length last) := by
  intro lies
  exact not_refuses_of_gives (engine.gives_substring text first last lies) kind refuses

theorem part_counted_iff_of_gives (stop : ℤ) :
    engine.Gives .stringFunctions "substring"
        (partArguments text (Slice.clamp text.length first)
          (some (max (Slice.clamp text.length first) (Slice.clamp text.length stop))))
        (.text (String.ofList
          (Slice.part text.toList first (Slice.counted text.length stop)))) ↔
      0 ≤ stop ∨ stop + text.length ≤ Slice.clamp text.length first := by
  have clamped := engine.gives_substring_clamped text first stop
  have counted_iff := Slice.part_counted_iff text.toList first stop
  rw [String.length_toList] at counted_iff
  rw [← counted_iff]
  constructor
  · intro gives
    have same := Gives.unique gives clamped
    rw [Value.text.injEq, String.ofList_inj] at same
    exact same
  · intro same
    rw [same]
    exact clamped

theorem substring_substr :
    engine.PartLaws text first last (Slice.stopOf text.length last) where
  strict_iff := engine.strict_iff_of_lies_iff text first last
  index_iff := by
    constructor
    · intro refuses
      have outside := engine.not_lies_of_refuses text first last refuses
      refine ⟨outside, ?_⟩
      by_contra long
      cases refuses.unique (engine.refuses_substring_value text first last outside long)
    · rintro ⟨outside, writable⟩
      exact engine.refuses_substring_index text first last outside writable
  value_iff := by
    constructor
    · intro refuses
      have outside := engine.not_lies_of_refuses text first last refuses
      refine ⟨outside, ?_⟩
      intro writable
      cases refuses.unique (engine.refuses_substring_index text first last outside writable)
    · rintro ⟨outside, long⟩
      exact engine.refuses_substring_value text first last outside long
  lenient := by
    refine ⟨_, engine.gives_substr text first last, engine.gives_substring_clamped text first _,
      engine.part_counted_iff_of_gives text first _, ?_⟩
    intro lies
    rw [Slice.counted_of_nonneg (Int.le_trans lies.1 lies.2.1)]
    exact engine.gives_substring text first last lies

/-- From a position before the text up to the second character, and all of the text. -/
theorem substring_substr_before :
    (∃ part,
      (World.engine {}).Gives .stringFunctions "substr" [.text "abc", .int (-5), .int 2]
        (.text part) ∧
      (World.engine {}).Gives .stringFunctions "substring" [.text "abc", .int 0, .int 2]
        (.text part)) ∧
    (∃ part,
      (World.engine {}).Gives .stringFunctions "substr" [.text "abc", .int 0] (.text part) ∧
      (World.engine {}).Gives .stringFunctions "substring" [.text "abc", .int 0] (.text part)) := by
  constructor
  · rcases ((World.engine {}).substring_substr "abc" (-5) (some 2)).lenient with
      ⟨part, lenient, strict, -⟩
    exact ⟨part, lenient, strict⟩
  · rcases ((World.engine {}).substring_substr "abc" 0 none).lenient with
      ⟨part, lenient, -, -, strict⟩
    exact ⟨part, lenient, strict (by decide)⟩

/-- A negative second position counts from the end, where one moved into the text names no
character. -/
theorem substr_counts_from_end :
    (World.engine {}).Gives .stringFunctions "substr" [.text "abc", .int 0, .int (-1)]
      (.text "ab") ∧
    (World.engine {}).Gives .stringFunctions "substring"
      [.text "abc", .int (Slice.clamp "abc".length 0),
        .int (max (Slice.clamp "abc".length 0) (Slice.clamp "abc".length (-1)))] (.text "") := by
  constructor
  · intro session
    rfl
  · intro session
    rfl

end Bounds

end Engine

end MemberDispatch
