import Mathlib.Data.Rat.Cast.Order
import MemberDispatch.Machine
import MemberDispatch.Proofs.Class.Coherence
import MemberDispatch.Proofs.Value.Decision
import MemberDispatch.Value.Range

/-!
# Comparing whole numbers

Whole numbers and truth values are of built-in classes, which define their comparisons themselves. So
whoever of the two is asked first, the answer is that of the numbers, and a width of at least one bit
holds a number just where it lies in the signed range.
-/

namespace MemberDispatch

/-- That a value is a whole number or a truth value, which counts as one or zero. -/
inductive Value.Whole : Value → ℤ → Prop
  | int (number : ℤ) : Whole (.int number) number
  | bool (truth : Bool) : Whole (.bool truth) (if truth then 1 else 0)

namespace Value.Whole

variable {value : Value} {number : ℤ}

theorem of_int? (found : value.int? = some number) : value.Whole number := by
  cases value with
  | bool truth =>
      cases found
      exact .bool truth
  | int number =>
      cases found
      exact .int _
  | _ => cases found

theorem int? (whole : value.Whole number) : value.int? = some number := by
  cases whole <;> rfl

theorem content (whole : value.Whole number) (objects : Array Object) :
    value.content objects = value := by
  cases whole <;> rfl

theorem isNumber (whole : value.Whole number) : value.isNumber = true := by
  cases whole <;> rfl

theorem classOf (whole : value.Whole number) (objects : Array Object) :
    value.classOf objects = .builtin .int ∨ value.classOf objects = .builtin .bool := by
  cases whole with
  | int number => exact .inl rfl
  | bool truth => exact .inr rfl

theorem ratio? (whole : value.Whole number) : value.ratio? = some (number : ℚ) := by
  cases whole with
  | int number => rfl
  | bool truth => cases truth <;> rfl

/-- The order of whole numbers is that of the ratios that they are. -/
theorem numberOrder? {other : Value} {right : ℤ} (whole : value.Whole number)
    (others : other.Whole right) :
    Value.numberOrder? value other = some (compare number right) := by
  have ordered : Value.numberOrder? value other =
      some (if (number : ℚ) < right then .lt else if (right : ℚ) < number then .gt else .eq) := by
    have left_ratio := whole.ratio?
    have right_ratio := others.ratio?
    cases whole <;> cases others <;>
      simp only [Value.numberOrder?, left_ratio, right_ratio]
  rw [ordered]
  simp only [Int.cast_lt]
  congr 1
  rcases lt_trichotomy number right with less | rfl | more
  · rw [if_pos less, compare_lt_iff_lt.mpr less]
  · rw [if_neg (lt_irrefl _), if_neg (lt_irrefl _), compare_eq_iff_eq.mpr rfl]
  · rw [if_neg more.not_gt, if_pos more, compare_gt_iff_gt.mpr more]

end Value.Whole

namespace Engine

/-- Built-in classes define no function of their own. -/
theorem declaredMethod?_builtin (engine : Engine) (kind : BuiltinClass) (name : String) :
    engine.declaredMethod? (.builtin kind) name = none := by
  unfold declaredMethod?
  split
  · rename_i owner function found
    obtain ⟨ancestor, among, own⟩ := List.exists_of_findSome?_eq_some found
    obtain ⟨entry, present, same⟩ := Option.map_eq_some_iff.mp own
    obtain ⟨base, _, rfl⟩ := List.mem_map.mp among
    cases same
  · rfl

variable {left right : Value} {first second : ℤ}

/-- Numbers are compared by what they are made of. -/
theorem runFrom_compareBuiltin_numbers (engine : Engine) (comparison : Comparison)
    {session : Session}
    (numbers : ((left.content session.objects).isNumber &&
      (right.content session.objects).isNumber) = true) :
    (engine.compareBuiltin comparison left right).runFrom session =
      (compareNumbers comparison (left.content session.objects)
        (right.content session.objects)).runFrom session := by
  unfold compareBuiltin
  rw [Act.runFrom_bind_of_ok (runFrom_contentOf left session),
    Act.runFrom_bind_of_ok (runFrom_contentOf right session), if_pos numbers]

/-- The built-in classes compare what is a whole number, or holds one, by the numbers. -/
theorem runFrom_compareBuiltin_whole (engine : Engine) (comparison : Comparison) {session : Session}
    (isLeft : (left.content session.objects).Whole first)
    (isRight : (right.content session.objects).Whole second) :
    (engine.compareBuiltin comparison left right).runFrom session =
      (.ok (.bool (comparison.holds (compare first second))), session) := by
  rw [engine.runFrom_compareBuiltin_numbers, compareNumbers]
  · simp only [isLeft.numberOrder? isRight]
    rfl
  · rw [isLeft.isNumber, isRight.isNumber]
    rfl

theorem runFrom_compareFrom (engine : Engine) (comparison : Comparison)
    (isLeft : left.Whole first) (isRight : right.Whole second) (session : Session) :
    (engine.compareFrom comparison left right).runFrom session =
      (.ok (.bool (comparison.holds (compare first second))), session) := by
  have ownless (name : String) :
      engine.declaredMethod? (left.classOf session.objects) name = none := by
    rcases isLeft.classOf session.objects with ofClass | ofClass <;>
      rw [ofClass, engine.declaredMethod?_builtin]
  have builtin := engine.runFrom_compareBuiltin_whole comparison
    ((isLeft.content session.objects).symm ▸ isLeft)
    ((isRight.content session.objects).symm ▸ isRight)
  unfold compareFrom
  rw [Act.runFrom_bind_of_ok (Act.runFrom_classOf left session), ownless, ownless]
  cases comparison <;> exact builtin

theorem holds_mirrored (comparison : Comparison) (first second : ℤ) :
    comparison.mirrored.holds (compare second first) = comparison.holds (compare first second) := by
  have swapped : compare second first = (compare first second).swap := Std.OrientedOrd.eq_swap
  rw [swapped]
  cases comparison <;> cases compare first second <;> rfl

/-- Whoever is asked first, the answer is that of the numbers, if both say so. -/
theorem runFrom_compareWith_of_answers {engine : Engine} {comparison : Comparison} {session : Session}
    (asked : (engine.compareFrom comparison left right).runFrom session =
      (.ok (.bool (comparison.holds (compare first second))), session))
    (reversed : (engine.compareFrom comparison.mirrored right left).runFrom session =
      (.ok (.bool (comparison.mirrored.holds (compare second first))), session)) :
    (engine.compareWith comparison left right).runFrom session =
      (.ok (.bool (comparison.holds (compare first second))), session) := by
  rw [holds_mirrored] at reversed
  unfold compareWith
  rw [Act.runFrom_bind_of_ok (Act.runFrom_classOf left session),
    Act.runFrom_bind_of_ok (Act.runFrom_classOf right session)]
  dsimp only
  split
  · rw [Act.runFrom_bind_of_ok reversed]
    rfl
  · rw [Act.runFrom_bind_of_ok (Act.runFrom_pure _ session)]
    dsimp only
    rw [Act.runFrom_bind_of_ok asked]
    rfl

theorem runFrom_compareWith (engine : Engine) (comparison : Comparison)
    (isLeft : left.Whole first) (isRight : right.Whole second) (session : Session) :
    (engine.compareWith comparison left right).runFrom session =
      (.ok (.bool (comparison.holds (compare first second))), session) :=
  runFrom_compareWith_of_answers (engine.runFrom_compareFrom comparison isLeft isRight session)
    (engine.runFrom_compareFrom comparison.mirrored isRight isLeft session)

theorem runFrom_compares_of_answer {world : World} {level : ℕ} {comparison : Comparison}
    {truth : Bool} {session : Session}
    (asked : ((machine world level).compareWith comparison left right).runFrom session =
      (.ok (.bool truth), session)) :
    ((machine world (level + 1)).compares comparison left right).runFrom session =
      (.ok truth, session) := by
  have operates : ((machine world (level + 1)).operate (.compare comparison) [left, right]).runFrom
      session = (.ok (.bool truth), session) :=
    asked
  unfold compares
  rw [Act.runFrom_bind_of_ok operates]
  rfl

theorem runFrom_compares (world : World) (level : ℕ) (comparison : Comparison)
    (isLeft : left.Whole first) (isRight : right.Whole second) (session : Session) :
    ((machine world (level + 1)).compares comparison left right).runFrom session =
      (.ok (comparison.holds (compare first second)), session) :=
  runFrom_compares_of_answer
    ((machine world level).runFrom_compareWith comparison isLeft isRight session)

end Engine

/-- That a number lies in the signed range of a width. -/
def Width.Spans (width : Width) (number : ℤ) : Prop :=
  -2 ^ (width.bits - 1).toNat ≤ number ∧ number < 2 ^ (width.bits - 1).toNat

instance (width : Width) (number : ℤ) : Decidable (width.Spans number) :=
  inferInstanceAs (Decidable (_ ∧ _))

theorem Width.bound_eq {width : Width} (wide : 1 ≤ width.bits) :
    width.bound? = some (2 ^ (width.bits - 1).toNat) := by
  rw [bound?, if_neg (by omega), twoTo]
  norm_cast

namespace Engine

theorem holds_le (first second : ℤ) :
    Comparison.le.holds (compare first second) = decide (first ≤ second) := by
  rw [Comparison.holds, bne, Bool.eq_iff_iff, decide_eq_true_iff, ← compare_le_iff_le,
    Bool.not_eq_true', beq_eq_false_iff_ne]

/-- What stands to all bounds as a number does is in range just where the number is. -/
theorem runFrom_inRange_of_answers {engine : Engine} {width : Width} (wide : 1 ≤ width.bits)
    {value : Value} {number : ℤ} {session : Session}
    (above : ∀ bound, (engine.compares .le (.int bound) value).runFrom session =
      (.ok (decide (bound ≤ number)), session))
    (below : ∀ bound, (engine.compares .le value (.int bound)).runFrom session =
      (.ok (decide (number ≤ bound)), session)) :
    (engine.inRange width value).runFrom session = (.ok (decide (width.Spans number)), session) := by
  have bounded : (width.bits == 0) = false := beq_eq_false_iff_ne.mpr (by omega)
  unfold inRange
  simp only [bounded, Width.least?, Width.greatest?, Width.bound_eq wide, Option.map_some]
  rw [if_neg Bool.false_ne_true, Act.runFrom_bind_of_ok (above _)]
  by_cases least : -2 ^ (width.bits - 1).toNat ≤ number
  · rw [decide_eq_true least, if_pos rfl, below]
    congr 3
    rw [Width.Spans, and_iff_right least, Int.le_sub_one_iff]
  · rw [decide_eq_false least, if_neg Bool.false_ne_true, Act.runFrom_pure,
      decide_eq_false fun within => least within.1]

/-- A whole number or truth value is in range just where the number is. -/
theorem runFrom_inRange {width : Width} (wide : 1 ≤ width.bits) {value : Value} {number : ℤ}
    (whole : value.Whole number) (world : World) (level : ℕ) (session : Session) :
    ((machine world (level + 1)).inRange width value).runFrom session =
      (.ok (decide (width.Spans number)), session) := by
  apply runFrom_inRange_of_answers wide
  · intro bound
    rw [runFrom_compares world level .le (.int bound) whole session, holds_le]
  · intro bound
    rw [runFrom_compares world level .le whole (.int bound) session, holds_le]

end Engine

end MemberDispatch
