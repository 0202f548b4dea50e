import MemberDispatch.Library.Numeric
import MemberDispatch.Intrinsic.Decimals
import MemberDispatch.Proofs.Routine.Operators

/-!
# Routines of numbers

The members of numbers and the functions of the providers of arithmetic keep to every routine that the
operations of their engine keep to.
-/

namespace MemberDispatch

namespace Act.Routine

variable (routine : Act.Routine)

section Results

theorem ofReal {α : Type} (result : Except RealIssue α) : routine.Of (Act.ofReal result) := by
  unfold Act.ofReal
  split
  · exact routine.pure _
  all_goals exact routine.throw _

theorem ofInteger (result : IntegerFunctions.Result) : routine.Of (Act.ofInteger result) := by
  unfold Act.ofInteger
  split
  · exact routine.pure _
  · exact routine.throw _
  · exact routine.throw _
  · exact routine.throw _
  · exact routine.bind (routine.integerText _) fun _ => routine.throw _

theorem unbounded {α : Type} (number : Decimal) : routine.Of (Act.unbounded number : Act α) :=
  routine.ite (routine.throw _) (routine.throw _)

theorem logarithmOf (function : Float → Float) (value : Value) :
    routine.Of (Engine.logarithmOf function value) := by
  unfold Engine.logarithmOf
  refine routine.bind (routine.contentOf value) ?_
  intro content
  split
  · exact routine.bind (routine.realOf value) fun _ =>
      routine.bind (routine.ofReal _) fun _ => routine.pure _
  · refine routine.ite (routine.throw _) ?_
    split
    · exact routine.pure _
    · exact routine.pure _

theorem roundedBy (ofDecimal : Decimal → Option ℤ) (ofRatio : Rat → ℤ)
    (ofReal : Binary64 → Option ℤ) (value : Value) :
    routine.Of (Engine.roundedBy ofDecimal ofRatio ofReal value) := by
  unfold Engine.roundedBy
  refine routine.bind (routine.contentOf value) ?_
  intro content
  split
  · split
    · exact routine.pure _
    · exact routine.unbounded _
  · exact routine.pure _
  · split
    · exact routine.pure _
    · exact routine.bind (routine.realOf value) fun _ => routine.ofReal _

theorem floorOf (value : Value) : routine.Of (Engine.floorOf value) :=
  routine.roundedBy _ _ _ value

theorem ceilingOf (value : Value) : routine.Of (Engine.ceilingOf value) :=
  routine.roundedBy _ _ _ value

end Results

section Members

theorem toBytes (number : ℤ) (arguments : List Value) :
    routine.Of (Engine.toBytes number arguments) := by
  unfold Engine.toBytes
  refine routine.bind (routine.sizeOr _ _) ?_
  intro length
  extract_lets bytes ordered
  have goes_on (order : String) : routine.Of (ordered order) := by
    unfold ordered
    extract_lets accepted
    refine routine.orComplain fun _ => ?_
    refine routine.ite (routine.throw _) (routine.ite (routine.throw _) ?_)
    refine routine.bind (routine.requireRoom _) fun _ => ?_
    exact routine.complainOr fun _ => routine.pure _
  split
  · exact routine.bind (routine.pure _) goes_on
  · exact routine.bind (routine.textArgument _ _) goes_on

theorem byteOf (value : Value) : routine.Of (Engine.byteOf value) :=
  routine.bind (routine.integer value) fun _ => routine.ite (routine.throw _) (routine.pure _)

theorem residuePower (base exponent modulus : ℤ) :
    routine.Of (Engine.residuePower base exponent modulus) :=
  routine.ite (routine.throw _) (routine.ite (routine.throw _) (routine.pure _))

theorem fromHex (value : Value) : routine.Of (Engine.fromHex value) := by
  unfold Engine.fromHex
  refine routine.bind (routine.contentOf value) ?_
  intro content
  split
  · split
    · exact routine.pure _
    · exact routine.throw _
    · exact routine.throw _
  · exact routine.throw _

theorem floatRatio (number : Float) : routine.Of (Engine.floatRatio number) := by
  unfold Engine.floatRatio
  split
  · exact routine.pure _
  · exact routine.ite (routine.throw _) (routine.throw _)

theorem floatMember (name : String) (number : Float) :
    routine.Of (Engine.floatMember name number) := by
  unfold Engine.floatMember
  split
  · exact routine.pure _
  · exact routine.pure _
  · exact routine.pure _
  · exact routine.bind (routine.floatRatio _) fun _ => routine.pure _
  · exact routine.throw _
  · exact routine.throw _

theorem ratioOf (value : Value) : routine.Of (Engine.ratioOf value) := by
  unfold Engine.ratioOf
  refine routine.bind (routine.contentOf value) ?_
  intro content
  split
  · exact routine.pure _
  · exact routine.bind (routine.classOf _) fun _ => routine.throw _

theorem decimalRatio (number : Decimal) : routine.Of (Engine.decimalRatio number) := by
  unfold Engine.decimalRatio
  split
  · exact routine.ite (routine.pure _) (routine.pure _)
  · exact routine.throw _
  · exact routine.throw _

theorem decimalOperand (value : Value) : routine.Of (Engine.decimalOperand value) := by
  unfold Engine.decimalOperand
  refine routine.bind (routine.contentOf value) ?_
  intro content
  split
  · exact routine.pure _
  · split
    · exact routine.pure _
    · exact routine.bind (routine.classOf _) fun _ => routine.throw _

theorem decimalFromFloat (value : Value) : routine.Of (Engine.decimalFromFloat value) := by
  unfold Engine.decimalFromFloat
  refine routine.bind (routine.contentOf value) ?_
  intro content
  split
  · exact routine.pure _
  · split
    · exact routine.pure _
    · exact routine.throw _

theorem refuseContext (arguments : List Value) (position : ℕ) :
    routine.Of (Engine.refuseContext arguments position) := by
  unfold Engine.refuseContext
  split
  · exact routine.pure _
  · exact routine.pure _
  · exact routine.throw _

theorem requireHalfEven (value : Option Value) : routine.Of (Engine.requireHalfEven value) := by
  unfold Engine.requireHalfEven
  split
  · exact routine.pure _
  · exact routine.pure _
  · exact routine.pure _
  · exact routine.throw _

/-- The whole numbers among arguments. -/
theorem wholeArguments (arguments : List Value) :
    routine.Of (arguments.mapM fun value => return (← Act.contentOf value).int?) :=
  routine.mapM (fun _ => routine.bind (routine.contentOf _) fun _ => routine.pure _) _

theorem decimalMember (name : String) (number : Decimal) (arguments : List Value) :
    routine.Of (Engine.decimalMember name number arguments) := by
  have operand (work : Decimal → Act Value) (each : ∀ other, routine.Of (work other)) :
      routine.Of (Engine.decimalOperand (Argument.atOrNone arguments 0) >>= work) :=
    routine.bind (routine.decimalOperand _) each
  unfold Engine.decimalMember
  split
  · exact routine.bind (routine.refuseContext _ _) fun _ => routine.pure _
  · exact routine.bind (routine.refuseContext _ _) fun _ => routine.ofDecimal _
  · exact routine.bind (routine.refuseContext _ _) fun _ => operand _ fun _ => routine.ofDecimal _
  split
  · exact routine.bind (routine.refuseContext _ _) fun _ =>
      routine.bind (routine.requireHalfEven _) fun _ => operand _ fun _ => routine.ofDecimal _
  iterate 3
    · exact routine.bind (routine.refuseContext _ _) fun _ =>
        routine.bind (routine.requireHalfEven _) fun _ => routine.ofDecimal _
  · exact routine.bind (routine.refuseContext _ _) fun _ => operand _ fun _ => routine.pure _
  any_goals exact routine.pure _
  · exact routine.bind (routine.refuseContext _ _) fun _ => routine.pure _
  · exact routine.bind (routine.decimalRatio _) fun _ => routine.pure _
  · refine routine.bind (routine.wholeArguments arguments) ?_
    intro numbers
    split
    · split
      · exact routine.complainOr fun _ => routine.pure _
      · exact routine.throw _
    · exact routine.pure _
  · exact routine.throw _

end Members

end Act.Routine

namespace Engine.Keeps

variable {routine : Act.Routine} {engine : Engine} (keeps : engine.Keeps routine.toHabit)

include keeps

section Members

theorem bytesFrom (value : Value) : routine.Of (engine.bytesFrom value) := by
  unfold Engine.bytesFrom
  refine routine.bind (routine.bytes value) ?_
  intro bytes
  split
  · exact routine.pure _
  extract_lets refused
  have refusal : routine.Of refused :=
    routine.bind (routine.className value) fun _ => routine.throw _
  refine routine.bind (routine.contentOf value) ?_
  intro content
  split
  · exact refusal
  · refine routine.bind (keeps.items value) ?_
    intro items
    split
    · exact routine.mapM routine.byteOf _
    · exact refusal

theorem fromBytes (arguments : List Value) : routine.Of (engine.fromBytes arguments) := by
  unfold Engine.fromBytes
  extract_lets ordered
  have goes_on (order : String) : routine.Of (ordered order) := by
    unfold ordered
    extract_lets accepted
    refine routine.orComplain fun _ => ?_
    exact routine.bind (keeps.bytesFrom _) fun _ => routine.pure _
  split
  · exact routine.bind (routine.pure _) goes_on
  · exact routine.bind (routine.textArgument _ _) goes_on

theorem integerMember (name : String) (number : ℤ) (arguments : List Value) :
    routine.Of (engine.integerMember name number arguments) := by
  unfold Engine.integerMember
  split
  any_goals exact routine.pure _
  · exact routine.toBytes _ _
  · exact keeps.fromBytes _
  · refine routine.bind (routine.wholeArguments arguments) ?_
    intro numbers
    split
    · exact routine.residuePower _ _ _
    · exact routine.pure _
  · exact routine.throw _

theorem fractionOfFloat (value : Value) : routine.Of (engine.fractionOfFloat value) := by
  unfold Engine.fractionOfFloat
  refine routine.bind (routine.contentOf value) ?_
  intro content
  split
  · exact routine.bind (routine.floatRatio _) fun _ => routine.pure _
  · split
    · exact routine.pure _
    · exact routine.bind (keeps.display _) fun _ =>
        routine.bind (routine.classOf _) fun _ => routine.throw _

theorem fractionOfDecimal (value : Value) : routine.Of (engine.fractionOfDecimal value) := by
  unfold Engine.fractionOfDecimal
  refine routine.bind (routine.contentOf value) ?_
  intro content
  split
  · exact routine.bind (routine.decimalRatio _) fun _ => routine.pure _
  · split
    · exact routine.pure _
    · exact routine.bind (keeps.display _) fun _ =>
        routine.bind (routine.classOf _) fun _ => routine.throw _

theorem fractionMember (name : String) (ratio : Rat) (arguments : List Value) :
    routine.Of (engine.fractionMember name ratio arguments) := by
  unfold Engine.fractionMember
  extract_lets other apply
  have applies (operator : BinaryOperator) : routine.Of (apply operator) :=
    routine.bind (routine.ratioOf _) fun _ => routine.ofRatios _ _ _
  split
  any_goals exact routine.pure _
  any_goals exact applies _
  · split
    · exact routine.pure _
    · refine routine.bind (keeps.compares _ _ _) ?_
      intro small
      extract_lets bounded
      refine routine.complainOr fun _ => ?_
      refine routine.bind (routine.contentOf _) ?_
      intro content
      split
      · exact routine.pure _
      · exact routine.bind (keeps.compares _ _ _) fun _ =>
          routine.ite (routine.pure _) (routine.throw _)
  · exact routine.bind (applies _) fun _ => routine.bind (applies _) fun _ => routine.pure _
  · exact routine.throw _

end Members

section Functions

theorem combine (operator : BinaryOperator) (left right : Value) :
    routine.Of (engine.combine operator left right) :=
  keeps.operate _ _

theorem narrowed (width : Width) (value : Value) : routine.Of (engine.narrowed width value) := by
  unfold Engine.narrowed
  refine routine.bind (keeps.inRange width value) ?_
  intro within
  exact routine.ite (routine.pure _) (routine.bind (keeps.text value) fun _ => routine.throw _)

theorem quotientOf (left right : Value) : routine.Of (engine.quotientOf left right) := by
  unfold Engine.quotientOf
  refine routine.bind (keeps.combine _ _ _) ?_
  intro quotient
  refine routine.bind (keeps.compares _ _ _) fun negative => routine.ite ?_ (routine.pure _)
  refine routine.bind (keeps.combine _ _ _) ?_
  intro product
  refine routine.bind (keeps.compares _ _ _) ?_
  intro differs
  exact routine.ite (keeps.combine _ _ _) (routine.pure _)

theorem signOf (value : Value) : routine.Of (engine.signOf value) :=
  routine.bind (keeps.compares _ _ _) fun _ =>
    routine.bind (keeps.compares _ _ _) fun _ => routine.pure _

theorem pick (comparison : Comparison) (left right : Value) :
    routine.Of (engine.pick comparison left right) :=
  routine.bind (keeps.compares _ _ _) fun _ => routine.pure _

theorem shiftedUnsigned (value count : Value) : routine.Of (engine.shiftedUnsigned value count) := by
  unfold Engine.shiftedUnsigned
  refine routine.bind (keeps.inRange _ value) ?_
  intro small
  refine routine.bind (keeps.narrowed _ value) ?_
  intro number
  refine routine.bind (keeps.combine _ _ _) ?_
  intro masked
  exact routine.bind (keeps.combine _ _ _) fun _ => keeps.combine _ _ _

/-- A result that must be in a range. -/
theorem narrowedBy {work : Act Value} (kept : routine.Of work) (width : Width) :
    routine.Of (work >>= engine.narrowed width) :=
  routine.bind kept (keeps.narrowed width)

theorem binaryFunction (name : String) (left right : Value) :
    routine.Of (engine.binaryFunction name left right) := by
  have reals (function : Float → Float → Except RealIssue Float) : routine.Of (do
      return .float (← Act.ofReal (function (← realOf left) (← realOf right))) : Act Value) :=
    routine.bind (routine.realOf left) fun _ => routine.bind (routine.realOf right) fun _ =>
      routine.bind (routine.ofReal _) fun _ => routine.pure _
  have compared : routine.Of (engine.combine .sub left right >>= engine.signOf) :=
    routine.bind (keeps.combine _ _ _) keeps.signOf
  unfold Engine.binaryFunction
  split
  any_goals with_reducible exact keeps.combine _ _ _
  any_goals with_reducible exact keeps.pick _ _ _
  any_goals with_reducible exact keeps.narrowedBy (keeps.combine _ _ _) _
  any_goals with_reducible exact reals _
  any_goals with_reducible exact compared
  · exact keeps.quotientOf _ _
  · exact routine.bind (keeps.quotientOf _ _) fun _ =>
      routine.bind (keeps.combine _ _ _) fun _ => keeps.combine _ _ _
  · exact routine.bind (keeps.callMember _ _ _) fun _ => keeps.call _ _
  · exact routine.bind (keeps.operate _ _) fun _ => keeps.combine _ _ _
  · exact keeps.shiftedUnsigned _ _
  · exact routine.bind (keeps.compares _ _ _) fun _ => routine.pure _
  · exact routine.bind (keeps.compares _ _ _) fun _ => routine.pure _
  · exact routine.throw _

theorem unaryFunction (name : String) (value : Value) :
    routine.Of (engine.unaryFunction name value) := by
  have real (work : Float → Act Value) (each : ∀ number, routine.Of (work number)) :
      routine.Of (realOf value >>= work) :=
    routine.bind (routine.realOf value) each
  have rounded (rounding : Value → Act ℤ) (each : ∀ value, routine.Of (rounding value)) :
      routine.Of (do return .float (← Act.floatOfInt (← rounding value)) : Act Value) :=
    routine.bind (each _) fun _ => routine.bind (routine.floatOfInt _) fun _ => routine.pure _
  unfold Engine.unaryFunction
  split
  any_goals with_reducible exact keeps.combine _ _ _
  any_goals with_reducible exact keeps.operate _ _
  any_goals with_reducible exact keeps.narrowed _ _
  any_goals with_reducible exact keeps.narrowedBy (keeps.operate _ _) _
  any_goals with_reducible exact keeps.narrowedBy (keeps.combine _ _ _) _
  any_goals with_reducible exact keeps.signOf _
  any_goals with_reducible exact routine.logarithmOf _ _
  any_goals with_reducible exact real _ fun _ => routine.pure _
  any_goals with_reducible exact real _ fun _ => routine.bind (routine.ofReal _) fun _ => routine.pure _
  any_goals with_reducible exact rounded floorOf routine.floorOf
  any_goals with_reducible exact rounded ceilingOf routine.ceilingOf
  · exact routine.bind (keeps.compares _ _ _) fun _ =>
      routine.ite (keeps.operate _ _) (routine.pure _)
  · exact routine.bind (keeps.compares _ _ _) fun _ =>
      routine.ite (routine.pure _) (real _ fun _ => routine.pure _)
  · exact keeps.callMember _ _ _
  · exact routine.bind (keeps.call _ _) fun _ =>
      routine.bind (routine.realOf _) fun _ => routine.pure _
  · exact routine.bind (keeps.combine _ _ _) fun _ =>
      routine.bind (routine.floorOf _) fun _ => routine.pure _
  · exact routine.throw _

theorem numericFunction (name : String) (arguments : List Value) :
    routine.Of (engine.numericFunction name arguments) := by
  unfold Engine.numericFunction
  split
  · exact routine.ofInteger _
  · split
    · exact keeps.unaryFunction _ _
    · exact keeps.binaryFunction _ _ _
    · exact routine.throw _

end Functions

end Engine.Keeps

end MemberDispatch
