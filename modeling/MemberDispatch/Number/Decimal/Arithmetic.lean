import MemberDispatch.Number.Decimal.Basic

/-!
# Decimal arithmetic

Arithmetic on decimal numbers with 28 digits. An exact result that fits is kept as it is, any
other is rounded to 28 digits with a half going to the even neighbour. Invalid operations,
division by zero and overflow stop the operation with a signal.
-/

namespace MemberDispatch

namespace Decimal

/-- The number of digits of a result. -/
def precision : Nat := 28

/-- The greatest exponent of the leading digit of a result. -/
def maxAdjusted : Int := 999999

/-- The least exponent of the leading digit of a result that is not subnormal. -/
def minAdjusted : Int := -999999

def minExponent : Int := minAdjusted - precision + 1

/-- The result of an operation. -/
abbrev Result := Except DecimalSignal Decimal

/-- A coefficient without its last `count` digits, rounded half to even. -/
def dropDigits (coefficient count : Nat) : Nat :=
  if count > digitCount coefficient then 0
  else Binary64.roundHalfEven coefficient (tenTo count)

/-- Rounds an exact finite result to the precision and the range of exponents. -/
def rounded (negative : Bool) (coefficient : Nat) (exponent : Int) : Result :=
  if coefficient == 0 then
    .ok (.finite negative 0 (max minExponent (min maxAdjusted exponent)))
  else
    let least := max (exponent + digitCount coefficient - precision) minExponent
    let (coefficient, exponent) :=
      if exponent < least then
        let shorter := dropDigits coefficient (least - exponent).toNat
        if digitCount shorter > precision then (shorter / 10, least + 1) else (shorter, least)
      else (coefficient, exponent)
    if exponent + digitCount coefficient - 1 > maxAdjusted then .error .overflow
    else .ok (.finite negative coefficient exponent)

/-- Rounds a result; a value that is no number stays as it is, unless it is signaling. -/
def round : Decimal → Result
  | .finite negative coefficient exponent => rounded negative coefficient exponent
  | .infinite negative => .ok (.infinite negative)
  | .nan negative signaling payload =>
      if signaling then .error .invalidOperation else .ok (.nan negative false payload)

/-- What an operation gives at once because an operand is no number: a signaling one stops it, else
the first such operand is the result. -/
def notNumber? (left right : Decimal) : Option Result :=
  if left.isSignaling || right.isSignaling then some (.error .invalidOperation)
  else if left.isNaN then some (.ok left)
  else if right.isNaN then some (.ok right)
  else none

/-- Two positive numbers on one exponent, exact unless one is too small to matter beyond being
there, and then replaced by a mark below the last digit of the other. -/
def aligned (left right : Nat × Int) : Nat × Nat × Int :=
  let align (larger smaller : Nat × Int) : Nat × Nat × Int :=
    let floor := larger.2 + min (-1) ((digitCount larger.1 : Int) - precision - 2)
    let smaller :=
      if (digitCount smaller.1 : Int) + smaller.2 - 1 < floor then (1, floor) else smaller
    (larger.1 * tenTo (larger.2 - smaller.2).toNat, smaller.1, smaller.2)
  if left.2 < right.2 then
    let (larger, smaller, exponent) := align right left
    (smaller, larger, exponent)
  else align left right

/-- A finite number whose coefficient is padded with zeros down to an exponent. -/
def padded (negative : Bool) (coefficient : Nat) (exponent target : Int) : Result :=
  rounded negative (coefficient * tenTo (exponent - target).toNat) target

/-- The sum of two numbers. -/
def add (left right : Decimal) : Result :=
  match notNumber? left right with
  | some result => result
  | none => match left, right with
    | .infinite leftNegative, .infinite rightNegative =>
        if leftNegative == rightNegative then .ok left else .error .invalidOperation
    | .infinite _, _ => .ok left
    | _, .infinite _ => .ok right
    | .finite leftNegative leftCoefficient leftExponent,
      .finite rightNegative rightCoefficient rightExponent =>
        let exponent := min leftExponent rightExponent
        if leftCoefficient == 0 && rightCoefficient == 0 then
          rounded (leftNegative && rightNegative) 0 exponent
        -- A zero counts with its exponent only, and no further than the precision shows.
        else if leftCoefficient == 0 then
          padded rightNegative rightCoefficient rightExponent
            (max exponent (rightExponent - precision - 1))
        else if rightCoefficient == 0 then
          padded leftNegative leftCoefficient leftExponent
            (max exponent (leftExponent - precision - 1))
        else
          let (first, second, common) :=
            aligned (leftCoefficient, leftExponent) (rightCoefficient, rightExponent)
          if leftNegative == rightNegative then rounded leftNegative (first + second) common
          else if first == second then rounded false 0 exponent
          else if first > second then rounded leftNegative (first - second) common
          else rounded rightNegative (second - first) common
    | _, _ => .error .invalidOperation

/-- The number with its sign turned, exactly. -/
def flipSign : Decimal → Decimal
  | .finite negative coefficient exponent => .finite (!negative) coefficient exponent
  | .infinite negative => .infinite (!negative)
  | .nan negative signaling payload => .nan (!negative) signaling payload

/-- The difference of two numbers. -/
def sub (left right : Decimal) : Result :=
  match notNumber? left right with
  | some result => result
  | none => add left (flipSign right)

/-- The rounded number; a negative zero loses its sign. -/
def plus (number : Decimal) : Result :=
  match number with
  | .finite negative coefficient exponent =>
      rounded (negative && coefficient != 0) coefficient exponent
  | _ => round number

/-- The rounded number with its sign turned; a zero has no sign then. -/
def negate (number : Decimal) : Result :=
  match number with
  | .nan .. => round number
  | _ => plus (flipSign number)

/-- The rounded magnitude of a number. -/
def magnitude (number : Decimal) : Result :=
  if number.isNegative then negate number else plus number

/-- The product of two numbers. -/
def mul (left right : Decimal) : Result :=
  match notNumber? left right with
  | some result => result
  | none =>
      let negative := left.isNegative != right.isNegative
      match left, right with
      | .finite _ leftCoefficient leftExponent, .finite _ rightCoefficient rightExponent =>
          rounded negative (leftCoefficient * rightCoefficient) (leftExponent + rightExponent)
      | _, _ =>
          if left.isZero || right.isZero then .error .invalidOperation
          else .ok (.infinite negative)

/-- Drops trailing zeros of a coefficient while the exponent is below its ideal. -/
def towardsIdeal (ideal : Int) : Nat → Nat → Int → Nat × Int
  | 0, coefficient, exponent => (coefficient, exponent)
  | fuel + 1, coefficient, exponent =>
      if exponent < ideal && coefficient % 10 == 0 then
        towardsIdeal ideal fuel (coefficient / 10) (exponent + 1)
      else (coefficient, exponent)

/-- The quotient of two numbers. A quotient that is not exact keeps a mark below its last digit so
that rounding sees it. -/
def div (left right : Decimal) : Result :=
  match notNumber? left right with
  | some result => result
  | none =>
      let negative := left.isNegative != right.isNegative
      match left, right with
      | .infinite _, .infinite _ => .error .invalidOperation
      | .infinite _, _ => .ok (.infinite negative)
      | _, .infinite _ => .ok (.finite negative 0 minExponent)
      | .finite _ leftCoefficient leftExponent, .finite _ rightCoefficient rightExponent =>
          if rightCoefficient == 0 then
            .error (if leftCoefficient == 0 then .divisionUndefined else .divisionByZero)
          else if leftCoefficient == 0 then rounded negative 0 (leftExponent - rightExponent)
          else
            let shift : Int :=
              (digitCount rightCoefficient : Int) - digitCount leftCoefficient + precision + 1
            let exponent := leftExponent - rightExponent - shift
            let top := leftCoefficient * tenTo shift.toNat
            let bottom := rightCoefficient * tenTo (-shift).toNat
            let quotient := top / bottom
            -- The quotient has a digit too many. It is kept off zero and five, where the rest would decide.
            if top % bottom != 0 then
              rounded negative (if quotient % 5 == 0 then quotient + 1 else quotient) exponent
            else
              let (coefficient, exponent) :=
                towardsIdeal (leftExponent - rightExponent) (digitCount quotient) quotient exponent
              rounded negative coefficient exponent
      | _, _ => .error .invalidOperation

/-- The whole quotient, truncated, and the remainder of two finite numbers of which the second is
not zero. The quotient must not have more digits than the precision. -/
def divideWhole (left right : Decimal) : Except DecimalSignal (Decimal × Decimal) :=
  match left, right with
  | .finite leftNegative leftCoefficient leftExponent,
    .finite rightNegative rightCoefficient rightExponent =>
      let negative := leftNegative != rightNegative
      let ideal := min leftExponent rightExponent
      let difference := left.adjusted - right.adjusted
      if leftCoefficient == 0 || difference ≤ -2 then
        let rest :=
          if leftCoefficient == 0 then (0, ideal)
          else if leftExponent - ideal > 2 * precision then (leftCoefficient, leftExponent)
          else (leftCoefficient * tenTo (leftExponent - ideal).toNat, ideal)
        .ok (.finite negative 0 0, .finite leftNegative rest.1 rest.2)
      else if difference > precision then .error .divisionImpossible
      else
        let first := leftCoefficient * tenTo (leftExponent - ideal).toNat
        let second := rightCoefficient * tenTo (rightExponent - ideal).toNat
        if digitCount (first / second) > precision then .error .divisionImpossible
        else .ok (.finite negative (first / second) 0, .finite leftNegative (first % second) ideal)
  | _, .infinite rightNegative =>
      .ok (.finite (left.isNegative != rightNegative) 0 0, left)
  | _, _ => .error .invalidOperation

/-- The quotient of two numbers truncated to a whole number. -/
def floorDiv (left right : Decimal) : Result :=
  match notNumber? left right with
  | some result => result
  | none =>
      if let .infinite _ := left then
        if let .infinite _ := right then .error .invalidOperation
        else .ok (.infinite (left.isNegative != right.isNegative))
      else if right.isZero then
        .error (if left.isZero then .divisionUndefined else .divisionByZero)
      else (divideWhole left right).map (·.1)

/-- The remainder of truncated division; it has the sign of the dividend. -/
def mod (left right : Decimal) : Result :=
  match notNumber? left right with
  | some result => result
  | none =>
      if let .infinite _ := left then .error .invalidOperation
      else if right.isZero then
        .error (if left.isZero then .divisionUndefined else .invalidOperation)
      else (divideWhole left right).bind fun (_, rest) => round rest

/-- Raises a number to a whole power by repeated exact multiplication, rounding at the end. -/
def powInt (base : Decimal) (exponent : Int) : Result :=
  match base with
  | .nan .. => round base
  | .infinite negative =>
      if exponent == 0 then .ok (.finite false 1 0)
      else if exponent > 0 then .ok (.infinite (negative && exponent % 2 == 1))
      else .ok (.finite (negative && exponent % 2 == 1) 0 minExponent)
  | .finite negative coefficient power =>
      let sign := negative && exponent.natAbs % 2 == 1
      if exponent == 0 then
        if coefficient == 0 then .error .invalidOperation else .ok (.finite false 1 0)
      else if exponent.natAbs * digitCount coefficient > 1000000 then .error .overflow
      else
        let raised := Nat.pow coefficient exponent.natAbs
        if exponent > 0 then rounded sign raised (power * exponent)
        else div (.finite sign 1 0) (.finite false raised (-(power * exponent)))

/-- Whether the numbers compare as less, equal or greater, as a number of the same kind. -/
def compareTo (left right : Decimal) : Result :=
  match notNumber? left right with
  | some result => result
  | none => match order? left right with
    | some .lt => .ok (.finite true 1 0)
    | some .eq => .ok (.finite false 0 0)
    | some .gt => .ok (.finite false 1 0)
    | none => .error .invalidOperation

/-- Orders equal numbers by their sign and exponent. -/
def totalBefore (left right : Decimal) : Bool :=
  match left, right with
  | .finite leftNegative _ leftExponent, .finite rightNegative _ rightExponent =>
      if leftNegative != rightNegative then leftNegative
      else if leftNegative then leftExponent > rightExponent
      else leftExponent < rightExponent
  | _, _ => false

/-- The greater of two numbers; a number wins over a value that is none. -/
def maximum (left right : Decimal) : Result :=
  if left.isSignaling || right.isSignaling then .error .invalidOperation
  else if left.isNaN && !right.isNaN then round right
  else if right.isNaN && !left.isNaN then round left
  else match order? left right with
    | none => .ok left
    | some .lt => round right
    | some .gt => round left
    | some .eq => round (if totalBefore left right then right else left)

/-- The lesser of two numbers; a number wins over a value that is none. -/
def minimum (left right : Decimal) : Result :=
  if left.isSignaling || right.isSignaling then .error .invalidOperation
  else if left.isNaN && !right.isNaN then round right
  else if right.isNaN && !left.isNaN then round left
  else match order? left right with
    | none => .ok left
    | some .lt => round left
    | some .gt => round right
    | some .eq => round (if totalBefore left right then left else right)

/-- A finite coefficient moved to another exponent, rounded where digits are lost. -/
def rescaled (coefficient : Nat) (exponent target : Int) : Nat :=
  if target ≤ exponent then coefficient * tenTo (exponent - target).toNat
  else dropDigits coefficient (target - exponent).toNat

/-- The number rounded to the exponent of another. -/
def quantize (number pattern : Decimal) : Result :=
  match notNumber? number pattern with
  | some result => result
  | none => match number, pattern with
    | .infinite _, .infinite _ => .ok number
    | .finite negative coefficient exponent, .finite _ _ target =>
        if target < minExponent || target > maxAdjusted then .error .invalidOperation
        else if coefficient == 0 then .ok (.finite negative 0 target)
        else if number.adjusted > maxAdjusted || number.adjusted - target + 1 > precision then
          .error .invalidOperation
        else
          let moved := rescaled coefficient exponent target
          if digitCount moved > precision || target + digitCount moved - 1 > maxAdjusted then
            .error .invalidOperation
          else .ok (.finite negative moved target)
    | _, _ => .error .invalidOperation

/-- The rounded number without trailing zeros. -/
def normalize (number : Decimal) : Result :=
  (round number).map fun
    | .finite negative coefficient exponent =>
        if coefficient == 0 then .finite negative 0 0
        else
          let (coefficient, exponent) :=
            towardsIdeal maxAdjusted (digitCount coefficient) coefficient exponent
          .finite negative coefficient exponent
    | other => other

/-- The number rounded to a whole number, a half to the even neighbour. -/
def toIntegral (number : Decimal) : Result :=
  match number with
  | .finite negative coefficient exponent =>
      if exponent ≥ 0 then .ok number
      else .ok (.finite negative (rescaled coefficient exponent 0) 0)
  | .infinite _ => .ok number
  | .nan .. => round number

/-- The greatest natural number whose square is at most `number`, found by descending from
`guess`, which must not be too small. -/
def squareRootFrom (number : Nat) : Nat → Nat → Nat
  | 0, guess => guess
  | fuel + 1, guess =>
      let next := (guess + number / guess) / 2
      if next < guess then squareRootFrom number fuel next else guess

/-- The greatest natural number whose square is at most `number`. -/
def floorSquareRoot (number : Nat) : Nat :=
  if number == 0 then 0
  else squareRootFrom number (number.log2 + 8) (twoTo (number.log2 / 2 + 1))

/-- The square root, exact where it fits and rounded otherwise. -/
def squareRoot (number : Decimal) : Result :=
  match number with
  | .nan .. => round number
  | .infinite negative => if negative then .error .invalidOperation else .ok number
  | .finite negative coefficient exponent =>
      if coefficient == 0 then rounded negative 0 (Int.fdiv exponent 2)
      else if negative then .error .invalidOperation
      else
        let odd := Int.fmod exponent 2 == 1
        let (base, length) :=
          if odd then (coefficient * 10, digitCount coefficient / 2 + 1)
          else (coefficient, (digitCount coefficient + 1) / 2)
        let shift : Int := (precision : Int) + 1 - length
        let scaled := base * tenTo (2 * shift.toNat) / tenTo (2 * (-shift).toNat)
        let lossless := base * tenTo (2 * shift.toNat) % tenTo (2 * (-shift).toNat) == 0
        let root := floorSquareRoot scaled
        let half := Int.fdiv exponent 2
        if lossless && root * root == scaled then
          rounded false (root * tenTo (-shift).toNat / tenTo shift.toNat) half
        else rounded false (if root % 5 == 0 then root + 1 else root) (half - shift)

/-- Whether the number is finite, not zero and not subnormal. -/
def isNormal (number : Decimal) : Bool :=
  number.isFinite && !number.isZero && number.adjusted ≥ minAdjusted

end Decimal

end MemberDispatch
