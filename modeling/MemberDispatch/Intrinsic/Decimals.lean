import MemberDispatch.Intrinsic.Numbers

/-!
# Members of decimal numbers

The members of decimal numbers that are not operators. All work in the one arithmetic of the
session; another one cannot be given.
-/

namespace MemberDispatch

namespace Decimal

def withSign (negative : Bool) : Decimal → Decimal
  | .finite _ coefficient exponent => .finite negative coefficient exponent
  | .infinite _ => .infinite negative
  | .nan _ signaling payload => .nan negative signaling payload

def kindName (number : Decimal) : String :=
  let sign := if number.isNegative then "-" else "+"
  match number with
  | .nan _ signaling _ => if signaling then "sNaN" else "NaN"
  | .infinite _ => sign ++ "Infinity"
  | .finite .. =>
      if number.isZero then sign ++ "Zero"
      else if number.isNormal then sign ++ "Normal"
      else sign ++ "Subnormal"

/-- The exponent of the leading digit, as a number. -/
def leadingExponent (number : Decimal) : Result :=
  match number with
  | .nan .. => round number
  | .infinite _ => .ok (.infinite false)
  | .finite .. => if number.isZero then .error .divisionByZero else .ok (.ofInt number.adjusted)

def sameExponent : Decimal → Decimal → Bool
  | .finite _ _ left, .finite _ _ right => left == right
  | .infinite _, .infinite _ => true
  | .nan .., .nan .. => true
  | _, _ => false

end Decimal

namespace Engine

/-- The decimal number that an operand converts to. -/
def decimalOperand (value : Value) : Act Decimal := do
  match ← Act.contentOf value with
  | .decimal number => return number
  | content => match content.int? with
    | some number => return .ofInt number
    | none =>
        Act.typeError ("conversion from " ++ (← Act.classOf value).name ++
          " to Decimal is not supported")

/-- The exact decimal number of a floating-point or whole one. -/
def decimalFromFloat (value : Value) : Act Value := do
  match ← Act.contentOf value with
  | .float number => return .decimal (.ofFloat number)
  | content => match content.int? with
    | some number => return .decimal (.ofInt number)
    | none => Act.typeError "argument must be int or float"

/-- Refuses an arithmetic given with a call. -/
def refuseContext (arguments : List Value) (position : Nat) : Act Unit := do
  match Argument.at? arguments position with
  | none | some .none => return
  | some _ => Act.typeError "optional argument must be a context"

/-- Makes sure that a way of rounding is the one that rounds a half to the even neighbour. -/
def requireHalfEven (value : Option Value) : Act Unit := do
  match value with
  | none | some .none | some (.text "ROUND_HALF_EVEN") => return
  | some _ =>
      Act.typeError ("valid values for rounding are:\n  [ROUND_CEILING, ROUND_FLOOR, ROUND_UP, " ++
        "ROUND_DOWN,\n   ROUND_HALF_UP, ROUND_HALF_DOWN, ROUND_HALF_EVEN,\n   ROUND_05UP]")

/-- The members that take one number and give a decimal one. -/
def decimalFunction? (name : String) : Option (Decimal → Decimal.Result) :=
  match name with
  | "sqrt" => some Decimal.squareRoot
  | "normalize" => some Decimal.normalize
  | "logb" => some Decimal.leadingExponent
  | _ => none

/-- The members that take two numbers and give a decimal one. -/
def decimalOperation? (name : String) : Option (Decimal → Decimal → Decimal.Result) :=
  match name with
  | "compare" => some Decimal.compareTo
  | "max" => some Decimal.maximum
  | "min" => some Decimal.minimum
  | "copy_sign" => some fun number other => .ok (number.withSign other.isNegative)
  | _ => none

/-- The members that ask something of a number. -/
def decimalTest? (name : String) : Option (Decimal → Bool) :=
  match name with
  | "is_canonical" => some fun _ => true
  | "is_finite" => some Decimal.isFinite
  | "is_infinite" => some fun number => !number.isFinite && !number.isNaN
  | "is_nan" => some Decimal.isNaN
  | "is_qnan" => some fun number => number.isNaN && !number.isSignaling
  | "is_snan" => some Decimal.isSignaling
  | "is_signed" => some Decimal.isNegative
  | "is_zero" => some Decimal.isZero
  | "is_normal" => some Decimal.isNormal
  | "is_subnormal" =>
      some fun number => number.isFinite && !number.isZero && !number.isNormal
  | _ => none

/-- The digits, the sign and the exponent of a number. -/
def decimalParts (number : Decimal) : Value :=
  let digits (coefficient : Nat) : Value :=
    .tuple ((Nat.toDigits 10 coefficient).map fun digit => .int (digit.toNat - '0'.toNat))
  let sign : Value := .int (if number.isNegative then 1 else 0)
  match number with
  | .finite _ coefficient exponent => .tuple [sign, digits coefficient, .int exponent]
  | .infinite _ => .tuple [sign, .tuple [.int 0], .text "F"]
  | .nan _ signaling payload =>
      .tuple [sign, if payload == 0 then .tuple [] else digits payload,
        .text (if signaling then "N" else "n")]

def decimalMember (name : String) (number : Decimal) (arguments : List Value) : Act Value := do
  match decimalTest? name, decimalFunction? name, decimalOperation? name with
  | some test, _, _ => do
      refuseContext arguments 0
      return .bool (test number)
  | _, some function, _ => do
      refuseContext arguments 0
      Act.ofDecimal (function number)
  | _, _, some operation => do
      refuseContext arguments 1
      Act.ofDecimal (operation number (← decimalOperand (Argument.atOrNone arguments 0)))
  | _, _, _ => match name with
    | "quantize" => do
        refuseContext arguments 2
        requireHalfEven (Argument.at? arguments 1)
        Act.ofDecimal (number.quantize (← decimalOperand (Argument.atOrNone arguments 0)))
    | "to_integral" | "to_integral_value" | "to_integral_exact" => do
        refuseContext arguments 1
        requireHalfEven (Argument.at? arguments 0)
        Act.ofDecimal number.toIntegral
    | "same_quantum" => do
        refuseContext arguments 1
        let other ← decimalOperand (Argument.atOrNone arguments 0)
        return .bool (number.sameExponent other)
    | "adjusted" => return .int number.adjusted
    | "canonical" | "conjugate" => return .decimal number
    | "radix" => return .decimal (.ofInt 10)
    | "copy_abs" => return .decimal (number.withSign false)
    | "copy_negate" => return .decimal (number.withSign !number.isNegative)
    | "number_class" => do
        refuseContext arguments 0
        return .text number.kindName
    | "as_tuple" => return decimalParts number
    | "as_integer_ratio" => do
        let ratio ← decimalRatio number
        return ratioPair ratio.num ratio.den
    | "__pow__" => match ← arguments.mapM fun value => return (← Act.contentOf value).int? with
      | [some exponent, some modulus] => match number.whole? with
        | some base => do
            if modulus == 0 || exponent < 0 then throw (.ofSignal .invalidOperation)
            let power := Int.tmod (Integer.power base exponent.toNat) modulus
            return .decimal (.ofInt power)
        | none => throw (.ofSignal .invalidOperation)
      | _ => return .notImplemented
    | name => Act.typeError ("no member " ++ name ++ " of a decimal number")

end Engine

end MemberDispatch
