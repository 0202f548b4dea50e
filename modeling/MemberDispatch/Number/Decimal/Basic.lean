import MemberDispatch.Number.FloatText

/-!
# Decimal numbers

Decimal numbers keep their digits and their exponent apart, so that `1.50` and `1.5` are equal
numbers with different texts. Besides the finite ones there are the infinities and two kinds of
values that are no number, of which the signaling kind stops every operation.
-/

namespace MemberDispatch

/-- A decimal number; a finite one is `coefficient * 10 ^ exponent` under its sign. -/
inductive Decimal
  | finite (negative : Bool) (coefficient : Nat) (exponent : Int)
  | infinite (negative : Bool)
  | nan (negative : Bool) (signaling : Bool) (payload : Nat)
  deriving DecidableEq, Repr, Inhabited

/-- Why a decimal operation stops. -/
inductive DecimalSignal
  | conversionSyntax
  | divisionByZero
  | divisionImpossible
  | divisionUndefined
  | invalidOperation
  | overflow
  deriving DecidableEq, Repr

def DecimalSignal.name : DecimalSignal → String
  | .conversionSyntax => "ConversionSyntax"
  | .divisionByZero => "DivisionByZero"
  | .divisionImpossible => "DivisionImpossible"
  | .divisionUndefined => "DivisionUndefined"
  | .invalidOperation => "InvalidOperation"
  | .overflow => "Overflow"

namespace Decimal

/-- A whole number as a decimal number. -/
def ofInt (number : Int) : Decimal :=
  .finite (number < 0) number.natAbs 0

/-- The exact value of a floating-point number, with no more digits after the point than it
needs. -/
def ofFloat (number : Float) : Decimal :=
  match Binary64.ofFloat number with
  | .nan => .nan false false 0
  | .infinite negative => .infinite negative
  | .finite negative mantissa exponent =>
      if mantissa == 0 then .finite negative 0 0
      else match (Binary64.finite false mantissa exponent).ratio? with
        | some (numerator, denominator) =>
            let places := denominator.log2
            .finite negative (numerator.natAbs * Nat.pow 5 places) (-(places : Int))
        | none => .finite negative 0 0

/-- Whether the number is neither infinite nor no number. -/
def isFinite : Decimal → Bool
  | .finite .. => true
  | _ => false

def isNaN : Decimal → Bool
  | .nan .. => true
  | _ => false

/-- Whether the value is no number and stops operations. -/
def isSignaling : Decimal → Bool
  | .nan _ signaling _ => signaling
  | _ => false

/-- Whether the number is a zero of either sign. -/
def isZero : Decimal → Bool
  | .finite _ coefficient _ => coefficient == 0
  | _ => false

def isNegative : Decimal → Bool
  | .finite negative _ _ => negative
  | .infinite negative => negative
  | .nan negative _ _ => negative

/-- The exponent of the leading digit of a finite number. Zero has one digit. -/
def adjusted : Decimal → Int
  | .finite _ coefficient exponent => exponent + max 1 (digitCount coefficient) - 1
  | _ => 0

/-- The whole number that a finite number equals, if it equals one. -/
def whole? : Decimal → Option Int
  | .finite negative coefficient exponent =>
      let signed (magnitude : Nat) : Int := if negative then -(magnitude : Int) else magnitude
      if coefficient == 0 then some 0
      else if exponent ≥ 0 then some (signed (coefficient * tenTo exponent.toNat))
      else if exponent.natAbs ≥ digitCount coefficient then none
      else if coefficient % tenTo exponent.natAbs == 0 then
        some (signed (coefficient / tenTo exponent.natAbs))
      else none
  | _ => none

/-- The whole number left when the fraction of a finite number is dropped. -/
def truncate? : Decimal → Option Int
  | .finite negative coefficient exponent =>
      let magnitude :=
        if exponent ≥ 0 then coefficient * tenTo exponent.toNat
        else if exponent.natAbs ≥ digitCount coefficient then 0
        else coefficient / tenTo exponent.natAbs
      some (if negative then -(magnitude : Int) else magnitude)
  | _ => none

/-- The greatest whole number that is not above a finite number. -/
def floor? (number : Decimal) : Option Int :=
  number.truncate?.map fun whole =>
    if number.isNegative && number.whole?.isNone then whole - 1 else whole

/-- The least whole number that is not below a finite number. -/
def ceil? (number : Decimal) : Option Int :=
  number.truncate?.map fun whole =>
    if !number.isNegative && number.whole?.isNone then whole + 1 else whole

/-- The text of a decimal number: positional while the exponent is not positive and the number is
not smaller than a millionth, with an exponent otherwise. -/
def text : Decimal → String
  | .infinite negative => if negative then "-Infinity" else "Infinity"
  | .nan negative signaling payload =>
      (if negative then "-" else "") ++ (if signaling then "sNaN" else "NaN") ++
        (if payload == 0 then "" else toString payload)
  | .finite negative coefficient exponent =>
      let digits := (toString coefficient).toList
      let leftDigits := exponent + digits.length
      let point := if exponent ≤ 0 && leftDigits > -6 then leftDigits else 1
      let body :=
        if point ≤ 0 then ['0', '.'] ++ zeros point.natAbs ++ digits
        else if point ≥ digits.length then digits ++ zeros (point.toNat - digits.length)
        else digits.take point.toNat ++ '.' :: digits.drop point.toNat
      let power :=
        if leftDigits == point then ""
        else "E" ++ (if leftDigits - point ≥ 0 then "+" else "") ++ toString (leftDigits - point)
      (if negative then "-" else "") ++ String.ofList body ++ power

namespace Reading

/-- The plain characters of a decimal number's text: padding and underscores are dropped and
digits of every script become plain. A character of no use makes the text unreadable. -/
def plain? (text : String) : Option (List Char) :=
  ((Text.trimEnd Text.isBlank (Text.trimStart Text.isBlank text.toList)).filter (· != '_')).mapM
    fun character =>
      if character.toNat < 0x80 then some character
      else if Text.isBlank character then some ' '
      else (Text.digitValue? character).map fun digit => Char.ofNat (48 + digit)

/-- The value of a special name, given in lower case. -/
def special? (negative : Bool) (name : List Char) : Option Decimal :=
  let payload? (digits : List Char) : Option Nat :=
    if digits.all fun digit => (NumberText.asciiDigit? digit).isSome then
      some (NumberText.digitsValue digits)
    else none
  match name with
  | 'i' :: 'n' :: 'f' :: rest =>
      if rest.isEmpty || rest == ['i', 'n', 'i', 't', 'y'] then some (.infinite negative) else none
  | 'n' :: 'a' :: 'n' :: digits => (payload? digits).map (.nan negative false ·)
  | 's' :: 'n' :: 'a' :: 'n' :: digits => (payload? digits).map (.nan negative true ·)
  | _ => none

end Reading

/-- The greatest exponent of the leading digit that a number can have. -/
def greatestAdjusted : Int := 999999999999999999

/-- The least exponent that a number can have. -/
def leastExponent : Int := -1999999999999999997

/-- The decimal number that a text stands for, with all its digits. -/
def read (text : String) : Except DecimalSignal Decimal :=
  match Reading.plain? text with
  | none => .error .conversionSyntax
  | some characters =>
      let (negative, rest) := NumberText.splitSign characters
      match NumberText.readDecimal rest with
      | some (digits, exponent) =>
          let number := Decimal.finite negative digits exponent
          if (digits != 0 && number.adjusted > greatestAdjusted) || exponent < leastExponent then
            .error .invalidOperation
          else .ok number
      | none => match Reading.special? negative (rest.map Char.toLower) with
        | some number => .ok number
        | none => .error .conversionSyntax

/-- The order of two finite numbers, exactly. Numbers of very different size are told apart by the
place of their leading digits. -/
def compareFinite (left right : Bool × Nat × Int) : Ordering :=
  let (leftNegative, leftCoefficient, leftExponent) := left
  let (rightNegative, rightCoefficient, rightExponent) := right
  let sign (negative : Bool) (coefficient : Nat) : Int :=
    if coefficient == 0 then 0 else if negative then -1 else 1
  let leftSign := sign leftNegative leftCoefficient
  let rightSign := sign rightNegative rightCoefficient
  if leftSign != rightSign then compare leftSign rightSign
  else if leftSign == 0 then .eq
  else
    let leftAdjusted := leftExponent + digitCount leftCoefficient
    let rightAdjusted := rightExponent + digitCount rightCoefficient
    let magnitude :=
      if leftAdjusted != rightAdjusted then compare leftAdjusted rightAdjusted
      else
        let exponent := min leftExponent rightExponent
        compare (leftCoefficient * tenTo (leftExponent - exponent).toNat)
          (rightCoefficient * tenTo (rightExponent - exponent).toNat)
    if leftSign == 1 then magnitude else magnitude.swap

/-- The order of two numbers, unless one is no number. -/
def order? (left right : Decimal) : Option Ordering :=
  match left, right with
  | .nan .., _ => none
  | _, .nan .. => none
  | .infinite leftNegative, .infinite rightNegative =>
      some (if leftNegative == rightNegative then .eq else if leftNegative then .lt else .gt)
  | .infinite negative, _ => some (if negative then .lt else .gt)
  | _, .infinite negative => some (if negative then .gt else .lt)
  | .finite leftNegative leftCoefficient leftExponent,
    .finite rightNegative rightCoefficient rightExponent =>
      some (compareFinite (leftNegative, leftCoefficient, leftExponent)
        (rightNegative, rightCoefficient, rightExponent))

/-- The order of a number and a ratio, unless the number is none. -/
def orderRatio? (number : Decimal) (ratio : Rat) : Option Ordering :=
  match number with
  | .finite negative coefficient exponent =>
      some (compareFinite (negative, coefficient * ratio.den, exponent)
        (ratio.num < 0, ratio.num.natAbs, 0))
  | .infinite negative => some (if negative then .lt else .gt)
  | .nan .. => none

end Decimal

end MemberDispatch
