import MemberDispatch.Number.HexFloat
import MemberDispatch.Value.Argument

/-!
# Members of numbers

The members of whole numbers, floating-point numbers and fractions that are not operators.
-/

namespace MemberDispatch

namespace IntegerBytes

/-- The lowest bytes of a natural number, the lowest first. -/
def lowest : Nat → Nat → List UInt8
  | 0, _ => []
  | count + 1, number => UInt8.ofNat (number % 256) :: lowest count (number / 256)

/-- The natural number of some bytes, the highest first. -/
def value (bytes : List UInt8) : Nat :=
  bytes.foldl (fun value byte => value * 256 + byte.toNat) 0

end IntegerBytes

/-- The best approximations of a ratio from its continued fraction: follows the convergents while
the denominator stays within a bound. The four numbers are the last two convergents. -/
def approximate (bound : Rat) : Nat → Int → Int → Int → Int → Int → Int → Int × Int × Int × Int
  | 0, p0, q0, p1, q1, _, _ => (p0, q0, p1, q1)
  | fuel + 1, p0, q0, p1, q1, numerator, denominator =>
      let quotient := Int.fdiv numerator denominator
      let next := q0 + quotient * q1
      if next > bound then (p0, q0, p1, q1)
      else
        approximate bound fuel p1 q1 (p0 + quotient * p1) next denominator
          (numerator - quotient * denominator)

/-- The ratio nearest to another one among those with a denominator up to a bound. -/
def limitDenominator (ratio bound : Rat) : Rat :=
  if ratio.den ≤ bound then ratio
  else
    let (p0, q0, p1, q1) := approximate bound (ratio.den + 2) 0 1 1 0 ratio.num ratio.den
    let steps := ((bound - q0) / q1).floor
    let low : Rat := ((p0 + steps * p1 : Int) : Rat) / ((q0 + steps * q1 : Int) : Rat)
    let high : Rat := (p1 : Rat) / (q1 : Rat)
    let distance (other : Rat) : Rat := if other < ratio then ratio - other else other - ratio
    if distance high ≤ distance low then high else low

namespace Engine

def ratioPair (numerator : Int) (denominator : Nat) : Value :=
  .tuple [.int numerator, .int denominator]

def toBytes (number : Int) (arguments : List Value) : Act Value := do
  let length ← Argument.sizeOr 1 (Argument.at? arguments 0)
  let order ← match Argument.at? arguments 1 with
    | none => pure "big"
    | some value =>
        Argument.text value fun cls => "to_bytes() argument 'byteorder' must be str, not " ++ cls
  unless order == "little" || order == "big" do
    Act.valueError "byteorder must be either 'little' or 'big'"
  if length < 0 then Act.valueError "length argument must be non-negative"
  else if number < 0 then throw (.say .overflow "can't convert negative int to unsigned")
  else
    Act.requireRoom length.toNat
    if number ≥ twoTo (8 * length.toNat) then throw (.say .overflow "int too big to convert")
    let bytes := IntegerBytes.lowest length.toNat number.toNat
    return .bytes (if order == "little" then bytes else bytes.reverse)

def byteOf (value : Value) : Act UInt8 := do
  let number ← Argument.integer value
  if number < 0 || number > 255 then Act.valueError "bytes must be in range(0, 256)"
  else return UInt8.ofNat number.toNat

def bytesFrom (engine : Engine) (value : Value) : Act (List UInt8) := do
  match ← bytes? value with
  | some bytes => return bytes
  | none =>
      let refused : Act (List UInt8) := do
        Act.typeError ("cannot convert '" ++ (← Argument.className value) ++ "' object to bytes")
      match ← Act.contentOf value with
      | .text _ => refused
      | _ => match ← engine.items? value with
        | some items => items.mapM byteOf
        | none => refused

def fromBytes (engine : Engine) (arguments : List Value) : Act Value := do
  let order ← match Argument.at? arguments 1 with
    | none => pure "big"
    | some value =>
        Argument.text value fun cls => "from_bytes() argument 'byteorder' must be str, not " ++ cls
  unless order == "little" || order == "big" do
    Act.valueError "byteorder must be either 'little' or 'big'"
  let bytes ← engine.bytesFrom (Argument.atOrNone arguments 0)
  return .int (IntegerBytes.value (if order == "little" then bytes.reverse else bytes))

/-- A power of whole numbers in the residues of a modulus. -/
def residuePower (base exponent modulus : Int) : Act Value := do
  if modulus == 0 then Act.valueError "pow() 3rd argument cannot be 0"
  else if exponent < 0 then Act.valueError "base is not invertible for the given modulus"
  else return .int (Int.fmod (Integer.power (Int.fmod base modulus) exponent.toNat) modulus)

def integerMember (engine : Engine) (name : String) (number : Int) (arguments : List Value) :
    Act Value := do
  match name with
  | "bit_length" => return .int (Integer.bitLength number)
  | "bit_count" =>
      return .int ((Nat.toDigits 2 number.natAbs).filter (· == '1')).length
  | "as_integer_ratio" => return ratioPair number 1
  | "conjugate" => return .int number
  | "to_bytes" => toBytes number arguments
  | "from_bytes" => engine.fromBytes arguments
  | "__pow__" => match ← arguments.mapM fun value => return (← Act.contentOf value).int? with
    | [some exponent, some modulus] => residuePower number exponent modulus
    | _ => return .notImplemented
  | name => Act.typeError ("no member " ++ name ++ " of a whole number")

/-- The number of a text in base sixteen. -/
def fromHex (value : Value) : Act Value := do
  match ← Act.contentOf value with
  | .text text => match HexFloat.read text with
    | .ok number => return .float number
    | .error .malformed => Act.valueError "invalid hexadecimal floating-point string"
    | .error .tooLarge =>
        throw (.say .overflow "hexadecimal value too large to represent as a float")
  | _ => Act.typeError "bad argument type for built-in operation"

/-- The numerator and denominator of a finite floating-point number. -/
def floatRatio (number : Float) : Act (Int × Nat) := do
  match (Binary64.ofFloat number).ratio? with
  | some ratio => return ratio
  | none =>
      if RealFunctions.isNaN number then Act.valueError "cannot convert NaN to integer ratio"
      else throw (.say .overflow "cannot convert Infinity to integer ratio")

def floatMember (name : String) (number : Float) : Act Value := do
  match name with
  | "conjugate" => return .float number
  | "is_integer" => return .bool (Binary64.ofFloat number).whole?.isSome
  | "hex" => return .text (HexFloat.write number)
  | "as_integer_ratio" => do
      let (numerator, denominator) ← floatRatio number
      return ratioPair numerator denominator
  | "__pow__" =>
      Act.typeError "pow() 3rd argument not allowed unless all arguments are integers"
  | name => Act.typeError ("no member " ++ name ++ " of a floating-point number")

/-- The ratio of a value of a rational kind, for an operation that only takes such values. -/
def ratioOf (value : Value) : Act Rat := do
  match (← Act.contentOf value).rational? with
  | some ratio => return ratio
  | none => Act.noAttribute (← Act.classOf value) "numerator"

def fractionOfFloat (engine : Engine) (value : Value) : Act Value := do
  match ← Act.contentOf value with
  | .float number => do
      let (numerator, denominator) ← floatRatio number
      return .fraction ((numerator : Rat) / ((denominator : Int) : Rat))
  | content => match content.int? with
    | some number => return .fraction number
    | none =>
        Act.typeError ("Fraction.from_float() only takes floats, not " ++
          (← engine.display value) ++ " (" ++ (← Act.classOf value).name ++ ")")

/-- The numerator and denominator of a finite decimal number. -/
def decimalRatio (number : Decimal) : Act Rat := do
  match number with
  | .finite negative coefficient exponent =>
      let signed : Int := if negative then -(coefficient : Int) else coefficient
      if exponent < 0 then return (signed : Rat) / ((tenTo exponent.natAbs : Int) : Rat)
      else return ((signed * tenTo exponent.natAbs : Int) : Rat)
  | .infinite _ => throw (.say .overflow "cannot convert Infinity to integer ratio")
  | .nan .. => Act.valueError "cannot convert NaN to integer ratio"

def fractionOfDecimal (engine : Engine) (value : Value) : Act Value := do
  match ← Act.contentOf value with
  | .decimal number => return .fraction (← decimalRatio number)
  | content => match content.int? with
    | some number => return .fraction number
    | none =>
        Act.typeError ("Fraction.from_decimal() only takes Decimals, not " ++
          (← engine.display value) ++ " (" ++ (← Act.classOf value).name ++ ")")

def fractionMember (engine : Engine) (name : String) (ratio : Rat) (arguments : List Value) :
    Act Value := do
  let other := Argument.atOrNone arguments 0
  let apply (operator : BinaryOperator) : Act Value := do
    Arithmetic.ofRatios operator ratio (← ratioOf other)
  match name with
  | "as_integer_ratio" => return ratioPair ratio.num ratio.den
  | "conjugate" => return .fraction ratio
  | "limit_denominator" => do
      match Argument.at? arguments 0 with
      | none => return .fraction (limitDenominator ratio 1000000)
      | some value => do
          if ← engine.compares .lt value (.int 1) then
            Act.valueError "max_denominator should be at least 1"
          match (← Act.contentOf value).rational? with
          | some bound => return .fraction (limitDenominator ratio bound)
          | none =>
              if ← engine.compares .le (.int ratio.den) value then return .fraction ratio
              else Act.typeError "both arguments should be Rational instances"
  | "_add" => apply .add
  | "_sub" => apply .sub
  | "_mul" => apply .mul
  | "_div" => apply .trueDiv
  | "_floordiv" => apply .floorDiv
  | "_mod" => apply .mod
  | "_divmod" => do return .tuple [← apply .floorDiv, ← apply .mod]
  | name => Act.typeError ("no member " ++ name ++ " of a fraction")

end Engine

end MemberDispatch
