import MemberDispatch.Number.Power

/-!
# Binary floating-point numbers

The exact value of a 64-bit floating-point number as a sign, a whole mantissa and a power of two,
and the number nearest to a given ratio. Every rule on floating-point numbers that is exact, such
as whether one is whole, goes through this reading of its bits.
-/

namespace MemberDispatch

/-- What a 64-bit floating-point number stands for: the value of a finite one is
`mantissa * 2 ^ exponent` under its sign. -/
inductive Binary64
  | nan
  | infinite (negative : Bool)
  | finite (negative : Bool) (mantissa : Nat) (exponent : Int)
  deriving DecidableEq, Repr

namespace Binary64

/-- Reads the three fields of a bit pattern. -/
def ofBits (bits : Nat) : Binary64 :=
  let negative := bits / twoTo 63 % 2 == 1
  let power : Nat := bits / twoTo 52 % twoTo 11
  let fraction : Nat := bits % twoTo 52
  if power == 2047 then
    if fraction == 0 then .infinite negative else .nan
  else if power == 0 then .finite negative fraction (-1074)
  else .finite negative (twoTo 52 + fraction) ((power : Int) - 1075)

/-- What a floating-point number stands for. -/
def ofFloat (number : Float) : Binary64 :=
  ofBits number.toBits.toNat

/-- The quotient rounded to a whole number, a half to the even neighbour. -/
def roundHalfEven (numerator denominator : Nat) : Nat :=
  let quotient := numerator / denominator
  let twice := 2 * (numerator % denominator)
  if twice < denominator then quotient
  else if twice > denominator then quotient + 1
  else if quotient % 2 == 0 then quotient else quotient + 1

/-- The mantissa and exponent nearest to a positive ratio, a tie going to the even mantissa and
the exponent being at least that of the smallest numbers. -/
def nearestParts (numerator denominator : Nat) : Nat × Int :=
  let scaled (exponent : Int) : Nat × Nat :=
    if exponent < 0 then (numerator * twoTo exponent.natAbs, denominator)
    else (numerator, denominator * twoTo exponent.natAbs)
  let guess : Int := (numerator.log2 : Int) - denominator.log2 - 53
  let low := scaled guess
  let exponent := max (if low.1 / low.2 < twoTo 53 then guess else guess + 1) (-1074)
  let (top, bottom) := scaled exponent
  (roundHalfEven top bottom, exponent)

/-- The bit pattern of a mantissa of at most 53 bits and an exponent, unless it is too large. -/
def bits? (negative : Bool) (mantissa : Nat) (exponent : Int) : Option Nat :=
  let (mantissa, exponent) :=
    if mantissa == twoTo 53 then (twoTo 52, exponent + 1) else (mantissa, exponent)
  let sign := if negative then twoTo 63 else 0
  if mantissa < twoTo 52 then some (sign + mantissa)
  else if exponent > 971 then none
  else some (sign + (exponent + 1075).toNat * twoTo 52 + (mantissa - twoTo 52))

def infinity : Float := 1.0 / 0.0

def notANumber : Float := 0.0 / 0.0

def signedInfinity (negative : Bool) : Float :=
  if negative then -infinity else infinity

/-- The floating-point number nearest to a ratio, unless it is too large for one. -/
def nearest? (negative : Bool) (numerator denominator : Nat) : Option Float :=
  if numerator == 0 then some (if negative then -0.0 else 0.0)
  else
    let (mantissa, exponent) := nearestParts numerator denominator
    (bits? negative mantissa exponent).map fun bits => Float.ofBits (UInt64.ofNat bits)

/-- The floating-point number nearest to a whole number, unless it is too large for one. -/
def ofInt? (number : Int) : Option Float :=
  nearest? (number < 0) number.natAbs 1

/-- The exact value as a numerator and a positive denominator, if finite. -/
def ratio? : Binary64 → Option (Int × Nat)
  | .finite negative mantissa exponent =>
      let signed : Int := if negative then -(mantissa : Int) else mantissa
      if exponent < 0 then
        let shared := Nat.gcd mantissa (twoTo exponent.natAbs)
        some (Int.tdiv signed shared, twoTo exponent.natAbs / shared)
      else some (signed * twoTo exponent.natAbs, 1)
  | _ => none

/-- The whole number that a number equals, if it equals one. -/
def whole? (number : Binary64) : Option Int :=
  match number.ratio? with
  | some (numerator, 1) => some numerator
  | _ => none

/-- The greatest whole number not above a finite number. -/
def floor? (number : Binary64) : Option Int :=
  number.ratio?.map fun (numerator, denominator) => Int.fdiv numerator denominator

/-- The least whole number not below a finite number. -/
def ceil? (number : Binary64) : Option Int :=
  number.ratio?.map fun (numerator, denominator) => -Int.fdiv (-numerator) denominator

/-- The whole number left when the fraction of a finite number is dropped. -/
def truncate? (number : Binary64) : Option Int :=
  number.ratio?.map fun (numerator, denominator) => Int.tdiv numerator denominator

/-- Whether the sign bit is set. -/
def isNegative : Binary64 → Bool
  | .nan => false
  | .infinite negative => negative
  | .finite negative _ _ => negative

/-- The exact remainder of truncated division of finite numbers with a divisor other than zero;
it has the sign of the dividend. -/
def remainder? (dividend divisor : Binary64) : Option Float :=
  match dividend, divisor with
  | .finite negative left leftExponent, .finite _ right rightExponent =>
      if right == 0 then none
      else
        let exponent := min leftExponent rightExponent
        let aligned (mantissa : Nat) (power : Int) := mantissa * twoTo (power - exponent).toNat
        let rest := aligned left leftExponent % aligned right rightExponent
        if exponent < 0 then nearest? negative rest (twoTo exponent.natAbs)
        else nearest? negative (rest * twoTo exponent.natAbs) 1
  | _, _ => none

end Binary64

end MemberDispatch
