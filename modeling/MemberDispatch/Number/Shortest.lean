import MemberDispatch.Number.Binary64

/-!
# Shortest decimal digits

The fewest decimal digits that read back as a given floating-point number. The numbers that round
to it form an interval; for each count of digits the two decimal neighbours of the exact value are
tried, and the first count with a neighbour inside the interval wins.
-/

namespace MemberDispatch

/-- A decimal number `digits * 10 ^ exponent`. -/
structure DecimalDigits where
  digits : Nat
  exponent : Int
  deriving DecidableEq, Repr

/-- The interval of numbers that round to a floating-point number, in units of
`1 / denominator`, with its exact value; the ends belong to it when `closed`. -/
structure RoundingInterval where
  low : Nat
  value : Nat
  high : Nat
  denominator : Nat
  closed : Bool
  deriving DecidableEq, Repr

namespace RoundingInterval

/-- The interval around `mantissa * 2 ^ exponent`. Its lower half is narrower where the next number
down has a smaller exponent. -/
def around (mantissa : Nat) (exponent : Int) : RoundingInterval :=
  let narrow := mantissa == twoTo 52 && exponent > -1074
  let scale := if exponent < 0 then 1 else twoTo exponent.natAbs
  { low := (if narrow then 4 * mantissa - 1 else 4 * mantissa - 2) * scale
    value := 4 * mantissa * scale
    high := (4 * mantissa + 2) * scale
    denominator := 4 * (if exponent < 0 then twoTo exponent.natAbs else 1)
    closed := mantissa % 2 == 0 }

/-- Whether the interval holds `numerator / denominator`. -/
def holds (interval : RoundingInterval) (numerator denominator : Nat) : Bool :=
  let point := numerator * interval.denominator
  let low := interval.low * denominator
  let high := interval.high * denominator
  if interval.closed then low ≤ point && point ≤ high else low < point && point < high

/-- `digits * 10 ^ exponent` as a ratio. -/
def decimalRatio (digits : Nat) (exponent : Int) : Nat × Nat :=
  if exponent < 0 then (digits, tenTo exponent.natAbs) else (digits * tenTo exponent.natAbs, 1)

/-- The decimal neighbours of the value on the grid of `10 ^ exponent` that lie in the interval,
the nearer first and an even one before an odd one. -/
def onGrid (interval : RoundingInterval) (exponent : Int) : List DecimalDigits :=
  let (top, bottom) :=
    if exponent < 0 then (interval.value * tenTo exponent.natAbs, interval.denominator)
    else (interval.value, interval.denominator * tenTo exponent.natAbs)
  let below := top / bottom
  let twice := 2 * (top % bottom)
  let nearer := if twice < bottom then true else if twice > bottom then false else below % 2 == 0
  let order := if nearer then [below, below + 1] else [below + 1, below]
  (order.filter fun digits =>
    let (numerator, denominator) := decimalRatio digits exponent
    digits != 0 && interval.holds numerator denominator).map fun digits => ⟨digits, exponent⟩

/-- The first hit on the grids from `10 ^ exponent` down, `count` of them. -/
def firstHit (interval : RoundingInterval) (exponent : Int) : Nat → Option DecimalDigits
  | 0 => none
  | count + 1 =>
      match interval.onGrid exponent with
      | hit :: _ => some hit
      | [] => interval.firstHit (exponent - 1) count

end RoundingInterval

/-- The number of decimal digits of a natural number; zero has none. -/
def digitCount (number : Nat) : Nat :=
  let guess := number.log2 * 30103 / 100000
  if number < tenTo guess then guess
  else if number < tenTo (guess + 1) then guess + 1
  else guess + 2

/-- The exponent of ten below the leading digit of a positive ratio, give or take one. -/
def leadingPower (numerator denominator : Nat) : Int :=
  (digitCount numerator : Int) - digitCount denominator

/-- The decimal number without trailing zeros. -/
def DecimalDigits.stripZeros (fuel : Nat) (number : DecimalDigits) : DecimalDigits :=
  match fuel with
  | 0 => number
  | fuel + 1 =>
      if number.digits != 0 && number.digits % 10 == 0 then
        DecimalDigits.stripZeros fuel ⟨number.digits / 10, number.exponent + 1⟩
      else number

/-- The shortest decimal number that reads back as `mantissa * 2 ^ exponent`, for a positive
mantissa. -/
def shortestDigits (mantissa : Nat) (exponent : Int) : DecimalDigits :=
  let interval := RoundingInterval.around mantissa exponent
  let start := leadingPower interval.value interval.denominator + 1
  ((interval.firstHit start 22).getD ⟨mantissa, exponent⟩).stripZeros 400

end MemberDispatch
