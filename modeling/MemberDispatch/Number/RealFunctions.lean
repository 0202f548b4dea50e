import MemberDispatch.Number.Binary64

/-!
# Functions of floating-point numbers

Powers, roots and logarithms with the cases in which they have no value or one that is too large.
Floor and ceiling of division follow the sign of the divisor.
-/

namespace MemberDispatch

/-- Why a function of floating-point numbers has no result. -/
inductive RealIssue
  | domain
  | range
  | notANumberToInteger
  | infinityToInteger
  deriving DecidableEq, Repr

namespace RealFunctions

def isNaN (number : Float) : Bool :=
  number != number

def isInfinite (number : Float) : Bool :=
  !isNaN number && isNaN (number - number)

/-- Whether a number is neither infinite nor no number. -/
def isFinite (number : Float) : Bool :=
  !isNaN (number - number)

/-- The magnitude of the first number under the sign of the second. -/
def copySign (magnitude sign : Float) : Float :=
  let positive := Float.abs magnitude
  if (Binary64.ofFloat sign).isNegative then -positive else positive

/-- The result, refused where finite arguments gave no finite result. -/
def checked (result : Float) (finiteArguments : Bool) : Except RealIssue Float :=
  if isNaN result && finiteArguments then .error .domain
  else if isInfinite result && finiteArguments then .error .range
  else .ok result

def isOdd (number : Float) : Bool :=
  match (Binary64.ofFloat number).whole? with
  | some whole => whole % 2 == 1
  | none => false

def pow (base exponent : Float) : Except RealIssue Float :=
  if isFinite base && isFinite exponent then
    let result := Float.pow base exponent
    if isNaN result then .error .domain
    else if isInfinite result then .error (if base == 0.0 then .domain else .range)
    else .ok result
  else .ok (Float.pow base exponent)

/-- The square root of a number that is not negative. -/
def sqrt (number : Float) : Except RealIssue Float :=
  let root := Float.sqrt number
  if isNaN root && !isNaN number then .error .domain else .ok root

def exp (number : Float) : Except RealIssue Float :=
  checked (Float.exp number) (isFinite number)

/-- A logarithm by the given function, for positive numbers. -/
def logarithm (function : Float → Float) (number : Float) : Except RealIssue Float :=
  if isFinite number then
    if number > 0.0 then .ok (function number) else .error .domain
  else if isNaN number || number > 0.0 then .ok number
  else .error .domain

/-- The remainder of truncated division. -/
def fmod (dividend divisor : Float) : Except RealIssue Float :=
  if isNaN dividend || isNaN divisor then .ok Binary64.notANumber
  else if isInfinite dividend || divisor == 0.0 then .error .domain
  else if isInfinite divisor then .ok dividend
  else match (Binary64.ofFloat dividend).remainder? (Binary64.ofFloat divisor) with
    | some rest => .ok rest
    | none => .error .domain

/-- The whole number that a rounding of a finite number gives. -/
def toInteger (rounding : Binary64 → Option Int) (number : Float) : Except RealIssue Int :=
  match rounding (Binary64.ofFloat number) with
  | some whole => .ok whole
  | none => .error (if isNaN number then .notANumberToInteger else .infinityToInteger)

/-- The length of the hypotenuse, rounded from its exact square. -/
def hypot (first second : Float) : Except RealIssue Float :=
  if isInfinite first || isInfinite second then .ok Binary64.infinity
  else if isNaN first || isNaN second then .ok Binary64.notANumber
  else match Binary64.ofFloat first, Binary64.ofFloat second with
    | .finite _ left leftExponent, .finite _ right rightExponent =>
        let exponent := min leftExponent rightExponent
        let aligned (mantissa : Nat) (power : Int) := mantissa * twoTo (power - exponent).toNat
        let first := aligned left leftExponent
        let second := aligned right rightExponent
        let square := first * first + second * second
        if square == 0 then .ok 0.0
        else
          let extra := 130 - min 128 (square.log2 / 2)
          let root := squareRoot (square * twoTo (2 * extra))
          let sticky := if root * root == square * twoTo (2 * extra) then 2 * root else 2 * root + 1
          let power := exponent - extra - 1
          let rounded :=
            if power < 0 then Binary64.nearest? false sticky (twoTo power.natAbs)
            else Binary64.nearest? false (sticky * twoTo power.natAbs) 1
          match rounded with
          | some result => .ok result
          | none => .error .range
    | _, _ => .error .domain
where
  /-- Newton's iteration from above. -/
  descend (number : Nat) : Nat → Nat → Nat
    | 0, guess => guess
    | fuel + 1, guess =>
        let next := (guess + number / guess) / 2
        if next < guess then descend number fuel next else guess
  /-- The floor of the square root. -/
  squareRoot (number : Nat) : Nat :=
    if number == 0 then 0 else descend number (number.log2 + 8) (twoTo (number.log2 / 2 + 1))

/-- The remainder of flooring division by a number other than zero; it has the sign of the
divisor. -/
def floorMod (dividend divisor : Float) : Float :=
  match fmod dividend divisor with
  | .error _ => Binary64.notANumber
  | .ok rest =>
      if rest != 0.0 then
        if (divisor < 0.0) != (rest < 0.0) then rest + divisor else rest
      else copySign 0.0 divisor

/-- The floor of the quotient by a number other than zero. -/
def floorDiv (dividend divisor : Float) : Float :=
  match fmod dividend divisor with
  | .error _ => Binary64.notANumber
  | .ok rest =>
      let quotient := (dividend - rest) / divisor
      let quotient := if rest != 0.0 && (divisor < 0.0) != (rest < 0.0) then quotient - 1.0 else quotient
      if quotient != 0.0 then
        let floor := Float.floor quotient
        if quotient - floor > 0.5 then floor + 1.0 else floor
      else copySign 0.0 (dividend / divisor)

end RealFunctions

end MemberDispatch
