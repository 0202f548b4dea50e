import MemberDispatch.Number.Power

/-!
# Whole numbers

Bitwise operations on whole numbers in two's complement without a bound on their length, shifts,
and the two ways of dividing. The truncating quotient is the flooring one, corrected where that is
negative and not exact.
-/

namespace MemberDispatch

namespace Integer

/-- The bits that both numbers have. -/
def and : Int → Int → Int
  | .ofNat left, .ofNat right => .ofNat (left &&& right)
  | .ofNat left, .negSucc right => .ofNat (left ^^^ (left &&& right))
  | .negSucc left, .ofNat right => .ofNat (right ^^^ (right &&& left))
  | .negSucc left, .negSucc right => .negSucc (left ||| right)

/-- The bits that one of the numbers has. -/
def or : Int → Int → Int
  | .ofNat left, .ofNat right => .ofNat (left ||| right)
  | .ofNat left, .negSucc right => .negSucc (right ^^^ (right &&& left))
  | .negSucc left, .ofNat right => .negSucc (left ^^^ (left &&& right))
  | .negSucc left, .negSucc right => .negSucc (left &&& right)

/-- The bits that exactly one of the numbers has. -/
def xor : Int → Int → Int
  | .ofNat left, .ofNat right => .ofNat (left ^^^ right)
  | .ofNat left, .negSucc right => .negSucc (left ^^^ right)
  | .negSucc left, .ofNat right => .negSucc (left ^^^ right)
  | .negSucc left, .negSucc right => .ofNat (left ^^^ right)

/-- The bits that the number does not have. -/
def not (number : Int) : Int :=
  -number - 1

/-- The number times a power of two. -/
def shiftLeft (number : Int) (count : Nat) : Int :=
  number * twoTo count

/-- The floor of the number divided by a power of two. A count beyond the length of the number
leaves only its sign. -/
def shiftRight (number : Int) (count : Nat) : Int :=
  if count > number.natAbs.log2 + 1 then (if number < 0 then -1 else 0)
  else Int.fdiv number (twoTo count)

/-- The quotient with its fraction dropped, for a divisor other than zero. -/
def truncatedQuotient (dividend divisor : Int) : Int :=
  let quotient := Int.fdiv dividend divisor
  if quotient < 0 && quotient * divisor != dividend then quotient + 1 else quotient

/-- The remainder that goes with the truncated quotient. -/
def truncatedRemainder (dividend divisor : Int) : Int :=
  dividend - divisor * truncatedQuotient dividend divisor

/-- One, zero or minus one, by the sign of the number. -/
def sign (number : Int) : Int :=
  (if number > 0 then 1 else 0) - (if number < 0 then 1 else 0)

def bitLength (number : Int) : Nat :=
  if number == 0 then 0 else number.natAbs.log2 + 1

def power (base : Int) (exponent : Nat) : Int :=
  Int.pow base exponent

end Integer

end MemberDispatch
