import MemberDispatch.Number.Integer
import MemberDispatch.Width

/-!
# Functions of whole numbers

Division that truncates and division that floors, shifts, and results held to an exact width. The
unsigned shift works in the narrower of 32 and 64 bits that holds the number.
-/

namespace MemberDispatch

/-- Why a function of whole numbers has no result. -/
inductive IntegerIssue
  | divisionByZero
  | moduloByZero
  | negativeShift
  | outside (width : Width) (number : Int)
  deriving DecidableEq, Repr

namespace IntegerFunctions

/-- A whole number, or the reason why there is none. -/
abbrev Result := Except IntegerIssue Int

/-- The quotient with its fraction dropped. -/
def divide (dividend divisor : Int) : Result :=
  if divisor == 0 then .error .divisionByZero
  else .ok (Integer.truncatedQuotient dividend divisor)

/-- What truncating division leaves. -/
def remainder (dividend divisor : Int) : Result :=
  if divisor == 0 then .error .divisionByZero
  else .ok (Integer.truncatedRemainder dividend divisor)

def floorDivide (dividend divisor : Int) : Result :=
  if divisor == 0 then .error .divisionByZero else .ok (Int.fdiv dividend divisor)

def floorRemainder (dividend divisor : Int) : Result :=
  if divisor == 0 then .error .moduloByZero else .ok (Int.fmod dividend divisor)

/-- The number shifted to the right, its sign kept. -/
def shiftRight (number count : Int) : Result :=
  if count < 0 then .error .negativeShift
  else .ok (Integer.shiftRight number count.toNat)

/-- The number itself, if it has a width. -/
def narrow (width : Width) (number : Int) : Result :=
  if width.holds number then .ok number else .error (.outside width number)

/-- The number shifted to the right as an unsigned one, in the narrower of 32 and 64 bits that holds
it. Only the last bits of the count matter. -/
def shiftRightUnsigned (number count : Int) : Result :=
  let width := if Width.int32.holds number then Width.int32 else Width.int64
  if width.holds number then
    let bits := width.bits.toNat
    let masked := Integer.and number (twoTo bits - 1)
    .ok (Integer.shiftRight masked (Integer.and count (bits - 1)).toNat)
  else .error (.outside width number)

end IntegerFunctions

end MemberDispatch
