import MemberDispatch.Number.FloatText

/-!
# Texts of fractions

A fraction is written as a whole number, as a numerator over a denominator, or as a decimal number
with or without an exponent. Underscores may stand singly between digits.
-/

namespace MemberDispatch

/-- Why a text is no fraction. -/
inductive FractionTextIssue
  | malformed
  | zeroDenominator (numerator : Int)
  deriving DecidableEq, Repr

def readFraction (text : String) : Except FractionTextIssue Rat :=
  let characters := NumberText.withoutUnderscores false (NumberText.trimmed (Text.trim text))
  let (negative, rest) := NumberText.splitSign (characters.getD [])
  let signed (number : Nat) : Int := if negative then -(number : Int) else number
  let (whole, behind) := NumberText.splitDigits rest
  match behind with
  | '/' :: denominator =>
      let (digits, behind) := NumberText.splitDigits denominator
      if whole.isEmpty || digits.isEmpty || !behind.isEmpty then .error .malformed
      else
        let numerator := signed (NumberText.digitsValue whole)
        let divisor := NumberText.digitsValue digits
        if divisor == 0 then .error (.zeroDenominator numerator) else .ok (mkRat numerator divisor)
  | _ => match NumberText.readDecimal rest with
    | none => .error .malformed
    | some (digits, exponent) =>
        if exponent < 0 then .ok (mkRat (signed digits) (tenTo exponent.natAbs))
        else .ok (signed (digits * tenTo exponent.natAbs) : Int)

end MemberDispatch
