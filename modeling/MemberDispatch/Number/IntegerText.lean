import MemberDispatch.Number.FloatText
import MemberDispatch.Text.Quoted

/-!
# Whole numbers as text

Writing a whole number in decimal and reading one in any base from 2 to 36. Both refuse more than
4300 decimal digits, since the work grows with the square of the length.
-/

namespace MemberDispatch

/-- The most decimal digits that are read or written. -/
def digitLimit : Nat := 4300

/-- What stops a whole number from being read or written. -/
inductive IntegerTextIssue
  | malformed (base : Nat) (text : String)
  | badBase
  | tooLongToRead (digits : Nat)
  | tooLongToWrite
  deriving DecidableEq, Repr

/-- The wording of an issue; a malformed text is quoted in at most 200 characters. -/
def IntegerTextIssue.message : IntegerTextIssue → String
  | .malformed base text =>
      s!"invalid literal for int() with base {base}: " ++
        String.ofList ((Text.quoted text).toList.take 200)
  | .badBase => "int() base must be >= 2 and <= 36, or 0"
  | .tooLongToRead digits =>
      "Exceeds the limit (4300 digits) for integer string conversion: value has " ++
        toString digits ++ " digits; use sys.set_int_max_str_digits() to increase the limit"
  | .tooLongToWrite =>
      "Exceeds the limit (4300 digits) for integer string conversion; " ++
        "use sys.set_int_max_str_digits() to increase the limit"

/-- A whole number in decimal. -/
def writeInteger (number : Int) : Except IntegerTextIssue String :=
  if digitCount number.natAbs > digitLimit then .error .tooLongToWrite
  else .ok (toString number)

namespace IntegerText

/-- The value of a letter or digit as a digit below 36. -/
def digit? (character : Char) : Option Nat :=
  if '0' ≤ character && character ≤ '9' then some (character.toNat - 48)
  else if 'a' ≤ character && character ≤ 'z' then some (character.toNat - 87)
  else if 'A' ≤ character && character ≤ 'Z' then some (character.toNat - 55)
  else none

/-- The digits of a number in a base, with single underscores between them. -/
def digits (base : Nat) : List Char → Option (List Nat)
  | [] => none
  | [character] => (below character).map fun digit => [digit]
  | character :: '_' :: rest => do
      let digit ← below character
      let others ← digits base rest
      return digit :: others
  | character :: rest => do
      let digit ← below character
      let others ← digits base rest
      return digit :: others
where
  /-- The value of a digit of the base. -/
  below (character : Char) : Option Nat :=
    (digit? character).filter fun digit => digit < base

/-- The base that a mark such as `0x` announces. -/
def announced? : List Char → Option Nat
  | '0' :: mark :: _ =>
      if mark == 'x' || mark == 'X' then some 16
      else if mark == 'o' || mark == 'O' then some 8
      else if mark == 'b' || mark == 'B' then some 2
      else none
  | _ => none

/-- The base that a text is to be read in, with what is left after the mark of that base. One
underscore may follow a mark. Without a mark, base 0 stands for decimal. -/
def splitBase (base : Nat) (characters : List Char) : Nat × List Char :=
  let afterMark := match characters.drop 2 with
    | '_' :: rest => rest
    | rest => rest
  match announced? characters with
  | some marked => if base == 0 || base == marked then (marked, afterMark) else (base, characters)
  | none => (if base == 0 then 10 else base, characters)

/-- The number of digits in the run of digits and underscores that starts a text. -/
def runLength (base : Nat) (characters : List Char) : Nat :=
  let isDigit (character : Char) := (digits.below base character).isSome
  ((characters.takeWhile fun character => character == '_' || isDigit character).filter
    isDigit).length

/-- Whether a base is a power of two, whose digits are read without limit. -/
def isBinaryBase (base : Nat) : Bool :=
  base == 2 || base == 4 || base == 8 || base == 16 || base == 32

end IntegerText

/-- Reads a whole number in a base from 2 to 36, or in the base its text announces where the base
is 0. -/
def readInteger (base : Int) (text : String) : Except IntegerTextIssue Int :=
  if base < 0 || base == 1 || base > 36 then .error .badBase
  else
    let asked := base.toNat
    let (negative, characters) := NumberText.splitSign (NumberText.trimmed text)
    let (base, rest) := IntegerText.splitBase asked characters
    let length := IntegerText.runLength base rest
    if !IntegerText.isBinaryBase base && length > digitLimit then
      .error (.tooLongToRead length)
    else match IntegerText.digits base rest with
      | none => .error (.malformed asked text)
      | some digits =>
          let value := digits.foldl (fun value digit => value * base + digit) 0
          if asked == 0 && (IntegerText.announced? characters).isNone &&
              digits.head? == some 0 && value != 0 then
            .error (.malformed asked text)
          else .ok (if negative then -(value : Int) else value)

end MemberDispatch
