import MemberDispatch.Number.Shortest
import MemberDispatch.Text.Blank
import MemberDispatch.Text.Letter

/-!
# Floating-point numbers as text

A floating-point number shows its shortest digits, positionally when its leading digit stands for
a power of ten from -4 to 15 and with an exponent of at least two digits otherwise. Reading takes
decimal digits of any script, single underscores between digits and the names of infinity and of
the number that is not a number.
-/

namespace MemberDispatch

/-- How floating-point numbers show. -/
structure FloatLayout where
  /-- The least exponent of the leading digit that is written positionally. -/
  leastPositional : Int
  /-- The least exponent of the leading digit that is not written positionally any more. -/
  positionalEnd : Int
  /-- The least number of digits of an exponent. -/
  exponentWidth : Nat

/-- Numbers from 0.0001 to below 10 ^ 16 are positional and exponents have two digits or more. -/
def FloatLayout.standard : FloatLayout := ⟨-4, 16, 2⟩

def zeros (count : Nat) : List Char := List.replicate count '0'

/-- A positive decimal number in a layout, with a point in positional notation. -/
def DecimalDigits.show (layout : FloatLayout) (number : DecimalDigits) : String :=
  let digits := (toString number.digits).toList
  let leading := number.exponent + digits.length - 1
  String.ofList <|
    if layout.leastPositional ≤ leading && leading < layout.positionalEnd then
      if number.exponent ≥ 0 then digits ++ zeros number.exponent.toNat ++ ['.', '0']
      else if leading ≥ 0 then
        digits.take (leading.toNat + 1) ++ '.' :: digits.drop (leading.toNat + 1)
      else ['0', '.'] ++ zeros (leading.natAbs - 1) ++ digits
    else
      let fraction := if digits.length ≤ 1 then [] else '.' :: digits.drop 1
      let power := (toString leading.natAbs).toList
      digits.take 1 ++ fraction ++ ['e', if leading < 0 then '-' else '+'] ++
        zeros (layout.exponentWidth - power.length) ++ power

/-- The shortest text that reads back as the floating-point number. -/
def showFloat (number : Float) : String :=
  match Binary64.ofFloat number with
  | .nan => "nan"
  | .infinite negative => if negative then "-inf" else "inf"
  | .finite negative mantissa exponent =>
      let magnitude :=
        if mantissa == 0 then "0.0"
        else (shortestDigits mantissa exponent).show FloatLayout.standard
      if negative then "-" ++ magnitude else magnitude

/-- A complex number; a real part that is a positive zero is left out. -/
def showComplex (real imaginary : Float) : String :=
  let brief (number : Float) : String :=
    let text := showFloat number
    if text.endsWith ".0" then (text.dropEnd 2).toString else text
  let signed := if imaginary >= 0.0 || imaginary != imaginary then "+" else ""
  if real == 0.0 && !(Binary64.ofFloat real).isNegative then brief imaginary ++ "j"
  else "(" ++ brief real ++ signed ++ brief imaginary ++ "j)"

/-- The floating-point number nearest to `digits * 10 ^ exponent`; one too large is infinite. -/
def floatOfDecimal (negative : Bool) (digits : Nat) (exponent : Int) : Float :=
  let leading := exponent + digitCount digits
  if digits == 0 then (if negative then -0.0 else 0.0)
  else if leading > 400 then Binary64.signedInfinity negative
  else if leading < -400 then (if negative then -0.0 else 0.0)
  else
    let (numerator, denominator) := RoundingInterval.decimalRatio digits exponent
    (Binary64.nearest? negative numerator denominator).getD (Binary64.signedInfinity negative)

namespace NumberText

/-- The value of a digit of a number's text in plain ASCII. -/
def asciiDigit? (character : Char) : Option Nat :=
  if '0' ≤ character && character ≤ '9' then some (character.toNat - 48) else none

/-- The text with digits of every script and white space beyond ASCII made plain, cut after the
first character beyond ASCII that is neither. -/
def plain : List Char → List Char
  | [] => []
  | character :: rest =>
      if character.toNat < 0x80 then character :: plain rest
      else if Text.isBlank character then ' ' :: plain rest
      else match Text.digitValue? character with
        | some digit => Char.ofNat (48 + digit) :: plain rest
        | none => ['?']

/-- Whether a number's text may be padded with the character. -/
def isPadding (character : Char) : Bool :=
  character == ' ' || (0x9 ≤ character.toNat && character.toNat ≤ 0xd)

/-- The plain text of a number without padding. -/
def trimmed (text : String) : List Char :=
  Text.trimEnd isPadding (Text.trimStart isPadding (plain text.toList))

/-- Removes underscores that stand singly between two digits; any other one spoils the text. -/
def withoutUnderscores (afterDigit : Bool) : List Char → Option (List Char)
  | [] => some []
  | ['_'] => none
  | '_' :: next :: rest =>
      if afterDigit && (asciiDigit? next).isSome then
        (withoutUnderscores true rest).map (next :: ·)
      else none
  | character :: rest =>
      (withoutUnderscores (asciiDigit? character).isSome rest).map (character :: ·)

def splitSign : List Char → Bool × List Char
  | '-' :: rest => (true, rest)
  | '+' :: rest => (false, rest)
  | rest => (false, rest)

def digitsValue (digits : List Char) : Nat :=
  digits.foldl (fun value digit => value * 10 + (digit.toNat - 48)) 0

def splitDigits (characters : List Char) : List Char × List Char :=
  (characters.takeWhile fun character => (asciiDigit? character).isSome,
    characters.dropWhile fun character => (asciiDigit? character).isSome)

def readExponent : List Char → Option Int
  | [] => some 0
  | mark :: rest =>
      if mark == 'e' || mark == 'E' then
        let (negative, digits) := splitSign rest
        let (digits, rest) := splitDigits digits
        if digits.isEmpty || !rest.isEmpty then none
        else some (if negative then -(digitsValue digits : Int) else digitsValue digits)
      else none

/-- A decimal number without sign: its digits and exponent. -/
def readDecimal (characters : List Char) : Option (Nat × Int) :=
  let (whole, rest) := splitDigits characters
  let (fraction, rest) := match rest with
    | '.' :: rest => splitDigits rest
    | rest => ([], rest)
  if whole.isEmpty && fraction.isEmpty then none
  else (readExponent rest).map fun exponent =>
    (digitsValue (whole ++ fraction), exponent - fraction.length)

end NumberText

/-- The floating-point number that a text stands for. -/
def readFloat? (text : String) : Option Float := do
  let characters ← NumberText.withoutUnderscores false (NumberText.trimmed text)
  let (negative, rest) := NumberText.splitSign characters
  let name := String.ofList (rest.map Char.toLower)
  if name == "inf" || name == "infinity" then return Binary64.signedInfinity negative
  if name == "nan" then return Binary64.notANumber
  let (digits, exponent) ← NumberText.readDecimal rest
  return floatOfDecimal negative digits exponent

end MemberDispatch
