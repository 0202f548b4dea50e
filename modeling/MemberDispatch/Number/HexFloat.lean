import MemberDispatch.Number.FloatText
import MemberDispatch.Text.Quoted

/-!
# Floating-point numbers in base sixteen

The exact text of a floating-point number, with thirteen hexadecimal places and a power of two, and
the reading of such texts, which rounds to the nearest number.
-/

namespace MemberDispatch

namespace HexFloat

def write (number : Float) : String :=
  match Binary64.ofFloat number with
  | .nan => "nan"
  | .infinite negative => if negative then "-inf" else "inf"
  | .finite negative mantissa exponent =>
      let sign := if negative then "-" else ""
      if mantissa == 0 then sign ++ "0x0.0p+0"
      else
        let power := exponent + 52
        let places := String.ofList (Text.hexDigits 13 (mantissa % twoTo 52))
        sign ++ "0x" ++ toString (mantissa / twoTo 52) ++ "." ++ places ++ "p" ++
          (if power < 0 then "-" else "+") ++ toString power.natAbs

/-- Why a text is not read. -/
inductive Issue
  | malformed
  | tooLarge
  deriving DecidableEq, Repr

def digit? (character : Char) : Option Nat :=
  let point := character.toNat
  if '0'.toNat ≤ point && point ≤ '9'.toNat then some (point - '0'.toNat)
  else if 'a'.toNat ≤ point && point ≤ 'f'.toNat then some (point - 'a'.toNat + 10)
  else if 'A'.toNat ≤ point && point ≤ 'F'.toNat then some (point - 'A'.toNat + 10)
  else none

/-- The digits that start a text, and what follows them. -/
def takeDigits (characters : List Char) : List Nat × List Char :=
  let isDigit (character : Char) := (digit? character).isSome
  ((characters.takeWhile isDigit).filterMap digit?, characters.dropWhile isDigit)

/-- The power of two at the end of a text. -/
def readPower : List Char → Option Int
  | [] => some 0
  | mark :: rest =>
      if mark == 'p' || mark == 'P' then
        let (negative, digits) := NumberText.splitSign rest
        if !digits.isEmpty && digits.all Char.isDigit then
          let power : Int := NumberText.digitsValue digits
          some (if negative then -power else power)
        else none
      else none

/-- The number under a sign, with the given digits before and after the point and a power of
two. -/
def assemble (negative : Bool) (whole places : List Nat) (power : Int) : Except Issue Float :=
  let value := (whole ++ places).foldl (fun value digit => value * 16 + digit) 0
  let power := power - 4 * places.length
  if value == 0 then .ok (if negative then -0.0 else 0.0)
  else if power + value.log2 > 2000 then .error .tooLarge
  else if power + value.log2 < -2000 then .ok (if negative then -0.0 else 0.0)
  else
    let nearest :=
      if power < 0 then Binary64.nearest? negative value (twoTo power.natAbs)
      else Binary64.nearest? negative (value * twoTo power.natAbs) 1
    match nearest with
    | some number => .ok number
    | none => .error .tooLarge

/-- Reads a number, an infinity or the value that is no number, with white space around it. -/
def read (text : String) : Except Issue Float :=
  let isPadding (character : Char) : Bool :=
    character == ' ' || (0x9 ≤ character.toNat && character.toNat ≤ 0xd)
  let (negative, characters) := NumberText.splitSign
    ((text.toList.dropWhile isPadding).reverse.dropWhile isPadding).reverse
  let word := String.ofList (characters.map Char.toLower)
  if word == "inf" || word == "infinity" then .ok (Binary64.signedInfinity negative)
  else if word == "nan" then .ok Binary64.notANumber
  else
    let characters := match characters with
      | '0' :: mark :: rest => if mark == 'x' || mark == 'X' then rest else '0' :: mark :: rest
      | characters => characters
    let (whole, rest) := takeDigits characters
    let (places, rest) := match rest with
      | '.' :: rest => takeDigits rest
      | rest => ([], rest)
    match readPower rest with
    | none => .error .malformed
    | some power =>
        if whole.isEmpty && places.isEmpty then .error .malformed
        else assemble negative whole places power

end HexFloat

end MemberDispatch
