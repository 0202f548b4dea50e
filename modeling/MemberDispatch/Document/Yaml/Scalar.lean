import MemberDispatch.Document.Basic
import MemberDispatch.Number.IntegerText

/-!
# Plain scalars of YAML

What a scalar without quotes stands for: nothing, a truth value, a number or, if it looks like none of
these, a text.
-/

namespace MemberDispatch

namespace Yaml

def noneWords : List String := ["", "~", "null", "Null", "NULL"]

def trueWords : List String :=
  ["yes", "Yes", "YES", "true", "True", "TRUE", "on", "On", "ON"]

def falseWords : List String :=
  ["no", "No", "NO", "false", "False", "FALSE", "off", "Off", "OFF"]

/-- The spellings of infinity without its sign. -/
def infinityWords : List String := [".inf", ".Inf", ".INF"]

def notANumberWords : List String := [".nan", ".NaN", ".NAN"]

def splitSign : List Char → Bool × List Char
  | '-' :: rest => (true, rest)
  | '+' :: rest => (false, rest)
  | rest => (false, rest)

/-- Digits of a base without the underscores among them, if nothing else stands there. -/
def digitsIn? (base : Nat) (characters : List Char) : Option (List Nat) :=
  let digits := characters.filter (· != '_')
  let values := digits.filterMap fun digit =>
    (IntegerText.digit? digit).filter fun value => value < base
  if characters.isEmpty || values.length != digits.length then none else some values

def ofDigits (base : Nat) (digits : List Nat) : Nat :=
  digits.foldl (fun value digit => value * base + digit) 0

/-- The whole number that characters without a sign stand for: in binary or hexadecimal behind a mark,
in octal behind a zero, and in decimal otherwise. -/
def natural? : List Char → Option Nat
  | ['0'] => some 0
  | '0' :: 'b' :: rest => (digitsIn? 2 rest).map (ofDigits 2)
  | '0' :: 'x' :: rest => (digitsIn? 16 rest).map (ofDigits 16)
  | '0' :: rest => (digitsIn? 8 rest).map (ofDigits 8)
  | first :: rest =>
      if first.isDigit then (digitsIn? 10 (first :: rest)).map (ofDigits 10) else none
  | [] => none

/-- Whether characters are the exponent of a number with its mark and its sign. -/
def isExponent : List Char → Bool
  | [] => true
  | mark :: sign :: digits =>
      (mark == 'e' || mark == 'E') && (sign == '-' || sign == '+') && !digits.isEmpty &&
        digits.all Char.isDigit
  | _ => false

/-- Whether characters without a sign are a number with a point. -/
def isPointed (characters : List Char) : Bool :=
  let isPart (character : Char) : Bool := character.isDigit || character == '_'
  let whole := characters.takeWhile isPart
  match characters.drop whole.length with
  | '.' :: places =>
      let startsWithDigit := match whole, places with
        | first :: _, _ => first.isDigit
        | [], first :: _ => first.isDigit
        | [], [] => false
      startsWithDigit && isExponent (places.dropWhile isPart)
  | _ => false

/-- What a plain scalar stands for. -/
def resolve (text : String) : Document :=
  if noneWords.contains text then .none
  else if trueWords.contains text then .bool true
  else if falseWords.contains text then .bool false
  else if notANumberWords.contains text then .float Binary64.notANumber
  else
    let (negative, magnitude) := splitSign text.toList
    if infinityWords.contains (String.ofList magnitude) then
      .float (if negative then -Binary64.infinity else Binary64.infinity)
    else match natural? magnitude with
    | some number => .int (if negative then -(number : Int) else number)
    | none =>
        if isPointed magnitude then
          match readFloat? (String.ofList (magnitude.filter (· != '_'))) with
          | some number => .float (if negative then -number else number)
          | none => .text text
        else .text text

end Yaml

end MemberDispatch
