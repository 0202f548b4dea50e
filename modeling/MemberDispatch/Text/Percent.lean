import MemberDispatch.Text.Quoted

/-!
# Templates with percent signs

A template holds places that start with a percent sign: flags, a width, a precision and a letter
for the kind of what is put there, which may be named in parentheses. `Percent.parse` splits a
template into its pieces.
-/

namespace MemberDispatch.Percent

/-- A width or a precision: given, or taken from the next argument. -/
inductive Amount
  | none
  | given (number : Nat)
  | argument
  deriving DecidableEq, Repr

/-- A place in a template. -/
structure Place where
  name : Option String := Option.none
  leftAligned : Bool := false
  signed : Bool := false
  spaced : Bool := false
  alternate : Bool := false
  zeroPadded : Bool := false
  width : Amount := .none
  precision : Amount := .none
  kind : Char
  /-- The position of the letter in the template. -/
  position : Nat
  deriving Repr

/-- A piece of a template. -/
inductive Piece
  | literal (text : List Char)
  | place (place : Place)

/-- What is wrong with a template. -/
inductive Issue
  | incomplete
  | incompleteKey
  deriving DecidableEq, Repr

def Issue.message : Issue → String
  | .incomplete => "incomplete format"
  | .incompleteKey => "incomplete format key"

/-- The characters up to the parenthesis that closes the first one, and what follows it. -/
def splitKey (depth : Nat) (key : List Char) : List Char → Option (List Char × List Char)
  | [] => Option.none
  | ')' :: rest =>
      match depth with
      | 0 => some (key.reverse, rest)
      | depth + 1 => splitKey depth (')' :: key) rest
  | '(' :: rest => splitKey (depth + 1) ('(' :: key) rest
  | character :: rest => splitKey depth (character :: key) rest

def takeFlags (place : Place) : List Char → Place × List Char
  | '-' :: rest => takeFlags { place with leftAligned := true } rest
  | '+' :: rest => takeFlags { place with signed := true } rest
  | ' ' :: rest => takeFlags { place with spaced := true } rest
  | '#' :: rest => takeFlags { place with alternate := true } rest
  | '0' :: rest => takeFlags { place with zeroPadded := true } rest
  | rest => (place, rest)

def takeAmount : List Char → Amount × List Char
  | '*' :: rest => (.argument, rest)
  | characters =>
      let digits := characters.takeWhile Char.isDigit
      if digits.isEmpty then (.none, characters)
      else
        (.given (digits.foldl (fun value digit => value * 10 + (digit.toNat - 48)) 0),
          characters.dropWhile Char.isDigit)

/-- Reads what follows a percent sign, and gives the place and the rest. `length` is that of the
whole template. -/
def readPlace (length : Nat) (characters : List Char) : Except Issue (Place × List Char) := do
  let (name, characters) ← match characters with
    | '(' :: rest => match splitKey 0 [] rest with
      | some (key, rest) => pure (some (String.ofList key), rest)
      | Option.none => throw Issue.incompleteKey
    | rest => pure (Option.none, rest)
  let (place, characters) := takeFlags { name, kind := 's', position := 0 } characters
  let (width, characters) := takeAmount characters
  let (precision, characters) := match characters with
    | '.' :: rest => match takeAmount rest with
      | (.none, rest) => (Amount.given 0, rest)
      | other => other
    | rest => (.none, rest)
  let characters := match characters with
    | modifier :: rest => if modifier == 'l' || modifier == 'h' || modifier == 'L' then rest else characters
    | [] => []
  match characters with
  | [] => throw .incomplete
  | kind :: rest =>
      return ({ place with width, precision, kind, position := length - characters.length }, rest)

/-- Splits a template into its pieces. Every piece takes at least one character, so the length
bounds the steps. -/
def parseWithin (length : Nat) : Nat → List Char → Except Issue (List Piece)
  | 0, _ => .ok []
  | _, [] => .ok []
  | steps + 1, '%' :: rest => do
      let (place, rest) ← readPlace length rest
      let pieces ← parseWithin length steps rest
      return .place place :: pieces
  | steps + 1, characters => do
      let text := characters.takeWhile (· != '%')
      let pieces ← parseWithin length steps (characters.dropWhile (· != '%'))
      return .literal text :: pieces

/-- Splits a template into its pieces. -/
def parse (template : String) : Except Issue (List Piece) :=
  parseWithin template.length (template.length + 1) template.toList

/-- Pads a text to the width of a place. -/
def pad (place : Place) (width : Nat) (text : List Char) : List Char :=
  let blanks := List.replicate (width - text.length) ' '
  if place.leftAligned then text ++ blanks else blanks ++ text

/-- Pads the digits of a number, behind its sign, to the width of a place. -/
def padNumber (place : Place) (width : Nat) (sign digits : List Char) : List Char :=
  if place.zeroPadded && !place.leftAligned then
    sign ++ List.replicate (width - sign.length - digits.length) '0' ++ digits
  else pad place width (sign ++ digits)

def signOf (place : Place) (negative : Bool) : List Char :=
  if negative then ['-'] else if place.signed then ['+'] else if place.spaced then [' '] else []

def digitsIn (base number : Nat) : List Char :=
  Nat.toDigits base number

end MemberDispatch.Percent
