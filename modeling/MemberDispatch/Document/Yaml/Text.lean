import MemberDispatch.Document.Yaml.Place
import MemberDispatch.Number.IntegerText

/-!
# Scalars of YAML

Reading scalars with and without quotes. Both may go on in further lines: one end of line in between
counts as a space, and of several all but one are kept.
-/

namespace MemberDispatch

namespace Yaml

/-- What ends of lines between two parts of a scalar stand for. -/
def fold (count : Nat) : String :=
  if count == 1 then " " else String.ofList (List.replicate (count - 1) '\n')

/-- Skips ends of lines and the blanks behind them, as far as no mark between documents comes. -/
def skipLines (isBlank : Char → Bool) : Nat → Place → Nat → Nat × Place
  | 0, place, count => (count, place)
  | fuel + 1, place, count =>
      if place.startsWith '\n' then
        let place := place.next
        if place.atDocumentMark then (count + 1, place)
        else
          let blanks := (place.characters.takeWhile isBlank).length
          skipLines isBlank fuel (place.advance blanks) (count + 1)
      else (count, place)

/-! ## Scalars without quotes -/

/-- Whether a character structures flow collections. -/
def isFlowMark (character : Char) : Bool :=
  character == ',' || character == '[' || character == ']' || character == '\x7b' ||
    character == '\x7d'

/-- Whether characters that follow a colon make it the mark of a value. -/
def colonCounts (inFlow : Bool) (behind : List Char) : Bool :=
  Place.endsWord behind || (inFlow && (behind.head?.map isFlowMark).getD false)

/-- How many characters of a scalar without quotes come up to the next blank. -/
def wordLength (inFlow : Bool) : List Char → Nat
  | [] => 0
  | character :: rest =>
      if character == ' ' || character == '\t' || character == '\n' then 0
      else if character == ':' && colonCounts inFlow rest then 0
      else if inFlow && (character == '?' || isFlowMark character) then 0
      else wordLength inFlow rest + 1

/-- What stands between two words of a scalar without quotes, and the place of the second one. -/
def plainGap? (place : Place) : Option (String × Place) :=
  let spaces := place.characters.takeWhile (· == ' ')
  let behind := place.advance spaces.length
  if behind.startsWith '\n' then
    let (count, behind) := skipLines (· == ' ') (behind.characters.length + 1) behind 0
    if behind.atDocumentMark then none else some (fold count, behind)
  else if spaces.isEmpty then none
  else some (String.ofList spaces, behind)

/-- Reads the words of a scalar without quotes. Further lines of it start at the margin or to the
right of it. -/
def readWords (inFlow : Bool) (margin : Nat) : Nat → String → Place → String × Place
  | 0, read, place => (read, place)
  | fuel + 1, read, place =>
      let length := wordLength inFlow place.characters
      let read := read ++ String.ofList (place.characters.take length)
      let behind := place.advance length
      match plainGap? behind with
      | none => (read, behind)
      | some (gap, second) =>
          let ends := second.startsWith '#' || (!inFlow && second.column < margin) ||
            wordLength inFlow second.characters == 0
          if ends then (read, second) else readWords inFlow margin fuel (read ++ gap) second

/-- Reads a scalar without quotes. -/
def readPlain (inFlow : Bool) (margin : Nat) (place : Place) : String × Place :=
  readWords inFlow margin (place.characters.length + 1) "" place

/-- Whether a scalar without quotes can start at a place. -/
def startsPlain (inFlow : Bool) (place : Place) : Bool :=
  match place.characters with
  | [] => false
  | character :: rest =>
      let isMark := isFlowMark character ||
        " \t\n-?:#&*!|>'\"%@\x60".toList.contains character
      !isMark || (!Place.endsWord rest &&
        (character == '-' || (!inFlow && (character == '?' || character == ':'))))

/-! ## Scalars with quotes -/

def escaped? : Char → Option Char
  | '0' => some '\x00'
  | 'a' => some '\x07'
  | 'b' => some '\x08'
  | 't' | '\t' => some '\t'
  | 'n' => some '\n'
  | 'v' => some '\x0b'
  | 'f' => some '\x0c'
  | 'r' => some '\r'
  | 'e' => some '\x1b'
  | ' ' => some ' '
  | '"' => some '"'
  | '\\' => some '\\'
  | '/' => some '/'
  | 'N' => some '\u0085'
  | '_' => some '\u00a0'
  | 'L' => some '\u2028'
  | 'P' => some '\u2029'
  | _ => none

/-- How many digits a numeric escape has behind its mark. -/
def escapeDigits? : Char → Option Nat
  | 'x' => some 2
  | 'u' => some 4
  | 'U' => some 8
  | _ => none

def readEscape (start place : Place) : Except Issue (String × Place) :=
  match place.characters with
  | '\n' :: _ =>
      let isBlank (character : Char) : Bool := character == ' ' || character == '\t'
      let (count, behind) := skipLines isBlank (place.characters.length + 1) place 0
      .ok (String.ofList (List.replicate (count - 1) '\n'), behind)
  | mark :: digits => match escaped? mark, escapeDigits? mark with
    | some character, _ => .ok (String.singleton character, place.next)
    | none, some length =>
        let values := (digits.take length).filterMap fun digit =>
          (IntegerText.digit? digit).filter fun value => value < 16
        if values.length == length then
          let point := values.foldl (fun value digit => value * 16 + digit) 0
          .ok (String.singleton (Char.ofNat point), place.advance (length + 1))
        else
          place.next.complainWithin .scanner "while scanning a double-quoted scalar" start
            ("expected escape sequence of " ++ toString length ++
              " hexdecimal numbers, but found " ++
              Text.quoted (String.ofList ((digits.drop values.length).take 1)))
    | none, none =>
        place.complainWithin .scanner "while scanning a double-quoted scalar" start
          ("found unknown escape character " ++ Text.quoted (String.singleton mark))
  | [] =>
      place.complainWithin .scanner "while scanning a double-quoted scalar" start
        "found unknown escape character '\\x00'"

/-- Reads the characters of a scalar up to its closing quote. -/
def readCharacters (quote : Char) (start : Place) : Nat → String → Place →
    Except Issue (String × Place)
  | 0, read, place => .ok (read, place)
  | fuel + 1, read, place =>
      let isBlank (character : Char) : Bool := character == ' ' || character == '\t'
      match place.characters with
      | [] =>
          place.complainWithin .scanner "while scanning a quoted scalar" start
            "found unexpected end of stream"
      | character :: rest =>
          if character == quote then
            -- Between single quotes, a quote is written twice.
            if quote == '\'' && rest.head? == some quote then
              readCharacters quote start fuel (read.push quote) (place.advance 2)
            else .ok (read, place.next)
          else if character == '\\' && quote == '"' then
            match readEscape start place.next with
            | .ok (text, behind) => readCharacters quote start fuel (read ++ text) behind
            | .error issue => .error issue
          else if isBlank character || character == '\n' then
            let blanks := place.characters.takeWhile isBlank
            let behind := place.advance blanks.length
            if behind.startsWith '\n' then
              let (count, behind) := skipLines isBlank (behind.characters.length + 1) behind 0
              if behind.atDocumentMark then
                behind.complainWithin .scanner "while scanning a quoted scalar" start
                  "found unexpected document separator"
              else readCharacters quote start fuel (read ++ fold count) behind
            else readCharacters quote start fuel (read ++ String.ofList blanks) behind
          else readCharacters quote start fuel (read.push character) place.next

/-- Reads a scalar between quotes, from its opening quote on. -/
def readQuoted (quote : Char) (place : Place) : Except Issue (String × Place) :=
  readCharacters quote place (place.characters.length + 1) "" place.next

end Yaml

end MemberDispatch
