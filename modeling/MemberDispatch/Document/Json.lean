import MemberDispatch.Document.Basic
import MemberDispatch.Number.IntegerText
import MemberDispatch.Text.Quoted

/-!
# JSON

Reading and writing JSON texts. A reader takes characters from a position on and gives what it read
with the characters that follow and their position; it complains about the first position at which
the text cannot go on. Of several values of one key the last counts.
-/

namespace MemberDispatch

namespace Json

def skipBlanks (rest : Unread) : Unread :=
  rest.dropWhile fun character =>
    character == ' ' || character == '\t' || character == '\n' || character == '\r'

/-- The value of four hexadecimal digits. -/
def hexValue? (digits : List Char) : Option Nat :=
  if digits.length == 4 then
    digits.foldl
      (fun value digit => match value, digit? digit with
        | some value, some digit => if digit < 16 then some (value * 16 + digit) else none
        | _, _ => none)
      (some 0)
  else none
where
  /-- The value of a digit of ASCII. -/
  digit? (character : Char) : Option Nat :=
    if character.toNat < 128 then IntegerText.digit? character else none

def escaped? : Char → Option Char
  | '"' => some '"'
  | '\\' => some '\\'
  | '/' => some '/'
  | 'b' => some '\x08'
  | 'f' => some '\x0c'
  | 'n' => some '\n'
  | 'r' => some '\r'
  | 't' => some '\t'
  | _ => none

/-- The character that follows a numeric escape, and how many characters the escape takes behind
its mark: two escapes can stand for one character. -/
def numericEscape? (characters : List Char) : Option (Char × Nat) :=
  match hexValue? (characters.take 4) with
  | none => none
  | some high =>
      if 0xd800 ≤ high && high < 0xdc00 then
        match characters.drop 4 with
        | '\\' :: 'u' :: rest => match hexValue? (rest.take 4) with
          | some low =>
              if 0xdc00 ≤ low && low < 0xe000 then
                some (Char.ofNat (0x10000 + (high - 0xd800) * 0x400 + (low - 0xdc00)), 10)
              else some (Char.ofNat 0xfffd, 4)
          | none => some (Char.ofNat 0xfffd, 4)
        | _ => some (Char.ofNat 0xfffd, 4)
      else if 0xdc00 ≤ high && high < 0xe000 then some (Char.ofNat 0xfffd, 4)
      else some (Char.ofNat high, 4)

/-- Reads the characters of a text up to its closing quote, the first one standing behind the
opening quote at `start`. -/
def readCharacters (start : Nat) : Nat → Unread → List Char → Reading String
  | 0, _, _ => .error ⟨"Unterminated string starting at", start⟩
  | fuel + 1, rest, read =>
      match rest.characters with
      | [] => .error ⟨"Unterminated string starting at", start⟩
      | '"' :: _ => .ok (String.ofList read.reverse, rest.drop 1)
      | ['\\'] => .error ⟨"Unterminated string starting at", start⟩
      | '\\' :: 'u' :: digits =>
          if digits.length ≤ 4 then .error ⟨"Invalid \\uXXXX escape", rest.position + 1⟩
          else match numericEscape? digits with
            | some (character, taken) =>
                readCharacters start fuel (rest.drop (2 + taken)) (character :: read)
            | none => .error ⟨"Invalid \\uXXXX escape", rest.position + 1⟩
      | '\\' :: mark :: _ => match escaped? mark with
        | some character => readCharacters start fuel (rest.drop 2) (character :: read)
        | none => rest.complain "Invalid \\escape"
      | character :: _ =>
          if character.toNat < 0x20 then rest.complain "Invalid control character at"
          else readCharacters start fuel (rest.drop 1) (character :: read)

/-- Reads a text behind its opening quote. -/
def readText (rest : Unread) : Reading String :=
  readCharacters (rest.position - 1) (rest.characters.length + 1) rest []

/-- The digits of ASCII that come next. -/
def digitsOf (characters : List Char) : List Char :=
  characters.takeWhile Char.isDigit

def wholePart? (characters : List Char) : Option (List Char) :=
  let (sign, behind) := match characters with
    | '-' :: behind => (['-'], behind)
    | behind => ([], behind)
  match behind with
  | '0' :: _ => some (sign ++ ['0'])
  | behind => match digitsOf behind with
    | [] => none
    | digits => some (sign ++ digits)

/-- The places of a number with their point. -/
def placesPart (characters : List Char) : List Char :=
  match characters with
  | '.' :: behind => match digitsOf behind with
    | [] => []
    | digits => '.' :: digits
  | _ => []

def exponentPart (characters : List Char) : List Char :=
  match characters with
  | mark :: behind =>
      if mark == 'e' || mark == 'E' then
        let (sign, behind) := match behind with
          | '-' :: behind => (['-'], behind)
          | '+' :: behind => (['+'], behind)
          | behind => ([], behind)
        match digitsOf behind with
        | [] => []
        | digits => mark :: sign ++ digits
      else []
  | [] => []

def readNumber (rest : Unread) : Reading Document :=
  match wholePart? rest.characters with
  | none => rest.complain "Expecting value"
  | some whole =>
      let behind := rest.characters.drop whole.length
      let places := placesPart behind
      let exponent := exponentPart (behind.drop places.length)
      let length := whole.length + places.length + exponent.length
      if places.isEmpty && exponent.isEmpty then
        match readInteger 10 (String.ofList whole) with
        | .ok number => .ok (.int number, rest.drop length)
        | .error issue => rest.complain issue.message
      else match readFloat? (String.ofList (whole ++ places ++ exponent)) with
        | some number => .ok (.float number, rest.drop length)
        | none => rest.complain "Expecting value"

def words : List (String × Document) :=
  [("null", .none), ("true", .bool true), ("false", .bool false),
    ("NaN", .float Binary64.notANumber), ("Infinity", .float Binary64.infinity),
    ("-Infinity", .float (-Binary64.infinity))]

/-- The word that comes next, with its length. -/
def word? (characters : List Char) : Option (Document × Nat) :=
  (words.find? fun (word, _) => word.toList.isPrefixOf characters).map
    fun (word, value) => (value, word.length)

mutual

/-- Reads a value. Every step takes at least one character, so the length of the text bounds the
number of steps. -/
def readValue : Nat → Unread → Reading Document
  | 0, rest => rest.complain "Expecting value"
  | fuel + 1, rest => match rest.characters with
    | '"' :: _ => (readText (rest.drop 1)).map fun (text, rest) => (.text text, rest)
    | '\x7b' :: _ =>
        let rest := skipBlanks (rest.drop 1)
        if rest.startsWith '\x7d' then .ok (.mapping [], rest.drop 1)
        else (readEntries fuel rest).map fun (entries, rest) => (Document.ofEntries entries, rest)
    | '[' :: _ =>
        let rest := skipBlanks (rest.drop 1)
        if rest.startsWith ']' then .ok (.list [], rest.drop 1)
        else (readItems fuel rest).map fun (items, rest) => (.list items, rest)
    | characters => match word? characters with
      | some (value, length) => .ok (value, rest.drop length)
      | none => readNumber rest

/-- Reads the items of a list up to its closing bracket. -/
def readItems : Nat → Unread → Except ReadIssue (List Document × Unread)
  | 0, rest => rest.complain "Expecting value"
  | fuel + 1, rest => do
      let (item, rest) ← readValue fuel rest
      let rest := skipBlanks rest
      if rest.startsWith ']' then return ([item], rest.drop 1)
      else if rest.startsWith ',' then
        let (items, rest) ← readItems fuel (skipBlanks (rest.drop 1))
        return (item :: items, rest)
      else rest.complain "Expecting ',' delimiter"

/-- Reads the entries of a mapping up to its closing brace. -/
def readEntries : Nat → Unread → Except ReadIssue (List (Document × Document) × Unread)
  | 0, rest => rest.complain "Expecting value"
  | fuel + 1, rest => do
      if !rest.startsWith '"' then
        rest.complain "Expecting property name enclosed in double quotes"
      else
        let (key, rest) ← readText (rest.drop 1)
        let rest := skipBlanks rest
        if !rest.startsWith ':' then rest.complain "Expecting ':' delimiter"
        else
          let (value, rest) ← readValue fuel (skipBlanks (rest.drop 1))
          let rest := skipBlanks rest
          if rest.startsWith '\x7d' then return ([(.text key, value)], rest.drop 1)
          else if rest.startsWith ',' then
            let (entries, rest) ← readEntries fuel (skipBlanks (rest.drop 1))
            return ((.text key, value) :: entries, rest)
          else rest.complain "Expecting ',' delimiter"

end

def read (text : String) : Except ReadIssue Document := do
  let characters := text.toList
  if characters.head? == some (Char.ofNat 0xfeff) then
    throw ⟨"Unexpected UTF-8 BOM (decode using utf-8-sig)", 0⟩
  let (value, rest) ← readValue (2 * characters.length + 2) (skipBlanks (Unread.ofText text))
  let rest := skipBlanks rest
  if rest.characters.isEmpty then return value
  else throw ⟨"Extra data", rest.position⟩

/-- The wording of a complaint about a text. -/
def issueText (text : String) (issue : ReadIssue) : String :=
  let (line, column) := lineAndColumn text.toList issue.position
  issue.reason ++ ": line " ++ toString line ++ " column " ++ toString column ++ " (char " ++
    toString issue.position ++ ")"

/-- A numeric escape of one character, or of two for a character beyond the first plane. -/
def writeEscape (character : Char) : List Char :=
  let unit (point : Nat) := '\\' :: 'u' :: Text.hexDigits 4 point
  let point := character.toNat
  if point < 0x10000 then unit point
  else unit (0xd800 + (point - 0x10000) / 0x400) ++ unit (0xdc00 + (point - 0x10000) % 0x400)

/-- How a character shows in a text. -/
def writeCharacter (character : Char) : List Char :=
  if character == '"' || character == '\\' then ['\\', character]
  else if character == '\n' then ['\\', 'n']
  else if character == '\r' then ['\\', 'r']
  else if character == '\t' then ['\\', 't']
  else if character == '\x08' then ['\\', 'b']
  else if character == '\x0c' then ['\\', 'f']
  else if 0x20 ≤ character.toNat && character.toNat < 0x7f then [character]
  else writeEscape character

def writeText (text : String) : String :=
  "\"" ++ String.ofList (text.toList.flatMap writeCharacter) ++ "\""

mutual

/-- The JSON text of a value, in ASCII. -/
def write : Document → String
  | .none => "null"
  | .bool value => if value then "true" else "false"
  | .int value => toString value
  | .float value => showFloat value
  | .text value => writeText value
  | .list items => "[" ++ ", ".intercalate (writeAll items) ++ "]"
  | .mapping entries => "\x7b" ++ ", ".intercalate (writeEntries entries) ++ "\x7d"

def writeAll : List Document → List String
  | [] => []
  | item :: items => write item :: writeAll items

def writeEntries : List (Document × Document) → List String
  | [] => []
  | (.text key, value) :: entries => (writeText key ++ ": " ++ write value) :: writeEntries entries
  | (key, value) :: entries =>
      (writeText (write key) ++ ": " ++ write value) :: writeEntries entries

end

end Json

end MemberDispatch
