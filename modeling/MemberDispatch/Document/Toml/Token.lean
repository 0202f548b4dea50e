import MemberDispatch.Document.Basic
import MemberDispatch.Number.IntegerText
import MemberDispatch.Text.Quoted

/-!
# Keys, texts and numbers of TOML

The parts of a TOML document that hold no other parts. Blanks are spaces and tabs; a control character
other than a tab stands nowhere, and an end of line only in texts of several lines.
-/

namespace MemberDispatch

namespace Toml

def skipBlanks (rest : Unread) : Unread :=
  rest.dropWhile fun character => character == ' ' || character == '\t'

/-- What follows the blanks and the ends of lines. -/
def skipBlankLines (rest : Unread) : Unread :=
  rest.dropWhile fun character => character == ' ' || character == '\t' || character == '\n'

/-- Whether a character must not stand in a text or comment, which may have several lines. -/
def isForbidden (severalLines : Bool) (character : Char) : Bool :=
  (character.toNat < 0x20 || character.toNat == 0x7f) && character != '\t' &&
    !(severalLines && character == '\n')

/-- The characters in front of a mark, if the mark is there. -/
def before? (mark : List Char) : List Char → Option (List Char)
  | [] => none
  | character :: rest =>
      if mark.isPrefixOf (character :: rest) then some []
      else (before? mark rest).map (character :: ·)

/-- Refuses forbidden characters among those that are to be read next. -/
def checkNext (severalLines : Bool) (count : Nat) (rest : Unread) : Except ReadIssue Unit :=
  let next := rest.characters.take count
  match next.find? (isForbidden severalLines) with
  | none => .ok ()
  | some character =>
      .error ⟨"Found invalid character " ++ Text.quoted (String.singleton character),
        rest.position + (next.takeWhile fun other => !isForbidden severalLines other).length⟩

def skipComment (rest : Unread) : Except ReadIssue Unread :=
  if rest.startsWith '#' then do
    let length := (rest.characters.takeWhile (· != '\n')).length
    checkNext false (length - 1) (rest.drop 1)
    return rest.drop length
  else return rest

/-- Skips comments, blanks and ends of lines. -/
def skipCommentLines : Nat → Unread → Except ReadIssue Unread
  | 0, rest => return rest
  | fuel + 1, rest => do
      let behind ← skipComment (skipBlankLines rest)
      if behind.position == rest.position then return behind
      else skipCommentLines fuel behind

/-- Reads a text as it stands up to its closing mark. -/
def readVerbatim (mark : List Char) (severalLines : Bool) (rest : Unread) :
    Except ReadIssue (String × Unread) :=
  match before? mark rest.characters with
  | none =>
      (rest.drop rest.characters.length).complain
        ("Expected " ++ Text.quoted (String.ofList mark))
  | some found => do
      checkNext severalLines found.length rest
      return (String.ofList found, rest.drop (found.length + mark.length))

def escaped? : Char → Option Char
  | 'b' => some '\x08'
  | 't' => some '\t'
  | 'n' => some '\n'
  | 'f' => some '\x0c'
  | 'r' => some '\r'
  | '"' => some '"'
  | '\\' => some '\\'
  | _ => none

def readNumericEscape (length : Nat) (rest : Unread) : Reading (List Char) :=
  let digits := rest.characters.take length
  let values := digits.filterMap fun digit =>
    (IntegerText.digit? digit).filter fun value => value < 16
  if values.length != length then rest.complain "Invalid hex value"
  else
    let point := values.foldl (fun value digit => value * 16 + digit) 0
    if 0xd800 ≤ point && point < 0xe000 || 0x110000 ≤ point then
      (rest.drop length).complain "Escaped character is not a Unicode scalar value"
    else .ok ([Char.ofNat point], rest.drop length)

/-- Reads what stands behind the mark of an escape. In a text of several lines the mark at the end of
a line takes away the blanks up to the next character. -/
def readEscape (severalLines : Bool) (rest : Unread) : Reading (List Char) :=
  let unknown (rest : Unread) : Reading (List Char) := rest.complain "Unescaped '\\' in a string"
  match rest.characters with
  | 'u' :: _ => readNumericEscape 4 (rest.drop 1)
  | 'U' :: _ => readNumericEscape 8 (rest.drop 1)
  | mark :: _ =>
      let isBlank := mark == ' ' || mark == '\t' || mark == '\n'
      if severalLines && isBlank then
        let lineEnd := skipBlanks rest
        if lineEnd.isEmpty || lineEnd.startsWith '\n' then .ok ([], skipBlankLines lineEnd)
        else unknown lineEnd
      else match escaped? mark with
        | some character => .ok ([character], rest.drop 1)
        | none => unknown (rest.drop 1)
  | [] => unknown rest

/-- Reads a text with escapes up to its closing mark, which is one quote or, in a text of several
lines, three. -/
def readEscaped (severalLines : Bool) : Nat → Unread → List Char → Reading String
  | 0, rest, _ => rest.complain "Unterminated string"
  | fuel + 1, rest, read =>
      let mark := if severalLines then ['"', '"', '"'] else ['"']
      match rest.characters with
      | [] => rest.complain "Unterminated string"
      | character :: _ =>
          if rest.startsWithAll mark then
            .ok (String.ofList read.reverse, rest.drop mark.length)
          else if character == '\\' then
            match readEscape severalLines (rest.drop 1) with
            | .ok (characters, behind) =>
                readEscaped severalLines fuel behind (characters.reverse ++ read)
            | .error issue => .error issue
          else if isForbidden severalLines character then
            rest.complain ("Illegal character " ++ Text.quoted (String.singleton character))
          else readEscaped severalLines fuel (rest.drop 1) (character :: read)

/-- Adds up to two quotes that stand behind the closing mark of a text of several lines. -/
def addQuotes (quote : Char) (text : String) (rest : Unread) : String × Unread :=
  let count := ((rest.characters.take 2).takeWhile (· == quote)).length
  (text ++ String.ofList (List.replicate count quote), rest.drop count)

/-- Reads a text in one line, from its opening quote on. -/
def readLineText (rest : Unread) : Reading String :=
  if rest.startsWith '\'' then readVerbatim ['\''] false (rest.drop 1)
  else readEscaped false (rest.characters.length + 1) (rest.drop 1) []

/-- Reads a text of several lines, from its opening mark on. An end of line right behind the mark does
not count. -/
def readLinesText (quote : Char) (rest : Unread) : Except ReadIssue (String × Unread) := do
  let opened := rest.drop 3
  let opened := if opened.startsWith '\n' then opened.drop 1 else opened
  let (text, rest) ←
    if quote == '\'' then readVerbatim ['\'', '\'', '\''] true opened
    else readEscaped true (opened.characters.length + 1) opened []
  return addQuotes quote text rest

/-- Reads a text of either kind, from its opening quote on. -/
def readText (quote : Char) (rest : Unread) : Reading String :=
  if rest.startsWithAll [quote, quote, quote] then readLinesText quote rest
  else readLineText rest

/-- Whether a character stands in keys without quotes. -/
def isKeyCharacter (character : Char) : Bool :=
  character.isAlphanum || character == '-' || character == '_'

def readKeyPart (rest : Unread) : Reading String :=
  match rest.characters.takeWhile isKeyCharacter with
  | [] =>
      if rest.startsWith '"' || rest.startsWith '\'' then readLineText rest
      else rest.complain "Invalid initial character for a key part"
  | part => .ok (String.ofList part, rest.drop part.length)

/-- Reads a key of parts that are joined by points, and the blanks behind it. -/
def readKey : Nat → Unread → Except ReadIssue (List String × Unread)
  | 0, rest => rest.complain "Invalid initial character for a key part"
  | fuel + 1, rest => do
      let (part, rest) ← readKeyPart rest
      let rest := skipBlanks rest
      if rest.startsWith '.' then
        let (parts, rest) ← readKey fuel (skipBlanks (rest.drop 1))
        return (part :: parts, rest)
      else return ([part], rest)

/-- How many characters belong to a run of digits with single underscores between them. -/
def digitRun (isDigit : Char → Bool) (inside : Bool) : List Char → Nat
  | '_' :: digit :: rest =>
      if inside && isDigit digit then digitRun isDigit true rest + 2 else 0
  | digit :: rest => if isDigit digit then digitRun isDigit true rest + 1 else 0
  | [] => 0

/-- How many characters belong to the places of a number with their point. -/
def placesLength : List Char → Nat
  | '.' :: rest => match digitRun Char.isDigit false rest with
    | 0 => 0
    | length => length + 1
  | _ => 0

/-- How many characters belong to the exponent of a number with its mark. -/
def exponentLength : List Char → Nat
  | mark :: rest =>
      if mark == 'e' || mark == 'E' then
        let sign := match rest with
          | '+' :: _ | '-' :: _ => 1
          | _ => 0
        match digitRun Char.isDigit false (rest.drop sign) with
        | 0 => 0
        | length => length + sign + 1
      else 0
  | [] => 0

/-- How many characters belong to a whole number in another base than ten. -/
def basedLength : List Char → Nat
  | '0' :: mark :: rest =>
      let base := if mark == 'x' then 16 else if mark == 'o' then 8 else if mark == 'b' then 2 else 0
      match digitRun (fun digit => ((IntegerText.digit? digit).getD 36) < base) false rest with
      | 0 => 0
      | length => length + 2
  | _ => 0

/-- How many characters belong to the sign and the whole part of a number. -/
def wholeLength (characters : List Char) : Nat :=
  let sign := match characters with
    | '+' :: _ | '-' :: _ => 1
    | _ => 0
  match characters.drop sign with
  | '0' :: _ => sign + 1
  | behind => match digitRun Char.isDigit false behind with
    | 0 => 0
    | length => sign + length

/-- The number that comes next, and how many characters it takes. -/
def number? (characters : List Char) : Option (Document × Nat) :=
  let whole (length : Nat) : Option (Document × Nat) :=
    match readInteger 0 (String.ofList (characters.take length)) with
    | .ok number => some (.int number, length)
    | .error _ => none
  match basedLength characters, wholeLength characters with
  | 0, 0 => none
  | 0, length =>
      let places := placesLength (characters.drop length)
      let exponent := exponentLength (characters.drop (length + places))
      if places + exponent == 0 then whole length
      else
        let length := length + places + exponent
        (readFloat? (String.ofList (characters.take length))).map fun number =>
          (.float number, length)
  | length, _ => whole length

def words : List (String × Document) :=
  [("true", .bool true), ("false", .bool false), ("inf", .float Binary64.infinity),
    ("+inf", .float Binary64.infinity), ("-inf", .float (-Binary64.infinity)),
    ("nan", .float Binary64.notANumber), ("+nan", .float Binary64.notANumber),
    ("-nan", .float Binary64.notANumber)]

/-- The word that comes next, and how many characters it takes. -/
def word? (characters : List Char) : Option (Document × Nat) :=
  (words.find? fun (word, _) => word.toList.isPrefixOf characters).map
    fun (word, value) => (value, word.length)

end Toml

end MemberDispatch
