import MemberDispatch.Number.IntegerText
import MemberDispatch.Term
import MemberDispatch.Text.Utf8

/-!
# Literals

Values as they are written on a command line: numbers, texts, byte strings, collections and the names
of constants. A reader gives nothing where the text is no literal.
-/

namespace MemberDispatch

namespace Literal

/-- What may be done with what was read: only an unsigned number takes a sign, and only a number, with
or without a sign, is added to an imaginary one. -/
inductive Form
  | number | signedNumber | other
  deriving DecidableEq, Repr

/-- The result of a reader: what it read, its form and the characters behind it. -/
abbrev Reading := Option (Term × Form × List Char)

/-! ## Blanks -/

/-- What follows the blanks, which include comments and ends of lines between brackets. -/
def skipBlanks (inBrackets : Bool) : List Char → List Char
  | [] => []
  | character :: rest =>
      if character == ' ' || character == '\t' || character == '\x0c' then
        skipBlanks inBrackets rest
      else if inBrackets && character == '\n' then skipBlanks inBrackets rest
      else if inBrackets && character == '#' then skipComment rest
      else character :: rest
where
  /-- What follows a comment and the blanks behind it. -/
  skipComment : List Char → List Char
    | [] => []
    | '\n' :: rest => skipBlanks true rest
    | _ :: rest => skipComment rest

/-- Whether nothing but blanks, comments and ends of lines is left. -/
def isOver (characters : List Char) : Bool :=
  (skipBlanks true characters).isEmpty

/-! ## Numbers -/

/-- Whether a character can go on a word or a number. -/
def isWordCharacter (character : Char) : Bool :=
  character.isAlphanum || character == '_' || character.toNat ≥ 128

/-- How many characters belong to digits with single underscores between them. -/
def digitRun (isDigit : Char → Bool) (inside : Bool) : List Char → Nat
  | '_' :: digit :: rest =>
      if inside && isDigit digit then digitRun isDigit true rest + 2 else 0
  | digit :: rest => if isDigit digit then digitRun isDigit true rest + 1 else 0
  | [] => 0

/-- Whether a character is a digit of a base. -/
def isDigitOf (base : Nat) (character : Char) : Bool :=
  ((IntegerText.digit? character).getD 36) < base

/-- How many characters belong to the exponent of a number with its mark. -/
def exponentLength : List Char → Nat
  | mark :: rest =>
      if mark == 'e' || mark == 'E' then
        let sign := match rest with
          | '+' :: _ | '-' :: _ => 1
          | _ => 0
        match digitRun Char.isDigit false (rest.drop sign) with
        | 0 => 0
        | length => length + sign + 1
      else 0
  | [] => 0

/-- The number that some characters are. Only zero itself starts with a zero among whole numbers. -/
def wholeNumber? (characters : List Char) : Option Term :=
  match readInteger 0 (String.ofList characters) with
  | .ok number => some (.int number)
  | .error _ => none

/-- The floating-point number that some characters are. -/
def pointedNumber? (characters : List Char) : Option Float :=
  readFloat? (String.ofList (characters.filter (· != '_')))

/-- Reads a number, behind which no word goes on. -/
def readNumber (characters : List Char) : Reading :=
  let finish (value : Option Term) (length : Nat) : Reading :=
    let behind := characters.drop length
    if (behind.head?.map isWordCharacter).getD false then none
    else value.map fun value => (value, .number, behind)
  match IntegerText.announced? characters with
  | some base =>
      match digitRun (isDigitOf base) true (characters.drop 2) with
      | 0 => none
      | length => finish (wholeNumber? (characters.take (length + 2))) (length + 2)
  | none =>
      let whole := digitRun Char.isDigit false characters
      let places := match characters.drop whole with
        | '.' :: behind => digitRun Char.isDigit false behind + 1
        | _ => 0
      let length := whole + places + exponentLength (characters.drop (whole + places))
      let read := characters.take length
      -- A point by itself is no number.
      if whole == 0 && places ≤ 1 then none
      else match characters.drop length with
        | mark :: _ =>
            if mark == 'j' || mark == 'J' then
              finish ((pointedNumber? read).map fun number => .complex 0.0 number) (length + 1)
            else if length == whole then finish (wholeNumber? read) length
            else finish ((pointedNumber? read).map .float) length
        | [] =>
            if length == whole then finish (wholeNumber? read) length
            else finish ((pointedNumber? read).map .float) length

/-- A number with its sign changed. -/
def negated : Term → Term
  | .int number => .int (-number)
  | .float number => .float (-number)
  | .complex real imaginary => .complex (-real) (-imaginary)
  | other => other

/-- A number with an imaginary one added to it or taken from it. -/
def withImaginary? (negative : Bool) : Term → Term → Option Term
  | .int left, .complex real imaginary => add (Float.ofInt left) real imaginary
  | .float left, .complex real imaginary => add left real imaginary
  | _, _ => none
where
  /-- The sum or the difference. -/
  add (left real imaginary : Float) : Option Term :=
    some (if negative then .complex (left - real) (0.0 - imaginary)
      else .complex (left + real) (0.0 + imaginary))

/-! ## Texts and byte strings -/

def escaped? : Char → Option Char
  | '\\' => some '\\'
  | '\'' => some '\''
  | '"' => some '"'
  | 'a' => some '\x07'
  | 'b' => some '\x08'
  | 'f' => some '\x0c'
  | 'n' => some '\n'
  | 'r' => some '\r'
  | 't' => some '\t'
  | 'v' => some '\x0b'
  | _ => none

/-- The character of hexadecimal digits, if there are enough of them and it is one. -/
def hexCharacter? (length : Nat) (digits : List Char) : Option (List Char × List Char) :=
  let given := digits.take length
  if given.length == length && given.all (isDigitOf 16) then
    let point := given.foldl
      (fun value digit => value * 16 + (IntegerText.digit? digit).getD 0) 0
    if point < 0x110000 then some ([Char.ofNat point], digits.drop length) else none
  else none

/-- What an escape stands for, from behind its backslash, and what follows it. An unknown escape
stands for itself. -/
def readEscape (inBytes : Bool) : List Char → Option (List Char × List Char)
  | [] => none
  | '\n' :: rest => some ([], rest)
  | mark :: rest =>
      if isDigitOf 8 mark then
        let digits := ((mark :: rest).take 3).takeWhile (isDigitOf 8)
        let point := digits.foldl (fun value digit => value * 8 + (digit.toNat - 48)) 0
        some ([Char.ofNat (if inBytes then point % 256 else point)],
          (mark :: rest).drop digits.length)
      else if mark == 'x' then hexCharacter? 2 rest
      else if !inBytes && mark == 'u' then hexCharacter? 4 rest
      else if !inBytes && mark == 'U' then hexCharacter? 8 rest
      else if !inBytes && mark == 'N' then none
      else match escaped? mark with
        | some character => some ([character], rest)
        | none => some (['\\', mark], rest)

/-- How a text between quotes is read. -/
structure Quotation where
  /-- The closing mark: one quote or three. -/
  mark : List Char
  /-- Whether backslashes stand for themselves. -/
  raw : Bool
  bytes : Bool

/-- Reads characters up to the closing mark, and gives them in reverse. -/
def readCharacters (quotation : Quotation) : Nat → List Char → List Char →
    Option (List Char × List Char)
  | 0, _, _ => none
  | fuel + 1, read, characters =>
      if quotation.mark.isPrefixOf characters then
        some (read, characters.drop quotation.mark.length)
      else match characters with
      | [] => none
      | '\\' :: rest =>
          if quotation.raw then match rest with
            | [] => none
            | next :: rest => readCharacters quotation fuel (next :: '\\' :: read) rest
          else match readEscape quotation.bytes rest with
            | some (escaped, rest) =>
                readCharacters quotation fuel (escaped.reverse ++ read) rest
            | none => none
      | character :: rest =>
          if character == '\n' && quotation.mark.length == 1 then none
          else if quotation.bytes && character.toNat ≥ 128 then none
          else readCharacters quotation fuel (character :: read) rest

/-- The way in which the text that comes next is to be read, and what follows its opening mark. -/
def quotation? (characters : List Char) : Option (Quotation × List Char) :=
  let letters := characters.takeWhile Char.isAlpha
  let kind := String.ofList (letters.map Char.toLower)
  let behind := characters.drop letters.length
  let raw := kind == "r" || kind == "br" || kind == "rb"
  let bytes := kind == "b" || kind == "br" || kind == "rb"
  if raw || bytes || kind == "u" || kind.isEmpty then
    match behind with
    | quote :: _ =>
        if quote == '\'' || quote == '"' then
          let threefold := [quote, quote, quote]
          let mark := if threefold.isPrefixOf behind then threefold else [quote]
          some ({ mark, raw, bytes }, behind.drop mark.length)
        else none
    | [] => none
  else none

/-- Reads a text or byte string and those that follow it directly, which go on with it. -/
def readTexts (inBrackets : Bool) : Nat → Option (Bool × List Char) → List Char →
    Option (Bool × List Char × List Char)
  | 0, _, _ => none
  | fuel + 1, before, characters => match quotation? characters with
    | none => match before with
      | some (bytes, read) => some (bytes, read.reverse, characters)
      | none => none
    | some (quotation, rest) =>
        let read := match before with
          | some (_, read) => read
          | none => []
        let fits := match before with
          | some (bytes, _) => bytes == quotation.bytes
          | none => true
        if fits then match readCharacters quotation (rest.length + 1) read rest with
          | some (read, rest) =>
              readTexts inBrackets fuel (some (quotation.bytes, read))
                (skipBlanks inBrackets rest)
          | none => none
        else none

def readText (inBrackets : Bool) (characters : List Char) : Reading := do
  let (bytes, read, rest) ← readTexts inBrackets (characters.length + 1) none characters
  let value : Term :=
    if bytes then .bytes (read.map fun character => UInt8.ofNat character.toNat)
    else .text (String.ofList read)
  return (value, .other, rest)

/-! ## Everything -/

/-- How many brackets may be open at once. -/
def maxDepth : Nat := 200

/-- Reads a constant by its name, or an empty set. -/
def readName (depth : Nat) (characters : List Char) : Reading :=
  let name := characters.takeWhile isWordCharacter
  let rest := characters.drop name.length
  match String.ofList name with
  | "None" => some (.none, .other, rest)
  | "True" => some (.bool true, .other, rest)
  | "False" => some (.bool false, .other, rest)
  | "set" => match skipBlanks (0 < depth) rest with
    | '(' :: rest => match skipBlanks true rest with
      | ')' :: rest => if depth < maxDepth then some (.set [], .other, rest) else none
      | _ => none
    | _ => none
  | _ => none

mutual

/-- Reads a value between so many brackets. Every step but the change from one kind of value to another
takes a character, so the length of the text bounds the number of steps. -/
def readValue (depth : Nat) : Nat → List Char → Reading
  | 0, _ => none
  | fuel + 1, characters => do
      let (left, form, rest) ← readSigned depth fuel (skipBlanks (0 < depth) characters)
      let rest := skipBlanks (0 < depth) rest
      match rest with
      | sign :: behind =>
          if (sign == '+' || sign == '-') && form != .other then
            let (right, form, rest) ← readSigned depth fuel (skipBlanks (0 < depth) behind)
            if form != .number then none
            let sum ← withImaginary? (sign == '-') left right
            return (sum, .other, skipBlanks (0 < depth) rest)
          else return (left, form, rest)
      | [] => return (left, form, [])
termination_by structural fuel => fuel

/-- Reads a value that may be a number with a sign. -/
def readSigned (depth : Nat) : Nat → List Char → Reading
  | 0, _ => none
  | fuel + 1, characters => match characters with
    | '-' :: rest => match readSigned depth fuel (skipBlanks (0 < depth) rest) with
      | some (value, .number, rest) => some (negated value, .signedNumber, rest)
      | _ => none
    | '+' :: rest => match readSigned depth fuel (skipBlanks (0 < depth) rest) with
      | some (value, .number, rest) => some (value, .signedNumber, rest)
      | _ => none
    | '(' :: rest => if maxDepth ≤ depth then none else do
        let (items, isTuple, rest) ← readGroup (depth + 1) fuel (skipBlanks true rest)
        match items, isTuple with
        | [(value, form)], false => return (value, form, rest)
        | items, _ => return (.tuple (items.map (·.1)), .other, rest)
    | '[' :: rest => if maxDepth ≤ depth then none else do
        let (items, rest) ← readItems (depth + 1) ']' fuel (skipBlanks true rest)
        return (.list items, .other, rest)
    | '\x7b' :: rest =>
        if maxDepth ≤ depth then none else readBraces (depth + 1) fuel (skipBlanks true rest)
    | character :: _ =>
        if character.isDigit || character == '.' then readNumber characters
        else (readText (0 < depth) characters).or (readName depth characters)
    | [] => none
termination_by structural fuel => fuel

/-- Reads the items between parentheses, and whether a comma makes them a tuple. -/
def readGroup (depth : Nat) : Nat → List Char → Option (List (Term × Form) × Bool × List Char)
  | 0, _ => none
  | _ + 1, ')' :: rest => some ([], true, rest)
  | fuel + 1, characters => do
      let (value, form, rest) ← readValue depth fuel characters
      match rest with
      | ')' :: rest => return ([(value, form)], false, rest)
      | ',' :: rest => do
          let (items, rest) ← readItems depth ')' fuel (skipBlanks true rest)
          return ((value, form) :: items.map fun item => (item, .other), true, rest)
      | _ => none
termination_by structural fuel => fuel

/-- Reads items up to a closing mark. The last one may have a comma behind it. -/
def readItems (depth : Nat) (closing : Char) : Nat → List Char → Option (List Term × List Char)
  | 0, _ => none
  | fuel + 1, characters =>
      match characters with
      | first :: rest =>
          if first == closing then some ([], rest)
          else do
            let (value, _, rest) ← readValue depth fuel characters
            match rest with
            | ',' :: rest => do
                let (items, rest) ← readItems depth closing fuel (skipBlanks true rest)
                return (value :: items, rest)
            | last :: rest => if last == closing then return ([value], rest) else none
            | [] => none
      | [] => none
termination_by structural fuel => fuel

/-- Reads a mapping or a set behind its opening brace. -/
def readBraces (depth : Nat) : Nat → List Char → Reading
  | 0, _ => none
  | _ + 1, '\x7d' :: rest => some (.dict [], .other, rest)
  | fuel + 1, characters => do
      let (first, _, rest) ← readValue depth fuel characters
      match rest with
      | ':' :: _ => do
          let (entries, rest) ← readEntries depth fuel characters
          return (.dict entries, .other, rest)
      | ',' :: rest => do
          let (items, rest) ← readItems depth '\x7d' fuel (skipBlanks true rest)
          return (.set (first :: items), .other, rest)
      | '\x7d' :: rest => return (.set [first], .other, rest)
      | _ => none
termination_by structural fuel => fuel

/-- Reads the entries of a mapping up to its closing brace. -/
def readEntries (depth : Nat) : Nat → List Char → Option (List (Term × Term) × List Char)
  | 0, _ => none
  | _ + 1, '\x7d' :: rest => some ([], rest)
  | fuel + 1, characters => do
      let (key, _, rest) ← readValue depth fuel characters
      match rest with
      | ':' :: rest => do
          let (value, _, rest) ← readValue depth fuel rest
          match rest with
          | ',' :: rest => do
              let (entries, rest) ← readEntries depth fuel (skipBlanks true rest)
              return ((key, value) :: entries, rest)
          | '\x7d' :: rest => return ([(key, value)], rest)
          | _ => none
      | _ => none
termination_by structural fuel => fuel

end

/-- Reads values that are separated by commas without brackets around them, which make a tuple. -/
def readBare (fuel : Nat) : Nat → List Char → Option (List Term × Bool)
  | 0, _ => none
  | count + 1, characters => do
      let (value, _, rest) ← readValue 0 fuel characters
      match rest with
      | ',' :: rest =>
          if isOver rest then return ([value], true)
          else
            let (values, _) ← readBare fuel count rest
            return (value :: values, true)
      | rest => if isOver rest then return ([value], false) else none

def read? (text : String) : Option Term := do
  let characters := text.toList
  if characters.contains '\x00' then none
  let (values, isTuple) ← readBare (2 * characters.length + 4) (characters.length + 1) characters
  match values, isTuple with
  | [value], false => return value
  | values, _ => return .tuple values

end Literal

end MemberDispatch
