import MemberDispatch.Text.Printable

/-!
# Quoted text

The display of texts and byte strings as literals: in single quotes unless that would need an
escape and double quotes would not, with a backslash before the quote and the backslash, short
escapes for tab, line feed and carriage return, and numeric escapes for all other characters that
are not printable. In paths, texts stand between double quotes, and only these and backslashes are escaped.
-/

namespace MemberDispatch.Text

def hexDigit (value : Nat) : Char :=
  if value < 10 then Char.ofNat (48 + value) else Char.ofNat (87 + value)

/-- The last `width` hexadecimal digits of `value`. -/
def hexDigits : Nat → Nat → List Char
  | 0, _ => []
  | width + 1, value => hexDigits width (value / 16) ++ [hexDigit (value % 16)]

/-- A numeric escape of the shortest of the three lengths that holds the character. -/
def numericEscape (point : Nat) : List Char :=
  if point < 0x100 then ['\\', 'x'] ++ hexDigits 2 point
  else if point < 0x10000 then ['\\', 'u'] ++ hexDigits 4 point
  else ['\\', 'U'] ++ hexDigits 8 point

/-- The quote that encloses a text: double where the text holds single quotes and no double one. -/
def quoteFor (characters : List Char) : Char :=
  if characters.contains '\'' && !characters.contains '"' then '"' else '\''

/-- How a character shows between the given quotes. -/
def quotedForm (quote character : Char) : List Char :=
  if character == quote || character == '\\' then ['\\', character]
  else if character == '\t' then ['\\', 't']
  else if character == '\n' then ['\\', 'n']
  else if character == '\r' then ['\\', 'r']
  else if isPrintable character then [character]
  else numericEscape character.toNat

def quoted (text : String) : String :=
  let quote := quoteFor text.toList
  String.ofList (quote :: text.toList.flatMap (quotedForm quote) ++ [quote])

/-- How a byte shows between the given quotes. -/
def quotedByte (quote : Char) (byte : UInt8) : List Char :=
  let character := Char.ofNat byte.toNat
  if character == quote || character == '\\' then ['\\', character]
  else if character == '\t' then ['\\', 't']
  else if character == '\n' then ['\\', 'n']
  else if character == '\r' then ['\\', 'r']
  else if 0x20 ≤ byte.toNat && byte.toNat < 0x7f then [character]
  else ['\\', 'x'] ++ hexDigits 2 byte.toNat

def quotedBytes (bytes : List UInt8) : String :=
  let quote := quoteFor (bytes.map fun byte => Char.ofNat byte.toNat)
  String.ofList ('b' :: quote :: bytes.flatMap (quotedByte quote) ++ [quote])

/-- The characters with others in place of every one of a kind. -/
def substitute (old : Char) (new characters : List Char) : List Char :=
  characters.flatMap fun character => if character == old then new else [character]

/-- The text between double quotes: backslashes are doubled first, then every double quote gets a
backslash in front. -/
def enclosed (text : String) : String :=
  let doubled := substitute '\\' ['\\', '\\'] text.toList
  String.ofList ('"' :: substitute '"' ['\\', '"'] doubled ++ ['"'])

end MemberDispatch.Text
