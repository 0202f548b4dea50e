import MemberDispatch.Text.LetterCase
import MemberDispatch.Text.Quoted
import MemberDispatch.Text.Utf8

/-!
# Escaping texts

Texts made safe inside markup and addresses, and the capitals of words.
-/

namespace MemberDispatch.Text

def htmlForm : Char → List Char
  | '&' => "&amp;".toList
  | '<' => "&lt;".toList
  | '>' => "&gt;".toList
  | '"' => "&quot;".toList
  | '\'' => "&#x27;".toList
  | character => [character]

def xmlForm : Char → List Char
  | '&' => "&amp;".toList
  | '<' => "&lt;".toList
  | '>' => "&gt;".toList
  | '"' => "&quot;".toList
  | '\'' => "&apos;".toList
  | character => [character]

/-- The form of a byte in the query of an address: letters, digits and a few marks stay, a space
becomes a plus sign and the rest shows its value. -/
def queryForm (byte : UInt8) : List Char :=
  let character := Char.ofNat byte.toNat
  if byte.toNat < 0x80 && (character.isAlphanum || "_.-~".toList.contains character) then
    [character]
  else if character == ' ' then ['+']
  else '%' :: (hexDigits 2 byte.toNat).map Char.toUpper

def escapeHtml (text : String) : String :=
  String.ofList (text.toList.flatMap htmlForm)

def escapeXml (text : String) : String :=
  String.ofList (text.toList.flatMap xmlForm)

def escapeQueryBytes (bytes : List UInt8) : String :=
  String.ofList (bytes.flatMap queryForm)

def escapeQuery (text : String) : String :=
  escapeQueryBytes (encodeUtf8 text)

/-- The characters with the first one of every word in upper case. `inWord` says whether a word
has begun. -/
def capitalizeWordsFrom (inWord : Bool) : List Char → List Char
  | [] => []
  | character :: rest =>
      if isWordCharacter character then
        (if inWord then [character] else upperForm character) ++ capitalizeWordsFrom true rest
      else character :: capitalizeWordsFrom false rest

/-- The text with the first character of every word in upper case and all others as they are. -/
def capitalizeWords (text : String) : String :=
  String.ofList (capitalizeWordsFrom false text.toList)

end MemberDispatch.Text
