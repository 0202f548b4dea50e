import MemberDispatch.Intrinsic.Decimals
import MemberDispatch.Text.Encoding
import MemberDispatch.Text.Letter
import MemberDispatch.Text.LetterCase
import MemberDispatch.Text.Split

/-!
# Members of texts

The members of texts that are not operators, and what they share with those of byte strings.
-/

namespace MemberDispatch

namespace Argument

def encoding (name : String) : Act Text.Encoding := do
  match Text.Encoding.ofName? name with
  | some encoding => return encoding
  | none => throw (.say .lookup ("unknown encoding: " ++ name))

/-- The text of an argument of a name, or a given one where the argument was left out. -/
def namedText (operation name default : String) (value : Option Value) : Act String :=
  match value with
  | none => return default
  | some value => text value fun cls =>
      operation ++ "() argument '" ++ name ++ "' must be str, not " ++ cls

/-- What a word says to do with what an encoding does not know. -/
def leniency (word : String) : Text.Leniency :=
  match word with
  | "ignore" => .ignore
  | "replace" => .replace
  | _ => .refuse

/-- The encoding that the first of some arguments names, and what the second one says to do. Both
must be texts before either is looked at. A byte string without bytes has no need of its
encoding. -/
def encodingPair (operation : String) (isNeeded : Bool) (arguments : List Value) :
    Act (Text.Encoding × Text.Leniency) := do
  let name ← namedText operation "encoding" "utf-8" (at? arguments 0)
  let word ← namedText operation "errors" "strict" (at? arguments 1)
  if isNeeded then return (← encoding name, leniency word) else return (.utf8, leniency word)

end Argument

namespace Engine

def makeTexts (texts : List (List Char)) : Act Value :=
  Act.makeList (texts.map fun characters => .text (String.ofList characters))

def textOf (characters : List Char) : Act Value :=
  return .text (String.ofList characters)

def fillingCharacter (value : Option Value) : Act Char := do
  match value with
  | none => return ' '
  | some value =>
      let text ← Argument.text value fun cls =>
        "The fill character must be a unicode character, not " ++ cls
      match text.toList with
      | [character] => return character
      | _ => Act.typeError "The fill character must be exactly one character long"

/-- The characters that are cut off a text: those of an argument, or white space. -/
def cutCharacters (name : String) (value : Option Value) : Act (Char → Bool) := do
  match value with
  | none | some .none => return Text.isBlank
  | some value =>
      let text ← Argument.text value fun _ => name ++ " arg must be None or str"
      return fun character => text.toList.contains character

/-- The pieces of a text between separators or between words. -/
def splitText (fromRight : Bool) (characters : List Char) (arguments : List Value) : Act Value := do
  let limit ← Argument.sizeOr (-1) (Argument.at? arguments 1)
  match Argument.atOrNone arguments 0 with
  | .none =>
      makeTexts (if fromRight then Split.atLastBlanks Text.isBlank limit characters
        else Split.atBlanks Text.isBlank limit characters)
  | separator =>
      let separator ← Argument.text separator fun cls => "must be str or None, not " ++ cls
      if separator.isEmpty then Act.valueError "empty separator"
      else
        makeTexts (if fromRight then Split.atLastRun separator.toList limit characters
          else Split.atRun separator.toList limit characters)

/-- The parts of a text before, in and after a separator. -/
def partitionText (fromRight : Bool) (characters : List Char) (argument : Value) : Act Value := do
  let separator ← Argument.text argument fun cls => "must be str, not " ++ cls
  if separator.isEmpty then Act.valueError "empty separator"
  else
    let whole : Value := .text (String.ofList characters)
    let cut :=
      if fromRight then Split.cutLast? separator.toList characters
      else Split.cut? separator.toList characters
    match cut with
    | some (before, after) =>
        return .tuple [.text (String.ofList before), .text separator, .text (String.ofList after)]
    | none =>
        if fromRight then return .tuple [.text "", .text "", whole]
        else return .tuple [whole, .text "", .text ""]

/-- The texts among items, or a complaint about the first item that is none. -/
def textItems (position : Nat) : List Value → Act (List String)
  | [] => return []
  | item :: items => do
      let text ← Argument.text item fun cls =>
        "sequence item " ++ toString position ++ ": expected str instance, " ++ cls ++ " found"
      let texts ← textItems (position + 1) items
      return text :: texts

def joinTexts (engine : Engine) (separator : String) (argument : Value) : Act Value := do
  match ← engine.items? argument with
  | none => Act.typeError "can only join an iterable"
  | some items => return .text (separator.intercalate (← textItems 0 items))

/-- Whether words start with upper-case letters and go on in lower case. -/
def isTitleText (characters : List Char) : Bool :=
  go false false characters
where
  /-- Goes on after a character of a word or outside of one. -/
  go (inWord found : Bool) : List Char → Bool
    | [] => found
    | character :: rest =>
        if Text.isUpper character || Text.isTitle character then
          !inWord && go true true rest
        else if Text.isLower character then inWord && go true true rest
        else go false found rest

def isNameText (characters : List Char) : Bool :=
  match characters with
  | [] => false
  | first :: rest =>
      (Text.isLetter first || first == '_') && rest.all Text.isWordCharacter

def textTest? (name : String) (text : String) : Option Bool :=
  let all (test : Char → Bool) := Text.allAndSome test text
  match name with
  | "isalpha" => some (all Text.isLetter)
  | "isdigit" => some (all Text.isDigit)
  | "isdecimal" => some (all fun character => (Text.digitValue? character).isSome)
  | "isnumeric" => some (all Text.isNumber)
  | "isalnum" => some (all fun character => Text.isLetter character || Text.isNumber character)
  | "isspace" => some (all Text.isBlank)
  | "isascii" => some (text.toList.all fun character => character.toNat < 128)
  | "isprintable" => some (text.toList.all Text.isPrintable)
  | "isupper" => some (Text.isUpperText text)
  | "islower" => some (Text.isLowerText text)
  | "istitle" => some (isTitleText text.toList)
  | "isidentifier" => some (isNameText text.toList)
  | _ => none

/-- The changes of a text that take no argument. -/
def textChange? (name : String) (text : String) : Option String :=
  match name with
  | "lower" => some (Text.lower text)
  | "upper" => some (Text.upper text)
  | "casefold" => some (Text.caseFold text)
  | "capitalize" => some (Text.capitalize text)
  | "title" => some (Text.titleCase text)
  | "swapcase" => some (Text.swapCase text)
  | _ => none

def translateCharacter (engine : Engine) (table : Value) (character : Char) : Act (List Char) := do
  match ← Act.attempt (engine.operate .item [table, .int character.toNat]) with
  | .error fault =>
      if fault.kind == .keyError || fault.kind == .indexError || fault.kind == .lookup then
        return [character]
      else throw fault
  | .ok .none => return []
  | .ok found => match ← Act.contentOf found with
    | .text text => return text.toList
    | content => match content.int? with
      | some point =>
          if 0 ≤ point && point < 0x110000 then return [Char.ofNat point.toNat]
          else Act.valueError "character mapping must be in range(0x110000)"
      | none => Act.typeError "character mapping must return integer, None or str"

/-- The members of texts that take arguments. -/
def textOperation (engine : Engine) (name : String) (text : String) (arguments : List Value) :
    Act Value := do
  let characters := text.toList
  let first := Argument.atOrNone arguments 0
  match name with
  | "encode" => do
      let (encoding, leniency) ← Argument.encodingPair name true arguments
      match encoding.encode leniency text with
      | .ok bytes => return .bytes bytes
      | .error fault =>
          throw (.raised .unicodeEncode
            (.unencodable fault.encoding text fault.start fault.stop fault.reason))
  | "replace" => do
      let complain (position : String) (cls : String) : String :=
        "replace() argument " ++ position ++ " must be str, not " ++ cls
      let old ← Argument.text first (complain "1")
      let new ← Argument.text (Argument.atOrNone arguments 1) (complain "2")
      let limit ← Argument.sizeOr (-1) (Argument.at? arguments 2)
      textOf (Split.replace old.toList new.toList limit characters)
  | "split" => splitText false characters arguments
  | "rsplit" => splitText true characters arguments
  | "join" => engine.joinTexts text first
  | "center" => do
      let width ← Argument.width first
      textOf (Split.center (← fillingCharacter (Argument.at? arguments 1)) width characters)
  | "ljust" => do
      let width ← Argument.width first
      textOf (Split.padRight (← fillingCharacter (Argument.at? arguments 1)) width characters)
  | "rjust" => do
      let width ← Argument.width first
      textOf (Split.padLeft (← fillingCharacter (Argument.at? arguments 1)) width characters)
  | "zfill" => do
      let width ← Argument.width first
      textOf (Split.padNumber (fun character => character == '+' || character == '-') '0' width
        characters)
  | "expandtabs" => do
      let size ← Argument.smallOr 8 (Argument.at? arguments 0)
      textOf (Split.expandTabs (· == '\t') (fun character => character == '\n' || character == '\r')
        ' ' size.toNat 0 characters)
  | "splitlines" => do
      let keepEnds ← Argument.smallOr 0 (Argument.at? arguments 0)
      makeTexts (Split.lines Text.isLineEnd (fun first next => first == '\r' && next == '\n')
        (keepEnds != 0) [] characters)
  | "partition" => partitionText false characters first
  | "rpartition" => partitionText true characters first
  | "strip" => do
      let test ← cutCharacters name (Argument.at? arguments 0)
      textOf (Text.trimEnd test (Text.trimStart test characters))
  | "lstrip" => do
      textOf (Text.trimStart (← cutCharacters name (Argument.at? arguments 0)) characters)
  | "rstrip" => do
      textOf (Text.trimEnd (← cutCharacters name (Argument.at? arguments 0)) characters)
  | "removeprefix" => do
      let run ← Argument.text first fun cls => "removeprefix() argument must be str, not " ++ cls
      textOf (Split.removeStart run.toList characters)
  | "removesuffix" => do
      let run ← Argument.text first fun cls => "removesuffix() argument must be str, not " ++ cls
      textOf (Split.removeEnd run.toList characters)
  | "translate" => do
      textOf (← characters.mapM (engine.translateCharacter first)).flatten
  | name => Act.typeError ("no member " ++ name ++ " of a text")

def textMember (engine : Engine) (name : String) (text : String) (arguments : List Value) :
    Act Value :=
  match textTest? name text, textChange? name text with
  | some answer, _ => return .bool answer
  | _, some changed => return .text changed
  | _, _ => engine.textOperation name text arguments

end Engine

end MemberDispatch
