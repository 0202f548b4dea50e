import MemberDispatch.Text.CaseTable
import MemberDispatch.Text.Letter

/-!
# Changing case

Lower, upper, title, swapped and folded case of a text. Forms may be longer than the character
they replace. The one rule that looks around a character is that of the Greek capital sigma,
whose lower-case form is the final sigma at the end of a word.
-/

namespace MemberDispatch.Text

def isUpper (character : Char) : Bool :=
  if character.toNat < 0x80 then character.isUpper
  else runsInside upperRuns character.toNat

def isLower (character : Char) : Bool :=
  if character.toNat < 0x80 then character.isLower
  else runsInside lowerRuns character.toNat

def isTitle (character : Char) : Bool :=
  titleCharacters.contains character.toNat

def isCased (character : Char) : Bool :=
  changesInside casedChanges character.toNat

/-- Whether the search for a word's end passes over the character. -/
def isCaseIgnorable (character : Char) : Bool :=
  changesInside caseIgnorableChanges character.toNat

/-- The form of a character listed in a table of exceptions. -/
def exceptionForm? (exceptions : List (Nat × List Nat)) (character : Char) : Option (List Char) :=
  (exceptions.lookup character.toNat).map fun points => points.map Char.ofNat

/-- The form of a character under a table of exceptions, then a table of shifts. -/
def formOf (exceptions : List (Nat × List Nat)) (shifts : List (Nat × Nat × Nat × Int))
    (character : Char) : List Char :=
  match exceptionForm? exceptions character with
  | some form => form
  | none => match shiftWithin? shifts character.toNat with
    | some point => [Char.ofNat point]
    | none => [character]

/-- The lower-case form of a character, wherever it stands. -/
def lowerForm (character : Char) : List Char :=
  if character.toNat < 0x80 then [character.toLower]
  else formOf lowerExceptions lowerShifts character

def upperForm (character : Char) : List Char :=
  if character.toNat < 0x80 then [character.toUpper]
  else formOf upperExceptions upperShifts character

/-- The form of a character at the start of a word. -/
def titleForm (character : Char) : List Char :=
  (exceptionForm? titleExceptions character).getD (upperForm character)

def foldedForm (character : Char) : List Char :=
  (exceptionForm? foldExceptions character).getD (lowerForm character)

/-- Whether a word's letters end just before `rest`, looking past ignorable characters. -/
def wordEndsBefore (rest : List Char) : Bool :=
  match rest.dropWhile isCaseIgnorable with
  | [] => true
  | character :: _ => !isCased character

/-- Whether a word's letters reach up to the end of the text whose characters, last first, are
`before`. -/
def wordReaches (before : List Char) : Bool :=
  match before.dropWhile isCaseIgnorable with
  | [] => false
  | character :: _ => isCased character

/-- The lower-case form of a character standing between `before`, last character first, and
`after`. -/
def lowerFormBetween (before : List Char) (character : Char) (after : List Char) : List Char :=
  if character == 'Σ' then
    if wordReaches before && wordEndsBefore after then ['ς'] else ['σ']
  else lowerForm character

/-- Rewrites every character with what stands before it, last first, and after it. -/
def rewriteBetween (form : List Char → Char → List Char → List Char) :
    List Char → List Char → List Char
  | _, [] => []
  | before, character :: after =>
      form before character after ++ rewriteBetween form (character :: before) after

def lower (text : String) : String :=
  String.ofList (rewriteBetween lowerFormBetween [] text.toList)

def upper (text : String) : String :=
  String.ofList (text.toList.flatMap upperForm)

def caseFold (text : String) : String :=
  String.ofList (text.toList.flatMap foldedForm)

/-- The text with its first character in title case and all others in lower case. -/
def capitalize (text : String) : String :=
  String.ofList (rewriteBetween
    (fun before character after =>
      if before.isEmpty then titleForm character else lowerFormBetween before character after)
    [] text.toList)

/-- The text with the first letter of each run of cased characters in title case and the others
in lower case. -/
def titleCase (text : String) : String :=
  String.ofList (rewriteBetween
    (fun before character after =>
      match before with
      | previous :: _ =>
          if isCased previous then lowerFormBetween before character after
          else titleForm character
      | [] => titleForm character)
    [] text.toList)

/-- The text with upper and lower case exchanged. -/
def swapCase (text : String) : String :=
  String.ofList (rewriteBetween
    (fun before character after =>
      if isUpper character then lowerFormBetween before character after
      else if isLower character then upperForm character
      else [character])
    [] text.toList)

/-- Whether a text is not empty and all its characters satisfy the test. -/
def allAndSome (test : Char → Bool) (text : String) : Bool :=
  !text.isEmpty && text.toList.all test

/-- Whether the text has a cased character and no cased character of another case than upper. -/
def isUpperText (text : String) : Bool :=
  text.toList.any isUpper && !text.toList.any fun character => isLower character || isTitle character

/-- Whether the text has a cased character and no cased character of another case than lower. -/
def isLowerText (text : String) : Bool :=
  text.toList.any isLower && !text.toList.any fun character => isUpper character || isTitle character

end MemberDispatch.Text
