import MemberDispatch.Document.Basic
import MemberDispatch.Text.Quoted

/-!
# Places in YAML documents

The structure of a document depends on the columns in which things start, so a place knows its line
and column. A complaint names one place or two: where the thing began that could not be read, and
where it could not go on.
-/

namespace MemberDispatch

namespace Yaml

/-- A place in a document with the characters from there on. Lines and columns count from zero. -/
structure Place where
  characters : List Char
  line : Nat := 0
  column : Nat := 0

/-- The part of the reader that complains: the one that tells the parts of a document, or the one that
puts them together. -/
inductive Stage
  | scanner | assembler | composer
  deriving DecidableEq, Repr

/-- A complaint about a document. -/
structure Issue where
  stage : Stage := .scanner
  /-- What was being read, with the line and the column of its start. -/
  context : Option (String × Nat × Nat) := none
  problem : String
  line : Nat
  column : Nat

/-- The wording of a complaint about the document of a name. The place where the thing began is left
out if it is also the place where it could not go on. -/
def Issue.message (issue : Issue) (name : String) : String :=
  let mark (line column : Nat) : String :=
    "\n  in \"" ++ name ++ "\", line " ++ toString (line + 1) ++ ", column " ++
      toString (column + 1)
  let context := match issue.context with
    | some (text, line, column) =>
        if line == issue.line && column == issue.column then text ++ "\n"
        else text ++ mark line column ++ "\n"
    | none => ""
  context ++ issue.problem ++ mark issue.line issue.column

namespace Place

def next (place : Place) : Place :=
  match place.characters with
  | [] => place
  | '\n' :: rest => ⟨rest, place.line + 1, 0⟩
  | _ :: rest => ⟨rest, place.line, place.column + 1⟩

/-- The place behind a number of characters. -/
def advance (place : Place) : Nat → Place
  | 0 => place
  | count + 1 => place.next.advance count

def head? (place : Place) : Option Char :=
  place.characters.head?

/-- Whether a character comes next. -/
def startsWith (place : Place) (character : Char) : Bool :=
  place.head? == some character

def skipSpaces (place : Place) : Place :=
  place.advance (place.characters.takeWhile (· == ' ')).length

/-- Whether characters start with the end of a word: a blank, the end of a line or of everything. -/
def endsWord : List Char → Bool
  | [] => true
  | character :: _ => character == ' ' || character == '\t' || character == '\n'

/-- Whether a mark of one character comes next that stands by itself. -/
def startsWithMark (place : Place) (mark : Char) : Bool :=
  match place.characters with
  | character :: rest => character == mark && endsWord rest
  | [] => false

/-- Whether a mark between documents comes next. -/
def atDocumentMark (place : Place) : Bool :=
  place.column == 0 && endsWord (place.characters.drop 3) &&
    (place.characters.take 3 == ['-', '-', '-'] || place.characters.take 3 == ['.', '.', '.'])

/-- The place of the next thing that is no space, comment or end of line. -/
def skipToToken : Nat → Place → Place
  | 0, place => place
  | fuel + 1, place =>
      let place := place.skipSpaces
      let place :=
        if place.startsWith '#' then
          place.advance (place.characters.takeWhile (· != '\n')).length
        else place
      if place.startsWith '\n' then skipToToken fuel place.next else place

/-- The place of the next thing that is no space, comment or end of line. -/
def toToken (place : Place) : Place :=
  place.skipToToken (place.characters.length + 1)

def complain {α : Type} (place : Place) (problem : String) : Except Issue α :=
  .error { problem, line := place.line, column := place.column }

/-- A complaint at a place over something that began at another place. -/
def complainWithin {α : Type} (place : Place) (stage : Stage) (context : String) (start : Place)
    (problem : String) : Except Issue α :=
  .error
    { stage, context := some (context, start.line, start.column), problem,
      line := place.line, column := place.column }

end Place

end Yaml

end MemberDispatch
