import MemberDispatch.Term

/-!
# Documents

The data that a configuration file holds, whatever its format, and how readers complain about a
file that they do not understand.
-/

namespace MemberDispatch

/-- The data of a file. -/
inductive Document
  | none
  | bool (value : Bool)
  | int (value : Int)
  | float (value : Float)
  | text (value : String)
  | list (items : List Document)
  | mapping (entries : List (Document × Document))
  deriving Inhabited

namespace Document

def className : Document → String
  | .none => "NoneType"
  | .bool _ => "bool"
  | .int _ => "int"
  | .float _ => "float"
  | .text _ => "str"
  | .list _ => "list"
  | .mapping _ => "dict"

def isTrue : Document → Bool
  | .none => false
  | .bool value => value
  | .int value => value != 0
  | .float value => value != 0.0
  | .text value => !value.isEmpty
  | .list items => !items.isEmpty
  | .mapping entries => !entries.isEmpty

/-- Whether two keys of a mapping are the same. -/
def sameKey : Document → Document → Bool
  | .none, .none => true
  | .bool left, .bool right => left == right
  | .int left, .int right => left == right
  | .text left, .text right => left == right
  | _, _ => false

/-- Sets the value of a key, in its place if the key is there and at the end otherwise. -/
def put (key value : Document) : List (Document × Document) → List (Document × Document)
  | [] => [(key, value)]
  | (first, old) :: rest =>
      if first.sameKey key then (first, value) :: rest else (first, old) :: put key value rest

/-- A mapping of entries of which later ones replace earlier ones with the same key. -/
def ofEntries (entries : List (Document × Document)) : Document :=
  .mapping (entries.foldl (fun kept (key, value) => put key value kept) [])

def find? (name : String) : Document → Option Document
  | .mapping entries => (entries.find? fun (key, _) => key.sameKey (.text name)).map (·.2)
  | _ => Option.none

mutual

/-- The data as the description of a value. -/
def toTerm : Document → Term
  | .none => .none
  | .bool value => .bool value
  | .int value => .int value
  | .float value => .float value
  | .text value => .text value
  | .list items => .list (toTerms items)
  | .mapping entries => .dict (toTermEntries entries)

def toTerms : List Document → List Term
  | [] => []
  | item :: items => toTerm item :: toTerms items

def toTermEntries : List (Document × Document) → List (Term × Term)
  | [] => []
  | (key, value) :: entries => (toTerm key, toTerm value) :: toTermEntries entries

end

mutual

/-- The whole numbers in the data, wherever they are. -/
def integers : Document → List Int
  | .int value => [value]
  | .list items => integersAmong items
  | .mapping entries => integersOfEntries entries
  | _ => []

/-- The whole numbers in several data. -/
def integersAmong : List Document → List Int
  | [] => []
  | item :: items => integers item ++ integersAmong items

/-- The whole numbers in entries of a mapping. -/
def integersOfEntries : List (Document × Document) → List Int
  | [] => []
  | (key, value) :: entries => integers key ++ integers value ++ integersOfEntries entries

end

end Document

/-- A complaint about a text at a position. -/
structure ReadIssue where
  reason : String
  position : Nat
  deriving DecidableEq, Repr

/-- The characters that are still to be read and the position of the first one. -/
structure Unread where
  characters : List Char
  position : Nat

namespace Unread

/-- A text of which nothing has been read. -/
def ofText (text : String) : Unread := ⟨text.toList, 0⟩

/-- What follows a number of characters. -/
def drop (rest : Unread) (count : Nat) : Unread :=
  ⟨rest.characters.drop count, rest.position + count⟩

/-- What follows the characters that pass a test. -/
def dropWhile (rest : Unread) (test : Char → Bool) : Unread :=
  rest.drop (rest.characters.takeWhile test).length

/-- Whether a character comes next. -/
def startsWith (rest : Unread) (character : Char) : Bool :=
  rest.characters.head? == some character

/-- Whether characters come next. -/
def startsWithAll (rest : Unread) (characters : List Char) : Bool :=
  characters.isPrefixOf rest.characters

/-- Whether everything has been read. -/
def isEmpty (rest : Unread) : Bool :=
  rest.characters.isEmpty

end Unread

/-- The result of a reader: what it read and what is still to be read, or a complaint. -/
abbrev Reading (α : Type) := Except ReadIssue (α × Unread)

/-- A complaint at the start of what is still to be read. -/
def Unread.complain {α : Type} (rest : Unread) (reason : String) : Reading α :=
  .error ⟨reason, rest.position⟩

/-- The line of a position of a text and the column in that line, both from one. -/
def lineAndColumn (characters : List Char) (position : Nat) : Nat × Nat :=
  let before := characters.take position
  let column := (before.reverse.takeWhile (· != '\n')).length + 1
  (before.count '\n' + 1, column)

end MemberDispatch
