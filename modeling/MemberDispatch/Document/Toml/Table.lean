import MemberDispatch.Document.Basic
import MemberDispatch.Text.Quoted

/-!
# Tables of TOML

A table is reached by a path of keys, and the tables on the way are made when they are missing. What a
path may still be used for is kept beside the tables: a table that was declared cannot be declared
again, and nothing is added to a value that was written in one piece.
-/

namespace MemberDispatch

namespace Toml

/-- The entries of a table, in the order in which they were made. -/
abbrev Entries := List (Document × Document)

def Entries.find? (entries : Entries) (key : String) : Option Document :=
  (Document.mapping entries).find? key

/-- Changes the entries of the table that a path leads to. A table is made where there is none. The
path may go on in the last table of a list if `intoLists` says so, and otherwise fails there, as it
does at any other value. -/
def Entries.changeAt (intoLists : Bool) (change : Entries → Option Entries) :
    List String → Entries → Option Entries
  | [], entries => change entries
  | key :: keys, entries =>
      let goOn := Entries.changeAt intoLists change keys
      let store (value : Document) : Entries := Document.put (.text key) value entries
      match entries.find? key with
      | none => (goOn []).map fun inner => store (.mapping inner)
      | some (.mapping inner) => (goOn inner).map fun inner => store (.mapping inner)
      | some (.list items) => match intoLists, items.getLast? with
        | true, some (.mapping inner) =>
            (goOn inner).map fun inner => store (.list (items.dropLast ++ [.mapping inner]))
        | _, _ => none
      | some _ => none

/-- Adds an empty table to the list under a key, which is made if it is missing. -/
def Entries.addTable (key : String) (entries : Entries) : Option Entries :=
  match entries.find? key with
  | none => some (Document.put (.text key) (.list [.mapping []]) entries)
  | some (.list items) =>
      some (Document.put (.text key) (.list (items ++ [.mapping []])) entries)
  | some _ => none

/-- Adds an entry under a key that has none. -/
def Entries.addEntry (key : String) (value : Document) (entries : Entries) : Option Entries :=
  match entries.find? key with
  | none => some (entries ++ [(.text key, value)])
  | some _ => none

/-- A path as it is shown in complaints. -/
def showPath : List String → String
  | [key] => "(" ++ Text.quoted key ++ ",)"
  | keys => "(" ++ ", ".intercalate (keys.map Text.quoted) ++ ")"

/-- What is known about paths. -/
structure PathState where
  /-- The paths of tables that were declared. -/
  declared : List (List String) := []
  /-- The paths that count as declared from the next header on. -/
  pending : List (List String) := []
  /-- The paths of values that were written in one piece. -/
  complete : List (List String) := []

namespace PathState

def isDeclared (state : PathState) (path : List String) : Bool :=
  state.declared.contains path

/-- Whether a path leads to a value that was written in one piece, or into one. -/
def isComplete (state : PathState) (path : List String) : Bool :=
  state.complete.any fun known => known.isPrefixOf path

def declare (state : PathState) (path : List String) : PathState :=
  { state with declared := path :: state.declared }

/-- Marks the path of a value that was written in one piece. -/
def markComplete (state : PathState) (path : List String) : PathState :=
  { state with complete := path :: state.complete }

/-- Forgets what is known about a path and the paths that go on from it. -/
def forget (state : PathState) (path : List String) : PathState :=
  let other (known : List String) : Bool := !path.isPrefixOf known
  { state with declared := state.declared.filter other, complete := state.complete.filter other }

/-- Has the pending paths count as declared. -/
def settle (state : PathState) : PathState :=
  { state with declared := state.pending ++ state.declared, pending := [] }

end PathState

end Toml

end MemberDispatch
