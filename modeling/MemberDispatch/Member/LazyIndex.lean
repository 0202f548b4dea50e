import MemberDispatch.Member.Index

/-!
# Indexes that sort when they are read

An index that may still grow only collects its members. The first who reads it makes the snapshot, which
is the members in order with their stretches, and later readers find it there until members are added.
Merging members of which none is new leaves it where it is. One index is closed: it stands for all names
that have no members, and refuses to take any.
-/

namespace MemberDispatch

/-- An index together with the snapshot that readers left since members were added. -/
structure LazyIndex where
  index : Index
  snapshot? : Option Snapshot := none
  /-- Whether the index refuses members. -/
  isClosed : Bool := false

namespace LazyIndex

def ofMembers (name : String) (members : List Member) : LazyIndex :=
  { index := ⟨name, members⟩ }

/-- The index of names that have no members. -/
def closed : LazyIndex :=
  { index := .none, isClosed := true }

/-- The snapshot, which is made if it is not there, and the index with it. -/
def read (lazy : LazyIndex) : Snapshot × LazyIndex :=
  match lazy.snapshot? with
  | some snapshot => (snapshot, lazy)
  | none => (lazy.index.snapshot, { lazy with snapshot? := some lazy.index.snapshot })

def add (lazy : LazyIndex) (member : Member) : LazyIndex :=
  { lazy with index := lazy.index.add member, snapshot? := none }

/-- Adds each member that takes other arguments than all members that are there, and counts them. -/
def merge (lazy : LazyIndex) (members : List Member) : Nat × LazyIndex :=
  let (added, index) := members.foldl
    (fun (added, index) member =>
      if index.accepted.any member.sameArguments then (added, index)
      else (added + 1, index.add member))
    (0, lazy.index)
  (added, { lazy with index, snapshot? := if added == 0 then lazy.snapshot? else none })

end LazyIndex

end MemberDispatch
