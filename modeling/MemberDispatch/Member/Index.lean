import MemberDispatch.Member.Basic

/-!
# The members of one name

An index holds members that share a name and lists them by arity, then by the ranks of their
converters; members that take the same arguments stay in the order in which they came. A table of
arities says which stretch of the list takes a number of arguments. `Index.candidates` is that
stretch, and `Index.members` the whole list.
-/

namespace MemberDispatch

/-- Members that share a name, in the order in which they came. -/
structure Index where
  name : String
  accepted : List Member := []

/-- Inserts a member behind those that do not come after it. -/
def insertMember (member : Member) : List Member → List Member
  | [] => [member]
  | first :: rest =>
      if member.before first then member :: first :: rest
      else first :: insertMember member rest

/-- The members in order; those that take the same arguments keep theirs. -/
def sortMembers (members : List Member) : List Member :=
  members.foldl (fun sorted member => insertMember member sorted) []

/-- The stretches of equal arity in an ordered list, each with its start and its end. -/
def arityStretches (start : Nat) : List Nat → List (Nat × Nat × Nat)
  | [] => []
  | arity :: arities =>
      match arityStretches (start + 1) arities with
      | (next, _, stop) :: stretches =>
          if next == arity then (arity, start, stop) :: stretches
          else (arity, start, start + 1) :: (next, start + 1, stop) :: stretches
      | [] => [(arity, start, start + 1)]

/-- An ordered list of members with the stretch of every arity. -/
structure Snapshot where
  members : List Member
  stretches : List (Nat × Nat × Nat)

/-- Orders members and finds their stretches. -/
def Snapshot.ofMembers (members : List Member) : Snapshot :=
  let sorted := sortMembers members
  ⟨sorted, arityStretches 0 (sorted.map Member.arity)⟩

namespace Snapshot

def size (snapshot : Snapshot) : Nat :=
  snapshot.members.length

/-- The numbers of arguments that some member takes, ascending. -/
def arities (snapshot : Snapshot) : List Nat :=
  snapshot.stretches.map (·.1)

/-- The largest number of arguments that a member takes. -/
def maxArity (snapshot : Snapshot) : Nat :=
  ((snapshot.stretches.getLast?).map (·.1)).getD 0

/-- The members that take a number of arguments, in order. -/
def candidates (snapshot : Snapshot) (arity : Nat) : List Member :=
  match snapshot.stretches.find? fun (candidate, _, _) => candidate == arity with
  | some (_, start, stop) => (snapshot.members.drop start).take (stop - start)
  | none => []

/-- The display of an index of some name that has these members. -/
def display (snapshot : Snapshot) (name : String) : String :=
  "InvokerIndex(" ++ Text.quoted name ++ ", size=" ++ toString snapshot.size ++
    ", max_arity=" ++ toString snapshot.maxArity ++ ")"

end Snapshot

namespace Index

def snapshot (index : Index) : Snapshot :=
  Snapshot.ofMembers index.accepted

def members (index : Index) : List Member :=
  index.snapshot.members

def size (index : Index) : Nat :=
  index.snapshot.size

/-- The numbers of arguments that some member takes, ascending. -/
def arities (index : Index) : List Nat :=
  index.snapshot.arities

/-- The largest number of arguments that a member takes. -/
def maxArity (index : Index) : Nat :=
  index.snapshot.maxArity

/-- Adds a member behind those that are there. -/
def add (index : Index) (member : Member) : Index :=
  { index with accepted := index.accepted ++ [member] }

/-- Adds each member that takes other arguments than all members that are there. -/
def merge (index : Index) (members : List Member) : Index :=
  members.foldl
    (fun index member =>
      if index.accepted.any member.sameArguments then index else index.add member)
    index

/-- The members that take a number of arguments, in order. -/
def candidates (index : Index) (arity : Nat) : List Member :=
  index.snapshot.candidates arity

/-- The display of the index, with its name as it is to be shown. -/
def display (index : Index) : String :=
  index.snapshot.display index.name

/-- The index of names that have no members. -/
def none : Index := ⟨"", []⟩

end Index

end MemberDispatch
