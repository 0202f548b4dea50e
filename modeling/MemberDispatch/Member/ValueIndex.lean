import MemberDispatch.Class.Hierarchy

/-!
# Which parameter receives the value

For a function that is to be used as a member of values, the parameter that receives the value: one
declared with exactly the value's class, or else the only declared class that the value's class can
be passed for. Several such classes make the choice ambiguous. Answers are remembered per class;
`ValueIndex.rule` says what they are without that memory.
-/

namespace MemberDispatch

/-- Several declared classes could receive the value. -/
structure AmbiguousValue where
  cls : ClassId
  candidates : List (TypeKey × Nat)
  deriving DecidableEq, Repr

def AmbiguousValue.message (issue : AmbiguousValue) : String :=
  "Ambiguous value parameter for " ++ issue.cls.name ++ ": " ++
    ", ".intercalate (issue.candidates.map fun (key, position) =>
      key.name ++ "@" ++ toString position)

/-- The first position of every declared key, in the order of positions, and remembered
answers. -/
structure ValueIndex where
  first : List (TypeKey × Nat) := []
  answers : List (ClassId × Option Nat) := []
  deriving DecidableEq, Repr

namespace ValueIndex

/-- Records a position for a key that has none yet. Remembered answers are dropped. -/
def putIfAbsent (index : ValueIndex) (key : TypeKey) (position : Nat) : ValueIndex :=
  { first :=
      if (index.first.lookup key).isSome then index.first else index.first ++ [(key, position)]
    answers := [] }

/-- The index of declared keys from a position on. -/
def ofKeysFrom (index : ValueIndex) (position : Nat) : List TypeKey → ValueIndex
  | [] => index
  | key :: keys => ofKeysFrom (index.putIfAbsent key position) (position + 1) keys

/-- The index of the declared keys of a parameter list. -/
def ofKeys (keys : List TypeKey) : ValueIndex :=
  ofKeysFrom {} 0 keys

/-- The declared keys that a class can be passed for, with their positions. -/
def candidates (hierarchy : Hierarchy) (index : ValueIndex) (cls : ClassId) : List (TypeKey × Nat) :=
  index.first.filter fun (key, _) => hierarchy.assignable key cls

/-- The position that receives values of a class. -/
def rule (hierarchy : Hierarchy) (index : ValueIndex) (cls : ClassId) :
    Except AmbiguousValue (Option Nat) :=
  match index.first.lookup (.cls cls) with
  | some position => .ok (some position)
  | none => match index.candidates hierarchy cls with
    | [] => .ok none
    | [(_, position)] => .ok (some position)
    | candidates => .error ⟨cls, candidates⟩

/-- The position that receives values of a class, and the index with the answer remembered. -/
def positionFor (hierarchy : Hierarchy) (index : ValueIndex) (cls : ClassId) :
    Except AmbiguousValue (Option Nat) × ValueIndex :=
  match index.answers.lookup cls with
  | some answer => (.ok answer, index)
  | none => match index.rule hierarchy cls with
    | .ok answer => (.ok answer, { index with answers := index.answers ++ [(cls, answer)] })
    | .error issue => (.error issue, index)

/-- The number of distinct declared keys. -/
def size (index : ValueIndex) : Nat :=
  index.first.length

def display (index : ValueIndex) : String :=
  "TypeIndexMap(\x7b" ++
    ", ".intercalate (index.first.map fun (key, position) =>
      key.name ++ ": " ++ toString position) ++ "\x7d)"

end ValueIndex

end MemberDispatch
