import MemberDispatch.Class.Id

/-!
# Linearization

The order in which a class and its ancestors are searched for a member. It keeps every class in
front of its ancestors and the bases of a class in their given order: again and again it takes the
first head of the remaining sequences that stands in no tail.
-/

namespace MemberDispatch

namespace Linearization

/-- The first head that is in the tail of no sequence. -/
def candidate? (sequences : List (List ClassId)) : Option ClassId :=
  sequences.findSome? fun
    | [] => none
    | head :: _ => if sequences.any fun sequence => sequence.tail.contains head then none else some head

def withoutHead (cls : ClassId) (sequences : List (List ClassId)) : List (List ClassId) :=
  sequences.map fun
    | [] => []
    | head :: rest => if head == cls then rest else head :: rest

/-- Merges sequences into one that respects the order of each, if there is one. Every step takes
at least one element, so the number of elements bounds the steps. -/
def merge : Nat → List (List ClassId) → Option (List ClassId)
  | 0, _ => some []
  | steps + 1, sequences =>
      if sequences.all List.isEmpty then some []
      else do
        let cls ← candidate? sequences
        let rest ← merge steps (withoutHead cls sequences)
        return cls :: rest

end Linearization

/-- The linearization of a class over bases with known linearizations, if the bases agree. -/
def linearize (cls : ClassId) (bases : List ClassId) (linearization : ClassId → List ClassId) :
    Option (List ClassId) :=
  let sequences := bases.map linearization ++ [bases]
  (Linearization.merge (sequences.flatten.length + 1) sequences).map (cls :: ·)

end MemberDispatch
