/-!
# Character tables

A set of characters is kept as the ascending list of code points at which membership changes, or
as runs of code points with a step. A map that shifts runs of characters is kept as those runs.
-/

namespace MemberDispatch.Text

/-- Membership of `point` after passing every change up to it, from the membership `inside` held
before the first change. -/
def changesInsideFrom (inside : Bool) : List Nat → Nat → Bool
  | [], _ => inside
  | change :: changes, point =>
      if point < change then inside else changesInsideFrom (!inside) changes point

/-- Whether `point` lies in the set whose membership changes at the given ascending points. -/
def changesInside (changes : List Nat) (point : Nat) : Bool :=
  changesInsideFrom false changes point

/-- Whether `point` lies in one of the runs of first, last and step. -/
def runsInside (runs : List (Nat × Nat × Nat)) (point : Nat) : Bool :=
  runs.any fun (first, last, step) =>
    first ≤ point && point ≤ last && (point - first) % step == 0

/-- The image of `point` under the first run that holds it, if any does. -/
def shiftWithin? (runs : List (Nat × Nat × Nat × Int)) (point : Nat) : Option Nat :=
  (runs.find? fun (first, last, step, _) =>
    first ≤ point && point ≤ last && (point - first) % step == 0).map
      fun (_, _, _, shift) => (point + shift : Int).toNat

end MemberDispatch.Text
