/-!
# Slices

Stretches of a list given by positions that may lie outside of it or count from its end, the strict
stretch that refuses such positions, and the forms that clamp them.
-/

namespace MemberDispatch.Slice

variable {α : Type}

/-- The position that a bound stands for: a negative one counts from the end, and all are moved
into the list. -/
def bound (length : Nat) (position : Int) : Nat :=
  if position < 0 then (position + length).toNat else min position.toNat length

/-- The stretch between two bounds. -/
def between (items : List α) (start stop : Int) : List α :=
  let first := bound items.length start
  (items.drop first).take (bound items.length stop - first)

/-- The stretch up to a bound, or all where there is none. -/
def upTo (items : List α) : Option Int → List α
  | none => items
  | some stop => items.take (bound items.length stop)

theorem mem_of_mem_upTo {items : List α} {stop : Option Int} {item : α}
    (mem : item ∈ upTo items stop) : item ∈ items := by
  cases stop with
  | none => exact mem
  | some stop => exact List.mem_of_mem_take mem

theorem upTo_natCast (items : List α) (count : Nat) :
    upTo items (some (count : Int)) = items.take count := by
  have inside : ¬ (count : Int) < 0 := by omega
  have bounded : bound items.length count = min count items.length := if_neg inside
  change items.take (bound items.length count) = _
  rw [bounded, List.take_eq_take_iff]
  omega

/-- A stretch that does not lie in the list. -/
structure OutOfRange where
  start : Int
  stop : Int
  length : Nat
  deriving DecidableEq, Repr

/-- The stretch from one position to another or to the end; both must lie in the list and in that
order. -/
def strict (items : List α) (start : Int) (stop : Option Int) : Except OutOfRange (List α) :=
  let stop := stop.getD items.length
  if start < 0 || stop > items.length || start > stop then
    .error ⟨start, stop, items.length⟩
  else .ok (between items start stop)

/-- The stretch from one position, or the start if that is negative, to another one or the end. -/
def lenient (items : List α) (start : Int) (stop : Option Int) : List α :=
  between items (max start 0) (stop.getD items.length)

/-- The first items, none if their number is negative. -/
def left (items : List α) (count : Int) : List α :=
  upTo items (some (max count 0))

/-- The last items. A number beyond the length counts the start from the end. -/
def right (items : List α) (count : Int) : List α :=
  if count > 0 then between items (items.length - count) items.length else []

/-- A number of items from a position on. -/
def middle (items : List α) (start count : Int) : List α :=
  let start := max start 0
  between items start (start + max count 0)

end MemberDispatch.Slice
