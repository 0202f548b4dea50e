import MemberDispatch.Class.Hierarchy

/-!
# Values by class

A map from classes to values in which a class without an entry has that of its nearest ancestor.
Answers are remembered until the next registration; `DispatchMap.rule` says what they are without
that memory.
-/

namespace MemberDispatch

/-- Values registered for classes, in the order of first registration, and remembered answers. -/
structure DispatchMap (α : Type) where
  entries : List (ClassId × α) := []
  answers : List (ClassId × α) := []

namespace DispatchMap

variable {α : Type}

/-- Sets the value of a key, in its place if the key is there and at the end otherwise. -/
def put (key : ClassId) (value : α) : List (ClassId × α) → List (ClassId × α)
  | [] => [(key, value)]
  | (first, old) :: rest =>
      if first == key then (key, value) :: rest else (first, old) :: put key value rest

/-- Registers a value for a class, in place of an earlier one. -/
def register (map : DispatchMap α) (cls : ClassId) (value : α) : DispatchMap α :=
  { entries := put cls value map.entries, answers := [] }

/-- The value of the first class of a linearization that has one. -/
def rule (linearization : ClassId → List ClassId) (map : DispatchMap α) (cls : ClassId) : Option α :=
  (linearization cls).findSome? fun ancestor => map.entries.lookup ancestor

/-- The value for a class, and the map with the answer remembered. -/
def lookup (linearization : ClassId → List ClassId) (map : DispatchMap α) (cls : ClassId) :
    Option α × DispatchMap α :=
  match map.answers.lookup cls with
  | some value => (some value, map)
  | none => match map.rule linearization cls with
    | some value => (some value, { map with answers := map.answers ++ [(cls, value)] })
    | none => (none, map)

def contains (map : DispatchMap α) (cls : ClassId) : Bool :=
  (map.entries.lookup cls).isSome

/-- The registered classes, in the order of first registration. -/
def keys (map : DispatchMap α) : List ClassId :=
  map.entries.map (·.1)

/-- The number of registered classes. -/
def size (map : DispatchMap α) : Nat :=
  map.entries.length

end DispatchMap

end MemberDispatch
