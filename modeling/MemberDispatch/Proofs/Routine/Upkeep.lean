import MemberDispatch.Proofs.Host.Upkeep
import MemberDispatch.Proofs.Registry.Preparing
import MemberDispatch.Proofs.Routine.Basic

/-!
# Upkeep as a routine

Leaving sessions in order is a routine where all values count as known. What is left to see to are the
classes of objects: none is of a class that derives from that of pending calls.
-/

namespace MemberDispatch

open Act

/-- All values, with the faults that describing them may come to. -/
def Scope.everything (faults : Set Fault) : Scope where
  values := Set.univ
  faults := faults
  unset := trivial
  pending _ := trivial

/-- That every class of a world derives from that of all values, and none from that of pending calls
besides this one itself. -/
structure World.Ordinary (world : World) : Prop where
  declared : world.Declared
  objects (cls : ClassId) : .object ∈ world.hierarchy.linearization cls
  apart {cls : ClassId} (under : world.hierarchy.OfCalls cls) : cls = .builtin .pendingCall

theorem World.ordinary_start : World.Ordinary {} where
  declared := .start
  objects cls := by
    cases cls with
    | builtin kind => cases kind <;> decide
    | declared name => exact List.mem_cons_of_mem _ List.mem_cons_self
  apart {cls} under := by
    cases cls with
    | builtin kind =>
        unfold Hierarchy.OfCalls at under
        revert under
        cases kind <;> decide
    | declared name =>
        unfold Hierarchy.OfCalls at under
        rcases List.mem_cons.mp under with same | above
        · cases same
        · cases List.mem_singleton.mp above

section Objects

/-- A new object changes the class of no value but its own. -/
theorem Value.classOf_push (value : Value) (objects : Array Object) (object : Object) :
    value.classOf (objects.push object) = value.classOf objects ∨
      value.classOf (objects.push object) = object.cls := by
  cases value
  case object address =>
    by_cases fresh : address = objects.size
    · right
      simp only [classOf, Array.getElem?_push, if_pos fresh]
    · left
      simp only [classOf, Array.getElem?_push, if_neg fresh]
  all_goals exact Or.inl rfl

/-- What an object holds does not matter for classes. -/
theorem Value.classOf_modify (value : Value) (objects : Array Object) (address : ℕ)
    {change : Object → Object} (same : ∀ object, (change object).cls = object.cls) :
    value.classOf (objects.modify address change) = value.classOf objects := by
  cases value
  case object place =>
    simp only [classOf, Array.getElem?_modify]
    by_cases here : address = place
    · rw [if_pos here]
      cases objects[place]? with
      | none => rfl
      | some object => exact same object
    · rw [if_neg here]
  all_goals rfl

variable {world : World} {faults : Set Fault}

theorem Act.upholds_allocate (ordinary : world.Ordinary) {object : Object}
    (other : object.cls ≠ .builtin .pendingCall) :
    Upholds world (.everything faults) Set.univ Set.univ (allocate object) := by
  intro session order
  refine upheld_ok ⟨order.1, order.2, order.3, ?_, fun _ _ => trivial, order.6, order.7⟩ trivial
  intro value known
  change _ ∨ ¬ world.hierarchy.OfCalls (value.classOf (session.objects.push object))
  rcases value.classOf_push session.objects object with same | fresh
  · rw [same]
    exact order.values value known
  · right
    intro under
    rw [fresh] at under
    exact other (ordinary.apart under)

theorem Act.upholds_changeObject (address : ℕ) {change : Object → Object}
    (same : ∀ object, (change object).cls = object.cls) :
    Upholds world (.everything faults) Set.univ Set.univ (changeObject address change) := by
  refine upholds_modify ?_
  intro session order
  refine ⟨order.1, order.2, order.3, ?_, fun _ _ => trivial, order.6, order.7⟩
  intro value known
  change _ ∨ ¬ world.hierarchy.OfCalls (value.classOf (session.objects.modify address change))
  rw [value.classOf_modify session.objects address same]
  exact order.values value known

end Objects

/-- Leaving sessions in order is a routine. -/
def Act.Routine.upkeep {world : World} (ordinary : world.Ordinary) (faults : Set Fault) :
    Act.Routine where
  toHabit := Habit.upkeep world (.everything faults)
  get := fun _ order => upheld_ok order trivial
  allocate other := upholds_allocate ordinary other
  changeObject address _ same := upholds_changeObject address same

section Beginning

/-- No callable is of the class of pending calls. -/
theorem Callable.classOf_ne (callable : Callable) : callable.classOf ≠ .builtin .pendingCall := by
  unfold Callable.classOf
  split
  · split
    · nofun
    · split
      · nofun
      · nofun
    · nofun
  · split
    · nofun
    · nofun
  all_goals nofun

/-- Without objects, only pending calls are of their class. -/
theorem Value.classOf_start (value : Value) :
    (∃ id, value = .pending id) ∨ value.classOf #[] ≠ .builtin .pendingCall := by
  cases value
  case pending id => exact Or.inl ⟨id, rfl⟩
  case callable callable => exact Or.inr callable.classOf_ne
  all_goals exact Or.inr nofun

/-- The session that everything begins with is in order. -/
theorem World.Ordinary.inOrder_start {world : World} (ordinary : world.Ordinary)
    (faults : Set Fault) : Session.InOrder world (.everything faults) {} where
  hosts := nofun
  registries := nofun
  calls := nofun
  values value _ := by
    rcases value.classOf_start with pending | other
    · exact Or.inl pending
    · exact Or.inr fun under => other (ordinary.apart under)
  contents _ _ := trivial
  formats cls := by
    rw [Option.isSome_iff_ne_none]
    intro none
    cases List.findSome?_eq_none_iff.mp none .object (ordinary.objects cls)
  formatters := nofun

end Beginning

end MemberDispatch
