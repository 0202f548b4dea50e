import MemberDispatch.Proofs.Routine.Upkeep

/-!
# Commands and the order of sessions

Over the shared registry and a host of its own, a command leaves a session in order: making them does,
and so does looking at the members of a class.
-/

namespace MemberDispatch

open Act

variable {world : World} {faults : Set Fault}

/-- Every class has a view in a registry that was reached, which is reached again. -/
theorem Act.upholds_viewOf (declared : world.Declared) (id : ℕ) (cls : ClassId) :
    Upholds world (.everything faults) Set.univ { fault | fault.escapes = true }
      (onRegistry id (Registry.viewOf world cls)) := by
  refine upholds_onRegistry id ?_ rfl
  intro registry reached
  have performed := reached.perform (.get cls)
  rw [Registry.perform_eq, Registry.Operation.work, Registry.runFrom_discard] at performed
  rcases reached with ⟨table, operations, rfl⟩
  rcases Registry.viewOf_answers declared table operations cls with ⟨view, answered⟩
  exact ⟨⟨view, trivial, answered⟩, performed⟩

theorem Act.upholds_addRegistry {work : RegistryM Unit}
    (reached : (RegistryM.runOn {} work).2.1.Reached world) :
    Upholds world (.everything faults) Set.univ (Set.range Fault.configuration)
      (addRegistry work) := by
  intro session order
  simp only [addRegistry, runFrom_bind, runFrom_get, runFrom_set]
  rcases run : RegistryM.runOn {} work with ⟨outcome, next, events⟩
  rw [run] at reached
  cases outcome with
  | error issue =>
      exact upheld_error ⟨order.1, order.2, order.3, order.4, order.5, order.6, order.7⟩
        (Set.mem_range_self issue)
  | ok result =>
      refine upheld_ok ⟨order.1, ?_, order.3, order.4, order.5, order.6, order.7⟩ trivial
      intro id registry here
      change (session.registries.push next)[id]? = some registry at here
      rw [Array.getElem?_push] at here
      split at here
      · cases here
        exact reached
      · exact order.registries here

/-- The shared registry is found or made, or there is a complaint. -/
theorem Act.upholds_sharedRegistry :
    Upholds world (.everything faults) Set.univ (Set.range Fault.configuration)
      (sharedRegistry world) := by
  unfold sharedRegistry
  have looks : Upholds world (.everything faults) Set.univ (Set.range Fault.configuration)
      (get : Act Session) :=
    fun _ order => upheld_ok order trivial
  refine looks.bind ?_
  intro session _
  split
  · exact upholds_pure trivial
  · refine (upholds_addRegistry (Registry.reached_prepare world)).bind ?_
    intro id _
    have marks : Upholds world (.everything faults) Set.univ (Set.range Fault.configuration)
        (modify fun session => { session with shared := some id } : Act Unit) :=
      upholds_modify fun _ order =>
        ⟨order.1, order.2, order.3, order.4, order.5, order.6, order.7⟩
    exact marks.bind fun _ _ => upholds_pure trivial

theorem Act.upholds_addHost (ordinary : world.Ordinary) (registry : ℕ) :
    Upholds world (.everything faults) Set.univ Set.univ (addHost registry) := by
  intro session order
  refine upheld_ok ⟨?_, order.2, order.3, order.4, order.5, order.6, order.7⟩ trivial
  intro id host here
  change (session.hosts.push (.standard registry))[id]? = some host at here
  rw [Array.getElem?_push] at here
  split at here
  · cases here
    exact Host.equipped_standard ordinary.objects registry
  · exact order.hosts here


end MemberDispatch
