import MemberDispatch.Proofs.Class.Walk

/-!
# Priority of classes

A linearization names every class once, and the linearization of an ancestor is part of it in the same
order. Of several classes that something is registered for, the one that derives from the others
comes first.
-/

namespace MemberDispatch

namespace Linearization

theorem not_mem_tail_of_candidate {sequences : List (List ClassId)} {cls : ClassId}
    (found : candidate? sequences = some cls) {sequence : List ClassId} (mem : sequence ∈ sequences) :
    cls ∉ sequence.tail := by
  obtain ⟨first, _, chosen⟩ := List.exists_of_findSome?_eq_some found
  cases first with
  | nil => cases chosen
  | cons head rest =>
      simp only at chosen
      split at chosen
      · cases chosen
      · rename_i fresh
        obtain rfl := Option.some.inj chosen
        intro behind
        apply fresh
        rw [List.any_eq_true]
        exact ⟨sequence, mem, List.contains_iff_mem.mpr behind⟩

theorem not_mem_tailAfter {cls : ClassId} {sequence : List ClassId} (fresh : cls ∉ sequence.tail) :
    cls ∉ tailAfter cls sequence := by
  cases sequence with
  | nil => exact List.not_mem_nil
  | cons head rest =>
      rw [tailAfter]
      split
      · exact fresh
      · rename_i other
        rintro (_ | ⟨_, mem⟩)
        · exact other (beq_self_eq_true cls)
        · exact fresh mem

/-- A merge names every class once: what was taken is in no sequence any more. -/
theorem nodup_of_merge {steps : ℕ} {sequences : List (List ClassId)} {merged : List ClassId}
    (merges : merge steps sequences = some merged) : merged.Nodup := by
  induction steps generalizing sequences merged with
  | zero =>
      obtain rfl := Option.some.inj merges
      exact List.nodup_nil
  | succ steps ih =>
      simp only [merge] at merges
      split at merges
      · obtain rfl := Option.some.inj merges
        exact List.nodup_nil
      · simp only [Option.bind_eq_bind, Option.bind_eq_some_iff, Option.pure_def,
          Option.some.injEq] at merges
        rcases merges with ⟨head, chosen, rest, others, rfl⟩
        apply List.nodup_cons.mpr
        refine ⟨fun again => ?_, ih others⟩
        rcases mem_of_merge others again with ⟨sequence, there, mem⟩
        rw [withoutHead_eq_map, List.mem_map] at there
        rcases there with ⟨whole, there, rfl⟩
        exact not_mem_tailAfter (not_mem_tail_of_candidate chosen there) mem

end Linearization

namespace World.Declared

variable {world : World} {id ancestor : ClassId}

/-- The linearization of an ancestor is part of that of a class, in the same order. -/
theorem linearization_sublist (declared : world.Declared) (above : ancestor ∈ world.linearization id) :
    (world.linearization ancestor).Sublist (world.linearization id) := by
  have coherent := declared.coherent
  induction id using coherent.induction with
  | step id ih =>
      rcases declared.mem_linearization_iff.mp above with rfl | ⟨base, mem, above⟩
      · exact List.Sublist.refl _
      · obtain ⟨merged, line, bases⟩ :=
          Linearization.sublist_of_linearize (declared.linearize_eq id)
        rw [line]
        exact ((ih base mem above).trans (bases base mem)).cons id

theorem not_mem_linearization_of_base (declared : world.Declared) {base : ClassId}
    (mem : base ∈ world.bases id) : id ∉ world.linearization base := by
  intro below
  have shorter := declared.coherent.base_shorter mem
  have longer := (declared.linearization_sublist below).length_le
  exact absurd shorter (Nat.not_lt.mpr longer)

theorem nodup_linearization (declared : world.Declared) (id : ClassId) :
    (world.linearization id).Nodup := by
  have linear := declared.linearize_eq id
  simp only [linearize, Option.map_eq_some_iff] at linear
  rcases linear with ⟨merged, merges, line⟩
  rw [← line]
  apply List.nodup_cons.mpr
  refine ⟨fun again => ?_, Linearization.nodup_of_merge merges⟩
  rcases Linearization.mem_of_merge merges again with ⟨sequence, there, mem⟩
  rcases List.mem_append.mp there with there | there
  · rcases List.mem_map.mp there with ⟨base, above, rfl⟩
    exact declared.not_mem_linearization_of_base above mem
  · obtain rfl := List.mem_singleton.mp there
    exact declared.not_mem_linearization_of_base mem (declared.coherent.self_mem id)

/-- Of two classes that have an entry, the one that derives from the other is found first. -/
theorem findSome_linearization (declared : world.Declared) {α : Type} {entry : ClassId → Option α}
    {first second : ClassId} {value : α} (found : entry first = some value)
    (only : ∀ other, other ≠ first → other ≠ second → entry other = none)
    (above : first ∈ world.linearization id) (derives : second ∈ world.linearization first)
    (other : first ≠ second) : (world.linearization id).findSome? entry = some value := by
  have ordered : [first, second].Sublist (world.linearization id) := by
    obtain ⟨tail, line⟩ := List.head?_eq_some_iff.mp (declared.head_linearization first)
    apply List.Sublist.trans _ (declared.linearization_sublist above)
    rw [line] at derives ⊢
    rcases List.mem_cons.mp derives with same | behind
    · exact absurd same.symm other
    · exact (List.singleton_sublist.mpr behind).cons_cons first
  have once := declared.nodup_linearization id
  generalize world.linearization id = line at ordered once
  induction line with
  | nil => cases ordered
  | cons cls line ih =>
      obtain ⟨fresh, once⟩ := List.nodup_cons.mp once
      rw [List.findSome?_cons]
      cases ordered with
      | cons_cons _ behind => rw [found]
      | cons _ ordered =>
          have apart {named : ClassId} (mem : named ∈ [first, second]) : cls ≠ named := by
            rintro rfl
            exact fresh (ordered.subset mem)
          rw [only cls (apart (.head _)) (apart (.tail _ (.head _)))]
          exact ih ordered once

end World.Declared

end MemberDispatch
