import MemberDispatch.Proofs.Class.Coherence

/-!
# Walking up the bases

The members of a class come from the classes above it, which are met depth first: the class, then
everything above its first base, then everything above its second. A class above several bases is
met once for each of them. Where no class has more than one base the walk is the linearization; a
class above two bases can come sooner in the walk than in the linearization.
-/

namespace MemberDispatch

namespace Hierarchy

/-- The classes that are met from a class on, at most `depth` generations up. -/
def walkWithin (hierarchy : Hierarchy) : ℕ → ClassId → List ClassId
  | 0, _ => []
  | depth + 1, cls => cls :: (hierarchy.bases cls).flatMap (hierarchy.walkWithin depth)

/-- The class, then the walk from each of its bases. -/
def walk (hierarchy : Hierarchy) (cls : ClassId) : List ClassId :=
  hierarchy.walkWithin (hierarchy.linearization cls).length cls

variable {hierarchy : Hierarchy} {cls ancestor : ClassId}

theorem walkWithin_congr (coherent : hierarchy.Coherent) {depth other : ℕ}
    (enough : (hierarchy.linearization cls).length ≤ depth)
    (sufficient : (hierarchy.linearization cls).length ≤ other) :
    hierarchy.walkWithin depth cls = hierarchy.walkWithin other cls := by
  have nonempty := List.length_pos_of_mem (coherent.self_mem cls)
  induction depth generalizing cls other with
  | zero => omega
  | succ depth ih =>
      rcases other with _ | other
      · omega
      · rw [walkWithin, walkWithin]
        congr 1
        apply List.flatMap_congr
        intro base mem
        have shorter := coherent.base_shorter mem
        exact ih (by omega) (by omega) (List.length_pos_of_mem (coherent.self_mem base))

theorem walk_eq (coherent : hierarchy.Coherent) (cls : ClassId) :
    hierarchy.walk cls = cls :: (hierarchy.bases cls).flatMap hierarchy.walk := by
  rw [walk, walkWithin_congr coherent le_rfl (Nat.le_succ _), walkWithin]
  congr 1
  apply List.flatMap_congr
  intro base mem
  exact walkWithin_congr coherent (coherent.base_shorter mem).le le_rfl

/-- What holds of a class whenever it holds of all its bases holds of every class. -/
theorem Coherent.induction (coherent : hierarchy.Coherent) {motive : ClassId → Prop}
    (step : ∀ cls, (∀ base ∈ hierarchy.bases cls, motive base) → motive cls) (cls : ClassId) :
    motive cls := by
  induction generations : (hierarchy.linearization cls).length
    using Nat.strong_induction_on generalizing cls with
  | _ length ih =>
      apply step
      intro base mem
      exact ih _ (generations ▸ coherent.base_shorter mem) base rfl

theorem linearization_subset_of_mem_walk (coherent : hierarchy.Coherent)
    (mem : ancestor ∈ hierarchy.walk cls) :
    hierarchy.linearization ancestor ⊆ hierarchy.linearization cls := by
  induction cls using coherent.induction with
  | step cls ih =>
      rw [walk_eq coherent, List.mem_cons, List.mem_flatMap] at mem
      rcases mem with rfl | ⟨base, above, mem⟩
      · exact List.Subset.refl _
      · exact List.Subset.trans (ih base above mem) (coherent.base_subset above)

end Hierarchy

namespace Linearization

/-- Merging a sequence with a beginning of it gives the sequence, if there is an answer. -/
theorem merge_of_isPrefix {steps : ℕ} {sequence start merged : List ClassId}
    (begins : start <+: sequence) (enough : sequence.length < steps)
    (merges : merge steps [sequence, start] = some merged) : merged = sequence := by
  induction steps generalizing sequence start merged with
  | zero => omega
  | succ steps ih =>
      cases sequence with
      | nil =>
          obtain rfl := List.prefix_nil.mp begins
          simpa [merge, eq_comm] using merges
      | cons head tail =>
          rw [List.length_cons] at enough
          have further : start.tail <+: tail ∧
              (start = [] ∨ start = head :: start.tail) := by
            cases start with
            | nil => simp
            | cons first others =>
                rcases List.cons_prefix_cons.mp begins with ⟨rfl, begins⟩
                simpa using begins
          -- A head that came again behind itself could not be chosen, and there would be no answer.
          have fresh : head ∉ tail := by
            intro repeated
            rcases further.2 with empty | same
            · simp [merge, candidate?, repeated, empty] at merges
            · rw [same] at merges
              simp [merge, candidate?, repeated] at merges
          have others : withoutHead head [head :: tail, start] = [tail, start.tail] := by
            rcases further.2 with empty | same
            · simp [withoutHead, empty]
            · rw [same]
              simp [withoutHead]
          have chosen : candidate? [head :: tail, start] = some head := by
            have absent : head ∉ start.tail := fun mem => fresh (further.1.subset mem)
            simp [candidate?, fresh, absent]
          simp only [merge, chosen, others, List.all_cons, List.isEmpty_cons, Bool.false_and,
            Bool.false_eq_true, if_false, Option.bind_eq_bind, Option.bind_some,
            Option.bind_eq_some_iff, Option.pure_def, Option.some.injEq] at merges
          rcases merges with ⟨rest, merges, rfl⟩
          rw [ih further.1 (by omega) merges]

theorem tailAfter_sublist (cls : ClassId) (sequence : List ClassId) :
    (tailAfter cls sequence).Sublist sequence := by
  cases sequence with
  | nil => exact List.nil_sublist _
  | cons head tail =>
      simp only [tailAfter]
      split <;> simp

theorem mem_of_merge {steps : ℕ} {sequences : List (List ClassId)} {merged : List ClassId}
    (merges : merge steps sequences = some merged) {cls : ClassId} (mem : cls ∈ merged) :
    ∃ sequence ∈ sequences, cls ∈ sequence := by
  induction steps generalizing sequences merged with
  | zero => simp_all [merge]
  | succ steps ih =>
      simp only [merge] at merges
      split at merges
      · simp_all
      · simp only [Option.bind_eq_bind, Option.bind_eq_some_iff, Option.pure_def,
          Option.some.injEq] at merges
        rcases merges with ⟨head, chosen, rest, others, rfl⟩
        rcases List.mem_cons.mp mem with rfl | mem
        · rcases exists_head_of_candidate chosen with ⟨tail, first⟩
          exact ⟨_, first, List.mem_cons_self⟩
        · rcases ih others mem with ⟨sequence, there, mem⟩
          rw [withoutHead_eq_map, List.mem_map] at there
          rcases there with ⟨whole, there, rfl⟩
          exact ⟨whole, there, (tailAfter_sublist head whole).subset mem⟩

theorem linearize_singleton {cls base : ClassId} {linearization : ClassId → List ClassId}
    (first : (linearization base).head? = some base) {line : List ClassId}
    (linear : linearize cls [base] linearization = some line) :
    line = cls :: linearization base := by
  rcases List.head?_eq_some_iff.mp first with ⟨tail, shape⟩
  have begins : [base] <+: linearization base := ⟨tail, shape.symm⟩
  simp only [linearize, List.map_cons, List.map_nil, List.singleton_append,
    Option.map_eq_some_iff] at linear
  rcases linear with ⟨merged, merges, rfl⟩
  have room : (linearization base).length <
      ([linearization base, [base]].flatten).length + 1 := by
    simp only [List.flatten_cons, List.flatten_nil, List.append_nil, List.length_append]
    omega
  rw [merge_of_isPrefix begins room merges]

end Linearization

theorem BuiltinClass.linearize_eq (world : World) (kind : BuiltinClass) :
    linearize (.builtin kind) (world.bases (.builtin kind)) world.linearization =
      some (world.linearization (.builtin kind)) := by
  cases kind <;> rfl

namespace World

variable {world : World} {id : ClassId}

theorem linearize_congr {cls : ClassId} {bases : List ClassId} {left right : ClassId → List ClassId}
    (same : ∀ base ∈ bases, left base = right base) :
    linearize cls bases left = linearize cls bases right := by
  rw [linearize, linearize, List.map_congr_left same]

/-- The linearization of every class is made from those of its bases. -/
theorem Declared.linearize_eq (declared : world.Declared) (id : ClassId) :
    linearize id (world.bases id) world.linearization = some (world.linearization id) := by
  induction declared generalizing id with
  | start =>
      cases id with
      | builtin kind => exact kind.linearize_eq _
      | declared name => rfl
  | @others world changed declared same ih =>
      have sameBases : changed.bases id = world.bases id := by
        cases id <;> simp [bases, class_congr same]
      rw [linearization_congr same, sameBases]
      exact ih id
  | @cls world declared cls fresh known agree ih =>
      have unchanged {base : ClassId} (knows : world.Knows base) :
          (world.addClass cls).linearization base = world.linearization base :=
        (same_addClass fresh (ne_of_knows fresh knows)).1
      by_cases new : id = .declared cls.name
      · have newBases : (world.addClass cls).bases id = cls.bases := by
          simp [new, bases, class_addClass fresh]
        rcases Option.isSome_iff_exists.mp agree with ⟨line, linear⟩
        have newLine : (world.addClass cls).linearization id = line := by
          simp [new, linearization, class_addClass fresh, linear]
        rw [newBases, newLine, linearize_congr fun base mem => unchanged (known base mem), new]
        exact linear
      · rcases same_addClass fresh new with ⟨sameLine, sameBases, -⟩
        rw [sameBases, sameLine,
          linearize_congr fun base mem => unchanged (declared.basesFit.knows_base mem)]
        exact ih id

theorem Declared.mem_linearization_iff (declared : world.Declared) {ancestor : ClassId} :
    ancestor ∈ world.linearization id ↔
      ancestor = id ∨ ∃ base ∈ world.bases id, ancestor ∈ world.linearization base := by
  constructor
  · intro mem
    have linear := declared.linearize_eq id
    simp only [linearize, Option.map_eq_some_iff] at linear
    rcases linear with ⟨merged, merges, line⟩
    rw [← line] at mem
    rcases List.mem_cons.mp mem with rfl | mem
    · exact .inl rfl
    · rcases Linearization.mem_of_merge merges mem with ⟨sequence, there, mem⟩
      rcases List.mem_append.mp there with there | there
      · rcases List.mem_map.mp there with ⟨base, above, rfl⟩
        exact .inr ⟨base, above, mem⟩
      · obtain rfl := List.mem_singleton.mp there
        exact .inr ⟨ancestor, mem, declared.coherent.self_mem ancestor⟩
  · rintro (rfl | ⟨base, above, mem⟩)
    · exact declared.coherent.self_mem ancestor
    · exact declared.coherent.base_subset above mem

theorem Declared.mem_walk_iff (declared : world.Declared) {ancestor : ClassId} :
    ancestor ∈ world.hierarchy.walk id ↔ ancestor ∈ world.linearization id := by
  have coherent := declared.coherent
  induction id using coherent.induction with
  | step id ih =>
      rw [Hierarchy.walk_eq coherent, declared.mem_linearization_iff, List.mem_cons,
        List.mem_flatMap]
      constructor
      · rintro (rfl | ⟨base, above, mem⟩)
        · exact .inl rfl
        · exact .inr ⟨base, above, (ih base above).mp mem⟩
      · rintro (rfl | ⟨base, above, mem⟩)
        · exact .inl rfl
        · exact .inr ⟨base, above, (ih base above).mpr mem⟩

/-- Without a second base anywhere above a class, its walk is its linearization. -/
theorem Declared.walk_eq_linearization (declared : world.Declared)
    (single : ∀ ancestor ∈ world.linearization id, (world.bases ancestor).length ≤ 1) :
    world.hierarchy.walk id = world.linearization id := by
  have coherent := declared.coherent
  induction id using coherent.induction with
  | step id ih =>
      have linear := declared.linearize_eq id
      have few := single id (coherent.self_mem id)
      rw [Hierarchy.walk_eq coherent]
      change id :: (world.bases id).flatMap world.hierarchy.walk = _
      rcases shape : world.bases id with _ | ⟨base, _ | ⟨second, others⟩⟩
      · rw [shape] at linear
        simpa [linearize, Linearization.merge] using linear
      · have above : base ∈ world.bases id := by simp [shape]
        rw [shape] at linear
        rw [Linearization.linearize_singleton (declared.head_linearization base) linear,
          List.flatMap_singleton, ih base above fun ancestor mem =>
            single ancestor (coherent.base_subset above mem)]
      · simp [shape] at few

end World

end MemberDispatch
