import Mathlib.Algebra.Order.BigOperators.Group.List
import Mathlib.Algebra.Order.Group.Nat
import MemberDispatch.Class.Hierarchy

/-!
# Coherent hierarchies

What the registry needs to know about classes: a class stands in its own linearization, the
linearization of a base is part of it and shorter, and a class counts as a subclass of everything in
its linearization. Every world whose classes were declared one after the other, each over bases that
are there and whose orders agree, has such a hierarchy. Merging keeps each sequence as a
subsequence; the induction on the steps of the merge needs as many of them as there are elements.
-/

namespace MemberDispatch

namespace Linearization

theorem exists_head_of_candidate {sequences : List (List ClassId)} {cls : ClassId}
    (found : candidate? sequences = some cls) : ∃ rest, cls :: rest ∈ sequences := by
  obtain ⟨sequence, mem, chosen⟩ := List.exists_of_findSome?_eq_some found
  cases sequence with
  | nil => simp at chosen
  | cons head rest =>
      simp only at chosen
      split at chosen
      · simp at chosen
      · obtain rfl := Option.some.inj chosen
        exact ⟨rest, mem⟩

/-- A sequence without a class at its head. -/
def tailAfter (cls : ClassId) : List ClassId → List ClassId
  | [] => []
  | head :: rest => if head == cls then rest else head :: rest

theorem withoutHead_eq_map (cls : ClassId) (sequences : List (List ClassId)) :
    withoutHead cls sequences = sequences.map (tailAfter cls) := by
  unfold withoutHead
  refine List.map_congr_left fun sequence _ => ?_
  cases sequence <;> rfl

theorem length_tailAfter_le (cls : ClassId) (sequence : List ClassId) :
    (tailAfter cls sequence).length ≤ sequence.length := by
  cases sequence with
  | nil => exact le_rfl
  | cons head rest =>
      simp only [tailAfter]
      split <;> simp

theorem length_flatten_withoutHead_lt {cls : ClassId} {rest : List ClassId}
    {sequences : List (List ClassId)} (mem : cls :: rest ∈ sequences) :
    (withoutHead cls sequences).flatten.length < sequences.flatten.length := by
  simp only [withoutHead_eq_map, List.length_flatten, List.map_map]
  refine List.sum_lt_sum _ _ (fun sequence _ => length_tailAfter_le cls sequence)
    ⟨cls :: rest, mem, ?_⟩
  simp [tailAfter]

/-- A merge keeps every sequence as a subsequence. -/
theorem sublist_of_merge {steps : ℕ} {sequences : List (List ClassId)} {merged : List ClassId}
    (enough : sequences.flatten.length < steps) (merges : merge steps sequences = some merged)
    {sequence : List ClassId} (mem : sequence ∈ sequences) : sequence.Sublist merged := by
  induction steps generalizing sequences merged sequence with
  | zero => exact absurd enough (Nat.not_lt_zero _)
  | succ steps ih =>
      simp only [merge] at merges
      split at merges
      · rename_i finished
        obtain rfl : sequence = [] := by simpa using List.all_eq_true.mp finished sequence mem
        exact List.nil_sublist _
      · simp only [Option.bind_eq_bind, Option.bind_eq_some_iff, Option.pure_def,
          Option.some.injEq] at merges
        obtain ⟨cls, chosen, rest, others, rfl⟩ := merges
        obtain ⟨tail, head_mem⟩ := exists_head_of_candidate chosen
        have shorter := length_flatten_withoutHead_lt head_mem
        -- What is left of each sequence without the chosen head is kept in the rest of the merge.
        have kept : (tailAfter cls sequence).Sublist rest := by
          refine ih (by omega) others ?_
          rw [withoutHead_eq_map]
          exact List.mem_map_of_mem mem
        cases sequence with
        | nil => exact List.nil_sublist _
        | cons head sequence =>
            simp only [tailAfter] at kept
            split at kept
            · rename_i same
              rw [beq_iff_eq.mp same]
              exact kept.cons_cons cls
            · exact kept.cons cls

theorem sublist_of_linearize {cls : ClassId} {bases : List ClassId}
    {linearization : ClassId → List ClassId} {line : List ClassId}
    (linear : linearize cls bases linearization = some line) :
    ∃ merged, line = cls :: merged ∧ ∀ base ∈ bases, (linearization base).Sublist merged := by
  simp only [linearize, Option.map_eq_some_iff] at linear
  obtain ⟨merged, merges, rfl⟩ := linear
  refine ⟨merged, rfl, fun base mem => sublist_of_merge (Nat.lt_succ_self _) merges ?_⟩
  exact List.mem_append_left _ (List.mem_map_of_mem mem)

end Linearization

/-- That a hierarchy fits together. -/
structure Hierarchy.Coherent (hierarchy : Hierarchy) : Prop where
  self_mem (cls : ClassId) : cls ∈ hierarchy.linearization cls
  base_subset {cls base : ClassId} (mem : base ∈ hierarchy.bases cls) :
    hierarchy.linearization base ⊆ hierarchy.linearization cls
  base_shorter {cls base : ClassId} (mem : base ∈ hierarchy.bases cls) :
    (hierarchy.linearization base).length < (hierarchy.linearization cls).length
  isSubclass_of_mem {cls ancestor : ClassId} (mem : ancestor ∈ hierarchy.linearization cls) :
    hierarchy.isSubclass cls ancestor = true

theorem BuiltinClass.mem_linearization (kind : BuiltinClass) : kind ∈ kind.linearization := by
  cases kind <;> decide

theorem BuiltinClass.head_linearization (kind : BuiltinClass) :
    kind.linearization.head? = some kind := by
  cases kind <;> rfl

theorem BuiltinClass.base_linearization (kind : BuiltinClass) :
    ∀ base ∈ kind.bases, (∀ ancestor ∈ base.linearization, ancestor ∈ kind.linearization) ∧
      base.linearization.length < kind.linearization.length := by
  cases kind <;> decide

namespace World

/-- Whether a class is a built-in one or declared. -/
def Knows (world : World) : ClassId → Prop
  | .builtin _ => True
  | .declared name => (world.class? name).isSome

instance (world : World) (id : ClassId) : Decidable (world.Knows id) :=
  match id with
  | .builtin _ => .isTrue trivial
  | .declared name => inferInstanceAs (Decidable ((world.class? name).isSome = true))

/-- That the classes of a world were declared one after the other: every name once, over bases that
are there and whose orders agree. -/
inductive Declared : World → Prop
  | start : Declared {}
  | others {world changed : World} (declared : Declared world)
      (same : changed.classes = world.classes) : Declared changed
  | cls {world : World} (declared : Declared world) (cls : ClassDecl)
      (fresh : world.class? cls.name = none) (known : ∀ base ∈ cls.bases, world.Knows base)
      (agree : (linearize (.declared cls.name) cls.bases world.linearization).isSome) :
      Declared (world.addClass cls)

variable {world : World} {cls : ClassDecl} {id base : ClassId}

/-- What holds of the bases of a world's classes. -/
structure BasesFit (world : World) : Prop where
  known {name : String} {cls : ClassDecl} (declaration : world.class? name = some cls) :
    ∀ base ∈ cls.bases, world.Knows base
  self_mem (cls : ClassId) : cls ∈ world.linearization cls
  base_subset {cls base : ClassId} (mem : base ∈ world.bases cls) :
    world.linearization base ⊆ world.linearization cls
  base_shorter {cls base : ClassId} (mem : base ∈ world.bases cls) :
    (world.linearization base).length < (world.linearization cls).length

theorem class_addClass (fresh : world.class? cls.name = none) (name : String) :
    (world.addClass cls).class? name =
      if name = cls.name then
        some { cls with linearization := (linearize (.declared cls.name) cls.bases
          world.linearization).getD (.declared cls.name :: cls.bases) }
      else world.class? name := by
  simp only [class?, addClass, List.find?_append] at fresh ⊢
  by_cases same : name = cls.name
  · simp [same, fresh]
  · have other : (cls.name == name) = false := beq_eq_false_iff_ne.mpr (Ne.symm same)
    simp [same, other]

/-- Other classes stay as they are when one is declared. -/
theorem same_addClass (fresh : world.class? cls.name = none) (other : id ≠ .declared cls.name) :
    (world.addClass cls).linearization id = world.linearization id ∧
      (world.addClass cls).bases id = world.bases id ∧
      ((world.addClass cls).Knows id ↔ world.Knows id) := by
  cases id with
  | builtin kind => exact ⟨rfl, rfl, Iff.rfl⟩
  | declared name =>
      have different : name ≠ cls.name := fun same => other (by rw [same])
      simp [linearization, bases, Knows, class_addClass fresh, different]

theorem ne_of_knows (fresh : world.class? cls.name = none) (known : world.Knows id) :
    id ≠ .declared cls.name := by
  rintro rfl
  simp [Knows, fresh] at known

theorem BasesFit.knows_base (fit : BasesFit world) (mem : base ∈ world.bases id) :
    world.Knows base := by
  cases id with
  | builtin kind =>
      obtain ⟨base, _, rfl⟩ := List.mem_map.mp mem
      trivial
  | declared name =>
      simp only [bases] at mem
      split at mem
      · rename_i declaration
        exact fit.known declaration base mem
      · obtain rfl := List.mem_singleton.mp mem
        trivial

theorem basesFit_start : BasesFit {} where
  known declaration := by simp [class?] at declaration
  self_mem cls := by
    cases cls with
    | builtin kind => exact List.mem_map_of_mem kind.mem_linearization
    | declared name => simp [linearization, class?]
  base_subset {cls base} mem := by
    cases cls with
    | builtin kind =>
        obtain ⟨base, base_mem, rfl⟩ := List.mem_map.mp mem
        exact List.map_subset _ (kind.base_linearization base base_mem).1
    | declared name =>
        obtain rfl : base = .object := by simpa [bases, class?] using mem
        simp [linearization, class?, BuiltinClass.linearization, ClassId.object]
  base_shorter {cls base} mem := by
    cases cls with
    | builtin kind =>
        obtain ⟨base, base_mem, rfl⟩ := List.mem_map.mp mem
        simpa [linearization] using (kind.base_linearization base base_mem).2
    | declared name =>
        obtain rfl : base = .object := by simpa [bases, class?] using mem
        simp [linearization, class?, BuiltinClass.linearization, ClassId.object]

theorem class_congr {changed : World} (same : changed.classes = world.classes) :
    changed.class? = world.class? := by
  funext name
  rw [class?, same, class?]

theorem linearization_congr {changed : World} (same : changed.classes = world.classes) :
    changed.linearization = world.linearization := by
  funext cls
  cases cls <;> simp [linearization, class_congr same]

theorem BasesFit.congr {changed : World} (fit : BasesFit world)
    (same : changed.classes = world.classes) : BasesFit changed := by
  have declarations := class_congr same
  have lines := linearization_congr same
  have allBases : changed.bases = world.bases := by
    funext cls
    cases cls <;> simp [bases, declarations]
  have knows : changed.Knows = world.Knows := by
    funext cls
    cases cls <;> simp [Knows, declarations]
  constructor
  · intro name cls declaration
    rw [declarations] at declaration
    rw [knows]
    exact fit.known declaration
  · rw [lines]
    exact fit.self_mem
  · intro cls base mem
    rw [allBases] at mem
    rw [lines]
    exact fit.base_subset mem
  · intro cls base mem
    rw [allBases] at mem
    rw [lines]
    exact fit.base_shorter mem

theorem BasesFit.addClass (fit : BasesFit world) (fresh : world.class? cls.name = none)
    (known : ∀ base ∈ cls.bases, world.Knows base)
    (agree : (linearize (.declared cls.name) cls.bases world.linearization).isSome) :
    BasesFit (world.addClass cls) := by
  obtain ⟨line, linear⟩ := Option.isSome_iff_exists.mp agree
  obtain ⟨merged, rfl, kept⟩ := Linearization.sublist_of_linearize linear
  have newBases : (world.addClass cls).bases (.declared cls.name) = cls.bases := by
    simp [bases, class_addClass fresh]
  have newLine : (world.addClass cls).linearization (.declared cls.name) =
      .declared cls.name :: merged := by
    simp [linearization, class_addClass fresh, linear]
  have oldLine {base : ClassId} (known : world.Knows base) :
      (world.addClass cls).linearization base = world.linearization base :=
    (same_addClass fresh (ne_of_knows fresh known)).1
  have stillKnown {base : ClassId} (known : world.Knows base) : (world.addClass cls).Knows base :=
    (same_addClass fresh (ne_of_knows fresh known)).2.2.mpr known
  refine { known := ?known, self_mem := ?own, base_subset := ?subset, base_shorter := ?shorter }
  case known =>
    intro name found declaration base mem
    rw [class_addClass fresh] at declaration
    split at declaration
    · obtain rfl := Option.some.inj declaration
      exact stillKnown (known base mem)
    · exact stillKnown (fit.known declaration base mem)
  case own =>
    intro id
    by_cases new : id = .declared cls.name
    · rw [new, newLine]
      exact List.mem_cons_self
    · rw [(same_addClass fresh new).1]
      exact fit.self_mem id
  case subset =>
    intro id base mem
    by_cases new : id = .declared cls.name
    · rw [new, newBases] at mem
      rw [new, newLine, oldLine (known base mem)]
      exact List.subset_cons_of_subset _ (kept base mem).subset
    · rw [(same_addClass fresh new).2.1] at mem
      rw [(same_addClass fresh new).1, oldLine (fit.knows_base mem)]
      exact fit.base_subset mem
  case shorter =>
    intro id base mem
    by_cases new : id = .declared cls.name
    · rw [new, newBases] at mem
      rw [new, newLine, oldLine (known base mem), List.length_cons]
      exact Nat.lt_succ_of_le (kept base mem).length_le
    · rw [(same_addClass fresh new).2.1] at mem
      rw [(same_addClass fresh new).1, oldLine (fit.knows_base mem)]
      exact fit.base_shorter mem

theorem Declared.basesFit (declared : Declared world) : BasesFit world := by
  induction declared with
  | start => exact basesFit_start
  | others declared same ih => exact ih.congr same
  | cls declared cls fresh known agree ih => exact ih.addClass fresh known agree

theorem isSubclass_of_mem_linearization {ancestor : ClassId}
    (mem : ancestor ∈ world.linearization id) : world.isSubclass id ancestor = true := by
  have mem : (world.linearization id).contains ancestor = true := by simpa using mem
  simp only [isSubclass]
  generalize world.classes.length + 8 = depth
  cases depth with
  | zero => exact mem
  | succ depth => simp only [isSubclassWithin, mem, Bool.true_or]

/-- A class comes first in its own linearization. -/
theorem Declared.head_linearization (declared : Declared world) (id : ClassId) :
    (world.linearization id).head? = some id := by
  induction declared generalizing id with
  | start =>
      cases id with
      | builtin kind => simp [linearization, BuiltinClass.head_linearization]
      | declared name => simp [linearization, class?]
  | others declared same ih =>
      rw [linearization_congr same]
      exact ih id
  | @cls world declared cls fresh known agree ih =>
      by_cases new : id = .declared cls.name
      · obtain ⟨line, linear⟩ := Option.isSome_iff_exists.mp agree
        obtain ⟨merged, rfl, _⟩ := Linearization.sublist_of_linearize linear
        simp [new, linearization, class_addClass fresh, linear]
      · rw [(same_addClass fresh new).1]
        exact ih id

/-- Only what derives from a class counts as its subclass, unless the class is abstract. -/
theorem mem_linearization_of_isSubclass {ancestor : ClassId}
    (concrete : world.isAbstract ancestor = false) (counts : world.isSubclass id ancestor = true) :
    ancestor ∈ world.linearization id := by
  simp only [isSubclass] at counts
  generalize world.classes.length + 8 = depth at counts
  cases depth with
  | zero => simpa [isSubclassWithin] using counts
  | succ depth => simpa [isSubclassWithin, concrete] using counts

theorem Declared.coherent (declared : Declared world) : world.hierarchy.Coherent where
  self_mem := declared.basesFit.self_mem
  base_subset := declared.basesFit.base_subset
  base_shorter := declared.basesFit.base_shorter
  isSubclass_of_mem := isSubclass_of_mem_linearization

end World

end MemberDispatch
