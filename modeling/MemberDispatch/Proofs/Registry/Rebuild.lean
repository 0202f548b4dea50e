import MemberDispatch.Registry
import MemberDispatch.Proofs.Catalog.Steps
import MemberDispatch.Proofs.Class.Coherence

/-!
# Rebuilding views

What a registry would answer without its caches: catalogs and views made anew over the table of
converters and the lists of providers. A view is repeatable work on the table, it depends on the
providers of the class's own linearization only, and in a coherent hierarchy the number of
generations allowed for it does not matter once it reaches the length of the linearization.
-/

namespace MemberDispatch

/-- Work on a table that fails only over the configuration. -/
abbrev RebuildM := ExceptT ConfigurationIssue (StateM ConverterTable)

namespace RebuildM

variable {α β : Type} {hierarchy : Hierarchy}

/-- The outcome of work on a table, and the table that it leaves. -/
def on (work : RebuildM α) : TableWork (Except ConfigurationIssue α) := fun table =>
  StateT.run (ExceptT.run work) table

@[simp]
theorem on_pure (result : α) (table : ConverterTable) :
    (pure result : RebuildM α).on table = (.ok result, table) :=
  rfl

@[simp]
theorem on_throw (issue : ConfigurationIssue) (table : ConverterTable) :
    (throw issue : RebuildM α).on table = (.error issue, table) :=
  rfl

/-- Going on after an outcome. -/
def onward (next : α → RebuildM β) :
    Except ConfigurationIssue α → TableWork (Except ConfigurationIssue β)
  | .ok result => (next result).on
  | .error issue => fun table => (.error issue, table)

theorem on_bind (work : RebuildM α) (next : α → RebuildM β) (table : ConverterTable) :
    (work >>= next).on table = onward next (work.on table).1 (work.on table).2 := by
  rcases made : work.on table with ⟨outcome, larger⟩
  change StateT.run (ExceptT.run work) table = _ at made
  simp only [on, ExceptT.run_bind, StateT.run_bind]
  rw [made]
  cases outcome with
  | ok result => rfl
  | error issue => rfl

theorem repeatable_pure (result : α) : Repeatable hierarchy (pure result : RebuildM α).on :=
  .pure _

theorem repeatable_throw (issue : ConfigurationIssue) :
    Repeatable hierarchy (throw issue : RebuildM α).on :=
  .pure _

theorem repeatable_bind {work : RebuildM α} {next : α → RebuildM β}
    (first : Repeatable hierarchy work.on)
    (second : ∀ result, Repeatable hierarchy (next result).on) :
    Repeatable hierarchy (work >>= next).on := by
  rw [funext (on_bind work next)]
  refine first.bind fun outcome => ?_
  cases outcome with
  | ok result => exact second result
  | error issue => exact .pure _

end RebuildM

namespace Rebuild

variable (world : World)

def catalog (owner : Owner) : RebuildM Catalog :=
  ExceptT.mk fun table =>
    let (catalog, table) := Catalog.making world owner table
    (.ok catalog, table)

/-- The functions that an owner offers as members of values of a class. -/
def functions (owner : Owner) (cls : ClassId) : RebuildM (List (String × List Member)) := do
  match (← catalog world owner).functionsFor world.hierarchy cls with
  | .ok groups => return groups
  | .error issue => throw (.ambiguousValue issue)

def withProviders (cls : ClassId) : List Owner → View → RebuildM View
  | [], view => return view
  | provider :: providers, view => do
      let groups ← functions world provider cls
      withProviders cls providers (view.mergeAll groups)

def withBases (viewOf : ClassId → RebuildM View) : List ClassId → View → RebuildM View
  | [], view => return view
  | base :: bases, view => do
      let inherited ← viewOf base
      withBases viewOf bases (view.mergeAll inherited.groups)

def ownView (cls : ClassId) (own : Catalog) : View :=
  (({ cls } : View).mergeAll (own.instanceMembers.map fun (name, index) =>
    (name, index.members))).mergeAll (own.unambiguousFunctionsFor world.hierarchy cls).1

variable (providersOf : ClassId → List Owner)

/-- The view of a class over the views of its bases. -/
def viewOver (viewOf : ClassId → RebuildM View) (cls : ClassId) : RebuildM View := do
  let own ← catalog world (.cls cls)
  let view ← withProviders world cls (providersOf cls) (ownView world cls own)
  withBases viewOf (world.hierarchy.bases cls) view

/-- The view of a class with at most `depth` generations of ancestors. -/
def viewWithin : ℕ → ClassId → RebuildM View
  | 0, cls => return { cls }
  | depth + 1, cls => viewOver world providersOf (viewWithin depth) cls

def view (cls : ClassId) : RebuildM View :=
  viewWithin world providersOf (world.hierarchy.linearization cls).length cls

/-- The providers that are new for a class, none of which is ambiguous. -/
def enroll (cls : ClassId) (registered : List Owner) :
    List (Except ConfigurationIssue Owner) → List Owner → RebuildM (List Owner)
  | [], added => return added
  | .error issue :: _, _ => throw issue
  | .ok provider :: providers, added => do
      if registered.contains provider || added.contains provider then
        enroll cls registered providers added
      else
        let _ ← functions world provider cls
        enroll cls registered providers (added ++ [provider])

section Repeatability

theorem catalog_on (owner : Owner) (table : ConverterTable) :
    (catalog world owner).on table =
      (.ok (Catalog.making world owner table).1, (Catalog.making world owner table).2) :=
  rfl

theorem repeatable_catalog (owner : Owner) :
    Repeatable world.hierarchy (catalog world owner).on where
  grows := (Catalog.repeatable_making world owner).grows
  repeats table larger extension := by
    rw [catalog_on, catalog_on,
      (Catalog.repeatable_making world owner).repeats table larger extension]

theorem repeatable_functions (owner : Owner) (cls : ClassId) :
    Repeatable world.hierarchy (functions world owner cls).on := by
  refine RebuildM.repeatable_bind (repeatable_catalog world owner) fun own => ?_
  rcases own.functionsFor world.hierarchy cls with issue | groups
  · exact RebuildM.repeatable_throw _
  · exact RebuildM.repeatable_pure _

theorem repeatable_withProviders (cls : ClassId) (providers : List Owner) (view : View) :
    Repeatable world.hierarchy (withProviders world cls providers view).on := by
  induction providers generalizing view with
  | nil => exact RebuildM.repeatable_pure _
  | cons provider providers ih =>
      exact RebuildM.repeatable_bind (repeatable_functions world provider cls) fun groups => ih _

theorem repeatable_withBases {viewOf : ClassId → RebuildM View}
    (each : ∀ cls, Repeatable world.hierarchy (viewOf cls).on) (bases : List ClassId)
    (view : View) : Repeatable world.hierarchy (withBases viewOf bases view).on := by
  induction bases generalizing view with
  | nil => exact RebuildM.repeatable_pure _
  | cons base bases ih => exact RebuildM.repeatable_bind (each base) fun inherited => ih _

theorem repeatable_viewWithin (depth : ℕ) (cls : ClassId) :
    Repeatable world.hierarchy (viewWithin world providersOf depth cls).on := by
  induction depth generalizing cls with
  | zero => exact RebuildM.repeatable_pure _
  | succ depth ih =>
      exact RebuildM.repeatable_bind (repeatable_catalog world _) fun own =>
        RebuildM.repeatable_bind (repeatable_withProviders world cls _ _) fun view =>
          repeatable_withBases world ih _ _

theorem repeatable_view (cls : ClassId) :
    Repeatable world.hierarchy (view world providersOf cls).on :=
  repeatable_viewWithin world providersOf _ cls

theorem repeatable_enroll (cls : ClassId) (registered : List Owner)
    (providers : List (Except ConfigurationIssue Owner)) (added : List Owner) :
    Repeatable world.hierarchy (enroll world cls registered providers added).on := by
  induction providers generalizing added with
  | nil => exact RebuildM.repeatable_pure _
  | cons provider providers ih =>
      cases provider with
      | error issue => exact RebuildM.repeatable_throw _
      | ok provider =>
          simp only [enroll]
          split
          · exact ih _
          · exact RebuildM.repeatable_bind (repeatable_functions world provider cls) fun _ => ih _

end Repeatability

section Depth

variable {world providersOf}

theorem withBases_congr {viewOf other : ClassId → RebuildM View} {bases : List ClassId}
    (same : ∀ base ∈ bases, viewOf base = other base) (view : View) :
    withBases viewOf bases view = withBases other bases view := by
  induction bases generalizing view with
  | nil => rfl
  | cons base bases ih =>
      simp only [withBases, same base List.mem_cons_self]
      refine congrArg _ (funext fun inherited => ?_)
      exact ih (fun base mem => same base (List.mem_cons_of_mem _ mem)) _

theorem viewWithin_eq_view (coherent : world.hierarchy.Coherent) {depth : ℕ} {cls : ClassId}
    (enough : (world.hierarchy.linearization cls).length ≤ depth) :
    viewWithin world providersOf depth cls = view world providersOf cls := by
  induction depth using Nat.strong_induction_on generalizing cls with
  | _ depth ih =>
      have nonempty := List.length_pos_of_mem (coherent.self_mem cls)
      obtain ⟨generations, generations_eq⟩ : ∃ generations,
          (world.hierarchy.linearization cls).length = generations + 1 :=
        ⟨(world.hierarchy.linearization cls).length - 1, by omega⟩
      obtain ⟨less, rfl⟩ : ∃ less, depth = less + 1 := ⟨depth - 1, by omega⟩
      simp only [view, generations_eq, viewWithin, viewOver]
      refine congrArg _ (funext fun own => congrArg _ (funext fun merged => ?_))
      refine withBases_congr (fun base mem => ?_) merged
      have shorter := coherent.base_shorter mem
      by_cases same : generations = less
      · rw [same]
      · rw [ih less (by omega) (by omega), ih generations (by omega) (by omega)]

/-- The view of a class is made from the views of its bases. -/
theorem view_eq (coherent : world.hierarchy.Coherent) (cls : ClassId) :
    view world providersOf cls = viewOver world providersOf (view world providersOf) cls := by
  have enough : (world.hierarchy.linearization cls).length ≤
      (world.hierarchy.linearization cls).length + 1 := Nat.le_succ _
  rw [← viewWithin_eq_view coherent enough, viewWithin, viewOver, viewOver]
  refine congrArg _ (funext fun own => congrArg _ (funext fun merged => ?_))
  refine withBases_congr (fun base mem => ?_) merged
  exact viewWithin_eq_view coherent (coherent.base_shorter mem).le

/-- A view depends on the providers of the classes in the linearization only. -/
theorem view_congr (coherent : world.hierarchy.Coherent) {others : ClassId → List Owner}
    {cls : ClassId}
    (same : ∀ ancestor ∈ world.hierarchy.linearization cls,
      providersOf ancestor = others ancestor) :
    view world providersOf cls = view world others cls := by
  induction generations : (world.hierarchy.linearization cls).length
    using Nat.strong_induction_on generalizing cls with
  | _ length ih =>
      rw [view_eq coherent, view_eq coherent, viewOver, viewOver, same cls (coherent.self_mem cls)]
      refine congrArg _ (funext fun own => congrArg _ (funext fun merged => ?_))
      refine withBases_congr (fun base mem => ?_) merged
      refine ih _ ?_ ?_ rfl
      · rw [← generations]
        exact coherent.base_shorter mem
      · exact fun ancestor above => same ancestor (coherent.base_subset mem above)

end Depth

end Rebuild

end MemberDispatch
