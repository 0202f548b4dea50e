import MemberDispatch.Proofs.Host.Upkeep

/-!
# How the shared registry is prepared

The shared registry starts with the standard coercions and is given the built-in providers. What was
reported before has no say in what work on a registry does, so preparing it is a run of operations.
-/

namespace MemberDispatch

open Registry

namespace RegistryM

variable {α β : Type}

/-- That work on a registry comes to the same whatever was reported before. -/
def Blind (work : RegistryM α) : Prop :=
  ∀ (run : RegistryRun) (events : List Event),
    (work.runFrom { run with events }).1 = (work.runFrom run).1 ∧
      (work.runFrom { run with events }).2.registry = (work.runFrom run).2.registry

namespace Blind

theorem pure (result : α) : Blind (Pure.pure result : RegistryM α) :=
  fun _ _ => ⟨rfl, rfl⟩

theorem throw (issue : ConfigurationIssue) : Blind (MonadExcept.throw issue : RegistryM α) :=
  fun _ _ => ⟨rfl, rfl⟩

theorem current : Blind Registry.current :=
  fun _ _ => ⟨rfl, rfl⟩

theorem update (change : Registry → Registry) : Blind (Registry.update change) :=
  fun _ _ => ⟨rfl, rfl⟩

theorem report (event : Event) : Blind (Registry.report event) :=
  fun _ _ => ⟨rfl, rfl⟩

theorem bind {work : RegistryM α} {next : α → RegistryM β} (first : Blind work)
    (second : ∀ result, Blind (next result)) : Blind (work >>= next) := by
  intro run events
  rcases first run events with ⟨outcome_eq, registry_eq⟩
  rw [runFrom_bind, runFrom_bind]
  rcases seen : work.runFrom { run with events } with ⟨outcome, after⟩
  rcases unseen : work.runFrom run with ⟨other, between⟩
  rw [seen, unseen] at outcome_eq registry_eq
  cases outcome_eq
  cases outcome with
  | error issue => exact ⟨rfl, registry_eq⟩
  | ok result =>
      have same : after = { between with events := after.events } := by
        rw [← registry_eq]
      rw [same]
      exact second result between after.events

theorem forM {items : List α} {step : α → RegistryM Unit} (each : ∀ item, Blind (step item)) :
    Blind (items.forM step) := by
  induction items with
  | nil => exact .pure ()
  | cons item items ih => exact (each item).bind fun _ => ih

section Operations

variable (world : World) (cls : ClassId)

theorem catalogOf (owner : Owner) : Blind (Registry.catalogOf world owner) := by
  have built : Blind (buildCatalog world owner) :=
    current.bind fun _ => (update _).bind fun _ => (forM report).bind fun _ => .pure _
  unfold Registry.catalogOf
  refine current.bind ?_
  intro registry
  split
  · exact .pure _
  · exact built.bind fun _ => (update _).bind fun _ => .pure _

theorem functionsOf (owner : Owner) : Blind (Registry.functionsOf world owner cls) := by
  unfold Registry.functionsOf
  refine (catalogOf world owner).bind ?_
  intro catalog
  split
  · exact .pure _
  · exact .throw _

theorem enroll (registered : List Owner) (providers : List (Except ConfigurationIssue Owner))
    (added : List Owner) : Blind (Registry.enroll world cls registered providers added) := by
  induction providers generalizing added with
  | nil => exact .pure _
  | cons provider providers ih =>
      cases provider with
      | error issue => exact .throw issue
      | ok provider =>
          unfold Registry.enroll
          split
          · exact ih _
          · refine (functionsOf world cls provider).bind ?_
            intro groups
            dsimp only
            split
            · exact (report _).bind fun _ => (report _).bind fun _ => ih _
            · exact (report _).bind fun _ => ih _

theorem registerProviders (providers : List (Except ConfigurationIssue Owner)) :
    Blind (Registry.registerProviders world cls providers) := by
  unfold Registry.registerProviders
  refine current.bind fun registry => (update _).bind fun _ => ?_
  refine (enroll world cls _ providers []).bind ?_
  intro added
  split
  · exact .pure _
  · exact (update _).bind fun _ => update _

end Operations

end Blind

theorem runFrom_bind_of_ok {work : RegistryM α} {next : α → RegistryM β} {result : α}
    {start after : RegistryRun} (run : work.runFrom start = (.ok result, after)) :
    (work >>= next).runFrom start = (next result).runFrom after := by
  rw [runFrom_bind, run]

end RegistryM

namespace Registry

variable {world : World} {registry : Registry}

theorem reached_of_table (world : World) (table : ConverterTable) :
    ({ table } : Registry).Reached world :=
  ⟨table, [], rfl⟩

theorem Reached.perform (reached : registry.Reached world) (operation : Operation) :
    (operation.perform world registry).Reached world := by
  rcases reached with ⟨table, operations, rfl⟩
  refine ⟨table, operations ++ [operation], ?_⟩
  rw [after_append]
  rfl

variable (world) in
/-- What each registration of providers keeps is kept by registering providers for one class after the
other, also where a registration fails. -/
theorem kept_by_forM_registerProviders {property : Registry → Prop} {α : Type} {items : List α}
    {step : α → RegistryM Unit}
    (each : ∀ item ∈ items, ∃ cls offers, step item = registerProviders world cls offers ∧
      ∀ registry : Registry, property registry →
        property (Operation.perform world registry (.registerProviders cls offers)))
    {run : RegistryRun} (holds : property run.registry) :
    property ((items.forM step).runFrom run).2.registry := by
  induction items generalizing run with
  | nil => exact holds
  | cons item items ih =>
      have others := fun other mem => each other (List.mem_cons_of_mem item mem)
      have here : property ((step item).runFrom run).2.registry := by
        rcases each item List.mem_cons_self with ⟨cls, offers, same_step, keeps⟩
        have same := (RegistryM.Blind.registerProviders world cls offers
          { registry := run.registry } run.events).2
        have performed := keeps run.registry holds
        rw [perform_eq] at performed
        rw [same_step]
        exact same ▸ performed
      change property ((step item >>= fun _ => items.forM step).runFrom run).2.registry
      rw [RegistryM.runFrom_bind]
      rcases made : (step item).runFrom run with ⟨issue | _, after⟩
      · rw [made] at here
        exact here
      · rw [made] at here
        exact ih others here

theorem runFrom_registerInTable (key : TypeKey) (coercion : Coercion) (table : ConverterTable)
    (events : List Event) :
    ∃ more, (discard (registerInTable key coercion) : RegistryM Unit).runFrom
        { registry := { table }, events } =
      (.ok (), { registry := { table := (table.register key coercion).2 }, events := more }) := by
  change ∃ more, (registerInTable key coercion >>= fun _ => pure ()).runFrom
      { registry := { table }, events } =
    (.ok (), { registry := { table := (table.register key coercion).2 }, events := more })
  rcases registered : table.register key coercion with ⟨changed, larger⟩
  simp only [registerInTable, RegistryM.runFrom_bind, runFrom_current, registered]
  cases changed with
  | true => exact ⟨_, rfl⟩
  | false => exact ⟨_, rfl⟩

/-- Coercions are added to the table of a registry without other content, and change nothing else. -/
theorem runFrom_forM_registerInTable {α : Type} {items : List α} {step : α → RegistryM Unit}
    {grow : ConverterTable → α → ConverterTable}
    (each : ∀ item, ∃ key coercion, step item = discard (registerInTable key coercion) ∧
      ∀ table, grow table item = (table.register key coercion).2)
    (table : ConverterTable) (events : List Event) :
    ∃ more, (items.forM step).runFrom { registry := { table }, events } =
      (.ok (), { registry := { table := items.foldl grow table }, events := more }) := by
  induction items generalizing table events with
  | nil => exact ⟨events, rfl⟩
  | cons item items ih =>
      rcases each item with ⟨key, coercion, same_step, grown⟩
      rcases runFrom_registerInTable key coercion table events with ⟨more, ran⟩
      rcases ih (grow table item) more with ⟨all, rest⟩
      refine ⟨all, ?_⟩
      change (step item >>= fun _ => items.forM step).runFrom _ = _
      rw [same_step, RegistryM.runFrom_bind_of_ok ran, ← grown]
      exact rest

theorem runFrom_installStandardCoercions : ∃ events,
    installStandardCoercions.runFrom { registry := {} } =
      (.ok (), { registry := { table := .standard }, events }) := by
  unfold installStandardCoercions ConverterTable.standard
  apply runFrom_forM_registerInTable
  rintro ⟨key, coercion⟩
  exact ⟨key, coercion, rfl, fun _ => rfl⟩

theorem reached_installStandardProviders {run : RegistryRun}
    (reached : run.registry.Reached world) :
    ((installStandardProviders world).runFrom run).2.registry.Reached world := by
  unfold installStandardProviders
  refine kept_by_forM_registerProviders world ?_ reached
  rintro ⟨cls, providers⟩ -
  exact ⟨cls, _, rfl, fun _ before => before.perform _⟩

/-- The providers are registered in a registry that has the standard coercions. -/
theorem exists_prepared (world : World) : ∃ events,
    (RegistryM.runOn {} (prepare world)).2.1 =
      ((installStandardProviders world).runFrom
        { registry := { table := .standard }, events }).2.registry := by
  have left (work : RegistryM Unit) :
      (RegistryM.runOn {} work).2.1 = (work.runFrom { registry := {} }).2.registry := rfl
  rcases runFrom_installStandardCoercions with ⟨events, coerced⟩
  refine ⟨events, ?_⟩
  rw [left, prepare, RegistryM.runFrom_bind_of_ok coerced]

/-- The shared registry is one that operations lead to. -/
theorem reached_prepare (world : World) :
    (RegistryM.runOn {} (prepare world)).2.1.Reached world := by
  rcases exists_prepared world with ⟨events, prepared⟩
  rw [prepared]
  apply reached_installStandardProviders
  exact reached_of_table world .standard

end Registry

end MemberDispatch
