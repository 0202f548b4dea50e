import Mathlib.Logic.Function.Basic
import MemberDispatch.Proofs.Registry.Rebuild

/-!
# Fresh views

The caches of a registry never show. Every cached catalog and view is one that would be made again
over the present table, or over any table that grows out of it, and over the present providers.
Reading keeps this, since a table that is read only grows. A registration keeps it in one of three
ways: a new converter drops everything, a provider drops the views of all classes that it could
reach, and a registration that fails adds nothing but catalogs. So what an operation answers, and
what it leaves in the table and in the lists of providers, is what it would with empty caches.
-/

namespace MemberDispatch

namespace RegistryM

variable {α β : Type}

/-- The outcome of work on a registry, and the registry and the events that it leaves. -/
def runFrom (work : RegistryM α) (run : RegistryRun) : Except ConfigurationIssue α × RegistryRun :=
  StateT.run (ExceptT.run work) run

theorem runFrom_bind (work : RegistryM α) (next : α → RegistryM β) (run : RegistryRun) :
    (work >>= next).runFrom run =
      match work.runFrom run with
      | (.ok result, after) => (next result).runFrom after
      | (.error issue, after) => (.error issue, after) := by
  rcases made : work.runFrom run with ⟨outcome, after⟩
  change StateT.run (ExceptT.run work) run = _ at made
  simp only [runFrom, ExceptT.run_bind, StateT.run_bind]
  rw [made]
  cases outcome with
  | ok result => rfl
  | error issue => rfl

@[simp]
theorem runFrom_pure (result : α) (run : RegistryRun) :
    (pure result : RegistryM α).runFrom run = (.ok result, run) :=
  rfl

end RegistryM

namespace Registry

@[simp]
theorem runFrom_current (run : RegistryRun) : current.runFrom run = (.ok run.registry, run) :=
  rfl

@[simp]
theorem runFrom_update (change : Registry → Registry) (run : RegistryRun) :
    (update change).runFrom run = (.ok (), { run with registry := change run.registry }) :=
  rfl

/-- That cached catalogs and views are those that would be made anew. -/
structure Sound (world : World) (registry : Registry) : Prop where
  catalogs {owner : Owner} {catalog : Catalog} (mem : (owner, catalog) ∈ registry.catalogs)
    {table : ConverterTable} (extension : table.Extends registry.table) :
    Catalog.making world owner table = (catalog, table)
  views {cls : ClassId} {view : View} (mem : (cls, view) ∈ registry.views)
    {table : ConverterTable} (extension : table.Extends registry.table) :
    (Rebuild.view world registry.providersOf cls).on table = (.ok view, table)

/-- That work on a registry with sound caches comes to what is rebuilt over its table, changes no
list of providers and keeps the caches sound. -/
def Mirrors {α : Type} (world : World) (providersOf : ClassId → List Owner) (work : RegistryM α)
    (rebuilt : RebuildM α) : Prop :=
  ∀ run : RegistryRun, run.registry.Sound world → run.registry.providersOf = providersOf →
    (work.runFrom run).1 = (rebuilt.on run.registry.table).1 ∧
      (work.runFrom run).2.registry.table = (rebuilt.on run.registry.table).2 ∧
      (work.runFrom run).2.registry.providersOf = providersOf ∧
      (work.runFrom run).2.registry.Sound world

section Mirrors

variable {α β : Type} {world : World} {providersOf : ClassId → List Owner}

theorem mirrors_pure (result : α) :
    Mirrors world providersOf (pure result : RegistryM α) (pure result) :=
  fun _ sound same => ⟨rfl, rfl, same, sound⟩

theorem mirrors_throw (issue : ConfigurationIssue) :
    Mirrors world providersOf (throw issue : RegistryM α) (throw issue) :=
  fun _ sound same => ⟨rfl, rfl, same, sound⟩

theorem Mirrors.bind {work : RegistryM α} {next : α → RegistryM β} {rebuilt : RebuildM α}
    {onward : α → RebuildM β} (first : Mirrors world providersOf work rebuilt)
    (second : ∀ result, Mirrors world providersOf (next result) (onward result)) :
    Mirrors world providersOf (work >>= next) (rebuilt >>= onward) := by
  intro run sound same
  obtain ⟨outcome_eq, table_eq, kept, still⟩ := first run sound same
  rw [RegistryM.runFrom_bind, RebuildM.on_bind]
  rcases made : work.runFrom run with ⟨_ | result, after⟩
  · rw [made] at outcome_eq table_eq kept still
    rw [← outcome_eq, ← table_eq]
    exact ⟨rfl, rfl, kept, still⟩
  · rw [made] at outcome_eq table_eq kept still
    rw [← outcome_eq, ← table_eq]
    exact second result after still kept

/-- Work whose outcome is that of a step that shows only in what is reported. -/
theorem Mirrors.behind {silent : RegistryM Unit} {next : Unit → RegistryM α} {rebuilt : RebuildM α}
    (quiet : ∀ run, ∃ events, silent.runFrom run = (.ok (), { run with events }))
    (second : Mirrors world providersOf (next ()) rebuilt) :
    Mirrors world providersOf (silent >>= next) rebuilt := by
  intro run sound same
  obtain ⟨events, made⟩ := quiet run
  rw [RegistryM.runFrom_bind, made]
  exact second _ sound same

theorem quiet_report (event : Event) (run : RegistryRun) :
    ∃ events, (report event).runFrom run = (.ok (), { run with events }) :=
  ⟨_, rfl⟩

theorem quiet_forM_report (events : List Event) (run : RegistryRun) :
    ∃ reported, (events.forM report).runFrom run = (.ok (), { run with events := reported }) := by
  induction events generalizing run with
  | nil => exact ⟨_, rfl⟩
  | cons event events ih =>
      obtain ⟨reported, made⟩ := ih { run with events := run.events ++ [event] }
      refine ⟨reported, ?_⟩
      change (report event >>= fun _ => events.forM report).runFrom run = _
      rw [RegistryM.runFrom_bind]
      exact made

/-- Reading the registry first shows its providers. -/
theorem mirrors_current {next : Registry → RegistryM α} {rebuilt : RebuildM α}
    (each : ∀ registry : Registry, registry.providersOf = providersOf →
      Mirrors world providersOf (next registry) rebuilt) :
    Mirrors world providersOf (current >>= next) rebuilt := by
  intro run sound same
  rw [RegistryM.runFrom_bind]
  exact each run.registry same run sound same

end Mirrors

variable {world : World}

theorem sound_of_empty {registry : Registry} (noCatalogs : registry.catalogs = [])
    (noViews : registry.views = []) : registry.Sound world where
  catalogs mem := by simp [noCatalogs] at mem
  views mem := by simp [noViews] at mem

theorem Sound.grow {registry : Registry} {table : ConverterTable} (sound : registry.Sound world)
    (extension : table.Extends registry.table) :
    ({ registry with table } : Registry).Sound world where
  catalogs mem _ further := sound.catalogs mem (further.trans extension)
  views mem _ further := sound.views mem (further.trans extension)

theorem Sound.addCatalog {registry : Registry} {owner : Owner} {catalog : Catalog}
    (sound : registry.Sound world)
    (made : ∀ table, table.Extends registry.table →
      Catalog.making world owner table = (catalog, table)) :
    ({ registry with catalogs := registry.catalogs ++ [(owner, catalog)] } : Registry).Sound
      world where
  catalogs {other found} mem table extension := by
    rcases List.mem_append.mp mem with mem | mem
    · exact sound.catalogs mem extension
    · obtain ⟨rfl, rfl⟩ := Prod.mk.inj (List.mem_singleton.mp mem)
      exact made table extension
  views := sound.views

theorem Sound.addView {registry : Registry} {cls : ClassId} {view : View}
    (sound : registry.Sound world)
    (made : ∀ table, table.Extends registry.table →
      (Rebuild.view world registry.providersOf cls).on table = (.ok view, table)) :
    ({ registry with views := registry.views ++ [(cls, view)] } : Registry).Sound world where
  catalogs := sound.catalogs
  views {other found} mem table extension := by
    rcases List.mem_append.mp mem with mem | mem
    · exact sound.views mem extension
    · obtain ⟨rfl, rfl⟩ := Prod.mk.inj (List.mem_singleton.mp mem)
      exact made table extension

theorem runFrom_buildCatalog (owner : Owner) (run : RegistryRun) :
    ∃ events, (buildCatalog world owner).runFrom run =
      (.ok (Catalog.making world owner run.registry.table).1,
        { registry := { run.registry with table :=
            (Catalog.making world owner run.registry.table).2 }
          events }) := by
  obtain ⟨events, reported⟩ := quiet_forM_report (Catalog.build world run.registry.table owner).2.2
    { run with registry := { run.registry with table :=
      (Catalog.making world owner run.registry.table).2 } }
  refine ⟨events, ?_⟩
  simp only [Catalog.making] at reported ⊢
  simp only [buildCatalog, RegistryM.runFrom_bind, runFrom_current, runFrom_update, reported,
    RegistryM.runFrom_pure]

section Reading

variable {providersOf : ClassId → List Owner}

theorem mirrors_catalogOf (owner : Owner) :
    Mirrors world providersOf (catalogOf world owner) (Rebuild.catalog world owner) := by
  intro run sound same
  rw [Rebuild.catalog_on]
  rcases found : run.registry.catalogs.lookup owner with _ | catalog
  · obtain ⟨events, built⟩ := @runFrom_buildCatalog world owner run
    have made : (catalogOf world owner).runFrom run =
        (.ok (Catalog.making world owner run.registry.table).1,
          { registry := { run.registry with
              table := (Catalog.making world owner run.registry.table).2
              catalogs := run.registry.catalogs ++
                [(owner, (Catalog.making world owner run.registry.table).1)] }
            events }) := by
      simp only [catalogOf, RegistryM.runFrom_bind, runFrom_current, found, built, runFrom_update,
        RegistryM.runFrom_pure]
    have repeatable := Catalog.repeatable_making world owner
    rw [made]
    refine ⟨rfl, rfl, same, ?_⟩
    exact (sound.grow (repeatable.grows _).keeps).addCatalog fun table extension =>
      repeatable.repeats _ table extension
  · have made : (catalogOf world owner).runFrom run = (.ok catalog, run) := by
      simp only [catalogOf, RegistryM.runFrom_bind, runFrom_current, found, RegistryM.runFrom_pure]
    have settled := sound.catalogs (mem_of_lookup found) (.refl run.registry.table)
    rw [made, settled]
    exact ⟨rfl, rfl, same, sound⟩

theorem mirrors_functionsOf (owner : Owner) (cls : ClassId) :
    Mirrors world providersOf (functionsOf world owner cls)
      (Rebuild.functions world owner cls) := by
  refine (mirrors_catalogOf owner).bind fun catalog => ?_
  rcases catalog.functionsFor world.hierarchy cls with issue | groups
  · exact mirrors_throw _
  · exact mirrors_pure _

theorem mirrors_mergeProviders (cls : ClassId) (providers : List Owner) (view : View) :
    Mirrors world providersOf (mergeProviders world cls providers view)
      (Rebuild.withProviders world cls providers view) := by
  induction providers generalizing view with
  | nil => exact mirrors_pure _
  | cons provider providers ih =>
      exact (mirrors_functionsOf provider cls).bind fun groups => ih _

theorem mirrors_mergeBases {viewOf : ClassId → RegistryM View} {rebuilt : ClassId → RebuildM View}
    {bases : List ClassId} (each : ∀ base ∈ bases, Mirrors world providersOf (viewOf base)
      (rebuilt base)) (view : View) :
    Mirrors world providersOf (mergeBases viewOf bases view)
      (Rebuild.withBases rebuilt bases view) := by
  induction bases generalizing view with
  | nil => exact mirrors_pure _
  | cons base bases ih =>
      exact (each base List.mem_cons_self).bind fun inherited =>
        ih (fun base mem => each base (List.mem_cons_of_mem _ mem)) _

theorem mirrors_buildView {viewOf : ClassId → RegistryM View} {rebuilt : ClassId → RebuildM View}
    {cls : ClassId} (each : ∀ base ∈ world.hierarchy.bases cls,
      Mirrors world providersOf (viewOf base) (rebuilt base)) :
    Mirrors world providersOf (buildView world viewOf cls)
      (Rebuild.viewOver world providersOf rebuilt cls) := by
  refine (mirrors_catalogOf _).bind fun own => ?_
  refine Mirrors.behind (quiet_forM_report _) ?_
  refine mirrors_current fun registry same => ?_
  rw [same]
  refine (mirrors_mergeProviders cls _ _).bind fun merged => ?_
  rw [← bind_pure (Rebuild.withBases rebuilt (world.hierarchy.bases cls) merged)]
  exact (mirrors_mergeBases each merged).bind fun view =>
    .behind (quiet_report _) (mirrors_pure view)

theorem mirrors_viewWithin (coherent : world.hierarchy.Coherent) {depth : ℕ} {cls : ClassId}
    (enough : (world.hierarchy.linearization cls).length ≤ depth) :
    Mirrors world providersOf (viewWithin world depth cls)
      (Rebuild.view world providersOf cls) := by
  induction depth generalizing cls with
  | zero =>
      have nonempty := List.length_pos_of_mem (coherent.self_mem cls)
      omega
  | succ depth ih =>
      intro run sound same
      -- A cached view is what a new one would be, as the registry is sound; any other is built and cached.
      rcases found : run.registry.views.lookup cls with _ | view
      · have built : Mirrors world providersOf (buildView world (viewWithin world depth) cls)
            (Rebuild.view world providersOf cls) := by
          rw [Rebuild.view_eq coherent]
          refine mirrors_buildView fun base mem => ih ?_
          have shorter := coherent.base_shorter mem
          omega
        obtain ⟨outcome_eq, table_eq, kept, still⟩ := built run sound same
        have repeatable := Rebuild.repeatable_view world providersOf cls
        simp only [viewWithin, RegistryM.runFrom_bind, runFrom_current, found]
        rcases made : (buildView world (viewWithin world depth) cls).runFrom run with
          ⟨_ | view, after⟩
        · rw [made] at outcome_eq table_eq kept still
          exact ⟨outcome_eq, table_eq, kept, still⟩
        · rw [made] at outcome_eq table_eq kept still
          simp only [runFrom_update, RegistryM.runFrom_pure]
          refine ⟨outcome_eq, table_eq, kept, still.addView fun table extension => ?_⟩
          rw [table_eq] at extension
          rw [kept, repeatable.repeats _ table extension, ← outcome_eq]
      · have settled := sound.views (mem_of_lookup found) (.refl run.registry.table)
        rw [same] at settled
        simp only [viewWithin, RegistryM.runFrom_bind, runFrom_current, found,
          RegistryM.runFrom_pure, settled]
        exact ⟨trivial, trivial, same, sound⟩

/-- Asking for a view answers what is rebuilt over the table and the providers. -/
theorem mirrors_viewOf (coherent : world.hierarchy.Coherent) (cls : ClassId) :
    Mirrors world providersOf (viewOf world cls) (Rebuild.view world providersOf cls) :=
  mirrors_viewWithin coherent le_rfl

theorem mirrors_enroll (cls : ClassId) (registered : List Owner)
    (providers : List (Except ConfigurationIssue Owner)) (added : List Owner) :
    Mirrors world providersOf (enroll world cls registered providers added)
      (Rebuild.enroll world cls registered providers added) := by
  induction providers generalizing added with
  | nil => exact mirrors_pure _
  | cons provider providers ih =>
      cases provider with
      | error issue => exact mirrors_throw _
      | ok provider =>
          simp only [enroll, Rebuild.enroll]
          split
          · exact ih _
          · refine (mirrors_functionsOf provider cls).bind fun groups => ?_
            split
            · exact .behind (quiet_report _) (.behind (quiet_report _) (ih _))
            · exact .behind (quiet_report _) (ih _)

end Reading

end Registry

end MemberDispatch
