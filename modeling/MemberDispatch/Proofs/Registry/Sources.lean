import MemberDispatch.Proofs.Registry.Belonging
import MemberDispatch.Proofs.Registry.Reads

/-!
# What a view is made of

The view of a class merges groups of members from several sources, one after the other: what the class
declares for its values, its own functions that receive them, what its providers offer and the views of
its bases. Collecting the groups and merging them all at the end comes to the same view. All members are
made over one table, in which a rank belongs to a single converter, so members whose ranks are the same
have the same converters.
-/

namespace MemberDispatch

/-- What a catalog gives to values of its own class, grouped by name. -/
def Catalog.ownGroups (hierarchy : Hierarchy) (cls : ClassId) (own : Catalog) :
    List (String × List Member) :=
  own.instanceMembers.map (fun (name, index) => (name, index.members)) ++
    (own.unambiguousFunctionsFor hierarchy cls).1

/-- The groups of members that a view of a class merges, in the order in which it does so. -/
def Registry.sourcesOf (world : World) (cls : ClassId) :
    RegistryM (List (String × List Member)) := do
  let own ← catalogOf world (.cls cls)
  let offered ← ((← current).providersOf cls).mapM fun provider => functionsOf world provider cls
  let inherited ← (world.hierarchy.bases cls).mapM (viewOf world)
  return own.ownGroups world.hierarchy cls ++ offered.flatten ++ inherited.flatMap View.groups

namespace Rebuild

open RebuildM

section Collecting

variable (world : World) (providersOf : ClassId → List Owner)

/-- The groups of members that a view of a class merges. -/
def sources (cls : ClassId) : RebuildM (List (String × List Member)) := do
  let own ← catalog world (.cls cls)
  let offered ← (providersOf cls).mapM fun provider => functions world provider cls
  let inherited ← (world.hierarchy.bases cls).mapM (view world providersOf)
  return own.ownGroups world.hierarchy cls ++ offered.flatten ++ inherited.flatMap View.groups

theorem withProviders_eq (cls : ClassId) (providers : List Owner) (view : View) :
    withProviders world cls providers view =
      (fun offered => view.mergeAll offered.flatten) <$>
        providers.mapM fun provider => functions world provider cls := by
  induction providers generalizing view with
  | nil => rfl
  | cons provider providers ih =>
      simp only [withProviders, ih, List.mapM_cons, map_bind, Functor.map_map,
        List.flatten_cons, View.mergeAll_append, bind_pure_comp]

theorem withBases_eq (viewOf : ClassId → RebuildM View) (bases : List ClassId) (view : View) :
    withBases viewOf bases view =
      (fun inherited => view.mergeAll (inherited.flatMap View.groups)) <$> bases.mapM viewOf := by
  induction bases generalizing view with
  | nil => rfl
  | cons base bases ih =>
      simp only [withBases, ih, List.mapM_cons, map_bind, Functor.map_map,
        List.flatMap_cons, View.mergeAll_append, bind_pure_comp]

variable {world providersOf}

/-- A view merges what was collected for it. -/
theorem view_eq_mergeAll (coherent : world.hierarchy.Coherent) (cls : ClassId) :
    view world providersOf cls =
      (fun groups => ({ cls } : View).mergeAll groups) <$> sources world providersOf cls := by
  have own (catalog : Catalog) : ownView world cls catalog =
      ({ cls } : View).mergeAll (catalog.ownGroups world.hierarchy cls) :=
    (View.mergeAll_append _ _ _).symm
  simp only [view_eq coherent, viewOver, sources, withProviders_eq, withBases_eq, own, map_bind,
    Functor.map_map, View.mergeAll_append, bind_map_left, bind_pure_comp]

theorem repeatable_sources (cls : ClassId) :
    Repeatable world.hierarchy (sources world providersOf cls).on :=
  repeatable_bind (repeatable_catalog world _) fun _ =>
    repeatable_bind (repeatable_mapM (fun provider => repeatable_functions world provider cls) _)
      fun _ => repeatable_bind (repeatable_mapM (repeatable_view world providersOf) _) fun _ =>
        repeatable_pure _

theorem answers_sources (clear : ∀ cls, ∀ provider ∈ providersOf cls, provider.Clear world cls)
    (cls : ClassId) : Answers (sources world providersOf cls) :=
  (answers_catalog _).bind fun _ =>
    (Answers.mapM fun provider mem => answers_functions (clear cls provider mem)).bind fun _ =>
      (Answers.mapM fun base _ => answers_viewWithin clear _ base).bind fun _ => answers_pure _

end Collecting

end Rebuild

namespace Registry

variable {world : World} {providersOf : ClassId → List Owner}

theorem Mirrors.mapM {α β : Type} {step : α → RegistryM β} {rebuilt : α → RebuildM β}
    (each : ∀ item, Mirrors world providersOf (step item) (rebuilt item)) (items : List α) :
    Mirrors world providersOf (items.mapM step) (items.mapM rebuilt) := by
  induction items with
  | nil => exact mirrors_pure []
  | cons item items ih =>
      rw [List.mapM_cons, List.mapM_cons]
      exact (each item).bind fun _ => ih.bind fun _ => mirrors_pure _

theorem mirrors_sourcesOf (coherent : world.hierarchy.Coherent) (cls : ClassId) :
    Mirrors world providersOf (sourcesOf world cls) (Rebuild.sources world providersOf cls) := by
  refine (mirrors_catalogOf _).bind fun own => mirrors_current fun registry same => ?_
  rw [same]
  exact (Mirrors.mapM (fun provider => mirrors_functionsOf provider cls) _).bind fun offered =>
    (Mirrors.mapM (mirrors_viewOf coherent) _).bind fun inherited => mirrors_pure _

end Registry

theorem Catalog.within_ownGroups {allowed : List Converter} {hierarchy : Hierarchy}
    {cls : ClassId} {own : Catalog}
    (ofValues : IndexesWithin allowed own.instanceMembers)
    (standing : IndexesWithin allowed own.staticMembers) :
    GroupsWithin allowed (own.ownGroups hierarchy cls) := by
  intro group mem
  rcases List.mem_append.mp mem with mem | mem
  · exact ofValues.groups group mem
  · intro member inside
    obtain ⟨entry, there, rfl⟩ := List.mem_map.mp (List.mem_filter.mp mem).1
    obtain ⟨source, among, receives⟩ := List.mem_filterMap.mp inside
    have accepted := (sortMembers_perm _).mem_iff.mp among
    rcases outcome : source.forValue hierarchy cls with issue | received
    · rw [outcome] at receives
      cases receives
    · rw [outcome] at receives
      simp only at receives
      subst receives
      exact List.Subset.trans (Member.converters_forValue outcome)
        (standing entry there source accepted)

namespace Rebuild

open RebuildM

variable {world : World} {providersOf : ClassId → List Owner} {cls : ClassId}
  {table : ConverterTable}

/-- All members that a view merges have converters of the table. -/
theorem within_of_sources (coherent : world.hierarchy.Coherent)
    (orderly : table.Orderly world.hierarchy) {groups : List (String × List Member)}
    (settled : Settled (sources world providersOf cls) table groups) :
    GroupsWithin table.converters groups := by
  -- By induction on the length of the linearization, which is shorter for every base.
  induction generations : (world.hierarchy.linearization cls).length
    using Nat.strong_induction_on generalizing cls groups with
  | _ length ih =>
      have offering := repeatable_mapM
        (fun provider => repeatable_functions world provider cls) (providersOf cls)
      have basing := repeatable_mapM (repeatable_view world providersOf) (world.hierarchy.bases cls)
      obtain ⟨own, declared, rest⟩ := settled.of_bind (repeatable_catalog world _) fun _ =>
        repeatable_bind offering fun _ => repeatable_bind basing fun _ => repeatable_pure _
      obtain ⟨offered, asked, rest⟩ := rest.of_bind offering fun _ =>
        repeatable_bind basing fun _ => repeatable_pure _
      obtain ⟨inherited, based, last⟩ := rest.of_bind basing fun _ => repeatable_pure _
      cases last
      obtain ⟨ofValues, standing⟩ := within_of_catalog orderly declared
      refine List.forall_mem_append.mpr ⟨List.forall_mem_append.mpr ⟨?_, ?_⟩, ?_⟩
      · exact Catalog.within_ownGroups ofValues standing
      · intro group mem
        obtain ⟨groups, there, inside⟩ := List.mem_flatten.mp mem
        obtain ⟨provider, -, offers⟩ :=
          asked.of_mapM (fun provider => repeatable_functions world provider cls) groups there
        exact within_of_functions orderly offers group inside
      · intro group mem
        obtain ⟨view, there, inside⟩ := List.mem_flatMap.mp mem
        obtain ⟨base, above, views⟩ := based.of_mapM (repeatable_view world providersOf) view there
        rw [view_eq_mergeAll coherent] at views
        obtain ⟨groups, collected, rfl⟩ := views.of_map
        have shorter := coherent.base_shorter above
        have merged := ih _ (generations ▸ shorter) collected rfl
        have nothing : IndexesWithin table.converters ({ cls := base } : View).indexes :=
          fun _ none => absurd none List.not_mem_nil
        exact (View.within_mergeAll nothing merged).groups group inside

end Rebuild

namespace Registry

variable {world : World}

/-- The members of a name on values of a class, and then the groups that the view merges. -/
def lookupBeforeSources (world : World) (cls : ClassId) (name : String) :
    RegistryM (Index × List (String × List Member)) := do
  let index ← Registry.lookup world cls name
  let sources ← sourcesOf world cls
  return (index, sources)

theorem mirrors_lookupBeforeSources (coherent : world.hierarchy.Coherent)
    {providersOf : ClassId → List Owner} (cls : ClassId) (name : String) :
    Mirrors world providersOf (lookupBeforeSources world cls name)
      (do
        let view ← Rebuild.view world providersOf cls
        let sources ← Rebuild.sources world providersOf cls
        return (view.get name, sources)) := by
  simp only [lookupBeforeSources, Registry.lookup, bind_assoc, pure_bind]
  exact (mirrors_viewOf coherent cls).bind fun view =>
    (mirrors_sourcesOf coherent cls).bind fun sources => mirrors_pure _

/-- The members of a name are merged from sources that are settled in the table that is left. -/
theorem exists_sources (coherent : world.hierarchy.Coherent) {registry : Registry}
    (sound : registry.Sound world) (orderly : registry.table.Orderly world.hierarchy)
    (clear : registry.essence.Clear world) (cls : ClassId) (name : String) :
    ∃ sources table, table.Orderly world.hierarchy ∧
      (Rebuild.sources world registry.providersOf cls).Settled table sources ∧
      (RegistryM.runOn registry (lookupBeforeSources world cls name)).1 =
        .ok ((({ cls } : View).mergeAll sources).get name, sources) := by
  have repeatable : Repeatable world.hierarchy
      (Rebuild.sources world registry.providersOf cls).on := Rebuild.repeatable_sources cls
  have answers : (Rebuild.sources world registry.providersOf cls).Answers :=
    Rebuild.answers_sources clear cls
  obtain ⟨sources, collected⟩ := answers registry.table
  have settled := RebuildM.settled_of_ok repeatable collected
  have still := (repeatable.grows registry.table).orderly orderly
  have merged : (Rebuild.view world registry.providersOf cls).on registry.table =
      (.ok (({ cls } : View).mergeAll sources),
        ((Rebuild.sources world registry.providersOf cls).on registry.table).2) := by
    rw [Rebuild.view_eq_mergeAll coherent, RebuildM.on_map, collected]
    rfl
  refine ⟨sources, _, still, settled, ?_⟩
  rw [runOn_eq, (mirrors_lookupBeforeSources coherent cls name { registry } sound rfl).1,
    RebuildM.on_bind, merged]
  simp only [RebuildM.onward]
  rw [RebuildM.on_bind, settled]
  rfl

end Registry

end MemberDispatch
