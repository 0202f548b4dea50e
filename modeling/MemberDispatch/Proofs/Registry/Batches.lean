import MemberDispatch.Proofs.Registry.Registration

/-!
# Registering several providers

A registration looks at its providers one after the other and adds them at the end, so a bad one
among them leaves no trace but catalogs and placeholders. Looking at a provider neither sees nor
changes lists of providers and views. Adding what is new at once therefore comes to the same as
adding it piece by piece, and a registration that is made again has nothing to add.
-/

namespace MemberDispatch

namespace Registry

/-- That of two registries the second differs from the first only by more catalogs and by more
entries of its table. -/
structure Spares (hierarchy : Hierarchy) (registry larger : Registry) : Prop where
  providers : larger.providers = registry.providers
  views : larger.views = registry.views
  catalogs : registry.catalogs <+: larger.catalogs
  table : ConverterTable.Grows hierarchy registry.table larger.table

theorem Spares.refl (hierarchy : Hierarchy) (registry : Registry) :
    Spares hierarchy registry registry :=
  ⟨rfl, rfl, List.prefix_refl _, .refl hierarchy registry.table⟩

theorem Spares.trans {hierarchy : Hierarchy} {registry larger largest : Registry}
    (first : Spares hierarchy registry larger) (second : Spares hierarchy larger largest) :
    Spares hierarchy registry largest where
  providers := second.providers.trans first.providers
  views := second.views.trans first.views
  catalogs := first.catalogs.trans second.catalogs
  table := first.table.trans second.table

/-- The registry with other providers and views. -/
def refit (providers : List (ClassId × List Owner)) (views : List (ClassId × View))
    (registry : Registry) : Registry :=
  { registry with providers, views }

/-- A run on a registry with other providers and views. -/
def refitRun (providers : List (ClassId × List Owner)) (views : List (ClassId × View))
    (run : RegistryRun) : RegistryRun :=
  { run with registry := run.registry.refit providers views }

/-- That work only adds catalogs and entries of the table, and does the same whatever providers and
views there are. -/
structure Surveys {α : Type} (hierarchy : Hierarchy) (work : RegistryM α) : Prop where
  spares (run : RegistryRun) : Spares hierarchy run.registry (work.runFrom run).2.registry
  refits (providers : List (ClassId × List Owner)) (views : List (ClassId × View))
    (run : RegistryRun) :
    work.runFrom (refitRun providers views run) =
      ((work.runFrom run).1, refitRun providers views (work.runFrom run).2)

section Surveying

variable {α β : Type} {hierarchy : Hierarchy}

theorem surveys_pure (result : α) : Surveys hierarchy (pure result : RegistryM α) :=
  ⟨fun run => .refl hierarchy run.registry, fun _ _ _ => rfl⟩

theorem surveys_throw (issue : ConfigurationIssue) :
    Surveys hierarchy (throw issue : RegistryM α) :=
  ⟨fun run => .refl hierarchy run.registry, fun _ _ _ => rfl⟩

theorem surveys_report (event : Event) : Surveys hierarchy (report event) :=
  ⟨fun run => .refl hierarchy run.registry, fun _ _ _ => rfl⟩

theorem Surveys.bind {work : RegistryM α} {next : α → RegistryM β}
    (first : Surveys hierarchy work) (second : ∀ result, Surveys hierarchy (next result)) :
    Surveys hierarchy (work >>= next) where
  spares run := by
    have here := first.spares run
    rw [RegistryM.runFrom_bind]
    rcases made : work.runFrom run with ⟨_ | result, after⟩
    · rw [made] at here
      exact here
    · rw [made] at here
      exact here.trans ((second result).spares after)
  refits providers views run := by
    rw [RegistryM.runFrom_bind, RegistryM.runFrom_bind, first.refits providers views run]
    rcases work.runFrom run with ⟨_ | result, after⟩
    · rfl
    · exact (second result).refits providers views after

theorem surveys_forM_report (hierarchy : Hierarchy) (events : List Event) :
    Surveys hierarchy (events.forM report) := by
  induction events with
  | nil => exact surveys_pure ()
  | cons event events ih => exact (surveys_report event).bind fun _ => ih

theorem surveys_buildCatalog (world : World) (owner : Owner) :
    Surveys world.hierarchy (buildCatalog world owner) where
  spares run := by
    obtain ⟨events, built⟩ := @runFrom_buildCatalog world owner run
    rw [built]
    exact ⟨rfl, rfl, List.prefix_refl _, (Catalog.repeatable_making world owner).grows _⟩
  refits providers views run := by
    rcases made : Catalog.build world run.registry.table owner with ⟨catalog, table, events⟩
    have reports := surveys_forM_report world.hierarchy events
    simp only [buildCatalog, RegistryM.runFrom_bind, runFrom_current, runFrom_update, refitRun,
      refit, made]
    have same := reports.refits providers views
      { run with registry := { run.registry with table } }
    simp only [refitRun, refit] at same
    rw [same]
    rcases (events.forM report).runFrom { run with registry := { run.registry with table } } with
      ⟨_ | _, after⟩ <;> rfl

theorem surveys_catalogOf (world : World) (owner : Owner) :
    Surveys world.hierarchy (catalogOf world owner) where
  spares run := by
    simp only [catalogOf, RegistryM.runFrom_bind, runFrom_current]
    rcases run.registry.catalogs.lookup owner with _ | catalog
    · have builds := (surveys_buildCatalog world owner).spares run
      simp only [RegistryM.runFrom_bind]
      rcases made : (buildCatalog world owner).runFrom run with ⟨_ | catalog, after⟩
      · rw [made] at builds
        exact builds
      · rw [made] at builds
        exact { builds with catalogs := builds.catalogs.trans (List.prefix_append _ _) }
    · exact .refl world.hierarchy run.registry
  refits providers views run := by
    have kept : (refitRun providers views run).registry.catalogs = run.registry.catalogs := rfl
    simp only [catalogOf, RegistryM.runFrom_bind, runFrom_current, kept]
    rcases run.registry.catalogs.lookup owner with _ | catalog
    · simp only [RegistryM.runFrom_bind,
        (surveys_buildCatalog world owner).refits providers views run]
      rcases (buildCatalog world owner).runFrom run with ⟨_ | catalog, after⟩ <;> rfl
    · rfl

theorem surveys_functionsOf (world : World) (owner : Owner) (cls : ClassId) :
    Surveys world.hierarchy (functionsOf world owner cls) := by
  refine (surveys_catalogOf world owner).bind fun catalog => ?_
  rcases catalog.functionsFor world.hierarchy cls with issue | groups
  · exact surveys_throw _
  · exact surveys_pure _

end Surveying

/-- Sees what a new provider offers for a class and reports it. -/
def inspect (world : World) (cls : ClassId) (provider : Owner) : RegistryM Unit := do
  let exposed := (← functionsOf world provider cls).map (·.1)
  if exposed.isEmpty then report (.nothingProvided provider.name cls.name)
  report (.registeredProvider provider.name cls.name exposed)

section Enrolling

variable {world : World} {cls : ClassId} {registered added providers : List Owner}
  {offers : List (Except ConfigurationIssue Owner)} {provider : Owner}

theorem surveys_inspect (world : World) (cls : ClassId) (provider : Owner) :
    Surveys world.hierarchy (inspect world cls provider) := by
  refine (surveys_functionsOf world provider cls).bind fun groups => ?_
  simp only
  split
  · exact (surveys_report _).bind fun _ => surveys_report _
  · exact surveys_report _

theorem enroll_cons_of_known (known : provider ∈ registered ∨ provider ∈ added) :
    enroll world cls registered (.ok provider :: offers) added =
      enroll world cls registered offers added := by
  rw [enroll, if_pos (by simpa using known)]

theorem enroll_cons_of_new (old : provider ∉ registered) (fresh : provider ∉ added) :
    enroll world cls registered (.ok provider :: offers) added =
      inspect world cls provider >>= fun _ =>
        enroll world cls registered offers (added ++ [provider]) := by
  rw [enroll, if_neg (by simp [old, fresh]), inspect]
  simp only [bind_assoc]
  congr 1
  funext groups
  split <;> simp

theorem surveys_enroll (world : World) (cls : ClassId) (registered : List Owner)
    (offers : List (Except ConfigurationIssue Owner)) (added : List Owner) :
    Surveys world.hierarchy (enroll world cls registered offers added) := by
  induction offers generalizing added with
  | nil => exact surveys_pure added
  | cons offer offers ih =>
      rcases offer with issue | provider
      · exact surveys_throw issue
      · by_cases known : provider ∈ registered ∨ provider ∈ added
        · rw [enroll_cons_of_known known]
          exact ih added
        · obtain ⟨old, fresh⟩ := not_or.mp known
          rw [enroll_cons_of_new old fresh]
          exact (surveys_inspect world cls provider).bind fun _ => ih _

/-- The providers that are not known yet, each at its first occurrence. -/
def additions (known providers : List Owner) : List Owner :=
  (providers.filter fun provider => provider ∉ known).eraseDups

theorem additions_cons_of_known (known : provider ∈ registered) :
    additions registered (provider :: providers) = additions registered providers := by
  rw [additions, List.filter_cons_of_neg (by simpa using known), additions]

theorem additions_cons_of_new (new : provider ∉ registered) :
    additions registered (provider :: providers) =
      provider :: additions (registered ++ [provider]) providers := by
  rw [additions, List.filter_cons_of_pos (by simpa using new), List.eraseDups_cons,
    List.filter_filter, additions]
  congr 3
  funext other
  rw [Bool.eq_iff_iff]
  simp [and_comm]

/-- Enrolling that goes through collects the additions among the providers offered. -/
theorem additions_of_enroll {run after : RegistryRun} {all : List Owner}
    (enrolled : (enroll world cls registered offers added).runFrom run = (.ok all, after)) :
    ∃ providers, offers = providers.map .ok ∧
      all = added ++ additions (registered ++ added) providers := by
  induction offers generalizing added run with
  | nil =>
      obtain ⟨made, -⟩ := Prod.mk.inj enrolled
      cases made
      exact ⟨[], rfl, (List.append_nil all).symm⟩
  | cons offer offers ih =>
      rcases offer with issue | provider
      · cases congrArg Prod.fst enrolled
      · by_cases known : provider ∈ registered ∨ provider ∈ added
        · rw [enroll_cons_of_known known] at enrolled
          obtain ⟨providers, rfl, rfl⟩ := ih enrolled
          refine ⟨provider :: providers, rfl, ?_⟩
          rw [additions_cons_of_known (List.mem_append.mpr known)]
        · obtain ⟨old, fresh⟩ := not_or.mp known
          rw [enroll_cons_of_new old fresh, RegistryM.runFrom_bind] at enrolled
          rcases inspected : (inspect world cls provider).runFrom run with ⟨_ | _, seen⟩
          · rw [inspected] at enrolled
            cases congrArg Prod.fst enrolled
          · rw [inspected] at enrolled
            obtain ⟨providers, rfl, rfl⟩ := ih enrolled
            refine ⟨provider :: providers, rfl, ?_⟩
            rw [additions_cons_of_new (by simp [old, fresh]), List.append_assoc, List.append_assoc]
            rfl

end Enrolling

/-- The registry with more providers for a class than it had before, and without the views that they
could change. -/
def commit (world : World) (cls : ClassId) (registered added : List Owner)
    (registry : Registry) : Registry :=
  if added.isEmpty then registry
  else invalidate world cls (setProviders cls (registered ++ added) registry)

section Committing

variable {world : World} {registry : Registry} {cls : ClassId}
  {registered added providers all : List Owner} {provider : Owner} {run after : RegistryRun}

theorem setProviders_setProviders (providers others : List Owner) :
    setProviders cls providers (setProviders cls others registry) =
      setProviders cls providers registry := by
  simp only [setProviders, DispatchMap.put_put]

theorem setProviders_of_lookup (entry : registry.providers.lookup cls = some registered) :
    setProviders cls registered registry = registry := by
  simp only [setProviders, DispatchMap.put_of_lookup entry]

theorem lookup_commit (entry : registry.providers.lookup cls = some registered)
    (added : List Owner) :
    (commit world cls registered added registry).providers.lookup cls =
      some (registered ++ added) := by
  rw [commit]
  split
  · rename_i nothing
    rw [List.isEmpty_iff.mp nothing, List.append_nil]
    exact entry
  · simp only [invalidate, setProviders, DispatchMap.lookup_put, if_pos]

/-- Adding providers in two steps comes to adding them at once. -/
theorem commit_commit (further : List Owner) :
    commit world cls (registered ++ added) further (commit world cls registered added registry) =
      commit world cls registered (added ++ further) registry := by
  rcases added with _ | ⟨first, added⟩
  · simp [commit]
  · rcases further with _ | ⟨next, further⟩
    · simp [commit]
    · simp [commit, invalidate, setProviders, DispatchMap.put_put]

/-- A survey gives the same before and after providers are added. -/
theorem Surveys.commits {α : Type} {hierarchy : Hierarchy} {work : RegistryM α}
    (surveys : Surveys hierarchy work) (cls : ClassId) (registered added : List Owner)
    (run : RegistryRun) :
    work.runFrom { run with registry := commit world cls registered added run.registry } =
      ((work.runFrom run).1, { (work.runFrom run).2 with
        registry := commit world cls registered added (work.runFrom run).2.registry }) := by
  have spares := surveys.spares run
  rw [commit, commit]
  split
  · rfl
  · have refits := surveys.refits
      (DispatchMap.put cls (registered ++ added) run.registry.providers)
      (invalidate world cls run.registry).views run
    simp only [refitRun, refit] at refits
    simp only [invalidate, setProviders, spares.providers, spares.views] at refits ⊢
    rw [refits]

theorem runFrom_registerProviders_eq_commit (offers : List (Except ConfigurationIssue Owner))
    (run : RegistryRun) (entry : run.registry.providers.lookup cls = some registered) :
    (registerProviders world cls offers).runFrom run =
      match (enroll world cls registered offers []).runFrom run with
      | (.error issue, after) => (.error issue, after)
      | (.ok added, after) =>
          (.ok (), { after with
            registry := commit world cls registered added after.registry }) := by
  have own : run.registry.providersOf cls = registered := by
    rw [providersOf, entry, Option.getD_some]
  rw [runFrom_registerProviders, own, setProviders_of_lookup entry]
  rcases (enroll world cls registered offers []).runFrom run with ⟨issue | added, after⟩
  · rfl
  · simp only [commit]
    split <;> rfl

/-- Registering providers one at a time goes on from the providers that were added before just as
enrolling does, and each step adds what enrolling collects. -/
theorem runFrom_pieces (entry : run.registry.providers.lookup cls = some registered)
    (enrolled : (enroll world cls registered (providers.map .ok) added).runFrom run =
      (.ok all, after)) :
    (providers.forM fun provider => registerProviders world cls [.ok provider]).runFrom
        { run with registry := commit world cls registered added run.registry } =
      (.ok (), { after with registry := commit world cls registered all after.registry }) := by
  -- The pieces go over the registry with everything added so far, enrolling over the one without; what
  -- is seen of the next provider is the same over both.
  induction providers generalizing added run with
  | nil =>
      cases enrolled
      rfl
  | cons provider providers ih =>
      change (registerProviders world cls [.ok provider] >>= fun _ => providers.forM
        fun provider => registerProviders world cls [.ok provider]).runFrom _ = _
      rw [RegistryM.runFrom_bind,
        runFrom_registerProviders_eq_commit _ _ (lookup_commit entry added)]
      rw [List.map_cons] at enrolled
      by_cases known : provider ∈ registered ∨ provider ∈ added
      · rw [enroll_cons_of_known known] at enrolled
        rw [enroll_cons_of_known (.inl (List.mem_append.mpr known))]
        exact ih entry enrolled
      · obtain ⟨old, fresh⟩ := not_or.mp known
        rw [enroll_cons_of_new old fresh, RegistryM.runFrom_bind] at enrolled
        rw [enroll_cons_of_new (by simp [old, fresh]) List.not_mem_nil, RegistryM.runFrom_bind,
          (surveys_inspect world cls provider).commits]
        have spares := (surveys_inspect world cls provider).spares run
        rcases inspected : (inspect world cls provider).runFrom run with ⟨_ | _, seen⟩
        · rw [inspected] at enrolled
          cases congrArg Prod.fst enrolled
        · rw [inspected] at enrolled spares
          have still : seen.registry.providers.lookup cls = some registered := by
            rw [spares.providers, entry]
          simp only [enroll, RegistryM.runFrom_pure, List.nil_append, commit_commit]
          exact ih still enrolled

theorem providersOf_commit (registered added : List Owner)
    (own : registry.providersOf cls = registered) :
    (commit world cls registered added registry).providersOf =
      Function.update registry.providersOf cls (registered ++ added) := by
  rw [commit]
  split
  · rename_i nothing
    rw [List.isEmpty_iff.mp nothing, List.append_nil, ← own, Function.update_eq_self]
  · exact providersOf_setProviders cls _

theorem providersOf_congr {other : Registry} (same : other.providers = registry.providers) :
    other.providersOf = registry.providersOf := by
  funext cls
  rw [providersOf, same, providersOf]

theorem lookup_setProviders (registered : List Owner) :
    (setProviders cls registered registry).providers.lookup cls = some registered := by
  rw [setProviders, DispatchMap.lookup_put, if_pos rfl]

/-- A registration starts by writing down the providers that there are. -/
theorem runFrom_registerProviders_set (offers : List (Except ConfigurationIssue Owner))
    (run : RegistryRun) :
    (registerProviders world cls offers).runFrom run =
      (registerProviders world cls offers).runFrom { run with
        registry := setProviders cls (run.registry.providersOf cls) run.registry } := by
  rw [runFrom_registerProviders, runFrom_registerProviders]
  simp only [providersOf_setProviders, Function.update_self, setProviders_setProviders]

/-- Enrolling providers that are there already does nothing. -/
theorem enroll_of_known (known : ∀ provider ∈ providers, provider ∈ registered) :
    enroll world cls registered (providers.map .ok) added = pure added := by
  induction providers with
  | nil => rfl
  | cons provider providers ih =>
      obtain ⟨first, others⟩ := List.forall_mem_cons.mp known
      rw [List.map_cons, enroll_cons_of_known (.inl first), ih others]

theorem mem_additions (mem : provider ∈ providers) :
    provider ∈ registered ++ additions registered providers := by
  by_cases known : provider ∈ registered
  · exact List.mem_append_left _ known
  · exact List.mem_append_right _ (by simp [additions, mem, known])

end Committing

/-- What a refused registration leaves: the lists of providers and the views as they were, and all
catalogs and entries of the table that there were. -/
structure Withdraws (world : World) (registry after : Registry) : Prop where
  providers : after.providersOf = registry.providersOf
  views : after.views = registry.views
  catalogs : registry.catalogs <+: after.catalogs
  table : ConverterTable.Grows world.hierarchy registry.table after.table

/-- What a registration that goes through comes to: the class gains the additions and no other class
gains any, as if the providers were registered one at a time, and a repetition does nothing. -/
structure Admits (world : World) (registry : Registry) (cls : ClassId) (providers : List Owner)
    (after : Registry) (events : List Event) : Prop where
  gains : after.providersOf = Function.update registry.providersOf cls
    (registry.providersOf cls ++ additions (registry.providersOf cls) providers)
  pieces : ∃ single,
    RegistryM.runOn registry
        (providers.forM fun provider => registerProviders world cls [.ok provider]) =
      (.ok (), single, events) ∧
    single.essence = after.essence ∧ single.views = after.views ∧
      single.catalogs = after.catalogs
  again : RegistryM.runOn after (registerProviders world cls (providers.map .ok)) =
    (.ok (), after, [])

variable {world : World} {registry : Registry} {cls : ClassId}

theorem runOn_eq_runFrom {α : Type} (work : RegistryM α) :
    RegistryM.runOn registry work =
      ((work.runFrom { registry }).1, (work.runFrom { registry }).2.registry,
        (work.runFrom { registry }).2.events) :=
  rfl

/-- What enrolling offers for a class comes to, once the providers that there are have been written
down. -/
def enrollment (world : World) (registry : Registry) (cls : ClassId)
    (offers : List (Except ConfigurationIssue Owner)) :
    Except ConfigurationIssue (List Owner) × RegistryRun :=
  (enroll world cls (registry.providersOf cls) offers []).runFrom
    { registry := setProviders cls (registry.providersOf cls) registry }

section Enrolled

variable {offers : List (Except ConfigurationIssue Owner)} {providers added : List Owner}
  {outcome : Except ConfigurationIssue (List Owner)} {after : RegistryRun}

theorem runOn_registerProviders (world : World) (registry : Registry) (cls : ClassId)
    (offers : List (Except ConfigurationIssue Owner)) :
    RegistryM.runOn registry (registerProviders world cls offers) =
      match enrollment world registry cls offers with
      | (.error issue, after) => (.error issue, after.registry, after.events)
      | (.ok added, after) =>
          (.ok (), commit world cls (registry.providersOf cls) added after.registry,
            after.events) := by
  rw [runOn_eq_runFrom, runFrom_registerProviders_set,
    runFrom_registerProviders_eq_commit offers _ (lookup_setProviders _), enrollment]
  rcases (enroll world cls (registry.providersOf cls) offers []).runFrom
    { registry := setProviders cls (registry.providersOf cls) registry } with ⟨_ | _, after⟩ <;> rfl

theorem spares_of_enrollment
    (enrolled : enrollment world registry cls offers = (outcome, after)) :
    Spares world.hierarchy (setProviders cls (registry.providersOf cls) registry)
      after.registry := by
  have spares := (surveys_enroll world cls (registry.providersOf cls) offers []).spares
    { registry := setProviders cls (registry.providersOf cls) registry }
  rw [enrollment] at enrolled
  rwa [enrolled] at spares

/-- However far enrolling gets, it leaves the lists of providers and the views as they were. -/
theorem withdraws_of_enrollment
    (enrolled : enrollment world registry cls offers = (outcome, after)) :
    Withdraws world registry after.registry := by
  have spares := spares_of_enrollment enrolled
  refine ⟨?_, spares.views, spares.catalogs, spares.table⟩
  rw [providersOf_congr spares.providers, providersOf_setProviders, Function.update_eq_self]

/-- Registering providers one at a time ends where enrolling them all does. -/
theorem exists_pieces
    (enrolled : enrollment world registry cls (providers.map .ok) = (.ok added, after)) :
    ∃ single,
      RegistryM.runOn registry
          (providers.forM fun provider => registerProviders world cls [.ok provider]) =
        (.ok (), single, after.events) ∧
      single.essence =
        (commit world cls (registry.providersOf cls) added after.registry).essence ∧
      single.views = (commit world cls (registry.providersOf cls) added after.registry).views ∧
      single.catalogs =
        (commit world cls (registry.providersOf cls) added after.registry).catalogs := by
  cases providers with
  | nil =>
      -- With nothing to register, not even the present providers are written down.
      cases enrolled
      have same : (setProviders cls (registry.providersOf cls) registry).providersOf =
          registry.providersOf := by
        rw [providersOf_setProviders, Function.update_eq_self]
      refine ⟨registry, rfl, ?_, rfl, rfl⟩
      exact congrArg (Essence.mk registry.table) same.symm
  | cons provider providers =>
      have pieces := runFrom_pieces (lookup_setProviders _) enrolled
      change (registerProviders world cls [.ok provider] >>= _).runFrom
        { registry := setProviders cls (registry.providersOf cls) registry } = _ at pieces
      rw [RegistryM.runFrom_bind, ← runFrom_registerProviders_set _ { registry },
        ← RegistryM.runFrom_bind] at pieces
      refine ⟨_, ?_, rfl, rfl, rfl⟩
      exact congrArg (fun ended => (ended.1, ended.2.registry, ended.2.events)) pieces

theorem admits_of_enrollment
    (enrolled : enrollment world registry cls (providers.map .ok) = (.ok added, after))
    (all : added = additions (registry.providersOf cls) providers) :
    Admits world registry cls providers
      (commit world cls (registry.providersOf cls) added after.registry) after.events where
  gains := by
    have kept := (withdraws_of_enrollment enrolled).providers
    rw [providersOf_commit _ added (congrFun kept cls), kept, all]
  pieces := exists_pieces enrolled
  again := by
    have entry : after.registry.providers.lookup cls = some (registry.providersOf cls) := by
      rw [(spares_of_enrollment enrolled).providers, lookup_setProviders]
    have known : ∀ provider ∈ providers, provider ∈ registry.providersOf cls ++ added := by
      intro provider mem
      exact all ▸ mem_additions mem
    rw [runOn_eq_runFrom, runFrom_registerProviders_eq_commit _ _ (lookup_commit entry added),
      enroll_of_known known]
    rfl

end Enrolled

example :
    let register (cls : String) (providers : List String) : Registry :=
      (RegistryM.runOn { table := .standard } (registerProviders forked (.declared cls)
        (providers.map fun provider => .ok (.cls (.declared provider))))).2.1
    (register "Both" ["Left", "Tools"]).providersOf (.declared "Both") = [] ∧
      (register "Left" ["Right", "Tools", "Right"]).providersOf (.declared "Left") =
        [.cls (.declared "Right"), .cls (.declared "Tools")] := by
  decide +kernel

end Registry

end MemberDispatch
