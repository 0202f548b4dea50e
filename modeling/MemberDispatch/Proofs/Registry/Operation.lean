import MemberDispatch.Proofs.Registry.Freshness

/-!
# Runs of a registry

A registry is worked on by registering converters and providers, by asking for views and for the
members of a name, and by clearing its caches. Of each operation two things are shown: it keeps the
caches sound, and what it leaves in the table and in the lists of providers follows from these
alone. Both carry over to every run, whatever caches it started with or lost on the way.
-/

namespace MemberDispatch

namespace Registry

/-- What callers do to a registry. -/
inductive Operation
  | registerConverter (key : TypeKey) (coercion : Coercion)
  | registerProviders (cls : ClassId) (providers : List (Except ConfigurationIssue Owner))
  | get (cls : ClassId)
  | lookup (cls : ClassId) (name : String)
  | clear

/-- What a registry holds besides its caches. -/
structure Essence where
  table : ConverterTable
  providersOf : ClassId → List Owner

/-- The table of a registry and its lists of providers. -/
def essence (registry : Registry) : Essence :=
  ⟨registry.table, registry.providersOf⟩

namespace Operation

def work (world : World) : Operation → RegistryM Unit
  | .registerConverter key coercion => discard (Registry.registerConverter key coercion)
  | .registerProviders cls providers => Registry.registerProviders world cls providers
  | .get cls => discard (viewOf world cls)
  | .lookup cls name => discard (Registry.lookup world cls name)
  | .clear => Registry.clear

/-- The registry after an operation, which may have failed. -/
def perform (world : World) (registry : Registry) (operation : Operation) : Registry :=
  (RegistryM.runOn registry (operation.work world)).2.1

/-- What an operation makes of the table and of the lists of providers. -/
def effect (world : World) (essence : Essence) : Operation → Essence
  | .registerConverter key coercion =>
      { essence with table := (essence.table.register key coercion).2 }
  | .registerProviders cls providers =>
      match (Rebuild.enroll world cls (essence.providersOf cls) providers []).on essence.table with
      | (.ok added, table) =>
          ⟨table, Function.update essence.providersOf cls (essence.providersOf cls ++ added)⟩
      | (.error _, table) => { essence with table }
  | .get cls | .lookup cls _ =>
      { essence with table := ((Rebuild.view world essence.providersOf cls).on essence.table).2 }
  | .clear => essence

end Operation

def after (world : World) (registry : Registry) (operations : List Operation) : Registry :=
  operations.foldl (Operation.perform world) registry

variable {world : World} {registry : Registry}

theorem after_append (earlier later : List Operation) :
    after world registry (earlier ++ later) = after world (after world registry earlier) later :=
  List.foldl_append

theorem perform_eq (operation : Operation) :
    operation.perform world registry = ((operation.work world).runFrom { registry }).2.registry :=
  rfl

theorem providersOf_setProviders (cls : ClassId) (providers : List Owner) :
    (setProviders cls providers registry).providersOf =
      Function.update registry.providersOf cls providers := by
  funext other
  simp only [providersOf, setProviders, DispatchMap.lookup_put, Function.update_apply]
  split <;> rfl

/-- Setting the providers that a class has changes no list of providers. -/
theorem sound_setProviders_self (sound : registry.Sound world) (cls : ClassId) :
    (setProviders cls (registry.providersOf cls) registry).Sound world where
  catalogs := sound.catalogs
  views mem table extension := by
    rw [providersOf_setProviders, Function.update_eq_self]
    exact sound.views mem extension

/-- The views that are left when a class gains providers are those that the class is no part of. -/
theorem sound_invalidate (coherent : world.hierarchy.Coherent) (sound : registry.Sound world)
    (cls : ClassId) (providers : List Owner) :
    (invalidate world cls (setProviders cls providers registry)).Sound world where
  catalogs := sound.catalogs
  views {cached view} mem table extension := by
    obtain ⟨mem, kept⟩ := List.mem_filter.mp mem
    have made := sound.views mem extension
    have same : ∀ ancestor ∈ world.hierarchy.linearization cached,
        registry.providersOf ancestor =
          (setProviders cls providers registry).providersOf ancestor := by
      intro ancestor above
      have other : ancestor ≠ cls := by
        rintro rfl
        simp [coherent.isSubclass_of_mem above] at kept
      rw [providersOf_setProviders, Function.update_of_ne other]
    rw [Rebuild.view_congr coherent same] at made
    exact made

theorem runFrom_discard {α : Type} (work : RegistryM α) (run : RegistryRun) :
    ((discard work : RegistryM Unit).runFrom run).2 = (work.runFrom run).2 := by
  change ((work >>= fun _ => pure ()).runFrom run).2 = _
  rw [RegistryM.runFrom_bind]
  rcases work.runFrom run with ⟨_ | _, after⟩ <;> rfl

/-- That work on a sound registry leaves it sound, and what it leaves besides the caches. -/
def Settles {α : Type} (world : World) (work : RegistryM α) (registry : Registry)
    (essence : Essence) : Prop :=
  ∀ run : RegistryRun, run.registry = registry →
    (work.runFrom run).2.registry.Sound world ∧ (work.runFrom run).2.registry.essence = essence

theorem Mirrors.settles {α : Type} {work : RegistryM α} {rebuilt : RebuildM α}
    (mirrors : Mirrors world registry.providersOf work rebuilt) (sound : registry.Sound world) :
    Settles world work registry ⟨(rebuilt.on registry.table).2, registry.providersOf⟩ := by
  rintro run rfl
  obtain ⟨_, table_eq, kept, still⟩ := mirrors run sound rfl
  exact ⟨still, by rw [essence, table_eq, kept]⟩

theorem settles_registerConverter (sound : registry.Sound world) (key : TypeKey)
    (coercion : Coercion) :
    Settles world (registerConverter key coercion) registry
      ⟨(registry.table.register key coercion).2, registry.providersOf⟩ := by
  rintro run rfl
  rcases registered : run.registry.table.register key coercion with ⟨changed, table⟩
  cases changed with
  | true =>
      have made : ((registerConverter key coercion).runFrom run).2.registry =
          { run.registry with table, catalogs := [], views := [] } := by
        simp only [registerConverter, registerInTable, RegistryM.runFrom_bind, runFrom_current,
          registered]
        rfl
      rw [made]
      exact ⟨sound_of_empty rfl rfl, rfl⟩
  | false =>
      have unchanged : table = run.registry.table := by
        have kept := ConverterTable.register_of_unchanged (congrArg Prod.fst registered)
        rwa [registered] at kept
      have made : ((registerConverter key coercion).runFrom run).2.registry = run.registry := by
        simp only [registerConverter, registerInTable, RegistryM.runFrom_bind, runFrom_current,
          registered, unchanged]
        rfl
      rw [made, unchanged]
      exact ⟨sound, rfl⟩

/-- A registration of providers: enrolling them, then adding those that are new. -/
theorem runFrom_registerProviders (cls : ClassId)
    (providers : List (Except ConfigurationIssue Owner)) (run : RegistryRun) :
    (registerProviders world cls providers).runFrom run =
      match (enroll world cls (run.registry.providersOf cls) providers []).runFrom { run with
        registry := setProviders cls (run.registry.providersOf cls) run.registry } with
      | (.error issue, after) => (.error issue, after)
      | (.ok added, after) =>
          (.ok (), if added.isEmpty then after
            else
              let all := run.registry.providersOf cls ++ added
              { after with
                registry := invalidate world cls (setProviders cls all after.registry) }) := by
  simp only [registerProviders, RegistryM.runFrom_bind, runFrom_current, runFrom_update]
  generalize (enroll world cls (run.registry.providersOf cls) providers []).runFrom { run with
    registry := setProviders cls (run.registry.providersOf cls) run.registry } = enrolled
  rcases enrolled with ⟨issue | added, after⟩
  · rfl
  · simp only
    split <;> rfl

theorem settles_registerProviders (coherent : world.hierarchy.Coherent)
    (sound : registry.Sound world) (cls : ClassId)
    (providers : List (Except ConfigurationIssue Owner)) :
    Settles world (registerProviders world cls providers) registry
      (Operation.effect world registry.essence (.registerProviders cls providers)) := by
  rintro run rfl
  have same : (setProviders cls (run.registry.providersOf cls) run.registry).providersOf =
      run.registry.providersOf := by
    rw [providersOf_setProviders, Function.update_eq_self]
  obtain ⟨outcome_eq, table_eq, kept, still⟩ := mirrors_enroll cls (run.registry.providersOf cls)
    providers [] { run with
      registry := setProviders cls (run.registry.providersOf cls) run.registry }
    (sound_setProviders_self sound cls) same
  have start : (setProviders cls (run.registry.providersOf cls) run.registry).table =
    run.registry.table := rfl
  rw [start] at outcome_eq table_eq
  simp only [runFrom_registerProviders, Operation.effect, essence]
  -- What enrolling does to the registry is known from what it does to the table alone.
  generalize (enroll world cls (run.registry.providersOf cls) providers []).runFrom { run with
    registry := setProviders cls (run.registry.providersOf cls) run.registry } = made at *
  generalize (Rebuild.enroll world cls (run.registry.providersOf cls) providers []).on
    run.registry.table = rebuilt at *
  rcases made with ⟨outcome, after⟩
  rcases rebuilt with ⟨expected, table⟩
  simp only at outcome_eq table_eq kept still
  subst outcome_eq table_eq
  cases outcome with
  | error issue => exact ⟨still, by rw [kept]⟩
  | ok added =>
      simp only
      split
      · rename_i nothing
        rw [List.isEmpty_iff.mp nothing, List.append_nil, Function.update_eq_self]
        exact ⟨still, by rw [kept]⟩
      · refine ⟨sound_invalidate coherent still cls _, ?_⟩
        have providers_eq : (invalidate world cls (setProviders cls
            (run.registry.providersOf cls ++ added) after.registry)).providersOf =
              Function.update after.registry.providersOf cls
                (run.registry.providersOf cls ++ added) :=
          providersOf_setProviders cls _
        rw [providers_eq, kept]
        rfl

theorem Operation.settles (coherent : world.hierarchy.Coherent) (sound : registry.Sound world)
    (operation : Operation) :
    Settles world (operation.work world) registry (operation.effect world registry.essence) := by
  intro run start
  cases operation with
  | registerConverter key coercion =>
      rw [work, runFrom_discard]
      exact settles_registerConverter sound key coercion run start
  | registerProviders cls providers =>
      exact settles_registerProviders coherent sound cls providers run start
  | get cls =>
      rw [work, runFrom_discard]
      exact (mirrors_viewOf coherent cls).settles sound run start
  | lookup cls name =>
      have made : ((Registry.lookup world cls name).runFrom run).2 =
          ((viewOf world cls).runFrom run).2 := by
        rw [Registry.lookup, RegistryM.runFrom_bind]
        rcases (viewOf world cls).runFrom run with ⟨_ | _, after⟩ <;> rfl
      rw [work, runFrom_discard, made]
      exact (mirrors_viewOf coherent cls).settles sound run start
  | clear =>
      subst start
      exact ⟨sound_of_empty rfl rfl, rfl⟩

/-- What a run leaves is what its operations make of the table and the lists of providers. -/
theorem sound_after (coherent : world.hierarchy.Coherent) (sound : registry.Sound world)
    (operations : List Operation) :
    (registry.after world operations).Sound world ∧
      (registry.after world operations).essence =
        operations.foldl (Operation.effect world) registry.essence := by
  induction operations generalizing registry with
  | nil => exact ⟨sound, rfl⟩
  | cons operation operations ih =>
      obtain ⟨still, left⟩ := operation.settles coherent sound { registry } rfl
      obtain ⟨last, reached⟩ := ih still
      exact ⟨last, by rw [List.foldl_cons, ← left]; exact reached⟩

/-- The registry without any catalog or view. -/
def uncached (registry : Registry) : Registry :=
  { registry with catalogs := [], views := [] }

theorem runOn_eq {α : Type} (work : RegistryM α) :
    (RegistryM.runOn registry work).1 = (work.runFrom { registry }).1 :=
  rfl

theorem outcome_registerProviders (sound : registry.Sound world) (cls : ClassId)
    (providers : List (Except ConfigurationIssue Owner)) :
    (RegistryM.runOn registry (registerProviders world cls providers)).1.isOk =
      ((Rebuild.enroll world cls (registry.providersOf cls) providers []).on
        registry.table).1.isOk := by
  have same : (setProviders cls (registry.providersOf cls) registry).providersOf =
      registry.providersOf := by
    rw [providersOf_setProviders, Function.update_eq_self]
  obtain ⟨outcome_eq, -⟩ := mirrors_enroll cls (registry.providersOf cls) providers []
    { registry := setProviders cls (registry.providersOf cls) registry }
    (sound_setProviders_self sound cls) same
  have start : (setProviders cls (registry.providersOf cls) registry).table = registry.table := rfl
  rw [start] at outcome_eq
  rw [runOn_eq, runFrom_registerProviders, ← outcome_eq]
  rcases (enroll world cls (registry.providersOf cls) providers []).runFrom
    { registry := setProviders cls (registry.providersOf cls) registry } with ⟨_ | _, after⟩
  · rfl
  · rfl

theorem runOn_viewOf (coherent : world.hierarchy.Coherent) (sound : registry.Sound world)
    (cls : ClassId) :
    (RegistryM.runOn registry (viewOf world cls)).1 =
      ((Rebuild.view world registry.providersOf cls).on registry.table).1 :=
  (mirrors_viewOf coherent cls { registry } sound rfl).1

/-- Of a sound registry, the view of a class follows from what it holds besides its caches. -/
theorem viewOf_eq_of_essence (coherent : world.hierarchy.Coherent) {other : Registry}
    (sound : registry.Sound world) (otherSound : other.Sound world)
    (same : registry.essence = other.essence) (cls : ClassId) :
    (RegistryM.runOn registry (viewOf world cls)).1 =
      (RegistryM.runOn other (viewOf world cls)).1 := by
  obtain ⟨tables, providers⟩ := Essence.mk.inj same
  rw [runOn_viewOf coherent sound, runOn_viewOf coherent otherSound, tables, providers]

theorem runOn_lookup (cls : ClassId) (name : String) :
    (RegistryM.runOn registry (Registry.lookup world cls name)).1 =
      (RegistryM.runOn registry (viewOf world cls)).1.map fun view => view.get name := by
  rw [runOn_eq, runOn_eq, Registry.lookup, RegistryM.runFrom_bind]
  rcases (viewOf world cls).runFrom { registry } with ⟨_ | _, after⟩ <;> rfl

/-- A class and one that derives from it, with a static function that takes a value of the first. -/
def twoClasses : World :=
  (World.addClass {} { name := "Base" }).addClass
    { name := "Sub"
      bases := [.declared "Base"]
      entries := [("shown", .staticMethod
        { qualifiedName := "Sub.shown"
          parameters := some [{ name := "base", type := .cls (.declared "Base") }]
          code := .body .echo })] }

theorem declared_twoClasses : twoClasses.Declared :=
  .cls (.cls .start _ (by decide) (by decide) (by decide)) _ (by decide) (by decide) (by decide)

end Registry

end MemberDispatch
