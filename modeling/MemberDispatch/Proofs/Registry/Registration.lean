import MemberDispatch.Proofs.Registry.Providers

/-!
# Reports at registration

Whether a provider can be asked for its functions is found out once, when it is offered for a class.
A registration with an offer that is no provider, or with a provider for which it is not clear where
its functions receive the values, fails and adds none of them. Every provider that is registered
answers from then on, over whatever converters, caches and further registrations, and so no view and
no look-up is ever refused.
-/

namespace MemberDispatch

namespace Registry

/-- That nothing a registry is asked for fails over its providers. -/
structure Serves (world : World) (registry : Registry) : Prop where
  view (cls : ClassId) : ∃ view, (RegistryM.runOn registry (viewOf world cls)).1 = .ok view
  members (cls : ClassId) (name : String) :
    ∃ index, (RegistryM.runOn registry (Registry.lookup world cls name)).1 = .ok index
  exposes (cls : ClassId) : ∀ provider ∈ registry.providersOf cls,
    ∃ groups, (RegistryM.runOn registry (functionsOf world provider cls)).1 = .ok groups

/-- That a registration of providers fails over exactly those offers that could not be served. -/
structure Reports (world : World) (registry : Registry) (cls : ClassId)
    (offers : List (Except ConfigurationIssue Owner)) : Prop where
  succeeds_iff : (RegistryM.runOn registry (registerProviders world cls offers)).1 = .ok () ↔
    ∀ offer ∈ offers, ∃ provider, offer = .ok provider ∧
      ∃ groups, (RegistryM.runOn registry (functionsOf world provider cls)).1 = .ok groups
  adds_none (fails : (RegistryM.runOn registry (registerProviders world cls offers)).1 ≠ .ok ()) :
    (Operation.perform world registry (.registerProviders cls offers)).providersOf =
      registry.providersOf

variable {world : World} {registry : Registry} {cls : ClassId}

theorem Sound.functionsOf_answers_iff (sound : registry.Sound world) (provider : Owner) :
    (∃ groups, (RegistryM.runOn registry (functionsOf world provider cls)).1 = .ok groups) ↔
      provider.Clear world cls := by
  obtain ⟨outcome_eq, -⟩ := mirrors_functionsOf provider cls { registry } sound rfl
  rw [runOn_eq, outcome_eq]
  exact Rebuild.functions_answers_iff

/-- A sound registry whose providers are clear answers. -/
theorem Sound.serves (coherent : world.hierarchy.Coherent) (sound : registry.Sound world)
    (clear : registry.essence.Clear world) : registry.Serves world := by
  have answers (cls : ClassId) :
      ∃ view, (RegistryM.runOn registry (viewOf world cls)).1 = .ok view := by
    rw [runOn_viewOf coherent sound]
    exact Rebuild.answers_viewWithin clear _ cls _
  constructor
  case view => exact answers
  case members =>
    intro cls name
    obtain ⟨view, made⟩ := answers cls
    refine ⟨view.get name, ?_⟩
    rw [runOn_lookup, made]
    rfl
  case exposes =>
    intro cls provider mem
    exact (sound.functionsOf_answers_iff provider).mpr (clear cls provider mem)

end Registry

namespace Rebuild

variable {world : World} {cls : ClassId}

/-- Enrolling goes through just if every offer is a provider that is clear. -/
theorem enroll_answers_iff {registered added : List Owner}
    {offers : List (Except ConfigurationIssue Owner)} {table : ConverterTable}
    (registeredClear : ∀ provider ∈ registered, provider.Clear world cls)
    (addedClear : ∀ provider ∈ added, provider.Clear world cls) :
    (∃ newcomers, ((enroll world cls registered offers added).on table).1 = .ok newcomers) ↔
      ∀ offer ∈ offers, ∃ provider, offer = .ok provider ∧ provider.Clear world cls := by
  induction offers generalizing added table with
  | nil => exact ⟨fun _ _ mem => absurd mem List.not_mem_nil, fun _ => ⟨added, rfl⟩⟩
  | cons offer offers ih =>
      rw [List.forall_mem_cons]
      rcases offer with issue | provider
      · constructor
        · rintro ⟨_, made⟩
          cases made
        · rintro ⟨⟨_, impossible, _⟩, _⟩
          cases impossible
      · simp only [Except.ok.injEq, exists_eq_left', enroll]
        split
        · -- A provider that is there already was clear when it came.
          rename_i present
          have clear : provider.Clear world cls := by
            simp only [Bool.or_eq_true, List.contains_iff_mem] at present
            rcases present with mem | mem
            · exact registeredClear provider mem
            · exact addedClear provider mem
          rw [ih addedClear]
          exact ⟨fun others => ⟨clear, others⟩, fun both => both.2⟩
        · rw [RebuildM.on_bind]
          rcases seen : ((functions world provider cls).on table).1 with issue | groups
          · constructor
            · rintro ⟨_, made⟩
              cases made
            · rintro ⟨clear, -⟩
              obtain ⟨_, answered⟩ := functions_answers_iff.mpr clear
              rw [seen] at answered
              cases answered
          · have clear : provider.Clear world cls := functions_answers_iff.mp ⟨groups, seen⟩
            have stillClear : ∀ other ∈ added ++ [provider], other.Clear world cls := by
              intro other mem
              rcases List.mem_append.mp mem with mem | mem
              · exact addedClear other mem
              · rw [List.mem_singleton.mp mem]
                exact clear
            simp only [RebuildM.onward]
            rw [ih stillClear]
            exact ⟨fun others => ⟨clear, others⟩, fun both => both.2⟩

end Rebuild

namespace Registry

variable {world : World} {registry : Registry} {cls : ClassId}

theorem succeeds_iff_enrolls (sound : registry.Sound world) (cls : ClassId)
    (offers : List (Except ConfigurationIssue Owner)) :
    (RegistryM.runOn registry (registerProviders world cls offers)).1 = .ok () ↔
      ∃ newcomers, ((Rebuild.enroll world cls (registry.providersOf cls) offers []).on
        registry.table).1 = .ok newcomers := by
  have outcome := outcome_registerProviders sound cls offers
  generalize (RegistryM.runOn registry (registerProviders world cls offers)).1 = left at *
  generalize ((Rebuild.enroll world cls (registry.providersOf cls) offers []).on
    registry.table).1 = right at *
  rcases left with _ | ⟨⟩ <;> rcases right with _ | _ <;>
    simp [Except.isOk, Except.toBool] at outcome ⊢

theorem Sound.reports (coherent : world.hierarchy.Coherent) (sound : registry.Sound world)
    (clear : registry.essence.Clear world) (cls : ClassId)
    (offers : List (Except ConfigurationIssue Owner)) : registry.Reports world cls offers := by
  constructor
  case succeeds_iff =>
    simp only [sound.functionsOf_answers_iff]
    rw [succeeds_iff_enrolls sound]
    exact Rebuild.enroll_answers_iff (clear cls) fun _ mem => absurd mem List.not_mem_nil
  case adds_none =>
    intro fails
    rw [Ne, succeeds_iff_enrolls sound] at fails
    have left := ((Operation.registerProviders cls offers).settles coherent sound { registry } rfl).2
    have kept : (Operation.effect world registry.essence (.registerProviders cls offers)).providersOf =
        registry.providersOf := by
      simp only [Operation.effect]
      split
      · rename_i newcomers table enrolled
        exact absurd ⟨newcomers, congrArg Prod.fst enrolled⟩ fails
      · rfl
    rw [← kept, ← left]
    rfl

/-- An operation takes no provider away. -/
theorem Operation.prefix_effect (world : World) (essence : Essence) (operation : Operation)
    (cls : ClassId) :
    essence.providersOf cls <+: (operation.effect world essence).providersOf cls := by
  cases operation with
  | registerProviders asked offers =>
      simp only [effect]
      split
      · simp only [Function.update_apply]
        split
        · rename_i same
          subst same
          exact List.prefix_append _ _
        · exact List.prefix_refl _
      · exact List.prefix_refl _
  | _ => exact List.prefix_refl _

theorem prefix_after (coherent : world.hierarchy.Coherent) (sound : registry.Sound world)
    (operations : List Operation) (cls : ClassId) :
    registry.providersOf cls <+: (registry.after world operations).providersOf cls := by
  induction operations generalizing registry with
  | nil => exact List.prefix_refl _
  | cons operation operations ih =>
      obtain ⟨still, left⟩ := operation.settles coherent sound { registry } rfl
      have gains := operation.prefix_effect world registry.essence cls
      rw [← left] at gains
      exact gains.trans (ih still)

/-- After any run a registry serves every class, with its caches and without them, and reports an
offer that it could not serve; and so it does after whatever comes later, all providers kept. -/
theorem after_serves (declared : world.Declared) (table : ConverterTable)
    (operations : List Operation) :
    (after world { table } operations).Serves world ∧
      (after world { table } operations).uncached.Serves world ∧
      (∀ cls offers, (after world { table } operations).Reports world cls offers) ∧
      ∀ later, (after world { table } (operations ++ later)).Serves world ∧
        ∀ cls, (after world { table } operations).providersOf cls <+:
          (after world { table } (operations ++ later)).providersOf cls := by
  have coherent := declared.coherent
  have begun : Sound world { table } := sound_of_empty rfl rfl
  have serves (operations : List Operation) :
      (after world { table } operations).Serves world :=
    (sound_after coherent begun operations).1.serves coherent
      (clear_after coherent table operations)
  have sound := (sound_after coherent begun operations).1
  have clear := clear_after coherent table operations
  refine ⟨serves operations, ?_, sound.reports coherent clear, ?_⟩
  · have bare : (after world { table } operations).uncached.Sound world := sound_of_empty rfl rfl
    exact bare.serves coherent clear
  · intro later
    refine ⟨serves (operations ++ later), ?_⟩
    intro cls
    rw [after_append]
    exact prefix_after coherent sound later cls

/-- Two classes, one that derives from both, and one with a function that takes a value of each of
the first two. -/
def forked : World :=
  (((World.addClass {} { name := "Left" }).addClass { name := "Right" }).addClass
    { name := "Both", bases := [.declared "Left", .declared "Right"] }).addClass
    { name := "Tools"
      entries := [("joined", .staticMethod
        { qualifiedName := "Tools.joined"
          parameters := some [{ name := "left", type := .cls (.declared "Left") },
            { name := "right", type := .cls (.declared "Right") }]
          code := .body .echo })] }

theorem declared_forked : forked.Declared :=
  .cls (.cls (.cls (.cls .start _ (by decide) (by decide) (by decide)) _ (by decide) (by decide)
    (by decide)) _ (by decide) (by decide) (by decide)) _ (by decide) (by decide) (by decide)

/-- The provider is refused for the class that could fill both parameters, and served for one of its
bases. -/
theorem after_serves_of_refused :
    forked.Declared ∧
      let offers : List (Except ConfigurationIssue Owner) := [.ok (.cls (.declared "Tools"))]
      let operations : List Operation :=
        [.registerProviders (.declared "Both") offers,
          .registerProviders (.declared "Left") offers,
          .registerConverter (.cls (.declared "Left")) .text, .get (.declared "Both")]
      (after forked { table := .standard } operations).Serves forked ∧
        (after forked { table := .standard } operations).Reports forked (.declared "Both") offers ∧
        (after forked { table := .standard } operations).providersOf (.declared "Both") = [] ∧
        (after forked { table := .standard } operations).providersOf (.declared "Left") =
          [.cls (.declared "Tools")] := by
  have served := after_serves declared_forked .standard
    [.registerProviders (.declared "Both") [.ok (.cls (.declared "Tools"))],
      .registerProviders (.declared "Left") [.ok (.cls (.declared "Tools"))],
      .registerConverter (.cls (.declared "Left")) .text, .get (.declared "Both")]
  exact ⟨declared_forked, served.1, served.2.2.1 _ _, by decide +kernel, by decide +kernel⟩

end Registry

end MemberDispatch
