import MemberDispatch.Proofs.Host.Names
import MemberDispatch.Proofs.Registry.Preparing
import MemberDispatch.Proofs.Registry.Provided

/-!
# The registry as it is prepared

A registry that was prepared with the standard coercions and the built-in providers, and of which nothing
but views and members were asked since, still has no other coercion and no other provider. So whatever
values of a class have beyond what is declared comes from a built-in provider of a class above.
-/

namespace MemberDispatch

namespace Registry

/-- That a registry holds nothing that was not prepared: no coercions and no providers but the standard
ones. -/
structure Basic (world : World) (registry : Registry) : Prop where
  reached : registry.Reached world
  orderly : registry.table.Orderly world.hierarchy
  coercions : ∀ key coercion, registry.registered.coercion? key = some coercion →
    (key, coercion) ∈ standardCoercions
  providers : ∀ cls, ∀ owner ∈ registry.registered.providersOf cls,
    ∃ kinds, (cls, kinds) ∈ standardProviders ∧ ∃ kind ∈ kinds, owner = .cls (.builtin kind)

/-- The operations that register nothing, or built-in providers for their class. -/
inductive Operation.Standard : Operation → Prop
  | providers {cls : ClassId} {kinds : List BuiltinClass} (listed : (cls, kinds) ∈ standardProviders) :
      Standard (.registerProviders cls (kinds.map fun kind => .ok (.cls (.builtin kind))))
  | get (cls : ClassId) : Standard (.get cls)
  | lookup (cls : ClassId) (name : String) : Standard (.lookup cls name)
  | clear : Standard .clear

variable {world : World} {registry : Registry}

theorem mem_of_newcomers {present added : List Owner}
    {offers : List (Except ConfigurationIssue Owner)} {owner : Owner}
    (mem : owner ∈ newcomers present offers added) : owner ∈ added ∨ .ok owner ∈ offers := by
  induction offers generalizing added with
  | nil => exact .inl mem
  | cons offer offers ih =>
      cases offer with
      | error issue => exact .inl mem
      | ok provider =>
          rw [newcomers] at mem
          split at mem
          · exact (ih mem).imp_right (List.mem_cons_of_mem _)
          · rcases ih mem with among | offered
            · rcases List.mem_append.mp among with before | last
              · exact .inl before
              · rw [List.mem_singleton.mp last]
                exact .inr List.mem_cons_self
            · exact .inr (List.mem_cons_of_mem _ offered)

/-- What one operation keeps. -/
theorem Basic.perform (declared : world.Declared) (basic : registry.Basic world)
    {operation : Operation} (standard : operation.Standard) :
    (operation.perform world registry).Basic world := by
  have sound := basic.reached.sound declared
  obtain ⟨orderly, left⟩ := registered_perform declared.coherent sound basic.orderly operation
  have unchanged (same : (operation.perform world registry).registered = registry.registered) :
      (operation.perform world registry).Basic world := by
    refine ⟨basic.reached.perform operation, orderly, ?_, ?_⟩
    · rw [same]
      exact basic.coercions
    · rw [same]
      exact basic.providers
  -- Only an operation that succeeds in registering changes what is registered.
  split at left
  · cases standard with
    | get | lookup | clear => exact unchanged left
    | @providers cls kinds listed =>
        refine ⟨basic.reached.perform _, orderly, ?_, ?_⟩
        · rw [left]
          exact basic.coercions
        · rw [left]
          intro other owner mem
          simp only [Registered.add, Function.update_apply] at mem
          split at mem
          · rename_i same
            subst same
            rcases List.mem_append.mp mem with before | new
            · exact basic.providers other owner before
            · rcases mem_of_newcomers new with none | offered
              · cases none
              · rcases List.mem_map.mp offered with ⟨kind, among, same⟩
                cases same
                exact ⟨kinds, listed, kind, among, rfl⟩
          · exact basic.providers other owner mem
  · exact unchanged left

theorem Basic.after (declared : world.Declared) (basic : registry.Basic world)
    {operations : List Operation} (standard : ∀ operation ∈ operations, operation.Standard) :
    (after world registry operations).Basic world := by
  induction operations generalizing registry with
  | nil => exact basic
  | cons operation operations ih =>
      rcases List.forall_mem_cons.mp standard with ⟨first, others⟩
      exact ih (basic.perform declared first) others

/-- The table that a registry is prepared with. -/
theorem basic_of_standard_table (world : World) :
    ({ table := .standard } : Registry).Basic world where
  reached := reached_of_table world .standard
  orderly := (ConverterTable.tidy_of_begins world.hierarchy (.inr rfl)).toOrderly
  coercions key coercion found := by
    simp only [registered, ConverterTable.coercion?, Option.bind_eq_some_iff] at found
    rcases found with ⟨converter, own, coerces⟩
    exact plain_standard (key, converter) (mem_of_lookup own) coercion coerces
  providers cls owner mem := by cases mem

theorem Basic.installStandardProviders (declared : world.Declared) {run : RegistryRun}
    (basic : run.registry.Basic world) :
    ((installStandardProviders world).runFrom run).2.registry.Basic world := by
  unfold Registry.installStandardProviders
  refine kept_by_forM_registerProviders world ?_ basic
  rintro ⟨cls, kinds⟩ listed
  exact ⟨cls, _, rfl, fun _ before => before.perform declared (.providers listed)⟩

/-- The shared registry, as it is prepared. -/
theorem basic_standard (declared : world.Declared) : (standard world).Basic world := by
  rcases exists_prepared world with ⟨events, prepared⟩
  rw [standard, prepared]
  apply Basic.installStandardProviders declared
  exact basic_of_standard_table world

theorem Basic.plain (basic : registry.Basic world) : registry.table.Plain := by
  intro entry mem coercion found
  apply basic.coercions
  exact (basic.orderly.coercion_of_mem mem).trans found

/-- The members of a view, with the table that has settled on their converters. -/
theorem Basic.brought (declared : world.Declared) (basic : registry.Basic world) (cls : ClassId) :
    ∃ view table, (RegistryM.runOn registry (viewOf world cls)).1 = .ok view ∧
      table.Plain ∧ table.Orderly world.hierarchy ∧
      ∀ name, ∀ member ∈ (view.get name).members, member.name = name ∧
        member.Brought world registry.providersOf cls table := by
  have asked := basic.perform declared (.get cls)
  rcases basic.reached with ⟨table, operations, rfl⟩
  rcases viewOf_brought declared table operations cls with ⟨view, answered, brought⟩
  rw [after_append] at brought
  exact ⟨view, _, answered, asked.plain, asked.orderly, brought⟩

end Registry

/-- The built-in classes that values of a built-in class have members from: every class above it and
the providers of each. -/
def BuiltinClass.sources (kind : BuiltinClass) : List (ClassId × BuiltinClass) :=
  kind.linearization.flatMap fun above =>
    (.builtin above, above) :: standardProviders.flatMap fun (cls, kinds) =>
      if cls == .builtin above then kinds.map fun provider => (cls, provider) else []

/-- That one of the sources declares a member for values of its own, or has it for values of a class
above. -/
inductive Member.Sourced (world : World) (table : ConverterTable) (member : Member) :
    ClassId × BuiltinClass → Prop
  | declared {kind : BuiltinClass} (declared : member.Declared world (.builtin kind) table) :
      Sourced world table member (.builtin kind, kind)
  | exposed {above : ClassId} {kind : BuiltinClass}
      (exposed : member.Exposed world (.cls (.builtin kind)) above table) :
      Sourced world table member (above, kind)

theorem Member.Sourced.shows {world : World} {table : ConverterTable} {member : Member}
    {source : ClassId × BuiltinClass} (sourced : member.Sourced world table source) :
    source.2.shows member.name = true := by
  cases sourced with
  | declared declared => exact World.shows_of_declaresMember declared.declares
  | exposed exposed => exact Member.shows_of_exposed exposed

/-- Over a basic registry, values of a built-in class have a member only from one of its sources, which
shows its name. -/
theorem Registry.Basic.sourced {world : World} {registry : Registry} (basic : registry.Basic world)
    {kind : BuiltinClass} {table : ConverterTable} {member : Member}
    (brought : member.Brought world registry.providersOf (.builtin kind) table) :
    ∃ source ∈ kind.sources, member.Sourced world table source := by
  have itself {above : BuiltinClass} (among : above ∈ kind.linearization) :
      (ClassId.builtin above, above) ∈ kind.sources :=
    List.mem_flatMap.mpr ⟨above, among, List.mem_cons_self⟩
  cases brought with
  | declared above declared =>
      rcases List.mem_map.mp above with ⟨ancestor, among, rfl⟩
      exact ⟨_, itself among, .declared declared⟩
  | exposed above brings exposed =>
      rcases List.mem_map.mp above with ⟨ancestor, among, rfl⟩
      rcases brings with rfl | provides
      · exact ⟨_, itself among, .exposed exposed⟩
      · rcases basic.providers _ _ provides with ⟨kinds, listed, provider, inside, rfl⟩
        refine ⟨(.builtin ancestor, provider), ?_, .exposed exposed⟩
        refine List.mem_flatMap.mpr ⟨ancestor, among, List.mem_cons_of_mem _ ?_⟩
        refine List.mem_flatMap.mpr ⟨_, listed, ?_⟩
        simpa using inside

end MemberDispatch
