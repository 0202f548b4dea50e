import Mathlib.Data.Set.Insert
import MemberDispatch.Proofs.Index.Order
import MemberDispatch.Proofs.Registry.Operation

/-!
# Providers that answer

A provider is registered for a class only if it is clear for each of its functions where they receive
values of the class. This is a matter of how the functions are declared, whatever converters the table
has for their parameters, so a provider that could be registered can be asked at any later time. Views
are made of what such providers offer, and asking a registry for one never fails.
-/

namespace MemberDispatch

/-- That it is clear where a function receives values of a class, or that it does not receive them. -/
def Role.Clear (hierarchy : Hierarchy) (cls : ClassId) : Role → Prop
  | .static function => ∃ position, function.receivers.rule hierarchy cls = .ok position
  | _ => True

def rolesIn (indexes : List (String × Index)) : Set Role :=
  { role | ∃ entry ∈ indexes, ∃ member ∈ entry.2.accepted, member.role = role }

theorem rolesIn_cons (entry : String × Index) (indexes : List (String × Index)) :
    rolesIn (entry :: indexes) =
      { role | ∃ member ∈ entry.2.accepted, member.role = role } ∪ rolesIn indexes := by
  ext role
  simp [rolesIn]

namespace CatalogBuilder

theorem addTo_cons (name : String) (index : Index) (indexes : List (String × Index))
    (member : Member) :
    addTo ((name, index) :: indexes) member =
      if name = member.name then (name, index.add member) :: indexes
      else (name, index) :: addTo indexes member := by
  unfold addTo
  rw [lookup_cons, putEntry]
  by_cases same : name = member.name
  · simp [same]
  · simp [same, Ne.symm same]

theorem rolesIn_addTo (indexes : List (String × Index)) (member : Member) :
    rolesIn (addTo indexes member) = insert member.role (rolesIn indexes) := by
  induction indexes with
  | nil =>
      ext role
      simp [rolesIn, addTo, putEntry, Index.add, eq_comm]
  | cons entry indexes ih =>
      rcases entry with ⟨name, index⟩
      rw [addTo_cons]
      split
      · ext role
        simp only [rolesIn_cons, Index.add, List.mem_append, List.mem_singleton, Set.mem_union,
          Set.mem_ofPred_eq, Set.mem_insert_iff]
        constructor
        · rintro (⟨other, mem | rfl, rfl⟩ | mem)
          · exact .inr (.inl ⟨other, mem, rfl⟩)
          · exact .inl rfl
          · exact .inr (.inr mem)
        · rintro (rfl | ⟨other, mem, rfl⟩ | mem)
          · exact .inl ⟨member, .inr rfl, rfl⟩
          · exact .inl ⟨other, .inl mem, rfl⟩
          · exact .inr mem
      · rw [rolesIn_cons, rolesIn_cons, ih, Set.union_insert]

/-- Which roles stand by themselves does not depend on the table. -/
theorem Steps.rolesIn_eq {hierarchy : Hierarchy} {step : CatalogBuilder → CatalogBuilder}
    (steps : Steps hierarchy step) {left right : CatalogBuilder}
    (same : rolesIn left.staticMembers = rolesIn right.staticMembers) :
    rolesIn (step left).staticMembers = rolesIn (step right).staticMembers := by
  induction steps generalizing left right with
  | none => exact same
  | next before behind ihBefore ihBehind => exact ihBehind (ihBefore same)
  | report event => exact same
  | field name returns ownName => rw [addField_staticMembers, addField_staticMembers, same]
  | ofValues keys member => exact same
  | standalone keys member =>
      change rolesIn (addTo left.staticMembers _) = rolesIn (addTo right.staticMembers _)
      rw [rolesIn_addTo, rolesIn_addTo, same]

end CatalogBuilder

theorem Catalog.rolesIn_making (world : World) (owner : Owner) (table other : ConverterTable) :
    rolesIn (Catalog.making world owner table).1.staticMembers =
      rolesIn (Catalog.making world owner other).1.staticMembers := by
  simp only [Catalog.making, Catalog.build_eq]
  exact (CatalogBuilder.steps_stepsFor world owner).rolesIn_eq rfl

section Clarity

theorem mapM_answers_iff {ε α β : Type} {step : α → Except ε β} {items : List α} :
    (∃ results, items.mapM step = .ok results) ↔ ∀ item ∈ items, ∃ result, step item = .ok result := by
  induction items with
  | nil => exact ⟨fun _ _ mem => absurd mem List.not_mem_nil, fun _ => ⟨[], rfl⟩⟩
  | cons item items ih =>
      rw [List.mapM_cons, List.forall_mem_cons, ← ih]
      rcases step item with issue | result
      · exact ⟨fun ⟨_, made⟩ => (nomatch made), fun ⟨⟨_, made⟩, _⟩ => (nomatch made)⟩
      · rcases items.mapM step with issue | results
        · exact ⟨fun ⟨_, made⟩ => (nomatch made), fun ⟨_, _, made⟩ => (nomatch made)⟩
        · exact ⟨fun _ => ⟨⟨_, rfl⟩, ⟨_, rfl⟩⟩, fun _ => ⟨_, rfl⟩⟩

theorem map_answers_iff {ε α β : Type} {change : α → β} {outcome : Except ε α} :
    (∃ result, outcome.map change = .ok result) ↔ ∃ result, outcome = .ok result := by
  rcases outcome with issue | result
  · exact ⟨fun ⟨_, made⟩ => (nomatch made), fun ⟨_, made⟩ => (nomatch made)⟩
  · exact ⟨fun _ => ⟨_, rfl⟩, fun _ => ⟨_, rfl⟩⟩

variable {hierarchy : Hierarchy} {cls : ClassId}

theorem Member.forValue_answers_iff {member : Member} :
    (∃ received, member.forValue hierarchy cls = .ok received) ↔ member.role.Clear hierarchy cls := by
  unfold Member.forValue Role.Clear
  cases member.role with
  | static function => exact map_answers_iff
  | _ => exact ⟨fun _ => trivial, fun _ => ⟨_, rfl⟩⟩

theorem Catalog.functionsFor_answers_iff {catalog : Catalog} :
    (∃ groups, catalog.functionsFor hierarchy cls = .ok groups) ↔
      ∀ role ∈ rolesIn catalog.staticMembers, role.Clear hierarchy cls := by
  have sorted (index : Index) (member : Member) : member ∈ index.members ↔ member ∈ index.accepted :=
    (sortMembers_perm index.accepted).mem_iff
  unfold Catalog.functionsFor
  simp only [map_answers_iff, mapM_answers_iff, Member.forValue_answers_iff, sorted]
  constructor
  · rintro each role ⟨entry, within, member, mem, rfl⟩
    exact each entry within member mem
  · exact fun each entry within member mem => each _ ⟨entry, within, member, mem, rfl⟩

end Clarity

/-- That it is clear for each function of an owner where it receives values of a class. -/
def Owner.Clear (world : World) (cls : ClassId) (owner : Owner) : Prop :=
  ∀ role ∈ rolesIn (Catalog.making world owner {}).1.staticMembers, role.Clear world.hierarchy cls

namespace RebuildM

variable {α β : Type}

/-- That work gives a result on every table. -/
def Answers (work : RebuildM α) : Prop :=
  ∀ table, ∃ result, (work.on table).1 = .ok result

theorem answers_pure (result : α) : Answers (pure result) :=
  fun _ => ⟨result, rfl⟩

theorem Answers.bind {work : RebuildM α} {next : α → RebuildM β} (first : Answers work)
    (second : ∀ result, Answers (next result)) : Answers (work >>= next) := by
  intro table
  obtain ⟨result, made⟩ := first table
  rw [on_bind, made]
  exact second result _

theorem Answers.mapM {step : α → RebuildM β} {items : List α}
    (each : ∀ item ∈ items, Answers (step item)) : Answers (items.mapM step) := by
  induction items with
  | nil => exact answers_pure []
  | cons item items ih =>
      rw [List.mapM_cons]
      exact (each item List.mem_cons_self).bind fun _ =>
        (ih fun other mem => each other (List.mem_cons_of_mem _ mem)).bind fun _ => answers_pure _

end RebuildM

namespace Rebuild

open RebuildM

variable {world : World} {providersOf : ClassId → List Owner} {cls : ClassId} {owner : Owner}

theorem functions_answers_iff {table : ConverterTable} :
    (∃ groups, ((functions world owner cls).on table).1 = .ok groups) ↔ owner.Clear world cls := by
  rw [Owner.Clear, Catalog.rolesIn_making world owner {} table, ← Catalog.functionsFor_answers_iff,
    functions, on_bind, catalog_on]
  simp only [onward]
  rcases (Catalog.making world owner table).1.functionsFor world.hierarchy cls with issue | groups
  · exact ⟨fun ⟨_, made⟩ => (nomatch made), fun ⟨_, made⟩ => (nomatch made)⟩
  · exact ⟨fun _ => ⟨_, rfl⟩, fun _ => ⟨_, rfl⟩⟩

theorem answers_catalog (owner : Owner) : Answers (catalog world owner) :=
  fun _ => ⟨_, rfl⟩

theorem answers_functions (clear : owner.Clear world cls) : Answers (functions world owner cls) :=
  fun _ => functions_answers_iff.mpr clear

theorem answers_withProviders {providers : List Owner}
    (clear : ∀ provider ∈ providers, provider.Clear world cls) (view : View) :
    Answers (withProviders world cls providers view) := by
  induction providers generalizing view with
  | nil => exact answers_pure view
  | cons provider providers ih =>
      exact (answers_functions (clear provider List.mem_cons_self)).bind fun groups =>
        ih (fun other mem => clear other (List.mem_cons_of_mem _ mem)) _

theorem answers_withBases {viewOf : ClassId → RebuildM View} (each : ∀ base, Answers (viewOf base))
    (bases : List ClassId) (view : View) : Answers (withBases viewOf bases view) := by
  induction bases generalizing view with
  | nil => exact answers_pure view
  | cons base bases ih => exact (each base).bind fun inherited => ih _

theorem answers_viewWithin
    (clear : ∀ cls, ∀ provider ∈ providersOf cls, provider.Clear world cls) (depth : ℕ)
    (cls : ClassId) : Answers (viewWithin world providersOf depth cls) := by
  induction depth generalizing cls with
  | zero => exact answers_pure _
  | succ depth ih =>
      exact (answers_catalog _).bind fun own =>
        (answers_withProviders (clear cls) _).bind fun view => answers_withBases ih _ view

/-- Providers that were seen on registration are clear. -/
theorem clear_of_enroll {registered added newcomers : List Owner}
    {providers : List (Except ConfigurationIssue Owner)} {table : ConverterTable}
    (enrolled : ((enroll world cls registered providers added).on table).1 = .ok newcomers)
    (clear : ∀ provider ∈ added, provider.Clear world cls) :
    ∀ provider ∈ newcomers, provider.Clear world cls := by
  induction providers generalizing added table with
  | nil =>
      cases enrolled
      exact clear
  | cons first providers ih =>
      cases first with
      | error issue => cases enrolled
      | ok provider =>
          simp only [enroll] at enrolled
          split at enrolled
          · exact ih enrolled clear
          · rw [on_bind] at enrolled
            rcases seen : ((functions world provider cls).on table).1 with issue | groups
            · rw [seen] at enrolled
              cases enrolled
            · rw [seen] at enrolled
              refine ih enrolled fun other mem => ?_
              rcases List.mem_append.mp mem with mem | mem
              · exact clear other mem
              · obtain rfl := List.mem_singleton.mp mem
                exact functions_answers_iff.mp ⟨groups, seen⟩

end Rebuild

namespace Registry

variable {world : World}

/-- That all providers of a registry are clear. -/
def Essence.Clear (world : World) (essence : Essence) : Prop :=
  ∀ cls, ∀ provider ∈ essence.providersOf cls, provider.Clear world cls

theorem Essence.Clear.effect {essence : Essence} (clear : essence.Clear world)
    (operation : Operation) : (operation.effect world essence).Clear world := by
  cases operation with
  | registerProviders cls providers =>
      simp only [Operation.effect]
      split
      · rename_i added table enrolled
        intro other provider mem
        simp only [Function.update_apply] at mem
        split at mem
        · rename_i here
          subst here
          rcases List.mem_append.mp mem with mem | mem
          · exact clear _ provider mem
          · exact Rebuild.clear_of_enroll (congrArg Prod.fst enrolled)
              (fun _ none => absurd none List.not_mem_nil) provider mem
        · exact clear other provider mem
      · exact clear
  | _ => exact clear

/-- All providers of a registry are clear after every run. -/
theorem clear_after (coherent : world.hierarchy.Coherent) (table : ConverterTable)
    (operations : List Operation) : (after world { table } operations).essence.Clear world := by
  rw [(sound_after coherent (sound_of_empty rfl rfl) operations).2]
  have start : ({ table } : Registry).essence.Clear world :=
    fun _ _ none => absurd none List.not_mem_nil
  generalize ({ table } : Registry).essence = essence at start
  induction operations generalizing essence with
  | nil => exact start
  | cons operation operations ih => exact ih _ (start.effect operation)

/-- After every run each class has a view. -/
theorem viewOf_answers (declared : world.Declared) (table : ConverterTable)
    (operations : List Operation) (cls : ClassId) :
    ∃ view, (RegistryM.runOn (after world { table } operations) (viewOf world cls)).1 = .ok view := by
  have coherent := declared.coherent
  rw [runOn_viewOf coherent (sound_after coherent (sound_of_empty rfl rfl) operations).1]
  exact Rebuild.answers_viewWithin (clear_after coherent table operations) _ cls _

end Registry

end MemberDispatch
