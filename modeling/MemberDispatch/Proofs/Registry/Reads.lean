import MemberDispatch.Machine
import MemberDispatch.Proofs.Converter.Coercions
import MemberDispatch.Proofs.Registry.Likeness
import MemberDispatch.Proofs.Registry.Operation
import MemberDispatch.Proofs.Session.Run

/-!
# What reads change

The coercions in a table and the lists of providers follow from the registrations that succeed.
Every other operation adds nothing but placeholders. Their ranks take part in the order of members
from then on, and this is all of a read that ever shows. Once the view of a class is there, the
keys that matter to it are those that the table starts with or that gain a converter, and those
that the catalogs behind the view ask for. Two runs with the same registrations that list them in
the same order choose the same members, although other keys may stand anywhere in between.
-/

namespace MemberDispatch

namespace ConverterTable

/-- The table that coercions make when they are registered one after the other. -/
def ofCoercions (coercions : List (TypeKey × Coercion)) : ConverterTable :=
  coercions.foldl (fun table (key, coercion) => (table.register key coercion).2) {}

theorem orderly_ofCoercions (hierarchy : Hierarchy) (coercions : List (TypeKey × Coercion)) :
    (ofCoercions coercions).Orderly hierarchy := by
  have step {table : ConverterTable} (orderly : table.Orderly hierarchy) :
      (coercions.foldl (fun table (key, coercion) => (table.register key coercion).2)
        table).Orderly hierarchy := by
    induction coercions generalizing table with
    | nil => exact orderly
    | cons coercion coercions ih => exact ih (orderly.register coercion.1 coercion.2)
  exact step (orderly_empty hierarchy)

end ConverterTable

namespace Registry

namespace Operation

/-- Whether an operation is a registration that succeeds: one of a converter that changes the table,
or one of providers that does not fail. -/
def registers (world : World) (registry : Registry) : Operation → Bool
  | .registerConverter key coercion =>
      match (RegistryM.runOn registry (Registry.registerConverter key coercion)).1 with
      | .ok changed => changed
      | .error _ => false
  | .registerProviders cls providers =>
      (RegistryM.runOn registry (Registry.registerProviders world cls providers)).1.isOk
  | _ => false

/-- The key that gains a converter. -/
def key? : Operation → Option TypeKey
  | .registerConverter key _ => some key
  | _ => none

end Operation

/-- The registrations of a run that succeed, in order. -/
def registrations (world : World) : Registry → List Operation → List Operation
  | _, [] => []
  | registry, operation :: operations =>
      let others := registrations world (operation.perform world registry) operations
      if operation.registers world registry then operation :: others else others

/-- What was registered: the coercions of keys and the providers of classes. -/
structure Registered where
  coercion? : TypeKey → Option Coercion
  providersOf : ClassId → List Owner

/-- The coercions of a registry and its lists of providers. -/
def registered (registry : Registry) : Registered :=
  ⟨registry.table.coercion?, registry.providersOf⟩

/-- Those of the offered providers that a class does not have yet, behind others that are new. -/
def newcomers (present : List Owner) :
    List (Except ConfigurationIssue Owner) → List Owner → List Owner
  | [], added => added
  | .error _ :: _, added => added
  | .ok provider :: providers, added =>
      if present.contains provider || added.contains provider then
        newcomers present providers added
      else newcomers present providers (added ++ [provider])

/-- What was registered, with one more registration that succeeds. -/
def Registered.add (registered : Registered) : Operation → Registered
  | .registerConverter key coercion =>
      { registered with coercion? := Function.update registered.coercion? key (some coercion) }
  | .registerProviders cls providers =>
      let present := registered.providersOf cls
      { registered with
        providersOf := Function.update registered.providersOf cls
          (present ++ newcomers present providers []) }
  | _ => registered

/-- The keys that matter to the view of a class after a run: those that the table starts with, those
that gain a converter, and those that the catalogs behind the view ask for. -/
def relevantKeys (world : World) (registry : Registry) (operations : List Operation)
    (cls : ClassId) : List TypeKey :=
  registry.table.keys ++ (registrations world registry operations).filterMap Operation.key? ++
    (world.hierarchy.linearization cls).flatMap fun ancestor =>
      (Owner.cls ancestor :: (after world registry operations).providersOf ancestor).flatMap
        (askedKeys world)

variable {world : World} {registry : Registry} {operation : Operation}

section Steps

theorem outcome_registerConverter (registry : Registry) (key : TypeKey) (coercion : Coercion) :
    (RegistryM.runOn registry (registerConverter key coercion)).1 =
      .ok (registry.table.register key coercion).1 := by
  rw [runOn_eq]
  rcases registered : registry.table.register key coercion with ⟨changed, table⟩
  cases changed <;>
    simp only [registerConverter, registerInTable, RegistryM.runFrom_bind, runFrom_current,
      registered] <;> rfl

/-- The providers that are new do not depend on the table. -/
theorem eq_newcomers {cls : ClassId} {present before added : List Owner}
    {providers : List (Except ConfigurationIssue Owner)} {table larger : ConverterTable}
    (enrolled : (Rebuild.enroll world cls present providers before).on table =
      (.ok added, larger)) : added = newcomers present providers before := by
  induction providers generalizing before table with
  | nil =>
      simp only [Rebuild.enroll, RebuildM.on_pure, Prod.mk.injEq, Except.ok.injEq] at enrolled
      exact enrolled.1.symm
  | cons provider providers ih =>
      cases provider with
      | error issue => simp [Rebuild.enroll] at enrolled
      | ok provider =>
          simp only [Rebuild.enroll] at enrolled
          rw [newcomers]
          split at enrolled
          · rename_i present
            rw [if_pos present]
            exact ih enrolled
          · rename_i absent
            rw [if_neg absent]
            rw [RebuildM.on_bind] at enrolled
            rcases functions : (Rebuild.functions world provider cls).on table with
              ⟨issue | groups, reached⟩
            · simp [functions, RebuildM.onward] at enrolled
            · rw [functions] at enrolled
              exact ih enrolled

/-- An operation leaves a table in order, and registers what it is to register or nothing. -/
theorem registered_perform (coherent : world.hierarchy.Coherent) (sound : registry.Sound world)
    (orderly : registry.table.Orderly world.hierarchy) (operation : Operation) :
    (operation.perform world registry).table.Orderly world.hierarchy ∧
      (operation.perform world registry).registered =
        if operation.registers world registry then registry.registered.add operation
        else registry.registered := by
  obtain ⟨table_eq, providers_eq⟩ :=
    Essence.mk.inj (operation.settles coherent sound { registry } rfl).2
  rw [registered, perform_eq, table_eq, providers_eq]
  cases operation with
  | registerConverter key coercion =>
      refine ⟨orderly.register key coercion, ?_⟩
      simp only [Operation.registers, outcome_registerConverter, essence]
      split
      · rename_i changes
        rw [ConverterTable.coercion_register changes]
        rfl
      · rename_i unchanged
        rw [ConverterTable.register_of_unchanged (by simpa using unchanged)]
        rfl
  | registerProviders cls providers =>
      have grows := (Rebuild.repeatable_enroll world cls (registry.providersOf cls) providers
        []).grows registry.table
      simp only [Operation.registers, outcome_registerProviders sound, essence]
      rcases enrolled : (Rebuild.enroll world cls (registry.providersOf cls) providers []).on
        registry.table with ⟨issue | added, table⟩
      · rw [enrolled] at grows
        exact ⟨grows.orderly orderly, by rw [grows.coercion_eq]; rfl⟩
      · rw [enrolled] at grows
        refine ⟨grows.orderly orderly, ?_⟩
        rw [eq_newcomers enrolled, grows.coercion_eq]
        rfl
  | get cls =>
      have grows := (Rebuild.repeatable_view world registry.providersOf cls).grows registry.table
      exact ⟨grows.orderly orderly, congrArg (Registered.mk · _) grows.coercion_eq⟩
  | lookup cls name =>
      have grows := (Rebuild.repeatable_view world registry.providersOf cls).grows registry.table
      exact ⟨grows.orderly orderly, congrArg (Registered.mk · _) grows.coercion_eq⟩
  | clear => exact ⟨orderly, rfl⟩

end Steps

section Runs

/-- What a run registers follows from its registrations that succeed. -/
theorem registered_after (coherent : world.hierarchy.Coherent) (sound : registry.Sound world)
    (orderly : registry.table.Orderly world.hierarchy) (operations : List Operation) :
    (after world registry operations).table.Orderly world.hierarchy ∧
      (after world registry operations).registered =
        (registrations world registry operations).foldl Registered.add registry.registered := by
  induction operations generalizing registry with
  | nil => exact ⟨orderly, rfl⟩
  | cons operation operations ih =>
      obtain ⟨still, left⟩ := registered_perform coherent sound orderly operation
      have soundNext : (operation.perform world registry).Sound world :=
        (operation.settles coherent sound { registry } rfl).1
      obtain ⟨last, reached⟩ := ih soundNext still
      refine ⟨last, ?_⟩
      rw [left] at reached
      simp only [registrations]
      split
      · rename_i registers
        rw [if_pos registers] at reached
        exact reached
      · rename_i idle
        rw [if_neg idle] at reached
        exact reached

/-- Only keys that had a coercion or gain one have one in the end. -/
theorem mem_of_coercion (operations : List Operation) (registered : Registered) {key : TypeKey}
    (coerced : ((operations.foldl Registered.add registered).coercion? key).isSome) :
    (registered.coercion? key).isSome ∨ key ∈ operations.filterMap Operation.key? := by
  induction operations generalizing registered with
  | nil => exact .inl coerced
  | cons operation operations ih =>
      rcases ih (registered.add operation) coerced with before | mem
      · cases operation with
        | registerConverter other coercion =>
            simp only [Registered.add, Function.update_apply] at before
            split at before
            · rename_i same
              exact .inr (List.mem_filterMap.mpr ⟨_, List.mem_cons_self, congrArg some same.symm⟩)
            · exact .inl before
        | registerProviders cls providers => exact .inl before
        | get cls => exact .inl before
        | lookup cls name => exact .inl before
        | clear => exact .inl before
      · obtain ⟨found, found_mem, gains⟩ := List.mem_filterMap.mp mem
        exact .inr (List.mem_filterMap.mpr ⟨found, List.mem_cons_of_mem _ found_mem, gains⟩)

theorem registrations_append_get (operations : List Operation) (cls : ClassId) :
    registrations world registry (operations ++ [.get cls]) =
      registrations world registry operations := by
  induction operations generalizing registry with
  | nil => rfl
  | cons operation operations ih => simp only [List.cons_append, registrations, ih]

/-- A view that was asked for is answered again as before. -/
theorem viewOf_again (coherent : world.hierarchy.Coherent) (sound : registry.Sound world)
    (cls : ClassId) :
    (RegistryM.runOn (after world registry [.get cls]) (viewOf world cls)).1 =
      (RegistryM.runOn registry (viewOf world cls)).1 := by
  obtain ⟨still, left⟩ := sound_after coherent sound [.get cls]
  obtain ⟨table_eq, providers_eq⟩ := Essence.mk.inj left
  have repeats := (Rebuild.repeatable_view world registry.providersOf cls).repeats registry.table _
    (.refl _)
  rw [runOn_viewOf coherent still, runOn_viewOf coherent sound, table_eq, providers_eq]
  exact congrArg Prod.fst repeats

end Runs

section Choices

/-- A registry with nothing but coercions, as it is before its first use. -/
def ofCoercions (coercions : List (TypeKey × Coercion)) : Registry :=
  { table := .ofCoercions coercions }

theorem registered_ofCoercions (coherent : world.hierarchy.Coherent)
    (coercions : List (TypeKey × Coercion)) (operations : List Operation) :
    (after world (ofCoercions coercions) operations).table.Orderly world.hierarchy ∧
      (after world (ofCoercions coercions) operations).registered =
        (registrations world (ofCoercions coercions) operations).foldl Registered.add
          (ofCoercions coercions).registered :=
  registered_after coherent (sound_of_empty rfl rfl)
    (ConverterTable.orderly_ofCoercions world.hierarchy coercions) operations

/-- The table once a run is over and the view of a class is there. -/
def tableBehind (world : World) (registry : Registry) (operations : List Operation)
    (cls : ClassId) : ConverterTable :=
  (after world registry (operations ++ [.get cls])).table

theorem fits_tableBehind (coherent : world.hierarchy.Coherent)
    (coercions : List (TypeKey × Coercion)) (operations : List Operation) (cls : ClassId) :
    (tableBehind world (ofCoercions coercions) operations cls).Fits world.hierarchy
      (relevantKeys world (ofCoercions coercions) operations cls) where
  toOrderly := by
    rw [tableBehind]
    exact (registered_ofCoercions coherent coercions (operations ++ [.get cls])).1
  usable entry mem usable := by
    obtain ⟨orderly, registered_eq⟩ :=
      registered_ofCoercions coherent coercions (operations ++ [.get cls])
    rw [registrations_append_get] at registered_eq
    have coerced : ((((registrations world (ofCoercions coercions) operations).foldl Registered.add
        (ofCoercions coercions).registered).coercion?) entry.1).isSome := by
      rw [← registered_eq]
      simp only [registered]
      rw [orderly.coercion_of_mem mem]
      simpa [Converter.isPlaceholder] using usable
    refine List.mem_append_left _ (List.mem_append.mpr ?_)
    refine (mem_of_coercion _ _ coerced).imp_left fun present => ?_
    by_contra absent
    have missing := ConverterTable.own_eq_none_iff.mpr absent
    simp [registered, ConverterTable.coercion?, missing] at present

theorem mem_relevantKeys_of_contributes {operations : List Operation} {cls : ClassId}
    {owner : Owner}
    (contributes : Rebuild.Contributes world (after world registry operations).providersOf cls
      owner) : askedKeys world owner ⊆ relevantKeys world registry operations cls := by
  obtain ⟨ancestor, above, source⟩ := contributes
  intro key asked
  refine List.mem_append_right _ (List.mem_flatMap.mpr ⟨ancestor, above, ?_⟩)
  refine List.mem_flatMap.mpr ⟨owner, ?_, asked⟩
  rcases source with rfl | provides
  · exact List.mem_cons_self
  · exact List.mem_cons_of_mem _ provides

/-- A method of a name that takes arguments of declared classes. -/
def methodOf (name : String) (classes : List String) : Entry :=
  .method
    { qualifiedName := name
      exposedName := some name
      parameters := some ({ name := "self" } :: classes.map fun name =>
        { name, type := .cls (.declared name) })
      code := .body .echo }

/-- A class with two members of a name, one for each of two classes, a class below both of them, and
a class that asks for the two in the other order. -/
def rivals : World :=
  [{ name := "First" }, { name := "Second" },
    { name := "Both", bases := [.declared "First", .declared "Second"] },
    { name := "Chooser"
      entries := [("one", methodOf "f" ["First"]), ("two", methodOf "f" ["Second"])] },
    { name := "Reader", entries := [("read", methodOf "read" ["Second", "First"])] }].foldl
    World.addClass {}

/-- The keys of the arguments of the member that is chosen for a value below both classes. -/
def chosenKeys (operations : List Operation) : Option (List TypeKey) :=
  let registry := after rivals (ofCoercions standardCoercions) operations
  match (RegistryM.runOn registry (Registry.lookup rivals (.declared "Chooser") "f")).1 with
  | .error _ => none
  | .ok index =>
      let choosing := rivals.engine.choose index true .object [.object 0] 0
      match (Act.runFrom choosing { objects := #[{ cls := .declared "Both" }] }).1 with
      | .ok (some choice) => some (choice.member.converters.map Converter.target)
      | _ => none

theorem declared_rivals : rivals.Declared := by
  refine .cls (.cls (.cls (.cls (.cls .start _ ?_ ?_ ?_) _ ?_ ?_ ?_) _ ?_ ?_ ?_) _ ?_ ?_ ?_) _
    ?_ ?_ ?_ <;> decide

end Choices

end Registry

end MemberDispatch
