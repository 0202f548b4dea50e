import Mathlib.Data.List.Nodup
import MemberDispatch.Proofs.Catalog.Origin
import MemberDispatch.Proofs.Index.Merging
import MemberDispatch.Proofs.Registry.Providers

/-!
# Converters of members

The members of a catalog take converters of the table that they were made over, and so do members that
receive values in one of their parameters and members that were merged into a view. A table that grows
keeps its converters, so members that are made one after the other all have converters of the table in
the end. There a rank belongs to one converter, and members with the same ranks take the same arguments.
-/

namespace MemberDispatch

section Converters

variable {allowed more : List Converter}

/-- That the converters of all members of groups are allowed. -/
def GroupsWithin (allowed : List Converter) (groups : List (String × List Member)) : Prop :=
  ∀ group ∈ groups, ∀ member ∈ group.2, member.converters ⊆ allowed

def IndexesWithin (allowed : List Converter) (indexes : List (String × Index)) : Prop :=
  ∀ entry ∈ indexes, ∀ member ∈ entry.2.accepted, member.converters ⊆ allowed

theorem GroupsWithin.mono {groups : List (String × List Member)}
    (within : GroupsWithin allowed groups) (subset : allowed ⊆ more) : GroupsWithin more groups :=
  fun group mem member inside => List.Subset.trans (within group mem member inside) subset

theorem IndexesWithin.mono {indexes : List (String × Index)}
    (within : IndexesWithin allowed indexes) (subset : allowed ⊆ more) :
    IndexesWithin more indexes :=
  fun entry mem member inside => List.Subset.trans (within entry mem member inside) subset

/-- Indexes stay within their bounds when that of a name gains members that are. -/
theorem IndexesWithin.put {indexes : List (String × Index)} (within : IndexesWithin allowed indexes)
    {name : String} {index : Index} {members : List Member}
    (gains : index.accepted ⊆ ((indexes.lookup name).getD ⟨name, []⟩).accepted ++ members)
    (each : ∀ member ∈ members, member.converters ⊆ allowed) :
    IndexesWithin allowed (putEntry name index indexes) := by
  intro entry mem member inside
  rcases mem_putEntry mem with rfl | mem
  · rcases List.mem_append.mp (gains inside) with old | new
    · rcases found : indexes.lookup name with _ | index
      · rw [found] at old
        cases old
      · rw [found] at old
        exact within _ (mem_of_lookup found) member old
    · exact each member new
  · exact within entry mem member inside

theorem Index.accepted_merge_subset (index : Index) (members : List Member) :
    (index.merge members).accepted ⊆ index.accepted ++ members := by
  induction members generalizing index with
  | nil => exact List.subset_append_left _ _
  | cons member members ih =>
      rw [Index.merge_cons]
      refine List.Subset.trans (ih _) ?_
      simp only [merge, List.foldl_cons, List.foldl_nil]
      split
      · exact List.append_subset.mpr ⟨List.subset_append_left _ _,
          List.Subset.trans (List.subset_cons_self _ _) (List.subset_append_right _ _)⟩
      · simp [add]

theorem View.within_mergeAll {view : View} (within : IndexesWithin allowed view.indexes)
    {groups : List (String × List Member)} (each : GroupsWithin allowed groups) :
    IndexesWithin allowed (view.mergeAll groups).indexes := by
  induction groups generalizing view with
  | nil => exact within
  | cons group groups ih =>
      refine ih (within.put (Index.accepted_merge_subset _ _) (each group List.mem_cons_self)) ?_
      exact fun other mem => each other (List.mem_cons_of_mem _ mem)

/-- What indexes list are the members that they accepted. -/
theorem IndexesWithin.groups {indexes : List (String × Index)}
    (within : IndexesWithin allowed indexes) :
    GroupsWithin allowed (indexes.map fun (name, index) => (name, index.members)) := by
  intro group mem member inside
  obtain ⟨entry, there, rfl⟩ := List.mem_map.mp mem
  exact within entry there member ((sortMembers_perm _).mem_iff.mp inside)

theorem Member.converters_forValue {hierarchy : Hierarchy} {cls : ClassId} {member received : Member}
    (receives : member.forValue hierarchy cls = .ok (some received)) :
    received.converters ⊆ member.converters := by
  obtain ⟨function, position, -, -, rfl⟩ := Member.exists_of_forValue receives
  exact List.eraseIdx_subset

theorem ok_of_map {ε α β : Type} {change : α → β} {outcome : Except ε α} {result : β}
    (made : outcome.map change = .ok result) : ∃ given, outcome = .ok given ∧ change given = result := by
  rcases outcome with issue | given
  · cases made
  · exact ⟨given, rfl, Except.ok.inj made⟩

theorem mem_of_mapM {ε α β : Type} {step : α → Except ε β} {items : List α} {results : List β}
    (made : items.mapM step = .ok results) {result : β} (mem : result ∈ results) :
    ∃ item ∈ items, step item = .ok result := by
  induction items generalizing results with
  | nil =>
      cases made
      cases mem
  | cons item items ih =>
      rw [List.mapM_cons] at made
      rcases first : step item with issue | head
      · rw [first] at made
        cases made
      · rw [first] at made
        rcases others : items.mapM step with issue | tail
        · rw [others] at made
          cases made
        · rw [others] at made
          cases made
          rcases List.mem_cons.mp mem with rfl | mem
          · exact ⟨item, List.mem_cons_self, first⟩
          · obtain ⟨found, there, same⟩ := ih others mem
            exact ⟨found, List.mem_cons_of_mem _ there, same⟩

theorem Catalog.within_functionsFor {hierarchy : Hierarchy} {cls : ClassId} {catalog : Catalog}
    (within : IndexesWithin allowed catalog.staticMembers) {groups : List (String × List Member)}
    (made : catalog.functionsFor hierarchy cls = .ok groups) : GroupsWithin allowed groups := by
  obtain ⟨all, collected, rfl⟩ := ok_of_map made
  intro group mem member inside
  obtain ⟨entry, there, received⟩ := mem_of_mapM collected (List.mem_filter.mp mem).1
  obtain ⟨found, outcomes, rfl⟩ := ok_of_map received
  obtain ⟨_, here, rfl⟩ := List.mem_filterMap.mp inside
  obtain ⟨source, among, receives⟩ := mem_of_mapM outcomes here
  have accepted := (sortMembers_perm _).mem_iff.mp among
  exact List.Subset.trans (Member.converters_forValue receives) (within entry there source accepted)

end Converters

namespace ConverterTable

variable {hierarchy : Hierarchy} {table larger : ConverterTable} {key : TypeKey}
  {converter : Converter}

theorem Orderly.mem_converters_lookup (orderly : table.Orderly hierarchy) (key : TypeKey) :
    (table.lookup hierarchy key).1 ∈ (table.lookup hierarchy key).2.converters := by
  rcases settled : table.settled? key with _ | converter
  · have missing : (table.own? key <|> table.derived.lookup key) = none := settled
    rw [lookup, missing]
    rcases serves : table.serving? hierarchy key with _ | converter
    · exact List.mem_map_of_mem (List.mem_append_right _ List.mem_cons_self)
    · exact mem_converters_of_serving serves
  · rw [lookup_of_settled settled]
    simp only [settled?, Option.orElse_eq_orElse, Option.orElse_eq_or, Option.or_eq_some_iff]
      at settled
    rcases settled with own | ⟨-, remembered⟩
    · exact mem_converters_of_own own
    · exact mem_converters_of_serving (orderly.remembers key converter (mem_of_lookup remembered))

theorem Grows.converters_subset (grows : Grows hierarchy table larger) :
    table.converters ⊆ larger.converters := by
  obtain ⟨gained, append, -⟩ := grows.gains
  rw [converters, converters, append, List.map_append]
  exact List.subset_append_left _ _

theorem Orderly.subset_converters_lookupAll (orderly : table.Orderly hierarchy)
    (keys : List TypeKey) :
    (table.lookupAll hierarchy keys).1 ⊆ (table.lookupAll hierarchy keys).2.converters := by
  induction keys generalizing table with
  | nil => exact List.nil_subset _
  | cons key keys ih =>
      have still := (grows_lookup hierarchy table key).orderly orderly
      have others := (repeatable_lookupAll hierarchy keys).grows (table.lookup hierarchy key).2
      exact List.cons_subset.mpr
        ⟨others.converters_subset (orderly.mem_converters_lookup key), ih still⟩

/-- In an orderly table a rank belongs to one converter. -/
theorem Orderly.eq_of_ranks_eq (orderly : table.Orderly hierarchy) {lefts rights : List Converter}
    (left_subset : lefts ⊆ table.converters) (right_subset : rights ⊆ table.converters)
    (same : lefts.map Converter.rank = rights.map Converter.rank) : lefts = rights := by
  have distinct : (table.converters.map Converter.rank).Nodup := by
    rw [orderly.ranks]
    exact List.nodup_range
  induction lefts generalizing rights with
  | nil => exact (List.map_eq_nil_iff.mp same.symm).symm
  | cons left lefts ih =>
      cases rights with
      | nil => cases same
      | cons right rights =>
          obtain ⟨left_mem, lefts_subset⟩ := List.cons_subset.mp left_subset
          obtain ⟨right_mem, rights_subset⟩ := List.cons_subset.mp right_subset
          obtain ⟨head, tail⟩ := List.cons.inj same
          rw [List.inj_on_of_nodup_map distinct left_mem right_mem head,
            ih lefts_subset rights_subset tail]

end ConverterTable

/-- Steps over an orderly table give members converters of the table that they leave. -/
theorem CatalogBuilder.Steps.within {hierarchy : Hierarchy} {step : CatalogBuilder → CatalogBuilder}
    (steps : Steps hierarchy step) {builder : CatalogBuilder}
    (orderly : builder.table.Orderly hierarchy)
    (ofValues : IndexesWithin builder.table.converters builder.instanceMembers)
    (standing : IndexesWithin builder.table.converters builder.staticMembers) :
    IndexesWithin (step builder).table.converters (step builder).instanceMembers ∧
      IndexesWithin (step builder).table.converters (step builder).staticMembers := by
  induction steps generalizing builder with
  | none => exact ⟨ofValues, standing⟩
  | next before behind ihBefore ihBehind =>
      obtain ⟨first, second⟩ := ihBefore orderly ofValues standing
      exact ihBehind ((before.grows builder).orderly orderly) first second
  | report event => exact ⟨ofValues, standing⟩
  | field name returns ownName =>
      beta_reduce
      rcases builder.addField_cases name returns ownName with same | ⟨produced, -, added⟩
      · rw [same]
        exact ⟨ofValues, standing⟩
      · rw [added]
        refine ⟨ofValues.put (List.Subset.refl _) fun member mem => ?_, standing⟩
        obtain rfl := List.mem_singleton.mp mem
        exact List.nil_subset _
  | ofValues keys member =>
      have grown := ((repeatable_lookupAll hierarchy keys).grows builder.table).converters_subset
      refine ⟨(ofValues.mono grown).put (List.Subset.refl _) fun other mem => ?_,
        standing.mono grown⟩
      obtain rfl := List.mem_singleton.mp mem
      exact orderly.subset_converters_lookupAll keys
  | standalone keys member =>
      have grown := ((repeatable_lookupAll hierarchy keys).grows builder.table).converters_subset
      refine ⟨ofValues.mono grown, (standing.mono grown).put (List.Subset.refl _) fun other mem => ?_⟩
      obtain rfl := List.mem_singleton.mp mem
      exact orderly.subset_converters_lookupAll keys

theorem Catalog.within_making {world : World} {table : ConverterTable}
    (orderly : table.Orderly world.hierarchy) (owner : Owner) :
    IndexesWithin (Catalog.making world owner table).2.converters
        (Catalog.making world owner table).1.instanceMembers ∧
      IndexesWithin (Catalog.making world owner table).2.converters
        (Catalog.making world owner table).1.staticMembers := by
  simp only [Catalog.making, Catalog.build_eq]
  exact (CatalogBuilder.steps_stepsFor world owner).within orderly
    (fun _ mem => absurd mem List.not_mem_nil) fun _ mem => absurd mem List.not_mem_nil

namespace RebuildM

variable {α β : Type} {hierarchy : Hierarchy} {table : ConverterTable}

theorem on_map (change : α → β) (work : RebuildM α) (table : ConverterTable) :
    (change <$> work).on table = ((work.on table).1.map change, (work.on table).2) := by
  rw [map_eq_pure_bind, on_bind]
  rcases (work.on table).1 with issue | result <;> rfl

theorem repeatable_mapM {step : α → RebuildM β} (each : ∀ item, Repeatable hierarchy (step item).on)
    (items : List α) : Repeatable hierarchy (items.mapM step).on := by
  induction items with
  | nil => exact repeatable_pure []
  | cons item items ih =>
      rw [List.mapM_cons]
      exact repeatable_bind (each item) fun _ => repeatable_bind ih fun _ => repeatable_pure _

/-- That a table has all that work looks up, and what the work gives on it. -/
def Settled (work : RebuildM α) (table : ConverterTable) (result : α) : Prop :=
  work.on table = (.ok result, table)

/-- Work leaves all that it looks up. -/
theorem settled_of_ok {work : RebuildM α} (repeatable : Repeatable hierarchy work.on) {result : α}
    (made : (work.on table).1 = .ok result) : Settled work (work.on table).2 result := by
  rw [Settled, ← made]
  exact repeatable.repeats table _ (.refl _)

theorem Settled.of_map {change : α → β} {work : RebuildM α} {last : β}
    (settled : Settled (change <$> work) table last) :
    ∃ result, Settled work table result ∧ change result = last := by
  rw [Settled, on_map] at settled
  obtain ⟨made, unchanged⟩ := Prod.mk.inj settled
  obtain ⟨result, given, rfl⟩ := ok_of_map made
  exact ⟨result, Prod.ext given unchanged, rfl⟩

/-- What is settled for work is settled for its parts. -/
theorem Settled.of_bind {work : RebuildM α} {next : α → RebuildM β} {last : β}
    (settled : Settled (work >>= next) table last) (first : Repeatable hierarchy work.on)
    (second : ∀ result, Repeatable hierarchy (next result).on) :
    ∃ result, Settled work table result ∧ Settled (next result) table last := by
  rw [Settled, on_bind] at settled
  rcases made : work.on table with ⟨issue | result, between⟩
  · rw [made] at settled
    cases settled
  · rw [made] at settled
    have extension : table.Extends between := by
      have grows := ((second result).grows between).keeps
      rwa [show ((next result).on between).2 = table from congrArg Prod.snd settled] at grows
    have again := first.repeats table table (made ▸ extension)
    rw [made] at again
    obtain rfl : between = table := congrArg Prod.snd again
    exact ⟨result, made, settled⟩

theorem Settled.of_mapM_cons {step : α → RebuildM β} {item : α} {items : List α}
    {results : List β} (settled : Settled ((item :: items).mapM step) table results)
    (each : ∀ item, Repeatable hierarchy (step item).on) :
    ∃ first rest, results = first :: rest ∧ Settled (step item) table first ∧
      Settled (items.mapM step) table rest := by
  rw [List.mapM_cons] at settled
  have others := repeatable_mapM each items
  obtain ⟨first, made, behind⟩ := settled.of_bind (each item) fun _ =>
    repeatable_bind others fun _ => repeatable_pure _
  obtain ⟨rest, madeBehind, last⟩ := behind.of_bind others fun _ => repeatable_pure _
  cases last
  exact ⟨first, rest, rfl, made, madeBehind⟩

theorem Settled.of_mapM {step : α → RebuildM β} {items : List α} {results : List β}
    (settled : Settled (items.mapM step) table results)
    (each : ∀ item, Repeatable hierarchy (step item).on) :
    ∀ result ∈ results, ∃ item ∈ items, Settled (step item) table result := by
  induction items generalizing results with
  | nil =>
      cases settled
      exact fun _ mem => absurd mem List.not_mem_nil
  | cons item items ih =>
      obtain ⟨head, tail, rfl, first, second⟩ := settled.of_mapM_cons each
      refine List.forall_mem_cons.mpr ⟨⟨item, List.mem_cons_self, first⟩, fun result mem => ?_⟩
      obtain ⟨found, there, made⟩ := ih second result mem
      exact ⟨found, List.mem_cons_of_mem _ there, made⟩

end RebuildM

namespace Rebuild

open RebuildM

variable {world : World} {table : ConverterTable} {owner : Owner}

theorem eq_making_of_settled {own : Catalog} (settled : Settled (catalog world owner) table own) :
    own = (Catalog.making world owner table).1 ∧ (Catalog.making world owner table).2 = table := by
  rw [Settled, catalog_on] at settled
  exact ⟨(Except.ok.inj (congrArg Prod.fst settled)).symm, congrArg Prod.snd settled⟩

/-- The functions of an owner for a class are told from its catalog. -/
theorem parts_of_functions {cls : ClassId} {groups : List (String × List Member)}
    (settled : Settled (functions world owner cls) table groups) :
    ∃ own, Settled (catalog world owner) table own ∧
      own.functionsFor world.hierarchy cls = .ok groups := by
  obtain ⟨own, found, rest⟩ := settled.of_bind (repeatable_catalog world owner) fun own => by
    rcases own.functionsFor world.hierarchy cls with issue | groups
    · exact repeatable_throw _
    · exact repeatable_pure _
  rcases offered : own.functionsFor world.hierarchy cls with issue | offers
  · rw [offered] at rest
    cases rest
  · rw [offered] at rest
    cases rest
    exact ⟨own, found, offered⟩

theorem within_of_catalog (orderly : table.Orderly world.hierarchy) {own : Catalog}
    (settled : Settled (catalog world owner) table own) :
    IndexesWithin table.converters own.instanceMembers ∧
      IndexesWithin table.converters own.staticMembers := by
  have made := Catalog.within_making orderly owner
  obtain ⟨given, unchanged⟩ := eq_making_of_settled settled
  rwa [unchanged, ← given] at made

theorem within_of_functions (orderly : table.Orderly world.hierarchy) {cls : ClassId}
    {groups : List (String × List Member)}
    (settled : Settled (functions world owner cls) table groups) :
    GroupsWithin table.converters groups := by
  obtain ⟨own, found, offered⟩ := parts_of_functions settled
  exact Catalog.within_functionsFor (within_of_catalog orderly found).2 offered

end Rebuild

end MemberDispatch
