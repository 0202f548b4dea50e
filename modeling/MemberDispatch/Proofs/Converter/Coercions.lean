import MemberDispatch.Proofs.Converter.Likeness

/-!
# Coercions of a table

Which coercion a key has follows from the registrations alone: the first one of the key stays, and a
look-up adds none. Two orderly tables with the same coercions can therefore differ only in their
placeholders. Where they list the keys of interest in the same order, they are alike over these.
-/

namespace MemberDispatch

namespace ConverterTable

/-- The coercion that a key has of its own. -/
def coercion? (table : ConverterTable) (key : TypeKey) : Option Coercion :=
  (table.own? key).bind Converter.coercion

variable {hierarchy : Hierarchy} {relevant : List TypeKey} {table other larger : ConverterTable}
  {key : TypeKey} {coercion : Coercion}

section Keys

theorem Orderly.own_eq_some_iff (orderly : table.Orderly hierarchy) {converter : Converter} :
    table.own? key = some converter ↔ (key, converter) ∈ table.entries :=
  lookup_eq_some_iff_mem orderly.distinct

theorem keys_replace (table : ConverterTable) (key : TypeKey) (converter : Converter) :
    (table.replace key converter).keys = table.keys := by
  simp only [keys, replace, List.map_map]
  refine List.map_congr_left fun entry _ => ?_
  simp only [Function.comp_apply]
  split
  · rename_i same
    exact (beq_iff_eq.mp same).symm
  · rfl

end Keys

section Registering

theorem register_of_missing (missing : table.own? key = none) :
    table.register key coercion =
      (true, { table.append key (table.last key (some coercion)) with derived := [] }) := by
  rw [register, missing]
  rfl

theorem register_of_placeholder {old : Converter} (found : table.own? key = some old)
    (placeholder : old.isPlaceholder = true) :
    table.register key coercion =
      (true, { table.replace key (old.withCoercion coercion) with derived := [] }) := by
  rw [register, found]
  simp [placeholder]

theorem register_of_usable {old : Converter} (found : table.own? key = some old)
    (usable : old.isPlaceholder = false) : table.register key coercion = (false, table) := by
  rw [register, found]
  simp [usable]

theorem remembers_of_forgetting (forgets : table.derived = []) : table.Remembers hierarchy := by
  intro key converter mem
  simp [forgets] at mem

/-- Replacing a converter by one of the same rank and target keeps a table orderly. -/
theorem Orderly.replace (orderly : table.Orderly hierarchy) {old : Converter}
    (found : table.own? key = some old) :
    Orderly hierarchy { table.replace key (old.withCoercion coercion) with derived := [] } where
  targets entry mem := by
    obtain ⟨entry, entry_mem, rfl⟩ := List.mem_map.mp mem
    split
    · exact orderly.targets (key, old) (orderly.own_eq_some_iff.mp found)
    · exact orderly.targets entry entry_mem
  distinct := by
    have same := keys_replace table key (old.withCoercion coercion)
    exact same ▸ orderly.distinct
  ranks := by
    have before := orderly.ranks
    simp only [converters, size, ConverterTable.replace, List.map_map, List.length_map] at before ⊢
    rw [← before]
    refine List.map_congr_left fun entry mem => ?_
    rcases entry with ⟨first, converter⟩
    simp only [Function.comp_apply]
    split
    · rename_i same
      obtain rfl := beq_iff_eq.mp same
      rw [orderly.own_eq_some_iff.mpr mem] at found
      rw [Option.some.inj found]
      rfl
    · rfl
  remembers := remembers_of_forgetting rfl

theorem Orderly.register (orderly : table.Orderly hierarchy) (key : TypeKey)
    (coercion : Coercion) : (table.register key coercion).2.Orderly hierarchy := by
  rcases found : table.own? key with _ | old
  · rw [register_of_missing found]
    exact orderly.append found rfl (remembers_of_forgetting rfl)
  · rcases placeholder : old.isPlaceholder with _ | _
    · rw [register_of_usable found placeholder]
      exact orderly
    · rw [register_of_placeholder found placeholder]
      exact orderly.replace found

theorem own_replace (table : ConverterTable) (key asked : TypeKey) (converter : Converter) :
    (table.replace key converter).own? asked =
      if asked = key then (table.own? key).map fun _ => converter else table.own? asked := by
  simp only [own?, replace]
  induction table.entries with
  | nil => simp
  | cons entry entries ih =>
      rcases entry with ⟨first, present⟩
      rw [List.map_cons]
      by_cases here : first = key
      · subst here
        simp only [beq_self_eq_true, if_true, lookup_cons, ih]
        split <;> simp
      · have elsewhere : (first == key) = false := beq_eq_false_iff_ne.mpr here
        simp only [elsewhere, Bool.false_eq_true, if_false, lookup_cons, ih]
        split
        · rename_i same
          simp [same, here]
        · simp [Ne.symm here]

/-- A registration that changes the table gives its key the coercion, which had none. -/
theorem coercion_register (changes : (table.register key coercion).1 = true) :
    (table.register key coercion).2.coercion? =
      Function.update table.coercion? key (some coercion) := by
  funext asked
  rcases found : table.own? key with _ | old
  · rw [register_of_missing found]
    rw [own?] at found
    simp only [coercion?, own?, append, List.lookup_append, lookup_cons, Function.update_apply]
    split
    · rename_i same
      simp [same, found, last]
    · simp
  · rcases placeholder : old.isPlaceholder with _ | _
    · rw [register_of_usable found placeholder] at changes
      simp at changes
    · rw [register_of_placeholder found placeholder]
      have replaced := own_replace table key asked (old.withCoercion coercion)
      rw [found] at replaced
      simp only [coercion?, Function.update_apply]
      change Option.bind ((table.replace key (old.withCoercion coercion)).own? asked) _ = _
      rw [replaced]
      split <;> rfl

end Registering

/-- Look-ups add no coercion. -/
theorem Grows.coercion_eq (grows : Grows hierarchy table larger) :
    larger.coercion? = table.coercion? := by
  obtain ⟨gained, append, placeholders⟩ := grows.gains
  funext key
  rw [coercion?, coercion?, own?, append, List.lookup_append, ← own?]
  rcases table.own? key with _ | converter
  · rcases found : gained.lookup key with _ | converter
    · rfl
    · have placeholder := (placeholders _ (mem_of_lookup found)).1
      simpa [Converter.isPlaceholder] using placeholder
  · rfl

section Order

/-- Ranks that answer to each other in two increasing lists. -/
theorem consistent_zip {ranks ranks' : List ℕ} (increasing : ranks.Pairwise (· < ·))
    (increasing' : ranks'.Pairwise (· < ·)) :
    RankRelation.Consistent fun rank rank' => (rank, rank') ∈ ranks.zip ranks' := by
  induction ranks generalizing ranks' with
  | nil => simp [RankRelation.Consistent]
  | cons first ranks ih =>
      cases ranks' with
      | nil => simp [RankRelation.Consistent]
      | cons first' ranks' =>
          obtain ⟨least, others⟩ := List.pairwise_cons.mp increasing
          obtain ⟨least', others'⟩ := List.pairwise_cons.mp increasing'
          intro left left' right right' leftRelated rightRelated
          rw [List.zip_cons_cons, List.mem_cons, Prod.mk.injEq] at leftRelated rightRelated
          rcases leftRelated with ⟨rfl, rfl⟩ | leftRelated
          · rcases rightRelated with ⟨rfl, rfl⟩ | rightRelated
            · exact iff_of_false (lt_irrefl _) (lt_irrefl _)
            · obtain ⟨mem, mem'⟩ := List.of_mem_zip rightRelated
              have before := least _ mem
              have before' := least' _ mem'
              omega
          · rcases rightRelated with ⟨rfl, rfl⟩ | rightRelated
            · obtain ⟨mem, mem'⟩ := List.of_mem_zip leftRelated
              have before := least _ mem
              have before' := least' _ mem'
              omega
            · exact ih others others' leftRelated rightRelated

/-- The ranks of the entries of some keys. -/
def keptRanks (relevant : List TypeKey) (table : ConverterTable) : List ℕ :=
  (table.kept relevant).map fun entry => entry.2.rank

theorem Orderly.keptRanks_sublist (orderly : table.Orderly hierarchy) (relevant : List TypeKey) :
    (table.keptRanks relevant).Sublist (List.range table.size) := by
  have ranks := orderly.ranks
  rw [converters, List.map_map] at ranks
  rw [← ranks]
  exact List.filter_sublist.map _

theorem Orderly.coercion_of_mem (orderly : table.Orderly hierarchy)
    {entry : TypeKey × Converter} (mem : entry ∈ table.entries) :
    table.coercion? entry.1 = entry.2.coercion := by
  rw [coercion?, orderly.own_eq_some_iff.mpr mem]
  rfl

/-- The keys of a table that are of interest, in the order of rank. -/
def keptKeys (relevant : List TypeKey) (table : ConverterTable) : List TypeKey :=
  table.keys.filter fun key => decide (key ∈ relevant)

/-- Tables that give the same coercions and list the keys of interest in the same order are
alike. -/
theorem alike_of_order (fits : table.Fits hierarchy relevant)
    (otherFits : other.Fits hierarchy relevant) (coercions : table.coercion? = other.coercion?)
    (order : table.keptKeys relevant = other.keptKeys relevant) :
    ∃ relation, Alike hierarchy relevant relation table other := by
  have sublist := fits.keptRanks_sublist relevant
  have sublist' := otherFits.keptRanks_sublist relevant
  have sameKeys : List.Forall₂ (fun entry entry' => entry.1 = entry'.1) (table.kept relevant)
      (other.kept relevant) := by
    simp only [keptKeys, keys, List.filter_map] at order
    rw [← List.forall₂_eq_eq_eq, List.forall₂_map_left_iff, List.forall₂_map_right_iff] at order
    exact order
  obtain ⟨lengths, each⟩ := List.forall₂_iff_zip.mp sameKeys
  refine ⟨fun rank rank' => (rank, rank') ∈ (table.keptRanks relevant).zip
    (other.keptRanks relevant), ?_⟩
  refine
    { consistent := consistent_zip (List.pairwise_lt_range.sublist sublist)
        (List.pairwise_lt_range.sublist sublist')
      bounded := fun related => ?_
      fits
      otherFits
      entries := List.forall₂_iff_zip.mpr ⟨lengths, fun {entry entry'} mem => ?_⟩ }
  · obtain ⟨mem, mem'⟩ := List.of_mem_zip related
    exact ⟨List.mem_range.mp (sublist.subset mem), List.mem_range.mp (sublist'.subset mem')⟩
  · obtain ⟨left, right⟩ := List.of_mem_zip mem
    have left := (List.mem_filter.mp left).1
    have right := (List.mem_filter.mp right).1
    have same := each mem
    refine ⟨same, ?_, ?_, ?_⟩
    · simp only [keptRanks, List.zip_map]
      exact List.mem_map.mpr ⟨_, mem, rfl⟩
    · rw [fits.targets entry left, same, otherFits.targets entry' right]
    · rw [← fits.coercion_of_mem left, ← otherFits.coercion_of_mem right, coercions, same]

end Order

end ConverterTable

end MemberDispatch
