import Mathlib.Data.List.Basic
import MemberDispatch.Converter.Table
import MemberDispatch.Proofs.Class.Dispatch

/-!
# Growing tables

A look-up settles its key: from then on the key keeps its converter for as long as the table only
grows. Work that reads and grows a table is therefore repeatable. Done again on the grown table, or
on any table that grew out of it, it finds the same converters and adds nothing. What was made by
such work can stand for making it again, which is all that the caches of a registry rely on.
-/

namespace MemberDispatch

namespace ConverterTable

variable {hierarchy : Hierarchy} {table larger largest : ConverterTable} {key : TypeKey}
  {converter : Converter}

/-- The converter that a table gives for a key without adding anything. -/
def settled? (table : ConverterTable) (key : TypeKey) : Option Converter :=
  table.own? key <|> table.derived.lookup key

/-- That every key settled in one table has the same converter in another. -/
def Extends (larger table : ConverterTable) : Prop :=
  ∀ key converter, table.settled? key = some converter → larger.settled? key = some converter

theorem Extends.refl (table : ConverterTable) : table.Extends table :=
  fun _ _ settled => settled

theorem Extends.trans (second : largest.Extends larger) (first : larger.Extends table) :
    largest.Extends table :=
  fun key converter settled => second key converter (first key converter settled)

theorem lookup_of_settled (settled : table.settled? key = some converter) :
    table.lookup hierarchy key = (converter, table) := by
  change (table.own? key <|> table.derived.lookup key) = some converter at settled
  rw [lookup, settled]

theorem settled_remember (unsettled : table.settled? key = none) (other : TypeKey) :
    settled? { table with derived := table.derived ++ [(key, converter)] } other =
      if other = key then some converter else table.settled? other := by
  simp only [settled?, own?, Option.orElse_eq_orElse, Option.orElse_eq_or] at unsettled ⊢
  split
  · rename_i same
    subst same
    simp only [Option.or_eq_none_iff] at unsettled
    simp [unsettled.1, List.lookup_append, unsettled.2]
  · rename_i different
    simp [List.lookup_append, lookup_cons, different]

theorem settled_append (unsettled : table.settled? key = none) (other : TypeKey) :
    (table.append key converter).settled? other =
      if other = key then some converter else table.settled? other := by
  simp only [settled?, own?, append, Option.orElse_eq_orElse, Option.orElse_eq_or] at unsettled ⊢
  split
  · rename_i same
    subst same
    simp only [Option.or_eq_none_iff] at unsettled
    simp [List.lookup_append, unsettled.1]
  · rename_i different
    simp [List.lookup_append, lookup_cons, different]

/-- What a look-up does to the keys that are settled. -/
theorem settled_lookup (hierarchy : Hierarchy) (table : ConverterTable) (key other : TypeKey) :
    (table.lookup hierarchy key).2.settled? other =
      if other = key then some (table.lookup hierarchy key).1 else table.settled? other := by
  rcases settled : table.settled? key with _ | converter
  · have missing : (table.own? key <|> table.derived.lookup key) = none := settled
    rw [lookup, missing]
    rcases table.serving? hierarchy key with _ | converter
    · exact settled_append settled other
    · exact settled_remember settled other
  · rw [lookup_of_settled settled]
    split
    · rename_i same
      rw [same, settled]
    · rfl

/-- A registration that changes nothing leaves the table. -/
theorem register_of_unchanged {coercion : Coercion}
    (unchanged : (table.register key coercion).1 = false) :
    (table.register key coercion).2 = table := by
  unfold register at unchanged ⊢
  split at unchanged
  · split at unchanged
    · simp at unchanged
    · rename_i usable
      simp [usable]
  · simp at unchanged

/-- That every remembered answer is the one that serves its key. -/
def Remembers (hierarchy : Hierarchy) (table : ConverterTable) : Prop :=
  ∀ key converter, (key, converter) ∈ table.derived →
    table.serving? hierarchy key = some converter

/-- That the keys of a table are the targets of its converters, that no key stands in it twice, that
the rank of every converter is its place and that remembered answers are right. -/
structure Orderly (hierarchy : Hierarchy) (table : ConverterTable) : Prop where
  targets : ∀ entry ∈ table.entries, entry.2.target = entry.1
  distinct : table.keys.Nodup
  ranks : table.converters.map Converter.rank = List.range table.size
  remembers : table.Remembers hierarchy

theorem own_eq_none_iff : table.own? key = none ↔ key ∉ table.keys := by
  rw [own?, List.lookup_eq_none_iff, keys, List.mem_map]
  simp only [bne_iff_ne, ne_eq, not_exists, not_and]
  exact ⟨fun none entry mem same => none entry mem same.symm,
    fun missing entry mem same => missing entry mem same.symm⟩

theorem orderly_empty (hierarchy : Hierarchy) : ({} : ConverterTable).Orderly hierarchy :=
  ⟨fun _ mem => absurd mem List.not_mem_nil, List.nodup_nil, rfl,
    fun _ _ mem => absurd mem List.not_mem_nil⟩

/-- A table stays orderly when a missing key comes to stand behind all others. -/
theorem Orderly.append (orderly : table.Orderly hierarchy) (missing : table.own? key = none)
    {coercion : Option Coercion}
    (gains : larger.entries = table.entries ++ [(key, ⟨table.size, key, coercion⟩)])
    (remembers : larger.Remembers hierarchy) : larger.Orderly hierarchy where
  targets entry mem := by
    rw [gains] at mem
    rcases List.mem_append.mp mem with mem | mem
    · exact orderly.targets entry mem
    · rw [List.mem_singleton.mp mem]
  distinct := by
    have absent := own_eq_none_iff.mp missing
    rw [keys, gains, List.map_append]
    refine List.nodup_append.mpr ⟨orderly.distinct, by simp, ?_⟩
    rintro present mem last last_mem rfl
    rw [List.mem_singleton.mp last_mem] at mem
    exact absent mem
  ranks := by
    have before := orderly.ranks
    have longer : larger.size = table.size + 1 := by
      rw [size, gains, List.length_append, List.length_singleton, size]
    rw [converters] at before
    rw [converters, gains, List.map_append, List.map_append, before, longer, List.range_succ]
    rfl
  remembers := remembers

/-- That a table grew out of another by look-ups. -/
structure Grows (hierarchy : Hierarchy) (table larger : ConverterTable) : Prop where
  keeps : larger.Extends table
  gains : ∃ gained, larger.entries = table.entries ++ gained ∧
    ∀ entry ∈ gained, entry.2.isPlaceholder = true ∧ table.own? entry.1 = none
  orderly : table.Orderly hierarchy → larger.Orderly hierarchy

theorem Grows.refl (hierarchy : Hierarchy) (table : ConverterTable) :
    Grows hierarchy table table :=
  ⟨.refl table, ⟨[], by simp, by simp⟩, fun orderly => orderly⟩

theorem own_eq_none_of_append {gained : List (TypeKey × Converter)}
    (append : larger.entries = table.entries ++ gained) (missing : larger.own? key = none) :
    table.own? key = none := by
  rw [own?, append, List.lookup_append, Option.or_eq_none_iff] at missing
  exact missing.1

theorem Grows.trans (first : Grows hierarchy table larger)
    (second : Grows hierarchy larger largest) : Grows hierarchy table largest where
  keeps := second.keeps.trans first.keeps
  gains := by
    obtain ⟨gained, append, placeholders⟩ := first.gains
    obtain ⟨further, appendFurther, placeholdersFurther⟩ := second.gains
    refine ⟨gained ++ further, by rw [appendFurther, append, List.append_assoc], ?_⟩
    intro entry mem
    rcases List.mem_append.mp mem with mem | mem
    · exact placeholders entry mem
    · obtain ⟨placeholder, missing⟩ := placeholdersFurther entry mem
      exact ⟨placeholder, own_eq_none_of_append append missing⟩
  orderly orderly := second.orderly (first.orderly orderly)

theorem mem_converters_of_own (found : table.own? key = some converter) :
    converter ∈ table.converters :=
  List.mem_map_of_mem (mem_of_lookup found)

/-- What serves a key is a usable converter of the table. -/
theorem mem_and_usable_of_serving (serves : table.serving? hierarchy key = some converter) :
    converter ∈ table.converters ∧ converter.isPlaceholder = false := by
  rcases key with cls | width
  · simp only [serving?, Option.orElse_eq_orElse, Option.orElse_eq_or, Option.or_eq_some_iff]
      at serves
    rcases serves with inherits | ⟨-, adopts⟩
    · obtain ⟨ancestor, -, usable⟩ := List.exists_of_findSome?_eq_some inherits
      obtain ⟨own, ready⟩ := Option.filter_eq_some_iff.mp usable
      exact ⟨mem_converters_of_own own, by simpa using ready⟩
    · obtain ⟨entry, found, rfl⟩ := Option.map_eq_some_iff.mp adopts
      have serves := List.find?_some found
      simp only [Bool.and_eq_true, Bool.not_eq_true'] at serves
      exact ⟨List.mem_map_of_mem (List.mem_of_find?_eq_some found), serves.1⟩
  · cases serves

theorem mem_converters_of_serving (serves : table.serving? hierarchy key = some converter) :
    converter ∈ table.converters :=
  (mem_and_usable_of_serving serves).1

theorem usable_of_serving (serves : table.serving? hierarchy key = some converter) :
    converter.isPlaceholder = false :=
  (mem_and_usable_of_serving serves).2

/-- A placeholder serves nothing. -/
theorem serving_append_placeholder (placeholder : converter.isPlaceholder = true)
    (missing : table.own? key = none) (other : TypeKey) :
    (table.append key converter).serving? hierarchy other = table.serving? hierarchy other := by
  have usable (other : TypeKey) : (table.append key converter).usable? other =
      table.usable? other := by
    simp only [usable?, own?, append, List.lookup_append, lookup_cons] at missing ⊢
    by_cases same : other = key
    · simp [same, missing, placeholder]
    · simp [same]
  cases other with
  | exact width => rfl
  | cls cls =>
      simp only [serving?, inherited?, adopted?, usable]
      simp [append, List.find?_append, placeholder]

theorem grows_lookup (hierarchy : Hierarchy) (table : ConverterTable) (key : TypeKey) :
    Grows hierarchy table (table.lookup hierarchy key).2 where
  keeps other converter settled := by
    rw [settled_lookup]
    split
    · rename_i same
      rw [same] at settled
      rw [lookup_of_settled settled]
    · exact settled
  gains := by
    rcases settled : table.settled? key with _ | converter
    · have missing : (table.own? key <|> table.derived.lookup key) = none := settled
      rw [lookup, missing]
      rcases table.serving? hierarchy key with _ | converter
      · refine ⟨[(key, table.placeholder key)], rfl, ?_⟩
        simp only [Option.orElse_eq_orElse, Option.orElse_eq_or, Option.or_eq_none_iff] at missing
        simp [placeholder, Converter.isPlaceholder, missing.1]
      · exact ⟨[], by simp, by simp⟩
    · rw [lookup_of_settled settled]
      exact ⟨[], by simp, by simp⟩
  orderly orderly := by
    rcases settled : table.settled? key with _ | converter
    · have missing : (table.own? key <|> table.derived.lookup key) = none := settled
      rw [lookup, missing]
      rcases serves : table.serving? hierarchy key with _ | converter
      · simp only [Option.orElse_eq_orElse, Option.orElse_eq_or, Option.or_eq_none_iff] at missing
        refine orderly.append missing.1 rfl fun other converter mem => ?_
        rw [serving_append_placeholder rfl missing.1]
        exact orderly.remembers other converter mem
      · refine ⟨orderly.targets, orderly.distinct, orderly.ranks, fun other found mem => ?_⟩
        rcases List.mem_append.mp mem with mem | mem
        · exact orderly.remembers other found mem
        · obtain ⟨rfl, rfl⟩ := Prod.mk.inj (List.mem_singleton.mp mem)
          exact serves
    · rw [lookup_of_settled settled]
      exact orderly

end ConverterTable

/-- Work that reads and grows a table. -/
abbrev TableWork (α : Type) := ConverterTable → α × ConverterTable

/-- That work only grows tables, and that doing it again changes nothing. -/
structure Repeatable {α : Type} (hierarchy : Hierarchy) (work : TableWork α) : Prop where
  grows : ∀ table, ConverterTable.Grows hierarchy table (work table).2
  repeats : ∀ table larger, larger.Extends (work table).2 → work larger = ((work table).1, larger)

namespace Repeatable

variable {α β : Type} {hierarchy : Hierarchy}

theorem pure (result : α) : Repeatable hierarchy fun table => (result, table) :=
  ⟨fun table => .refl hierarchy table, fun _ _ _ => rfl⟩

theorem bind {work : TableWork α} {next : α → TableWork β} (first : Repeatable hierarchy work)
    (second : ∀ result, Repeatable hierarchy (next result)) :
    Repeatable hierarchy fun table => next (work table).1 (work table).2 where
  grows table := (first.grows table).trans ((second _).grows _)
  repeats table larger extension := by
    have again := first.repeats table larger (extension.trans ((second _).grows _).keeps)
    simp only [again]
    exact (second _).repeats _ larger extension

end Repeatable

theorem repeatable_lookup (hierarchy : Hierarchy) (key : TypeKey) :
    Repeatable hierarchy fun table => table.lookup hierarchy key where
  grows table := ConverterTable.grows_lookup hierarchy table key
  repeats table larger extension := by
    apply ConverterTable.lookup_of_settled
    apply extension
    simp [ConverterTable.settled_lookup]

theorem repeatable_lookupAll (hierarchy : Hierarchy) (keys : List TypeKey) :
    Repeatable hierarchy fun table => table.lookupAll hierarchy keys := by
  induction keys with
  | nil => exact .pure []
  | cons key keys ih =>
      exact (repeatable_lookup hierarchy key).bind fun converter =>
        ih.bind fun converters => .pure (converter :: converters)

end MemberDispatch
