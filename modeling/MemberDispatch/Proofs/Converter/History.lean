import MemberDispatch.Proofs.Converter.Coercions

/-!
# The history of a table

A table is asked to register coercions and to look keys up, and reading it may change it as well.
Whatever is asked, in whatever order, every converter keeps the place that its rank names, and an
entry changes only once and in one way: a placeholder becomes usable by the first registration of
its own key. Remembered answers stand beside the entries. They are for keys that have no entry, and
point to usable converters of the table.
-/

namespace MemberDispatch

namespace ConverterTable

/-- What a table is asked. -/
inductive Request
  | register (key : TypeKey) (coercion : Coercion)
  | lookup (key : TypeKey)
  | lookupAll (keys : List TypeKey)

/-- The table behind a request. -/
def serve (hierarchy : Hierarchy) (table : ConverterTable) : Request → ConverterTable
  | .register key coercion => (table.register key coercion).2
  | .lookup key => (table.lookup hierarchy key).2
  | .lookupAll keys => (table.lookupAll hierarchy keys).2

/-- The table behind several requests. -/
def serveAll (hierarchy : Hierarchy) (table : ConverterTable) (requests : List Request) :
    ConverterTable :=
  requests.foldl (serve hierarchy) table

variable {hierarchy : Hierarchy} {table larger : ConverterTable} {key : TypeKey}
  {converter : Converter} {coercion : Coercion} {rank : ℕ} {entry : TypeKey × Converter}

theorem serveAll_append (hierarchy : Hierarchy) (table : ConverterTable)
    (requests further : List Request) :
    table.serveAll hierarchy (requests ++ further) =
      (table.serveAll hierarchy requests).serveAll hierarchy further :=
  List.foldl_append

theorem standard_eq_serveAll (hierarchy : Hierarchy) :
    standard = serveAll hierarchy {}
      (standardCoercions.map fun (key, coercion) => .register key coercion) := by
  rw [serveAll, List.foldl_map]
  rfl

section Tidiness

/-- An orderly table that remembers answers only for keys without an entry, each of them once. -/
structure Tidy (hierarchy : Hierarchy) (table : ConverterTable) : Prop
    extends table.Orderly hierarchy where
  once : (table.derived.map (·.1)).Nodup
  apart : ∀ entry ∈ table.derived, table.own? entry.1 = none

theorem tidy_empty (hierarchy : Hierarchy) : ({} : ConverterTable).Tidy hierarchy where
  toOrderly := orderly_empty hierarchy
  once := List.nodup_nil
  apart _ mem := absurd mem List.not_mem_nil

theorem Tidy.register (tidy : table.Tidy hierarchy) (key : TypeKey) (coercion : Coercion) :
    (table.register key coercion).2.Tidy hierarchy := by
  have orderly := tidy.toOrderly.register key coercion
  rcases changes : (table.register key coercion).1 with _ | _
  · rw [register_of_unchanged changes]
    exact tidy
  · have forgets : (table.register key coercion).2.derived = [] := by
      rcases found : table.own? key with _ | old
      · rw [register_of_missing found]
      · rcases placeholder : old.isPlaceholder with _ | _
        · rw [register_of_usable found placeholder] at changes
          cases changes
        · rw [register_of_placeholder found placeholder]
    refine ⟨orderly, ?_, ?_⟩
    · rw [forgets]
      exact List.nodup_nil
    · intro entry mem
      rw [forgets] at mem
      cases mem

theorem Tidy.lookup (tidy : table.Tidy hierarchy) (key : TypeKey) :
    (table.lookup hierarchy key).2.Tidy hierarchy := by
  have orderly := (grows_lookup hierarchy table key).orderly tidy.toOrderly
  -- A key that is asked for the first time is remembered with what serves it, or gets a placeholder.
  rcases settled : table.settled? key with _ | converter
  · have unsettled : (table.own? key <|> table.derived.lookup key) = none := settled
    have both := unsettled
    simp only [Option.orElse_eq_orElse, Option.orElse_eq_or, Option.or_eq_none_iff] at both
    obtain ⟨missing, forgotten⟩ := both
    have fresh : key ∉ table.derived.map (·.1) := by
      intro mem
      obtain ⟨entry, there, rfl⟩ := List.mem_map.mp mem
      have different := List.lookup_eq_none_iff.mp forgotten entry there
      simp at different
    rw [ConverterTable.lookup, unsettled] at orderly ⊢
    rcases serves : table.serving? hierarchy key with _ | converter <;> rw [serves] at orderly
    · refine ⟨orderly, tidy.once, ?_⟩
      intro entry mem
      have absent := tidy.apart entry mem
      have different : entry.1 ≠ key := by
        rintro rfl
        exact fresh (List.mem_map_of_mem mem)
      rw [own?] at absent ⊢
      simp [ConverterTable.append, List.lookup_append, lookup_cons, absent, different]
    · refine ⟨orderly, ?_, ?_⟩
      · rw [List.map_append]
        refine List.nodup_append.mpr ⟨tidy.once, by simp, ?_⟩
        rintro present mem last last_mem rfl
        rw [List.mem_singleton.mp last_mem] at mem
        exact fresh mem
      · intro entry mem
        rcases List.mem_append.mp mem with mem | mem
        · exact tidy.apart entry mem
        · rw [List.mem_singleton.mp mem]
          exact missing
  · rw [lookup_of_settled settled]
    exact tidy

theorem Tidy.lookupAll (tidy : table.Tidy hierarchy) (keys : List TypeKey) :
    (table.lookupAll hierarchy keys).2.Tidy hierarchy := by
  induction keys generalizing table with
  | nil => exact tidy
  | cons key keys ih => exact ih (tidy.lookup key)

theorem Tidy.serve (tidy : table.Tidy hierarchy) (request : Request) :
    (table.serve hierarchy request).Tidy hierarchy := by
  cases request with
  | register key coercion => exact tidy.register key coercion
  | lookup key => exact tidy.lookup key
  | lookupAll keys => exact tidy.lookupAll keys

theorem Tidy.serveAll (tidy : table.Tidy hierarchy) (requests : List Request) :
    (table.serveAll hierarchy requests).Tidy hierarchy := by
  induction requests generalizing table with
  | nil => exact tidy
  | cons request requests ih => exact ih (tidy.serve request)

theorem tidy_of_begins (hierarchy : Hierarchy) (begins : table = {} ∨ table = .standard) :
    table.Tidy hierarchy := by
  rcases begins with rfl | rfl
  · exact tidy_empty hierarchy
  · rw [standard_eq_serveAll hierarchy]
    exact (tidy_empty hierarchy).serveAll _

end Tidiness

section Places

theorem Orderly.rank_of_place (orderly : table.Orderly hierarchy)
    (found : table.entries[rank]? = some (key, converter)) :
    converter.rank = rank ∧ converter.target = key := by
  constructor
  · have place : (table.converters.map Converter.rank)[rank]? = some converter.rank := by
      rw [converters, List.getElem?_map, List.getElem?_map, found]
      rfl
    rw [orderly.ranks] at place
    obtain ⟨_, same⟩ := List.getElem?_eq_some_iff.mp place
    rw [← same, List.getElem_range]
  · exact orderly.targets _ (List.mem_of_getElem? found)

theorem Grows.place (grows : Grows hierarchy table larger)
    (found : table.entries[rank]? = some entry) : larger.entries[rank]? = some entry := by
  obtain ⟨gained, append, -⟩ := grows.gains
  obtain ⟨short, -⟩ := List.getElem?_eq_some_iff.mp found
  rw [append, List.getElem?_append_left short]
  exact found

/-- What a registration does to an entry: nothing, unless it fills a placeholder of that key. -/
theorem Orderly.place_register (orderly : table.Orderly hierarchy)
    (found : table.entries[rank]? = some (key, converter)) (asked : TypeKey)
    (coercion : Coercion) :
    (table.register asked coercion).2.entries[rank]? = some (key, converter) ∨
      asked = key ∧ converter.isPlaceholder = true ∧
        (table.register asked coercion).1 = true ∧
        (table.register asked coercion).2.entries[rank]? =
          some (key, converter.withCoercion coercion) := by
  have own := orderly.own_eq_some_iff.mpr (List.mem_of_getElem? found)
  rcases present : table.own? asked with _ | old
  · left
    rw [register_of_missing present]
    obtain ⟨short, -⟩ := List.getElem?_eq_some_iff.mp found
    change (table.entries ++ [(asked, table.last asked (some coercion))])[rank]? = _
    rw [List.getElem?_append_left short]
    exact found
  · rcases placeholder : old.isPlaceholder with _ | _
    · left
      rw [register_of_usable present placeholder]
      exact found
    · rw [register_of_placeholder present placeholder]
      simp only [ConverterTable.replace, List.getElem?_map, found, Option.map_some]
      by_cases same : key = asked
      · subst same
        rw [own] at present
        obtain rfl := Option.some.inj present
        exact .inr ⟨rfl, placeholder, trivial, by simp⟩
      · left
        simp [same]

/-- What one request does to an entry. -/
theorem Orderly.place_serve (orderly : table.Orderly hierarchy)
    (found : table.entries[rank]? = some (key, converter)) (request : Request) :
    (table.serve hierarchy request).entries[rank]? = some (key, converter) ∨
      ∃ coercion, request = .register key coercion ∧ converter.isPlaceholder = true ∧
        (table.register key coercion).1 = true ∧
        (table.serve hierarchy request).entries[rank]? =
          some (key, converter.withCoercion coercion) := by
  cases request with
  | register asked coercion =>
      rcases orderly.place_register found asked coercion with stays | ⟨rfl, filled⟩
      · exact .inl stays
      · exact .inr ⟨coercion, rfl, filled⟩
  | lookup asked => exact .inl ((grows_lookup hierarchy table asked).place found)
  | lookupAll keys => exact .inl (((repeatable_lookupAll hierarchy keys).grows table).place found)

/-- That an entry stands at a place all the while requests are served. -/
def Stands (hierarchy : Hierarchy) (table : ConverterTable) (rank : ℕ)
    (entry : TypeKey × Converter) (requests : List Request) : Prop :=
  ∀ served, served <+: requests → (table.serveAll hierarchy served).entries[rank]? = some entry

theorem Stands.cons {request : Request} {requests : List Request}
    (found : table.entries[rank]? = some entry)
    (behind : Stands hierarchy (table.serve hierarchy request) rank entry requests) :
    Stands hierarchy table rank entry (request :: requests) := by
  intro served first
  rcases served with _ | ⟨head, served⟩
  · exact found
  · obtain ⟨rfl, rest⟩ := List.cons_prefix_cons.mp first
    exact behind served rest

/-- A usable converter is never replaced. -/
theorem Tidy.stands_of_usable (tidy : table.Tidy hierarchy)
    (found : table.entries[rank]? = some (key, converter))
    (usable : converter.isPlaceholder = false) (requests : List Request) :
    Stands hierarchy table rank (key, converter) requests := by
  induction requests generalizing table with
  | nil =>
      intro served first
      rw [List.prefix_nil.mp first]
      exact found
  | cons request requests ih =>
      apply Stands.cons found
      apply ih (tidy.serve request)
      rcases tidy.place_serve found request with stays | ⟨_, _, placeholder, _⟩
      · exact stays
      · rw [usable] at placeholder
        cases placeholder

/-- That one registration of its own key, and nothing else, makes an entry usable in its place. -/
def Fills (hierarchy : Hierarchy) (table : ConverterTable) (rank : ℕ) (key : TypeKey)
    (converter : Converter) (requests : List Request) : Prop :=
  ∃ before coercion behind, requests = before ++ .register key coercion :: behind ∧
    Stands hierarchy table rank (key, converter) before ∧
    ((table.serveAll hierarchy before).register key coercion).1 = true ∧
    Stands hierarchy ((table.serveAll hierarchy before).register key coercion).2 rank
      (key, converter.withCoercion coercion) behind

theorem Fills.cons {request : Request} {requests : List Request}
    (found : table.entries[rank]? = some (key, converter))
    (behind : Fills hierarchy (table.serve hierarchy request) rank key converter requests) :
    Fills hierarchy table rank key converter (request :: requests) := by
  obtain ⟨before, coercion, behind, rfl, stands, changes, remains⟩ := behind
  exact ⟨request :: before, coercion, behind, rfl, stands.cons found, changes, remains⟩

/-- The whole course of an entry: it stays as it is, or it is a placeholder and filled once. -/
theorem Tidy.stands_or_fills (tidy : table.Tidy hierarchy)
    (found : table.entries[rank]? = some (key, converter)) (requests : List Request) :
    Stands hierarchy table rank (key, converter) requests ∨
      converter.isPlaceholder = true ∧ Fills hierarchy table rank key converter requests := by
  induction requests generalizing table with
  | nil =>
      left
      intro served first
      rw [List.prefix_nil.mp first]
      exact found
  | cons request requests ih =>
      rcases tidy.place_serve found request with stays | ⟨coercion, rfl, placeholder, changes, filled⟩
      · rcases ih (tidy.serve request) stays with stands | ⟨placeholder, fills⟩
        · exact .inl (stands.cons found)
        · exact .inr ⟨placeholder, fills.cons found⟩
      · -- From here on the converter is usable, so it stays for good.
        have remains := (tidy.register key coercion).stands_of_usable filled rfl requests
        refine .inr ⟨placeholder, [], coercion, requests, rfl, ?_, changes, remains⟩
        intro served first
        rw [List.prefix_nil.mp first]
        exact found

end Places

/-- A registration says whether it changed the entries; where it did not, nothing changed. -/
theorem register_iff_changes (table : ConverterTable) (key : TypeKey) (coercion : Coercion) :
    (table.register key coercion).1 = true ↔
      (table.register key coercion).2.entries ≠ table.entries := by
  constructor
  · intro changes same
    rcases found : table.own? key with _ | old
    · rw [register_of_missing found] at same
      simp [append] at same
    · rcases placeholder : old.isPlaceholder with _ | _
      · rw [register_of_usable found placeholder] at changes
        cases changes
      · rw [register_of_placeholder found placeholder] at same
        have replaced := own_replace table key key (old.withCoercion coercion)
        rw [own?] at replaced
        change (table.replace key (old.withCoercion coercion)).entries = table.entries at same
        rw [same, ← own?, found] at replaced
        simp only [if_true, Option.map_some, Option.some.injEq] at replaced
        rw [replaced] at placeholder
        cases placeholder
  · intro changes
    by_contra unchanged
    rw [register_of_unchanged (by simpa using unchanged)] at changes
    exact changes rfl

/-- How a table stands at any moment. -/
structure Ranked (table : ConverterTable) : Prop where
  place {rank : ℕ} {key : TypeKey} {converter : Converter}
    (found : table.entries[rank]? = some (key, converter)) :
    converter.rank = rank ∧ converter.target = key
  distinct : table.keys.Nodup
  once : (table.derived.map (·.1)).Nodup
  apart : table.keys.Disjoint (table.derived.map (·.1))
  points : ∀ entry ∈ table.derived,
    entry.2.isPlaceholder = false ∧ entry.2 ∈ table.converters

theorem Tidy.ranked (tidy : table.Tidy hierarchy) : table.Ranked where
  place := tidy.rank_of_place
  distinct := tidy.distinct
  once := tidy.once
  apart := by
    intro key present remembered
    obtain ⟨entry, mem, rfl⟩ := List.mem_map.mp remembered
    exact own_eq_none_iff.mp (tidy.apart entry mem) present
  points entry mem := by
    have serves := tidy.remembers entry.1 entry.2 mem
    exact ⟨usable_of_serving serves, mem_converters_of_serving serves⟩

/-- What becomes of a table from some moment on. -/
structure Lasting (hierarchy : Hierarchy) (table : ConverterTable) : Prop where
  size_le (further : List Request) : table.size ≤ (table.serveAll hierarchy further).size
  usable {rank : ℕ} {key : TypeKey} {converter : Converter}
    (found : table.entries[rank]? = some (key, converter))
    (usable : converter.isPlaceholder = false) (further : List Request) :
    Stands hierarchy table rank (key, converter) further
  placeholder {rank : ℕ} {key : TypeKey} {converter : Converter}
    (found : table.entries[rank]? = some (key, converter))
    (placeholder : converter.isPlaceholder = true) (further : List Request) :
    Stands hierarchy table rank (key, converter) further ∨
      Fills hierarchy table rank key converter further
  changes (key : TypeKey) (coercion : Coercion) :
    (table.register key coercion).1 = true ↔
      (table.register key coercion).2.entries ≠ table.entries
  unchanged {key : TypeKey} {coercion : Coercion}
    (unchanged : (table.register key coercion).1 = false) :
    (table.register key coercion).2 = table

theorem Tidy.lasting (tidy : table.Tidy hierarchy) : table.Lasting hierarchy where
  size_le further := by
    rcases empty : table.entries.length with _ | last
    · rw [size, empty]
      exact Nat.zero_le _
    · -- The last entry keeps its place, so the table is as long as before.
      have short : last < table.entries.length := by omega
      have found : table.entries[last]? = some table.entries[last] :=
        List.getElem?_eq_getElem short
      have long : last < (table.serveAll hierarchy further).entries.length := by
        rcases tidy.stands_or_fills found further with
          stands | ⟨-, before, coercion, behind, rfl, -, -, remains⟩
        · have there := stands further (List.prefix_refl further)
          exact (List.getElem?_eq_some_iff.mp there).1
        · have there := remains behind (List.prefix_refl behind)
          rw [serveAll_append]
          exact (List.getElem?_eq_some_iff.mp there).1
      rw [size, size]
      omega
  usable found usable further := tidy.stands_of_usable found usable further
  placeholder found _ further := (tidy.stands_or_fills found further).imp_right (·.2)
  changes := table.register_iff_changes
  unchanged := register_of_unchanged

/-- Whatever a table has been asked, every converter is in the place that its rank names, and stays
there; only a placeholder ever changes, once, by a registration of its key. -/
theorem serveAll_ranked (hierarchy : Hierarchy) {start : ConverterTable}
    (begins : start = {} ∨ start = .standard) (requests : List Request) :
    (start.serveAll hierarchy requests).Ranked ∧
      (start.serveAll hierarchy requests).Lasting hierarchy := by
  have tidy := (tidy_of_begins hierarchy begins).serveAll requests
  exact ⟨tidy.ranked, tidy.lasting⟩

theorem serveAll_ranked_of_seen_first :
    let key := TypeKey.cls (.builtin .list)
    let hierarchy := ({} : World).hierarchy
    let reached := standard.serveAll hierarchy [.lookup key, .register key .text, .lookup key]
    (standard = {} ∨ standard = .standard) ∧ reached.Ranked ∧ reached.Lasting hierarchy ∧
      reached.entries[11]? = some (key, ⟨11, key, some .text⟩) := by
  have begins : standard = {} ∨ standard = .standard := .inr rfl
  obtain ⟨ranked, lasting⟩ := serveAll_ranked ({} : World).hierarchy begins
    [.lookup (.cls (.builtin .list)), .register (.cls (.builtin .list)) .text,
      .lookup (.cls (.builtin .list))]
  exact ⟨begins, ranked, lasting, by rfl⟩

end ConverterTable

end MemberDispatch
