import Mathlib.Data.List.Nodup
import MemberDispatch.Proofs.Converter.History

/-!
# The rule of look-ups

The rule that says which converter a key has mentions the entries of a table only: the entry of the
key, the usable one of its nearest ancestor, the usable one of least rank that it counts as a
subclass of, or a placeholder behind all others. Remembered answers do not matter. They are dropped
by every registration that changes the table, and the placeholders that look-ups append serve no
key but their own.
-/

namespace MemberDispatch

namespace ConverterTable

variable {hierarchy : Hierarchy} {table : ConverterTable} {key : TypeKey} {cls : ClassId}
  {converter : Converter}

/-- A usable converter that stands in a table under a class. -/
structure Usable (table : ConverterTable) (cls : ClassId) (converter : Converter) : Prop where
  present : (.cls cls, converter) ∈ table.entries
  usable : converter.isPlaceholder = false

/-- No class of a list has a usable converter. -/
def Bare (table : ConverterTable) (classes : List ClassId) : Prop :=
  ∀ cls ∈ classes, ∀ converter, ¬ table.Usable cls converter

/-- The converter of a key, by the entries of a table. -/
inductive Gives (hierarchy : Hierarchy) (table : ConverterTable) : TypeKey → Converter → Prop
  | own {key : TypeKey} {converter : Converter} (present : (key, converter) ∈ table.entries) :
      Gives hierarchy table key converter
  | inherited {cls ancestor : ClassId} {nearer farther : List ClassId} {converter : Converter}
      (absent : .cls cls ∉ table.keys)
      (order : (hierarchy.linearization cls).tail = nearer ++ ancestor :: farther)
      (bare : table.Bare nearer) (usable : table.Usable ancestor converter) :
      Gives hierarchy table (.cls cls) converter
  | adopted {cls ancestor : ClassId} {converter : Converter} (absent : .cls cls ∉ table.keys)
      (bare : table.Bare (hierarchy.linearization cls).tail)
      (usable : table.Usable ancestor converter)
      (counts : hierarchy.isSubclass cls ancestor = true)
      (least : ∀ other found, table.Usable other found → hierarchy.isSubclass cls other = true →
        converter.rank ≤ found.rank) :
      Gives hierarchy table (.cls cls) converter
  | fresh {key : TypeKey} (absent : key ∉ table.keys)
      (bare : ∀ cls, key = .cls cls → table.Bare (hierarchy.linearization cls).tail)
      (foreign : ∀ cls, key = .cls cls → ∀ other found, table.Usable other found →
        hierarchy.isSubclass cls other = false) :
      Gives hierarchy table key ⟨table.size, key, none⟩

section Finding

theorem Orderly.usable_eq_some_iff (orderly : table.Orderly hierarchy) :
    table.usable? (.cls cls) = some converter ↔ table.Usable cls converter := by
  rw [usable?, Option.filter_eq_some_iff, orderly.own_eq_some_iff]
  constructor
  · rintro ⟨present, usable⟩
    exact ⟨present, by simpa using usable⟩
  · rintro ⟨present, usable⟩
    exact ⟨present, by simpa using usable⟩

theorem Orderly.usable_eq_none_iff (orderly : table.Orderly hierarchy) :
    table.usable? (.cls cls) = none ↔ ∀ converter, ¬ table.Usable cls converter := by
  rw [Option.eq_none_iff_forall_ne_some]
  exact forall_congr' fun converter => orderly.usable_eq_some_iff.not

theorem Orderly.inherited_eq_some_iff (orderly : table.Orderly hierarchy) :
    table.inherited? hierarchy cls = some converter ↔
      ∃ nearer ancestor farther,
        (hierarchy.linearization cls).tail = nearer ++ ancestor :: farther ∧
          table.Bare nearer ∧ table.Usable ancestor converter := by
  rw [inherited?, List.findSome?_eq_some_iff]
  simp only [orderly.usable_eq_some_iff, orderly.usable_eq_none_iff]
  constructor
  · rintro ⟨nearer, ancestor, farther, order, usable, bare⟩
    exact ⟨nearer, ancestor, farther, order, bare, usable⟩
  · rintro ⟨nearer, ancestor, farther, order, bare, usable⟩
    exact ⟨nearer, ancestor, farther, order, usable, bare⟩

theorem Orderly.inherited_eq_none_iff (orderly : table.Orderly hierarchy) :
    table.inherited? hierarchy cls = none ↔
      table.Bare (hierarchy.linearization cls).tail := by
  rw [inherited?, List.findSome?_eq_none_iff]
  simp only [orderly.usable_eq_none_iff]
  rfl

theorem Orderly.pairwise_rank (orderly : table.Orderly hierarchy) :
    table.entries.Pairwise fun entry later => entry.2.rank < later.2.rank := by
  have ranks := orderly.ranks
  rw [converters, List.map_map] at ranks
  have increasing := ranks ▸ List.pairwise_lt_range
  exact List.pairwise_map.mp increasing

theorem Orderly.find_eq_some_iff (orderly : table.Orderly hierarchy)
    {test : TypeKey × Converter → Bool} {entry : TypeKey × Converter} :
    table.entries.find? test = some entry ↔
      entry ∈ table.entries ∧ test entry = true ∧
        ∀ other ∈ table.entries, test other = true → entry.2.rank ≤ other.2.rank := by
  have first {entry : TypeKey × Converter} (found : table.entries.find? test = some entry) :
      ∀ other ∈ table.entries, test other = true → entry.2.rank ≤ other.2.rank := by
    obtain ⟨-, before, behind, split, missed⟩ := List.find?_eq_some_iff_append.mp found
    have increasing := orderly.pairwise_rank
    rw [split] at increasing
    have later := (List.pairwise_cons.mp (List.pairwise_append.mp increasing).2.1).1
    intro other mem passes
    rw [split] at mem
    rcases List.mem_append.mp mem with mem | mem
    · have fails := missed other mem
      simp [passes] at fails
    · rcases List.mem_cons.mp mem with rfl | mem
      · exact le_rfl
      · exact (later other mem).le
  constructor
  · intro found
    exact ⟨List.mem_of_find?_eq_some found, List.find?_some found, first found⟩
  · rintro ⟨mem, passes, least⟩
    rcases found : table.entries.find? test with _ | other
    · have fails := List.find?_eq_none.mp found entry mem
      exact absurd passes fails
    · have other_mem := List.mem_of_find?_eq_some found
      have same : other.2.rank = entry.2.rank :=
        le_antisymm (first found entry mem passes) (least other other_mem (List.find?_some found))
      have ranks := orderly.ranks
      rw [converters, List.map_map] at ranks
      have distinct := ranks ▸ List.nodup_range
      rw [List.inj_on_of_nodup_map distinct other_mem mem same]

/-- A key without an entry is assignable to a usable one just if it counts as its subclass. -/
theorem usable_assignable_iff (absent : .cls cls ∉ table.keys) {entry : TypeKey × Converter}
    (mem : entry ∈ table.entries) :
    (!entry.2.isPlaceholder && hierarchy.assignable entry.1 cls) = true ↔
      ∃ ancestor, entry.1 = .cls ancestor ∧ table.Usable ancestor entry.2 ∧
        hierarchy.isSubclass cls ancestor = true := by
  rcases entry with ⟨target | width, found⟩
  · have different : target ≠ cls := by
      rintro rfl
      exact absent (List.mem_map_of_mem mem)
    simp only [Hierarchy.assignable, Bool.and_eq_true, Bool.not_eq_true', Bool.or_eq_true,
      beq_iff_eq, different, false_or, TypeKey.cls.injEq]
    constructor
    · rintro ⟨usable, counts⟩
      exact ⟨target, rfl, ⟨mem, usable⟩, counts⟩
    · rintro ⟨_, rfl, usable, counts⟩
      exact ⟨usable.usable, counts⟩
  · simp [Hierarchy.assignable]

theorem Orderly.adopted_eq_some_iff (orderly : table.Orderly hierarchy)
    (absent : .cls cls ∉ table.keys) :
    table.adopted? hierarchy cls = some converter ↔
      ∃ ancestor, table.Usable ancestor converter ∧ hierarchy.isSubclass cls ancestor = true ∧
        ∀ other found, table.Usable other found → hierarchy.isSubclass cls other = true →
          converter.rank ≤ found.rank := by
  rw [adopted?, Option.map_eq_some_iff]
  simp only [orderly.find_eq_some_iff]
  constructor
  · rintro ⟨entry, ⟨mem, passes, least⟩, rfl⟩
    obtain ⟨ancestor, -, usable, counts⟩ := (usable_assignable_iff absent mem).mp passes
    refine ⟨ancestor, usable, counts, ?_⟩
    intro other found otherUsable otherCounts
    apply least (.cls other, found) otherUsable.present
    exact (usable_assignable_iff absent otherUsable.present).mpr
      ⟨other, rfl, otherUsable, otherCounts⟩
  · rintro ⟨ancestor, usable, counts, least⟩
    refine ⟨(.cls ancestor, converter), ⟨usable.present, ?_, ?_⟩, rfl⟩
    · exact (usable_assignable_iff absent usable.present).mpr ⟨ancestor, rfl, usable, counts⟩
    · rintro entry mem passes
      obtain ⟨other, -, otherUsable, otherCounts⟩ := (usable_assignable_iff absent mem).mp passes
      exact least other entry.2 otherUsable otherCounts

theorem adopted_eq_none_iff (absent : .cls cls ∉ table.keys) :
    table.adopted? hierarchy cls = none ↔
      ∀ other found, table.Usable other found → hierarchy.isSubclass cls other = false := by
  rw [adopted?, Option.map_eq_none_iff, List.find?_eq_none]
  constructor
  · intro fails other found usable
    by_contra counts
    apply fails _ usable.present
    exact (usable_assignable_iff absent usable.present).mpr
      ⟨other, rfl, usable, by simpa using counts⟩
  · intro foreign entry mem passes
    obtain ⟨other, -, usable, counts⟩ := (usable_assignable_iff absent mem).mp passes
    rw [foreign other entry.2 usable] at counts
    cases counts

end Finding

/-- The rule and the search of a table for the converter of a key agree. -/
theorem Orderly.gives_iff (orderly : table.Orderly hierarchy) :
    Gives hierarchy table key converter ↔
      (table.rule hierarchy key).getD (table.placeholder key) = converter := by
  rw [rule]
  constructor
  -- Each case says what its stage of the search finds, and that the stages before it find nothing.
  · intro gives
    cases gives with
    | own present => rw [orderly.own_eq_some_iff.mpr present]; rfl
    | inherited absent order bare usable =>
        have inherits := orderly.inherited_eq_some_iff.mpr ⟨_, _, _, order, bare, usable⟩
        rw [own_eq_none_iff.mpr absent, serving?, inherits]
        rfl
    | adopted absent bare usable counts least =>
        have adopts := (orderly.adopted_eq_some_iff absent).mpr ⟨_, usable, counts, least⟩
        rw [own_eq_none_iff.mpr absent, serving?, orderly.inherited_eq_none_iff.mpr bare, adopts]
        rfl
    | fresh absent bare foreign =>
        rw [own_eq_none_iff.mpr absent]
        cases key with
        | exact width => rfl
        | cls cls =>
            rw [serving?, orderly.inherited_eq_none_iff.mpr (bare cls rfl),
              (adopted_eq_none_iff absent).mpr (foreign cls rfl)]
            rfl
  · rintro rfl
    rcases own : table.own? key with _ | converter
    · have absent := own_eq_none_iff.mp own
      rcases key with cls | width
      · rw [serving?]
        rcases inherits : table.inherited? hierarchy cls with _ | converter
        · have bare := orderly.inherited_eq_none_iff.mp inherits
          rcases adopts : table.adopted? hierarchy cls with _ | converter
          · have foreign := (adopted_eq_none_iff absent).mp adopts
            apply Gives.fresh absent
            · rintro _ ⟨⟩
              exact bare
            · rintro _ ⟨⟩
              exact foreign
          · obtain ⟨ancestor, usable, counts, least⟩ :=
              (orderly.adopted_eq_some_iff absent).mp adopts
            exact .adopted absent bare usable counts least
        · obtain ⟨nearer, ancestor, farther, order, bare, usable⟩ :=
            orderly.inherited_eq_some_iff.mp inherits
          exact .inherited absent order bare usable
      · exact .fresh absent (by rintro _ ⟨⟩) (by rintro _ ⟨⟩)
    · exact .own (orderly.own_eq_some_iff.mp own)

theorem mem_converters_of_rule (found : table.rule hierarchy key = some converter) :
    converter ∈ table.converters := by
  simp only [rule, Option.orElse_eq_orElse, Option.orElse_eq_or, Option.or_eq_some_iff] at found
  rcases found with own | ⟨-, serves⟩
  · exact mem_converters_of_own own
  · exact mem_converters_of_serving serves

theorem Orderly.rank_lt_size (orderly : table.Orderly hierarchy)
    (mem : converter ∈ table.converters) : converter.rank < table.size := by
  have rank_mem := List.mem_map_of_mem (f := Converter.rank) mem
  rw [orderly.ranks] at rank_mem
  exact List.mem_range.mp rank_mem

/-- What a look-up answers and adds, whatever is remembered. -/
theorem Orderly.lookup_eq_rule (orderly : table.Orderly hierarchy) (key : TypeKey) :
    (table.lookup hierarchy key).1 = (table.rule hierarchy key).getD (table.placeholder key) ∧
      (table.lookup hierarchy key).2.entries = match table.rule hierarchy key with
        | some _ => table.entries
        | none => table.entries ++ [(key, table.placeholder key)] := by
  rw [rule]
  rcases own : table.own? key with _ | converter
  · rcases serves : table.serving? hierarchy key with _ | converter
    · rw [lookup_of_nothing orderly.remembers own serves]
      exact ⟨rfl, rfl⟩
    · exact lookup_of_serving orderly.remembers own serves
  · rw [lookup_of_own own]
    exact ⟨rfl, rfl⟩

section Sticking

/-- A placeholder that a look-up gives stands in the table from then on. -/
theorem Orderly.exists_place_of_lookup (orderly : table.Orderly hierarchy)
    (placeholder : (table.lookup hierarchy key).1.isPlaceholder = true) :
    ∃ rank : ℕ, (table.lookup hierarchy key).2.entries[rank]? =
      some (key, (table.lookup hierarchy key).1) := by
  rcases own : table.own? key with _ | converter
  · rcases serves : table.serving? hierarchy key with _ | converter
    · rw [lookup_of_nothing orderly.remembers own serves]
      exact ⟨table.entries.length, List.getElem?_concat_length⟩
    · rw [(lookup_of_serving orderly.remembers own serves).1, usable_of_serving serves] at placeholder
      cases placeholder
  · rw [lookup_of_own own]
    exact List.mem_iff_getElem?.mp (orderly.own_eq_some_iff.mp own)

theorem Orderly.lookup_of_place (orderly : table.Orderly hierarchy) {rank : ℕ}
    (found : table.entries[rank]? = some (key, converter)) :
    (table.lookup hierarchy key).1 = converter := by
  rw [lookup_of_own (orderly.own_eq_some_iff.mpr (List.mem_of_getElem? found))]

theorem Tidy.stands_of_unregistered (tidy : table.Tidy hierarchy) {rank : ℕ}
    (found : table.entries[rank]? = some (key, converter)) {further : List Request}
    (unfilled : ∀ coercion, .register key coercion ∉ further) :
    (table.serveAll hierarchy further).entries[rank]? = some (key, converter) := by
  rcases tidy.stands_or_fills found further with
    stands | ⟨-, before, coercion, behind, rfl, -⟩
  · exact stands further (List.prefix_refl further)
  · exact absurd (List.mem_append_right _ List.mem_cons_self) (unfilled coercion)

theorem Tidy.filled_of_registered (tidy : table.Tidy hierarchy) {rank : ℕ}
    (found : table.entries[rank]? = some (key, converter))
    (placeholder : converter.isPlaceholder = true) (coercion : Coercion)
    (behind : List Request) :
    (table.serveAll hierarchy (.register key coercion :: behind)).entries[rank]? =
      some (key, converter.withCoercion coercion) := by
  have own := tidy.own_eq_some_iff.mpr (List.mem_of_getElem? found)
  have filled : (table.register key coercion).2.entries[rank]? =
      some (key, converter.withCoercion coercion) := by
    rw [register_of_placeholder own placeholder]
    simp [replace, found]
  have usable : (converter.withCoercion coercion).isPlaceholder = false := rfl
  exact (tidy.register key coercion).stands_of_usable filled usable behind behind
    (List.prefix_refl behind)

end Sticking

/-- That a look-up of a key follows the rule at this moment, and what it gives from then on. -/
structure FollowsRule (hierarchy : Hierarchy) (table : ConverterTable) (key : TypeKey) : Prop where
  answers (converter : Converter) :
    (table.lookup hierarchy key).1 = converter ↔ Gives hierarchy table key converter
  keeps (given : (table.lookup hierarchy key).1 ≠ ⟨table.size, key, none⟩) :
    (table.lookup hierarchy key).2.entries = table.entries
  appends (fresh : (table.lookup hierarchy key).1 = ⟨table.size, key, none⟩) :
    (table.lookup hierarchy key).2.entries = table.entries ++ [(key, ⟨table.size, key, none⟩)]
  /-- A placeholder sticks until a coercion is registered for exactly that key. -/
  sticks (placeholder : (table.lookup hierarchy key).1.isPlaceholder = true)
    (further : List Request) (unfilled : ∀ coercion, .register key coercion ∉ further) :
    (((table.lookup hierarchy key).2.serveAll hierarchy further).lookup hierarchy key).1 =
      (table.lookup hierarchy key).1
  fills (placeholder : (table.lookup hierarchy key).1.isPlaceholder = true)
    (before : List Request) (unfilled : ∀ coercion, .register key coercion ∉ before)
    (coercion : Coercion) (behind : List Request) :
    (((table.lookup hierarchy key).2.serveAll hierarchy
      (before ++ .register key coercion :: behind)).lookup hierarchy key).1 =
        (table.lookup hierarchy key).1.withCoercion coercion

theorem Tidy.followsRule (tidy : table.Tidy hierarchy) (key : TypeKey) :
    table.FollowsRule hierarchy key := by
  obtain ⟨answer, entries⟩ := tidy.lookup_eq_rule key
  have behind := tidy.lookup key
  constructor
  case answers =>
    intro converter
    rw [answer, tidy.gives_iff]
  case keeps =>
    intro given
    rcases found : table.rule hierarchy key with _ | converter
    · rw [found] at answer
      exact absurd answer given
    · rw [entries, found]
  case appends =>
    intro fresh
    rcases found : table.rule hierarchy key with _ | converter
    · rw [entries, found]
      rfl
    · -- A converter of the table has a rank below its size, so it is not the fresh one.
      have among := mem_converters_of_rule found
      rw [found] at answer
      rw [← Option.getD_some (a := converter) (b := table.placeholder key), ← answer, fresh] at among
      exact absurd (tidy.rank_lt_size among) (lt_irrefl _)
  case sticks =>
    intro placeholder further unfilled
    obtain ⟨rank, found⟩ := tidy.exists_place_of_lookup placeholder
    apply (behind.serveAll further).lookup_of_place
    exact behind.stands_of_unregistered found unfilled
  case fills =>
    intro placeholder before unfilled coercion further
    obtain ⟨rank, found⟩ := tidy.exists_place_of_lookup placeholder
    have waits := behind.stands_of_unregistered found unfilled
    apply (behind.serveAll _).lookup_of_place
    rw [serveAll_append]
    exact (behind.serveAll before).filled_of_registered waits placeholder coercion further

/-- Remembered answers never show: whatever a table has been asked, a look-up follows the rule. -/
theorem serveAll_followsRule (hierarchy : Hierarchy) {start : ConverterTable}
    (begins : start = {} ∨ start = .standard) (requests : List Request) (key : TypeKey) :
    (start.serveAll hierarchy requests).FollowsRule hierarchy key :=
  ((tidy_of_begins hierarchy begins).serveAll requests).followsRule key

theorem serveAll_followsRule_of_virtual_subclass :
    let hierarchy := ({} : World).hierarchy
    let reached := serveAll hierarchy {}
      [.register (.cls (.builtin .number)) .text, .lookup (.cls (.builtin .decimal))]
    (({} : ConverterTable) = {} ∨ ({} : ConverterTable) = standard) ∧
      reached.FollowsRule hierarchy (.cls (.builtin .decimal)) ∧
      (reached.lookup hierarchy (.cls (.builtin .decimal))).1 =
        ⟨0, .cls (.builtin .number), some .text⟩ := by
  have begins : ({} : ConverterTable) = {} ∨ ({} : ConverterTable) = standard := .inl rfl
  have follows := serveAll_followsRule ({} : World).hierarchy begins
    [.register (.cls (.builtin .number)) .text, .lookup (.cls (.builtin .decimal))]
    (.cls (.builtin .decimal))
  exact ⟨begins, follows, by rfl⟩

end ConverterTable

end MemberDispatch
