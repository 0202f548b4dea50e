import MemberDispatch.Proofs.Converter.Growth
import MemberDispatch.Proofs.Index.Renumbering

/-!
# Tables alike

Two tables are alike over some keys if they list these keys in the same order with the same
coercions, whatever else stands in between. Every usable converter must be among them, since such a
converter may come to serve any key. Looking up a key keeps tables alike, and the converters that
both find for one of the keys are alike: it has a converter of its own in both or in none, the same
one serves it, and a placeholder comes behind everything else.
-/

namespace MemberDispatch

/-- That two entries have the same key and converters alike. -/
structure EntryLike (relation : RankRelation) (left right : TypeKey × Converter) : Prop where
  key : left.1 = right.1
  converter : left.2.Like relation right.2

namespace ConverterTable

/-- The entries of some keys. -/
def kept (relevant : List TypeKey) (table : ConverterTable) : List (TypeKey × Converter) :=
  table.entries.filter fun entry => decide (entry.1 ∈ relevant)

/-- That a table is orderly and that its usable converters are those of some keys. -/
structure Fits (hierarchy : Hierarchy) (relevant : List TypeKey) (table : ConverterTable) : Prop
    extends table.Orderly hierarchy where
  usable : ∀ entry ∈ table.entries, entry.2.isPlaceholder = false → entry.1 ∈ relevant

/-- That two tables are alike over some keys. -/
structure Alike (hierarchy : Hierarchy) (relevant : List TypeKey) (relation : RankRelation)
    (table other : ConverterTable) : Prop where
  consistent : relation.Consistent
  bounded {rank rank' : ℕ} (related : relation rank rank') : rank < table.size ∧ rank' < other.size
  fits : table.Fits hierarchy relevant
  otherFits : other.Fits hierarchy relevant
  entries : List.Forall₂ (EntryLike relation) (table.kept relevant) (other.kept relevant)

variable {hierarchy : Hierarchy} {relevant : List TypeKey} {relation : RankRelation}
  {table other : ConverterTable} {key : TypeKey}

section Finding

theorem own_eq_lookup_kept (table : ConverterTable) (mem : key ∈ relevant) :
    table.own? key = (table.kept relevant).lookup key := by
  rw [own?, kept]
  induction table.entries with
  | nil => rfl
  | cons entry entries ih =>
      rcases entry with ⟨first, converter⟩
      rw [lookup_cons, List.filter_cons]
      split
      · rename_i same
        subst same
        simp [mem]
      · rename_i different
        rw [ih]
        split
        · rw [lookup_cons, if_neg different]
        · rfl

theorem rel_lookup {lefts rights : List (TypeKey × Converter)}
    (like : List.Forall₂ (EntryLike relation) lefts rights) (key : TypeKey) :
    Option.Rel (Converter.Like relation) (lefts.lookup key) (rights.lookup key) := by
  induction like with
  | nil => exact .none
  | @cons left right lefts rights head tail ih =>
      rcases left with ⟨first, converter⟩
      rcases right with ⟨first', converter'⟩
      obtain rfl : first = first' := head.key
      simp only [lookup_cons]
      split
      · exact .some head.converter
      · exact ih

theorem Alike.own (alike : Alike hierarchy relevant relation table other) (mem : key ∈ relevant) :
    Option.Rel (Converter.Like relation) (table.own? key) (other.own? key) := by
  rw [own_eq_lookup_kept table mem, own_eq_lookup_kept other mem]
  exact rel_lookup alike.entries key

theorem Fits.usable_eq_none (fits : table.Fits hierarchy relevant) (foreign : key ∉ relevant) :
    table.usable? key = none := by
  rw [usable?, Option.filter_eq_none_iff]
  intro converter found
  have placeholder : converter.isPlaceholder = true := by
    by_contra usable
    exact foreign (fits.usable _ (mem_of_lookup found) (by simpa using usable))
  simp [placeholder]

theorem rel_filter {left right : Option Converter}
    (like : Option.Rel (Converter.Like relation) left right) :
    Option.Rel (Converter.Like relation) (left.filter fun converter => !converter.isPlaceholder)
      (right.filter fun converter => !converter.isPlaceholder) := by
  cases like with
  | none => exact .none
  | some like =>
      simp only [Option.filter_some, Converter.isPlaceholder, like.coercion]
      split
      · exact .some like
      · exact .none

theorem Alike.usable (alike : Alike hierarchy relevant relation table other) (key : TypeKey) :
    Option.Rel (Converter.Like relation) (table.usable? key) (other.usable? key) := by
  by_cases mem : key ∈ relevant
  · exact rel_filter (alike.own mem)
  · rw [alike.fits.usable_eq_none mem, alike.otherFits.usable_eq_none mem]
    exact .none

theorem rel_orElse {left right next next' : Option Converter}
    (first : Option.Rel (Converter.Like relation) left right)
    (second : Option.Rel (Converter.Like relation) next next') :
    Option.Rel (Converter.Like relation) (left <|> next) (right <|> next') := by
  cases first with
  | none => exact second
  | some like => exact .some like

theorem Alike.inherited (alike : Alike hierarchy relevant relation table other) (cls : ClassId) :
    Option.Rel (Converter.Like relation) (table.inherited? hierarchy cls)
      (other.inherited? hierarchy cls) := by
  rw [inherited?, inherited?]
  induction (hierarchy.linearization cls).tail with
  | nil => exact .none
  | cons ancestor ancestors ih =>
      have step (table : ConverterTable) :
          (ancestor :: ancestors).findSome? (fun ancestor => table.usable? (.cls ancestor)) =
            (table.usable? (.cls ancestor) <|>
              ancestors.findSome? fun ancestor => table.usable? (.cls ancestor)) := by
        rw [List.findSome?_cons]
        cases table.usable? (.cls ancestor) <;> rfl
      rw [step, step]
      exact rel_orElse (alike.usable _) ih

theorem find_filter_of_imp {α : Type} {kept found : α → Bool} {items : List α}
    (among : ∀ item ∈ items, found item = true → kept item = true) :
    (items.filter kept).find? found = items.find? found := by
  induction items with
  | nil => rfl
  | cons item items ih =>
      have rest := ih fun item mem => among item (List.mem_cons_of_mem _ mem)
      rw [List.filter_cons]
      split
      · rw [List.find?_cons, List.find?_cons, rest]
      · rename_i dropped
        have missed : found item = false := by
          by_contra hit
          exact dropped (among item List.mem_cons_self (by simpa using hit))
        rw [List.find?_cons, missed, rest]

theorem Fits.adopted_eq (fits : table.Fits hierarchy relevant) (cls : ClassId) :
    table.adopted? hierarchy cls =
      ((table.kept relevant).find? fun (target, converter) =>
        !converter.isPlaceholder && hierarchy.assignable target cls).map (·.2) := by
  rw [adopted?, kept, find_filter_of_imp]
  rintro ⟨target, converter⟩ mem found
  simp only [Bool.and_eq_true, Bool.not_eq_true'] at found
  simpa using fits.usable _ mem found.1

theorem rel_find {lefts rights : List (TypeKey × Converter)}
    (like : List.Forall₂ (EntryLike relation) lefts rights) (cls : ClassId) :
    Option.Rel (Converter.Like relation)
      ((lefts.find? fun (target, converter) =>
        !converter.isPlaceholder && hierarchy.assignable target cls).map (·.2))
      ((rights.find? fun (target, converter) =>
        !converter.isPlaceholder && hierarchy.assignable target cls).map (·.2)) := by
  induction like with
  | nil => exact .none
  | cons head tail ih =>
      simp only [List.find?_cons, Converter.isPlaceholder, head.key, head.converter.coercion]
      split
      · exact .some head.converter
      · exact ih

theorem Alike.adopted (alike : Alike hierarchy relevant relation table other) (cls : ClassId) :
    Option.Rel (Converter.Like relation) (table.adopted? hierarchy cls)
      (other.adopted? hierarchy cls) := by
  rw [alike.fits.adopted_eq, alike.otherFits.adopted_eq]
  exact rel_find alike.entries cls

theorem Alike.serving (alike : Alike hierarchy relevant relation table other) (key : TypeKey) :
    Option.Rel (Converter.Like relation) (table.serving? hierarchy key)
      (other.serving? hierarchy key) := by
  cases key with
  | exact width => exact .none
  | cls cls => exact rel_orElse (alike.inherited cls) (alike.adopted cls)

end Finding

section Growing

theorem Fits.grow {larger : ConverterTable} (fits : table.Fits hierarchy relevant)
    (grows : Grows hierarchy table larger) : larger.Fits hierarchy relevant where
  toOrderly := grows.orderly fits.toOrderly
  usable entry mem usable := by
    obtain ⟨gained, append, placeholders⟩ := grows.gains
    rw [append] at mem
    rcases List.mem_append.mp mem with mem | mem
    · exact fits.usable entry mem usable
    · rw [(placeholders entry mem).1] at usable
      exact absurd usable (by decide)

theorem Grows.size_le {larger : ConverterTable} (grows : Grows hierarchy table larger) :
    table.size ≤ larger.size := by
  obtain ⟨gained, append, _⟩ := grows.gains
  rw [size, size, append, List.length_append]
  exact Nat.le_add_right _ _

/-- A table that gains no key of interest stays alike. -/
theorem Alike.grow_left {larger : ConverterTable}
    (alike : Alike hierarchy relevant relation table other) (grows : Grows hierarchy table larger)
    (quiet : larger.kept relevant = table.kept relevant) :
    Alike hierarchy relevant relation larger other where
  consistent := alike.consistent
  bounded related := ⟨(alike.bounded related).1.trans_le grows.size_le, (alike.bounded related).2⟩
  fits := alike.fits.grow grows
  otherFits := alike.otherFits
  entries := by rw [quiet]; exact alike.entries

theorem Alike.grow_right {larger : ConverterTable}
    (alike : Alike hierarchy relevant relation table other) (grows : Grows hierarchy other larger)
    (quiet : larger.kept relevant = other.kept relevant) :
    Alike hierarchy relevant relation table larger where
  consistent := alike.consistent
  bounded related := ⟨(alike.bounded related).1, (alike.bounded related).2.trans_le grows.size_le⟩
  fits := alike.fits
  otherFits := alike.otherFits.grow grows
  entries := by rw [quiet]; exact alike.entries

def last (table : ConverterTable) (key : TypeKey) (coercion : Option Coercion) : Converter :=
  ⟨table.size, key, coercion⟩

/-- Tables that both gain a converter at their end stay alike. -/
theorem Alike.gain {larger larger' : ConverterTable}
    (alike : Alike hierarchy relevant relation table other) (mem : key ∈ relevant)
    (coercion : Option Coercion)
    (append : larger.entries = table.entries ++ [(key, table.last key coercion)])
    (append' : larger'.entries = other.entries ++ [(key, other.last key coercion)])
    (orderly : larger.Orderly hierarchy) (orderly' : larger'.Orderly hierarchy) :
    Alike hierarchy relevant (relation.extend table.size other.size) larger larger' where
  consistent := RankRelation.Consistent.extend alike.consistent alike.bounded
  bounded related := by
    simp only [size, append, append', List.length_append, List.length_singleton]
    rcases related with related | ⟨rfl, rfl⟩
    · have := alike.bounded related
      simp only [size] at this
      omega
    · simp [size]
  fits := by
    refine ⟨orderly, fun entry entry_mem usable => ?_⟩
    rw [append] at entry_mem
    rcases List.mem_append.mp entry_mem with entry_mem | entry_mem
    · exact alike.fits.usable entry entry_mem usable
    · rw [List.mem_singleton.mp entry_mem]
      exact mem
  otherFits := by
    refine ⟨orderly', fun entry entry_mem usable => ?_⟩
    rw [append'] at entry_mem
    rcases List.mem_append.mp entry_mem with entry_mem | entry_mem
    · exact alike.otherFits.usable entry entry_mem usable
    · rw [List.mem_singleton.mp entry_mem]
      exact mem
  entries := by
    simp only [kept, append, append', List.filter_append, List.filter_singleton, mem,
      decide_true, cond_true]
    refine List.rel_append ?_ (.cons ⟨rfl, .inr ⟨rfl, rfl⟩, rfl, rfl⟩ .nil)
    exact alike.entries.imp fun _ _ like => ⟨like.key, like.converter.mono relation.le_extend⟩

end Growing

section LookingUp

variable {converter : Converter}

theorem lookup_of_own (found : table.own? key = some converter) :
    table.lookup hierarchy key = (converter, table) :=
  lookup_of_settled (by rw [settled?, found]; rfl)

theorem lookup_of_serving (remembers : table.Remembers hierarchy)
    (missing : table.own? key = none) (serves : table.serving? hierarchy key = some converter) :
    (table.lookup hierarchy key).1 = converter ∧
      (table.lookup hierarchy key).2.entries = table.entries := by
  rcases derived : table.derived.lookup key with _ | remembered
  · have unsettled : (table.own? key <|> table.derived.lookup key) = none := by
      rw [missing, derived]
      rfl
    rw [lookup, unsettled, serves]
    exact ⟨rfl, rfl⟩
  · have settled : table.settled? key = some remembered := by
      rw [settled?, missing, derived]
      rfl
    have same := remembers key remembered (mem_of_lookup derived)
    rw [lookup_of_settled settled]
    exact ⟨Option.some.inj (same.symm.trans serves), rfl⟩

theorem lookup_of_nothing (remembers : table.Remembers hierarchy)
    (missing : table.own? key = none) (nothing : table.serving? hierarchy key = none) :
    table.lookup hierarchy key = (table.last key none, table.append key (table.last key none)) := by
  have forgotten : table.derived.lookup key = none := by
    by_contra derived
    obtain ⟨remembered, derived⟩ := Option.ne_none_iff_exists'.mp derived
    have same := remembers key remembered (mem_of_lookup derived)
    simp [nothing] at same
  have unsettled : (table.own? key <|> table.derived.lookup key) = none := by
    rw [missing, forgotten]
    rfl
  rw [lookup, unsettled, nothing]
  rfl

/-- Looking up another key leaves the entries of the keys of interest. -/
theorem kept_lookup_of_foreign (hierarchy : Hierarchy) (table : ConverterTable)
    (foreign : key ∉ relevant) :
    (table.lookup hierarchy key).2.kept relevant = table.kept relevant := by
  rw [lookup]
  split
  · rfl
  · split
    · rfl
    · simp [kept, append, foreign]

/-- Looking up a key keeps tables alike, and what both find for a key of interest is alike. -/
theorem Alike.lookup (alike : Alike hierarchy relevant relation table other) (key : TypeKey) :
    ∃ larger, relation ≤ larger ∧
      Alike hierarchy relevant larger (table.lookup hierarchy key).2
        (other.lookup hierarchy key).2 ∧
      (key ∈ relevant → (table.lookup hierarchy key).1.Like larger
        (other.lookup hierarchy key).1) := by
  have grows := grows_lookup hierarchy table key
  have grows' := grows_lookup hierarchy other key
  have remembers := alike.fits.remembers
  have remembers' := alike.otherFits.remembers
  -- For a key of interest both tables find alike, or both append a placeholder, which relates the two new
  -- ranks. For any other, what they append is of no interest.
  by_cases mem : key ∈ relevant
  · have own := alike.own mem
    have serving := alike.serving key
    generalize found : table.own? key = own? at own
    generalize found' : other.own? key = own'? at own
    cases own with
    | some like =>
        rw [lookup_of_own found, lookup_of_own found']
        exact ⟨relation, le_rfl, alike, fun _ => like⟩
    | none =>
        generalize serves : table.serving? hierarchy key = serving? at serving
        generalize serves' : other.serving? hierarchy key = serving'? at serving
        cases serving with
        | none =>
            rw [lookup_of_nothing remembers found serves,
              lookup_of_nothing remembers' found' serves'] at *
            refine ⟨relation.extend table.size other.size, relation.le_extend, ?_, fun _ => ?_⟩
            · exact alike.gain mem none rfl rfl (grows.orderly alike.fits.toOrderly)
                (grows'.orderly alike.otherFits.toOrderly)
            · exact ⟨.inr ⟨rfl, rfl⟩, rfl, rfl⟩
        | some like =>
            obtain ⟨made, entries⟩ := lookup_of_serving remembers found serves
            obtain ⟨made', entries'⟩ := lookup_of_serving remembers' found' serves'
            refine ⟨relation, le_rfl, ?_, fun _ => by rw [made, made']; exact like⟩
            exact (alike.grow_left grows (by rw [kept, entries, kept])).grow_right grows'
              (by rw [kept, entries', kept])
  · refine ⟨relation, le_rfl, ?_, fun present => absurd present mem⟩
    exact (alike.grow_left grows (kept_lookup_of_foreign hierarchy table mem)).grow_right grows'
      (kept_lookup_of_foreign hierarchy other mem)

/-- Looking up several keys keeps tables alike, and if all of them are of interest, what both find
is alike. -/
theorem Alike.lookupAll (alike : Alike hierarchy relevant relation table other)
    (keys : List TypeKey) :
    ∃ larger, relation ≤ larger ∧
      Alike hierarchy relevant larger (table.lookupAll hierarchy keys).2
        (other.lookupAll hierarchy keys).2 ∧
      (keys ⊆ relevant → List.Forall₂ (Converter.Like larger)
        (table.lookupAll hierarchy keys).1 (other.lookupAll hierarchy keys).1) := by
  induction keys generalizing relation table other with
  | nil => exact ⟨relation, le_rfl, alike, fun _ => .nil⟩
  | cons key keys ih =>
      obtain ⟨middle, first_le, first, firstLike⟩ := alike.lookup key
      obtain ⟨larger, others_le, others, othersLike⟩ := ih first
      refine ⟨larger, first_le.trans others_le, others, fun within => ?_⟩
      obtain ⟨here, behind⟩ := List.cons_subset.mp within
      exact .cons ((firstLike here).mono others_le) (othersLike behind)

end LookingUp

end ConverterTable

end MemberDispatch
