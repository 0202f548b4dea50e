import Mathlib.Data.List.Basic
import Mathlib.Data.List.Induction
import MemberDispatch.Class.DispatchMap

/-!
# Looking up by class

What a map from classes to values answers, whether it remembers the answer or not, and what a
registration changes about it: only the classes that have the registered one among their ancestors
are affected.

Registrations and lookups come to a map in any order. What it answers is told from the registrations
alone: the value registered last for the first class of the linearization that was ever registered.
Lookups, whether they find something or not, leave no trace in later answers, and the classes of the map
stand in the order in which they were first registered.
-/

namespace MemberDispatch

section Entries

variable {κ β : Type} [DecidableEq κ]

theorem lookup_cons (key first : κ) (value : β) (entries : List (κ × β)) :
    ((first, value) :: entries).lookup key =
      if key = first then some value else entries.lookup key := by
  rw [List.lookup_cons]
  by_cases same : key = first
  · rw [beq_iff_eq.mpr same, if_pos same]
  · rw [beq_eq_false_iff_ne.mpr same, if_neg same]

theorem mem_of_lookup {entries : List (κ × β)} {key : κ} {value : β}
    (found : entries.lookup key = some value) : (key, value) ∈ entries := by
  obtain ⟨before, behind, rfl, _⟩ := List.lookup_eq_some_iff.mp found
  simp

theorem lookup_eq_some_iff_mem {entries : List (κ × β)} (distinct : (entries.map (·.1)).Nodup)
    {key : κ} {value : β} : entries.lookup key = some value ↔ (key, value) ∈ entries := by
  induction entries with
  | nil => simp
  | cons entry entries ih =>
      rcases entry with ⟨first, found⟩
      obtain ⟨absent, others⟩ := List.nodup_cons.mp distinct
      rw [lookup_cons, List.mem_cons, Prod.mk.injEq]
      split
      · rename_i same
        subst same
        have only : (key, value) ∉ entries := fun mem => absent (List.mem_map.mpr ⟨_, mem, rfl⟩)
        simp [only, eq_comm]
      · rename_i different
        simp only [different, false_and, false_or]
        exact ih others

end Entries

namespace DispatchMap

variable {α : Type} {linearization : ClassId → List ClassId} {map : DispatchMap α}
  {key cls : ClassId} {value : α}

theorem lookup_put (key other : ClassId) (value : α) (entries : List (ClassId × α)) :
    (put key value entries).lookup other =
      if other = key then some value else entries.lookup other := by
  induction entries with
  | nil => rw [put, lookup_cons]
  | cons entry entries ih =>
      rcases entry with ⟨first, old⟩
      simp only [put]
      split
      · rename_i here
        obtain rfl := beq_iff_eq.mp here
        simp only [lookup_cons]
        split <;> rfl
      · rename_i elsewhere
        have different : first ≠ key := fun same => elsewhere (beq_iff_eq.mpr same)
        simp only [lookup_cons, ih]
        split
        · rename_i same
          rw [if_neg (same ▸ different)]
        · rfl

theorem put_put (key : ClassId) (value other : α) (entries : List (ClassId × α)) :
    put key value (put key other entries) = put key value entries := by
  induction entries with
  | nil => simp [put]
  | cons entry entries ih =>
      simp only [put]
      split
      · simp [put]
      · rename_i elsewhere
        simp [put, elsewhere, ih]

theorem put_of_lookup {entries : List (ClassId × α)} (present : entries.lookup key = some value) :
    put key value entries = entries := by
  induction entries with
  | nil => cases present
  | cons entry entries ih =>
      rw [lookup_cons] at present
      split at present
      · rename_i here
        cases present
        simp [put, here]
      · rename_i elsewhere
        simp [put, Ne.symm elsewhere, ih present]

/-- That every remembered answer is the one that the entries give. -/
def Remembers (linearization : ClassId → List ClassId) (map : DispatchMap α) : Prop :=
  ∀ cls value, (cls, value) ∈ map.answers → map.rule linearization cls = some value

theorem lookup_eq_rule (remembers : map.Remembers linearization) (cls : ClassId) :
    (map.lookup linearization cls).1 = map.rule linearization cls ∧
      (map.lookup linearization cls).2.entries = map.entries ∧
        (map.lookup linearization cls).2.Remembers linearization := by
  rcases remembered : map.answers.lookup cls with _ | value
  · rcases answer : map.rule linearization cls with _ | value
    · simp only [lookup, remembered, answer]
      exact ⟨trivial, trivial, remembers⟩
    · simp only [lookup, remembered, answer]
      refine ⟨trivial, trivial, fun asked found mem => ?_⟩
      rcases List.mem_append.mp mem with mem | mem
      · exact remembers asked found mem
      · obtain ⟨rfl, rfl⟩ := Prod.mk.inj (List.mem_singleton.mp mem)
        exact answer
  · simp only [lookup, remembered]
    exact ⟨(remembers cls value (mem_of_lookup remembered)).symm, trivial, remembers⟩

theorem remembers_register (key : ClassId) (value : α) :
    (map.register key value).Remembers linearization :=
  fun _ _ mem => absurd mem List.not_mem_nil

/-- A registration answers for classes below the registered one only. -/
theorem rule_register_cases (map : DispatchMap α) (key cls : ClassId) (value : α) :
    (map.register key value).rule linearization cls = map.rule linearization cls ∨
      key ∈ linearization cls ∧ (map.register key value).rule linearization cls = some value := by
  simp only [rule, register]
  generalize linearization cls = ancestors
  induction ancestors with
  | nil => exact .inl rfl
  | cons ancestor ancestors ih =>
      rw [List.findSome?_cons, List.findSome?_cons, lookup_put]
      by_cases here : ancestor = key
      · rw [if_pos here]
        exact .inr ⟨here ▸ List.mem_cons_self, rfl⟩
      · rw [if_neg here]
        rcases map.entries.lookup ancestor with _ | found
        · exact ih.imp_right fun registered => ⟨List.mem_cons_of_mem _ registered.1, registered.2⟩
        · exact .inl rfl

theorem rule_register_of_not_mem (unrelated : key ∉ linearization cls) :
    (map.register key value).rule linearization cls = map.rule linearization cls :=
  (map.rule_register_cases key cls value).resolve_right fun registered => unrelated registered.1

section Requests

/-- What a map is asked. -/
inductive Request (α : Type)
  | register (cls : ClassId) (value : α)
  | lookup (cls : ClassId)

variable (linearization)

/-- The map that a request leaves. -/
def serve (map : DispatchMap α) : Request α → DispatchMap α
  | .register cls value => map.register cls value
  | .lookup cls => (map.lookup linearization cls).2

/-- The map that requests leave of an empty one. -/
def serveAll (requests : List (Request α)) : DispatchMap α :=
  requests.foldl (serve linearization) {}

/-- The classes and values that requests register, one after the other. -/
def registrations (requests : List (Request α)) : List (ClassId × α) :=
  requests.filterMap fun
    | .register cls value => some (cls, value)
    | .lookup _ => none

/-- The value that requests register last for a class itself. -/
def latest (requests : List (Request α)) (cls : ClassId) : Option α :=
  (registrations requests).reverse.lookup cls

variable {linearization} {requests : List (Request α)}

theorem registrations_concat (requests : List (Request α)) (request : Request α) :
    registrations (requests ++ [request]) = registrations requests ++ registrations [request] :=
  List.filterMap_append

theorem latest_eq_none_iff {cls : ClassId} :
    latest requests cls = none ↔ cls ∉ (registrations requests).map (·.1) := by
  rw [latest, List.lookup_eq_none_iff]
  constructor
  · intro others mem
    obtain ⟨entry, listed, rfl⟩ := List.mem_map.mp mem
    simpa using others entry (List.mem_reverse.mpr listed)
  · intro absent entry listed
    rw [bne_iff_ne]
    rintro rfl
    exact absent (List.mem_map.mpr ⟨entry, List.mem_reverse.mp listed, rfl⟩)

section Keys

variable {entries : List (ClassId × α)}

theorem keys_put_of_mem (present : key ∈ entries.map (·.1)) :
    (put key value entries).map (·.1) = entries.map (·.1) := by
  induction entries with
  | nil => cases present
  | cons entry entries ih =>
      rcases entry with ⟨first, old⟩
      rw [put]
      split
      · rename_i here
        rw [List.map_cons, List.map_cons, beq_iff_eq.mp here]
      · rename_i elsewhere
        have behind : key ∈ entries.map (·.1) := by
          refine (List.mem_cons.mp present).resolve_left ?_
          rintro rfl
          exact elsewhere (beq_self_eq_true _)
        rw [List.map_cons, List.map_cons, ih behind]

theorem keys_put_of_not_mem (absent : key ∉ entries.map (·.1)) :
    (put key value entries).map (·.1) = entries.map (·.1) ++ [key] := by
  induction entries with
  | nil => rfl
  | cons entry entries ih =>
      rcases entry with ⟨first, old⟩
      obtain ⟨different, behind⟩ := not_or.mp (mt List.mem_cons.mpr absent)
      rw [put, if_neg (by simpa using Ne.symm different), List.map_cons, List.map_cons, ih behind]
      rfl

end Keys

/-- A map that served requests remembers only what its entries give, and the entries are the
registrations, put in one after the other. -/
theorem serveAll_eq (linearization : ClassId → List ClassId) (requests : List (Request α)) :
    (serveAll linearization requests).Remembers linearization ∧
      (serveAll linearization requests).entries =
        (registrations requests).foldl (fun entries entry => put entry.1 entry.2 entries) [] := by
  induction requests using List.reverseRecOn with
  | nil => exact ⟨fun _ _ mem => absurd mem List.not_mem_nil, rfl⟩
  | append_singleton requests request ih =>
      obtain ⟨remembers, entries⟩ := ih
      have last : serveAll linearization (requests ++ [request]) =
          serve linearization (serveAll linearization requests) request := by
        rw [serveAll, List.foldl_append]
        rfl
      rw [last, registrations_concat, List.foldl_append, ← entries]
      cases request with
      | register cls value => exact ⟨remembers_register cls value, rfl⟩
      | lookup cls =>
          obtain ⟨-, same, still⟩ := lookup_eq_rule remembers cls
          exact ⟨still, same⟩

/-- What is put in last stands for its class. -/
theorem lookup_foldl_put (entries : List (ClassId × α)) (key : ClassId) :
    (entries.foldl (fun put entry => DispatchMap.put entry.1 entry.2 put) []).lookup key =
      entries.reverse.lookup key := by
  induction entries using List.reverseRecOn with
  | nil => rfl
  | append_singleton entries entry ih =>
      rcases entry with ⟨cls, value⟩
      rw [List.foldl_append, List.reverse_append]
      exact (lookup_put cls key value _).trans (by rw [ih, ← lookup_cons]; rfl)

/-- A class keeps the place of its first registration. -/
theorem keys_foldl_put (entries : List (ClassId × α)) :
    (entries.foldl (fun put entry => DispatchMap.put entry.1 entry.2 put) []).map (·.1) =
      (entries.map (·.1)).eraseDups := by
  induction entries using List.reverseRecOn with
  | nil => rfl
  | append_singleton entries entry ih =>
      rcases entry with ⟨cls, value⟩
      rw [List.foldl_append, List.map_append, List.eraseDups_append, ← ih]
      have among : cls ∈ (entries.foldl (fun put entry =>
          DispatchMap.put entry.1 entry.2 put) []).map (·.1) ↔ cls ∈ entries.map (·.1) := by
        rw [ih, List.mem_eraseDups]
      by_cases known : cls ∈ entries.map (·.1)
      · have none : [cls].removeAll (entries.map (·.1)) = [] := by
          simpa [List.removeAll] using known
        change (put cls value _).map (·.1) = _
        rw [List.map_singleton, none, keys_put_of_mem (among.mpr known)]
        exact (List.append_nil _).symm
      · have one : [cls].removeAll (entries.map (·.1)) = [cls] := by
          simpa [List.removeAll] using known
        change (put cls value _).map (·.1) = _
        rw [List.map_singleton, one, keys_put_of_not_mem (mt among.mp known)]
        rfl

theorem entries_serveAll (linearization : ClassId → List ClassId) (requests : List (Request α))
    (cls : ClassId) :
    (serveAll linearization requests).entries.lookup cls = latest requests cls := by
  rw [(serveAll_eq linearization requests).2]
  exact lookup_foldl_put (registrations requests) cls

theorem keys_serveAll (linearization : ClassId → List ClassId) (requests : List (Request α)) :
    (serveAll linearization requests).keys = ((registrations requests).map (·.1)).eraseDups := by
  rw [keys, (serveAll_eq linearization requests).2]
  exact keys_foldl_put (registrations requests)

theorem lookup_serveAll (linearization : ClassId → List ClassId) (requests : List (Request α))
    (cls : ClassId) :
    ((serveAll linearization requests).lookup linearization cls).1 =
      (linearization cls).findSome? (latest requests) := by
  rw [(lookup_eq_rule (serveAll_eq linearization requests).1 cls).1, rule]
  simp only [entries_serveAll]

/-- What a map answers once it has served requests. A class has the value registered last for the first
class of its linearization that was ever registered, and none if there is no such class, whatever was
looked up before. The classes of the map are those that were registered, in the order in which they
first were. -/
theorem serveAll_answers (linearization : ClassId → List ClassId) (requests : List (Request α)) :
    let map := serveAll linearization requests
    let registered := (registrations requests).map (·.1)
    (∀ cls,
      (map.lookup linearization cls).1 = (linearization cls).findSome? (latest requests) ∧
        ((map.lookup linearization cls).1 = none ↔
          ∀ ancestor ∈ linearization cls, ancestor ∉ registered)) ∧
      (∀ cls, map.contains cls = true ↔ cls ∈ registered) ∧
      map.keys = registered.eraseDups ∧
      map.size = registered.eraseDups.length := by
  intro map registered
  refine ⟨fun cls => ⟨lookup_serveAll linearization requests cls, ?_⟩, ?_, ?_, ?_⟩
  · rw [lookup_serveAll, List.findSome?_eq_none_iff]
    exact forall₂_congr fun _ _ => latest_eq_none_iff
  · intro cls
    rw [contains, entries_serveAll, Option.isSome_iff_ne_none, ne_eq, latest_eq_none_iff, not_not]
  · exact keys_serveAll linearization requests
  · rw [← keys_serveAll linearization requests, keys, List.length_map]
    rfl

end Requests

end DispatchMap

end MemberDispatch
