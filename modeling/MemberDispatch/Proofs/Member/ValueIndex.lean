import Mathlib.Data.List.Nodup
import MemberDispatch.Member.ValueIndex
import MemberDispatch.Proofs.Class.Dispatch

/-!
# The parameter for the value

An index of declared keys has the first position of each of them, and what it was asked before makes
no difference to what it answers. A value goes to the first parameter that is declared with its class.
Without such a parameter the declared classes above its class decide: one of them receives the value,
at the first position that it is declared for, and of several none does. Positions aside, only which
keys are declared matters to this, and not their order.
-/

namespace MemberDispatch

namespace ValueIndex

variable {hierarchy : Hierarchy} {index : ValueIndex} {keys before : List TypeKey} {cls : ClassId}

section Positions

/-- That an index records the first position of every declared key. -/
structure Indexes (index : ValueIndex) (keys : List TypeKey) : Prop where
  mem_iff (key : TypeKey) (position : ℕ) :
    (key, position) ∈ index.first ↔ key ∈ keys ∧ position = keys.idxOf key
  distinct : (index.first.map (·.1)).Nodup

theorem Indexes.lookup_of_mem (indexes : index.Indexes keys) {key : TypeKey} (mem : key ∈ keys) :
    index.first.lookup key = some (keys.idxOf key) :=
  (lookup_eq_some_iff_mem indexes.distinct).mpr ((indexes.mem_iff key _).mpr ⟨mem, rfl⟩)

theorem Indexes.lookup_of_not_mem (indexes : index.Indexes keys) {key : TypeKey}
    (absent : key ∉ keys) : index.first.lookup key = none := by
  rcases found : index.first.lookup key with _ | position
  · rfl
  · exact absurd ((indexes.mem_iff key position).mp (mem_of_lookup found)).1 absent

theorem Indexes.putIfAbsent (indexes : index.Indexes keys) (key : TypeKey) :
    (index.putIfAbsent key keys.length).Indexes (keys ++ [key]) := by
  by_cases mem : key ∈ keys
  · have same : (index.putIfAbsent key keys.length).first = index.first := by
      simp [ValueIndex.putIfAbsent, indexes.lookup_of_mem mem]
    refine ⟨fun other position => ?_, same ▸ indexes.distinct⟩
    rw [same, indexes.mem_iff]
    have among : other ∈ keys ++ [key] ↔ other ∈ keys := by
      rw [List.mem_append, List.mem_singleton]
      exact ⟨fun here => here.elim id fun same => same ▸ mem, .inl⟩
    rw [among]
    refine and_congr_right fun here => ?_
    rw [List.idxOf_append_of_mem here]
  · have more : (index.putIfAbsent key keys.length).first = index.first ++ [(key, keys.length)] := by
      simp [ValueIndex.putIfAbsent, indexes.lookup_of_not_mem mem]
    have new : key ∉ index.first.map (·.1) := by
      intro there
      obtain ⟨⟨other, position⟩, recorded, rfl⟩ := List.mem_map.mp there
      exact mem ((indexes.mem_iff other position).mp recorded).1
    refine ⟨fun other position => ?_, ?_⟩
    · rw [more, List.mem_append, indexes.mem_iff, List.mem_singleton, Prod.mk.injEq,
        List.mem_append, List.mem_singleton]
      by_cases same : other = key
      · subst same
        simp [mem, List.idxOf_append_of_notMem mem]
      · simp only [same, false_and, or_false]
        refine and_congr_right fun here => ?_
        rw [List.idxOf_append_of_mem here]
    · rw [more, List.map_append]
      refine List.Nodup.append indexes.distinct (List.nodup_singleton key) ?_
      simpa using new

theorem Indexes.ofKeysFrom (indexes : index.Indexes before) (keys : List TypeKey) :
    (ofKeysFrom index before.length keys).Indexes (before ++ keys) := by
  induction keys generalizing index before with
  | nil =>
      rw [List.append_nil]
      exact indexes
  | cons key keys ih =>
      have behind := ih (indexes.putIfAbsent key)
      rw [List.length_append, List.length_singleton, List.append_assoc] at behind
      exact behind

theorem indexes_ofKeys (keys : List TypeKey) : (ofKeys keys).Indexes keys := by
  have start : ({} : ValueIndex).Indexes [] := ⟨by simp, List.nodup_nil⟩
  exact start.ofKeysFrom keys

end Positions

section Answers

/-- The index once it was asked for the positions of several classes, one after the other. -/
def askAll (hierarchy : Hierarchy) (index : ValueIndex) (asked : List ClassId) : ValueIndex :=
  asked.foldl (fun index cls => (index.positionFor hierarchy cls).2) index

/-- That every remembered answer is what the rule says. -/
def Remembers (hierarchy : Hierarchy) (index : ValueIndex) : Prop :=
  ∀ cls answer, (cls, answer) ∈ index.answers → index.rule hierarchy cls = .ok answer

theorem Remembers.positionFor (remembers : index.Remembers hierarchy) (cls : ClassId) :
    (index.positionFor hierarchy cls).1 = index.rule hierarchy cls ∧
      (index.positionFor hierarchy cls).2.first = index.first ∧
        (index.positionFor hierarchy cls).2.Remembers hierarchy := by
  unfold ValueIndex.positionFor
  rcases found : index.answers.lookup cls with _ | answer
  · rcases decided : index.rule hierarchy cls with issue | answer
    · exact ⟨rfl, rfl, remembers⟩
    · refine ⟨rfl, rfl, fun other told mem => ?_⟩
      rcases List.mem_append.mp mem with old | new
      · exact remembers other told old
      · cases List.mem_singleton.mp new
        exact decided
  · exact ⟨(remembers cls answer (mem_of_lookup found)).symm, rfl, remembers⟩

theorem Remembers.askAll (remembers : index.Remembers hierarchy) (asked : List ClassId) :
    (index.askAll hierarchy asked).first = index.first ∧
      (index.askAll hierarchy asked).Remembers hierarchy := by
  induction asked generalizing index with
  | nil => exact ⟨rfl, remembers⟩
  | cons cls asked ih =>
      obtain ⟨-, same, still⟩ := remembers.positionFor cls
      obtain ⟨others, last⟩ := ih still
      exact ⟨others.trans same, last⟩

/-- What the index of some keys answers does not depend on what it was asked before. -/
theorem positionFor_askAll (hierarchy : Hierarchy) (keys : List TypeKey) (asked : List ClassId)
    (cls : ClassId) :
    (((ofKeys keys).askAll hierarchy asked).positionFor hierarchy cls).1 =
      (ofKeys keys).rule hierarchy cls := by
  have nothing : ∀ (keys : List TypeKey) (index : ValueIndex) (position : ℕ),
      index.answers = [] → (ofKeysFrom index position keys).answers = [] := by
    intro keys
    induction keys with
    | nil => exact fun _ _ none => none
    | cons key keys ih => exact fun _ _ _ => ih _ _ rfl
  have fresh : (ofKeys keys).Remembers hierarchy := by
    intro cls answer mem
    rw [ofKeys, nothing keys {} 0 rfl] at mem
    exact absurd mem List.not_mem_nil
  obtain ⟨same, remembers⟩ := fresh.askAll asked
  rw [(remembers.positionFor cls).1]
  unfold rule candidates
  rw [same]

end Answers

section Rule

/-- That a class is declared and stands above another one, which derives from it or counts as its
subclass. -/
def Above (hierarchy : Hierarchy) (keys : List TypeKey) (cls ancestor : ClassId) : Prop :=
  .cls ancestor ∈ keys ∧ hierarchy.isSubclass cls ancestor = true

/-- Which parameter receives values of a class: one of the class itself, or else one of the only class
above it. -/
inductive Receives (hierarchy : Hierarchy) (keys : List TypeKey) (cls : ClassId) :
    Except AmbiguousValue (Option ℕ) → Prop
  | itself (mem : .cls cls ∈ keys) :
      Receives hierarchy keys cls (.ok (some (keys.idxOf (.cls cls))))
  | nowhere (absent : .cls cls ∉ keys)
      (unrelated : ∀ ancestor, ¬ Above hierarchy keys cls ancestor) :
      Receives hierarchy keys cls (.ok none)
  | only {ancestor : ClassId} (absent : .cls cls ∉ keys) (above : Above hierarchy keys cls ancestor)
      (only : ∀ other, Above hierarchy keys cls other → other = ancestor) :
      Receives hierarchy keys cls (.ok (some (keys.idxOf (.cls ancestor))))
  | several {first second : ClassId} (absent : .cls cls ∉ keys) (apart : first ≠ second)
      (left : Above hierarchy keys cls first) (right : Above hierarchy keys cls second) :
      Receives hierarchy keys cls (.error ⟨cls, (ofKeys keys).candidates hierarchy cls⟩)

theorem mem_candidates_iff (absent : .cls cls ∉ keys) {key : TypeKey} {position : ℕ} :
    (key, position) ∈ (ofKeys keys).candidates hierarchy cls ↔
      ∃ ancestor, key = .cls ancestor ∧ Above hierarchy keys cls ancestor ∧
        position = keys.idxOf key := by
  unfold candidates
  rw [List.mem_filter, (indexes_ofKeys keys).mem_iff]
  cases key with
  | exact width => simp [Hierarchy.assignable]
  | cls id =>
      have other : .cls id ∈ keys → id ≠ cls := fun mem same => absent (same ▸ mem)
      simp only [Hierarchy.assignable, Bool.or_eq_true, beq_iff_eq, TypeKey.cls.injEq, Above]
      grind

theorem receives_rule (hierarchy : Hierarchy) (keys : List TypeKey) (cls : ClassId) :
    Receives hierarchy keys cls ((ofKeys keys).rule hierarchy cls) := by
  have indexes := indexes_ofKeys keys
  unfold rule
  by_cases mem : .cls cls ∈ keys
  · rw [indexes.lookup_of_mem mem]
    exact .itself mem
  rw [indexes.lookup_of_not_mem mem]
  have found (ancestor : ClassId) (above : Above hierarchy keys cls ancestor) :
      (TypeKey.cls ancestor, keys.idxOf (.cls ancestor)) ∈ (ofKeys keys).candidates hierarchy cls :=
    (mem_candidates_iff mem).mpr ⟨ancestor, rfl, above, rfl⟩
  have stands (key : TypeKey) (position : ℕ)
      (stood : (key, position) ∈ (ofKeys keys).candidates hierarchy cls) :=
    (mem_candidates_iff mem).mp stood
  have distinct : (((ofKeys keys).candidates hierarchy cls).map (·.1)).Nodup :=
    indexes.distinct.sublist (List.filter_sublist.map _)
  -- The classes above are the candidates, each at its first position and no two of the same key.
  rcases all : (ofKeys keys).candidates hierarchy cls with
    _ | ⟨⟨first, position⟩, _ | ⟨⟨second, behind⟩, rest⟩⟩
  · rw [all] at found
    exact .nowhere mem fun ancestor above => List.not_mem_nil (found ancestor above)
  · rw [all] at found stands
    obtain ⟨ancestor, rfl, above, rfl⟩ := stands first position List.mem_cons_self
    refine .only mem above fun other higher => ?_
    have same := congrArg Prod.fst (List.mem_singleton.mp (found other higher))
    exact TypeKey.cls.inj same
  · rw [all] at stands distinct
    obtain ⟨left, rfl, leftAbove, -⟩ := stands first position List.mem_cons_self
    obtain ⟨right, rfl, rightAbove, -⟩ :=
      stands second behind (List.mem_cons_of_mem _ List.mem_cons_self)
    have apart : left ≠ right := by
      rintro rfl
      exact (List.nodup_cons.mp distinct).1 List.mem_cons_self
    have verdict := Receives.several mem apart leftAbove rightAbove
    rw [all] at verdict
    exact verdict

theorem Receives.unique {left right : Except AmbiguousValue (Option ℕ)}
    (first : Receives hierarchy keys cls left) (second : Receives hierarchy keys cls right) :
    left = right := by
  cases first with
  | itself mem => cases second <;> first | rfl | contradiction
  | nowhere absent unrelated =>
      cases second with
      | itself mem => exact absurd mem absent
      | nowhere => rfl
      | only _ above => exact absurd above (unrelated _)
      | several _ _ above => exact absurd above (unrelated _)
  | only absent above only =>
      cases second with
      | itself mem => exact absurd mem absent
      | nowhere _ unrelated => exact absurd above (unrelated _)
      | only _ other => rw [only _ other]
      | several _ apart left right => exact absurd ((only _ left).trans (only _ right).symm) apart
  | several absent apart left right =>
      cases second with
      | itself mem => exact absurd mem absent
      | nowhere _ unrelated => exact absurd left (unrelated _)
      | only _ _ only => exact absurd ((only _ left).trans (only _ right).symm) apart
      | several => rfl

/-- The key whose parameter receives the value, if one does. Nothing at all stands for an ambiguous
choice. -/
def keyOf (keys : List TypeKey) : Except AmbiguousValue (Option ℕ) →
    Option (Option (Option TypeKey))
  | .ok position => some (position.map fun position => keys[position]?)
  | .error _ => none

theorem keyOf_idxOf {key : TypeKey} (mem : key ∈ keys) :
    keyOf keys (.ok (some (keys.idxOf key))) = some (some (some key)) := by
  rw [keyOf, Option.map_some, List.getElem?_idxOf mem]

/-- Which key receives the value depends only on which keys there are. -/
theorem keyOf_rule_congr {others : List TypeKey} (same : ∀ key, key ∈ keys ↔ key ∈ others) :
    keyOf others ((ofKeys others).rule hierarchy cls) =
      keyOf keys ((ofKeys keys).rule hierarchy cls) := by
  have above (ancestor : ClassId) :
      Above hierarchy keys cls ancestor ↔ Above hierarchy others cls ancestor :=
    and_congr_left fun _ => same _
  have receives := receives_rule hierarchy others cls
  have given := receives_rule hierarchy keys cls
  generalize (ofKeys keys).rule hierarchy cls = verdict at given ⊢
  cases given with
  | itself mem =>
      have there := (same _).mp mem
      rw [receives.unique (.itself there), keyOf_idxOf there, keyOf_idxOf mem]
  | nowhere absent unrelated =>
      have nowhere := Receives.nowhere (fun mem => absent ((same _).mpr mem)) fun ancestor higher =>
        unrelated ancestor ((above ancestor).mpr higher)
      rw [receives.unique nowhere]
      rfl
  | @only ancestor absent higher only =>
      have there := (above ancestor).mp higher
      rw [receives.unique (.only (fun mem => absent ((same _).mpr mem)) there fun other above' =>
        only other ((above other).mpr above')), keyOf_idxOf there.1, keyOf_idxOf higher.1]
  | several absent apart left right =>
      rw [receives.unique (.several (fun mem => absent ((same _).mpr mem)) apart
        ((above _).mp left) ((above _).mp right))]
      rfl

end Rule

end ValueIndex

end MemberDispatch
