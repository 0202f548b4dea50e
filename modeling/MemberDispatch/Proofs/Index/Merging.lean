import MemberDispatch.Proofs.Class.Dispatch
import MemberDispatch.Proofs.Index.Order
import MemberDispatch.Registry

/-!
# Merging members

A view takes members in groups, one group after the other. Of the members of a name that take the same
arguments it keeps the one that came first and no other, so its list under the name is ordered without
ties. Merging a member adds it to its place if nothing stands there, and merging many is one such step
after the other.
-/

namespace MemberDispatch

theorem lookup_putEntry {β : Type} (key other : String) (value : β) (entries : List (String × β)) :
    (putEntry key value entries).lookup other =
      if other = key then some value else entries.lookup other := by
  induction entries with
  | nil => rw [putEntry, lookup_cons]
  | cons entry entries ih =>
      rcases entry with ⟨first, old⟩
      simp only [putEntry]
      split
      · rename_i here
        obtain rfl := beq_iff_eq.mp here
        simp only [lookup_cons]
        split <;> rfl
      · rename_i elsewhere
        have different : first ≠ key := fun same => elsewhere (beq_iff_eq.mpr same)
        simp only [lookup_cons, ih]
        split
        · rename_i same
          rw [if_neg (same ▸ different)]
        · rfl

theorem Member.place_eq_iff (member : Member) (ranks : List ℕ) :
    member.place = toLex (ranks.length, ranks) ↔ member.ranks = ranks := by
  rw [place, sortKey, toLex_inj, Prod.mk.injEq]
  refine ⟨And.right, fun same => ⟨?_, same⟩⟩
  rw [← same, Member.ranks, List.length_map]
  rfl

/-- The members of some ranks stand at one place. -/
theorem filter_ranks (members : List Member) (ranks : List ℕ) :
    members.filter (fun member => member.ranks = ranks) =
      membersAt members (toLex (ranks.length, ranks)) := by
  refine List.filter_congr fun member _ => decide_eq_decide.mpr ?_
  exact (member.place_eq_iff ranks).symm

/-- That no two members of a list stand at the same place. -/
def Untied (members : List Member) : Prop :=
  ∀ place, (membersAt members place).length ≤ 1

/-- An ordered list without ties is strictly ordered. -/
theorem InPlace.strict {members : List Member} (ordered : InPlace members)
    (untied : Untied members) :
    members.Pairwise fun left right => left.place < right.place := by
  induction members with
  | nil => exact .nil
  | cons first rest ih =>
      obtain ⟨first_le, rest_ordered⟩ := List.pairwise_cons.mp ordered
      have rest_untied : Untied rest := by
        intro place
        have bounded := untied place
        rw [membersAt, List.filter_cons] at bounded
        split at bounded
        · exact Nat.le_trans (Nat.le_succ _) bounded
        · exact bounded
      refine List.pairwise_cons.mpr ⟨fun other mem => ?_, ih rest_ordered rest_untied⟩
      refine lt_of_le_of_ne (first_le other mem) fun tied => ?_
      have bounded := untied first.place
      rw [membersAt, List.filter_cons, if_pos (decide_eq_true rfl), List.length_cons] at bounded
      have behind : other ∈ membersAt rest first.place :=
        List.mem_filter.mpr ⟨mem, decide_eq_true tied.symm⟩
      exact absurd (List.length_pos_of_mem behind) (Nat.not_lt.mpr (Nat.le_of_succ_le_succ bounded))

namespace Index

variable {index other : Index}

theorem merge_append (index : Index) (members more : List Member) :
    index.merge (members ++ more) = (index.merge members).merge more :=
  List.foldl_append

theorem merge_cons (index : Index) (member : Member) (members : List Member) :
    index.merge (member :: members) = (index.merge [member]).merge members :=
  rfl

/-- Merging looks at no name. -/
theorem accepted_merge_congr (same : index.accepted = other.accepted) (members : List Member) :
    (index.merge members).accepted = (other.merge members).accepted := by
  induction members generalizing index other with
  | nil => exact same
  | cons member members ih =>
      rw [merge_cons, merge_cons other]
      refine ih ?_
      simp only [merge, List.foldl_cons, List.foldl_nil, same]
      split
      · exact same
      · exact congrArg (· ++ [member]) same

/-- Merging a member adds it to its place if nothing stands there. -/
theorem membersAt_merge_singleton (untied : Untied index.accepted) (member : Member)
    (place : ℕ ×ₗ List ℕ) :
    membersAt (index.merge [member]).accepted place =
      (membersAt index.accepted place ++ membersAt [member] place).take 1 := by
  have bounded := untied place
  -- A place has at most one member, so the first of the old and the new one is all that there can be.
  by_cases here : member.place = place
  · have single : membersAt [member] place = [member] := by simp [here]
    rw [single]
    simp only [merge, List.foldl_cons, List.foldl_nil]
    split
    · rename_i there
      obtain ⟨other, mem, same⟩ := List.any_eq_true.mp there
      have tied := (Member.sameArguments_iff member other).mp same
      have nonempty : other ∈ membersAt index.accepted place :=
        List.mem_filter.mpr ⟨mem, decide_eq_true (tied.symm.trans here)⟩
      rw [List.take_append_of_le_length (List.length_pos_of_mem nonempty),
        List.take_of_length_le bounded]
    · rename_i missing
      have nothing : membersAt index.accepted place = [] := by
        refine List.filter_eq_nil_iff.mpr fun other mem tied => missing ?_
        have same := here.trans (of_decide_eq_true tied).symm
        exact List.any_eq_true.mpr ⟨other, mem, (Member.sameArguments_iff member other).mpr same⟩
      simp only [add, membersAt] at single nothing ⊢
      rw [List.filter_append, nothing, single]
      rfl
  · have nothing : membersAt [member] place = [] := by simp [here]
    rw [nothing, List.append_nil, List.take_of_length_le bounded]
    simp only [merge, List.foldl_cons, List.foldl_nil]
    split
    · rfl
    · simp only [add, membersAt] at nothing ⊢
      rw [List.filter_append, nothing, List.append_nil]

/-- Of the members of a place the first is kept. -/
theorem membersAt_merge (untied : Untied index.accepted) (members : List Member)
    (place : ℕ ×ₗ List ℕ) :
    membersAt (index.merge members).accepted place =
      (membersAt index.accepted place ++ membersAt members place).take 1 := by
  induction members generalizing index with
  | nil =>
      have nothing : membersAt [] place = [] := rfl
      rw [nothing, List.append_nil, List.take_of_length_le (untied place)]
      rfl
  | cons member members ih =>
      have step := membersAt_merge_singleton untied member
      have still : Untied (index.merge [member]).accepted := by
        intro place
        rw [step, List.length_take]
        exact Nat.min_le_left _ _
      have split : membersAt (member :: members) place =
          membersAt [member] place ++ membersAt members place :=
        List.filter_append [member] members
      rw [merge_cons, ih still, step, split, ← List.append_assoc]
      rcases membersAt index.accepted place ++ membersAt [member] place with _ | ⟨first, rest⟩
      · rfl
      · rfl

end Index

def membersNamed (name : String) (groups : List (String × List Member)) : List Member :=
  (groups.filter fun group => group.1 = name).flatMap fun group => group.2

theorem membersNamed_cons (name other : String) (members : List Member)
    (groups : List (String × List Member)) :
    membersNamed name ((other, members) :: groups) =
      if other = name then members ++ membersNamed name groups else membersNamed name groups := by
  by_cases here : other = name <;> simp [membersNamed, here]

namespace View

theorem mergeAll_append (view : View) (groups more : List (String × List Member)) :
    view.mergeAll (groups ++ more) = (view.mergeAll groups).mergeAll more :=
  List.foldl_append

theorem accepted_get_merge (view : View) (name : String) (members : List Member)
    (other : String) :
    ((view.merge name members).get other).accepted =
      if other = name then ((view.get other).merge members).accepted
      else (view.get other).accepted := by
  simp only [get, find?, merge, lookup_putEntry]
  split
  · rename_i same
    subst same
    refine Index.accepted_merge_congr ?_ members
    rcases view.indexes.lookup other with _ | index <;> rfl
  · rfl

/-- Under each name, merging groups merges the members that they have under the name. -/
theorem accepted_get_mergeAll (view : View) (groups : List (String × List Member))
    (name : String) :
    ((view.mergeAll groups).get name).accepted =
      ((view.get name).merge (membersNamed name groups)).accepted := by
  induction groups generalizing view with
  | nil => rfl
  | cons group groups ih =>
      rcases group with ⟨other, members⟩
      have first := view.accepted_get_merge other members name
      refine (ih (view.merge other members)).trans ?_
      rw [membersNamed_cons]
      split
      · rename_i here
        rw [if_pos here.symm] at first
        rw [Index.merge_append]
        exact Index.accepted_merge_congr first _
      · rename_i elsewhere
        rw [if_neg (Ne.symm elsewhere)] at first
        exact Index.accepted_merge_congr first _

/-- What a view that is made of groups lists under a name: of all members that the groups have under
the name and that take the same arguments the first, strictly in order. -/
theorem members_get_mergeAll (cls : ClassId) (groups : List (String × List Member))
    (name : String) :
    (∀ place, membersAt ((({ cls } : View).mergeAll groups).get name).members place =
      (membersAt (membersNamed name groups) place).take 1) ∧
    ((({ cls } : View).mergeAll groups).get name).members.Pairwise fun left right =>
      left.place < right.place := by
  have untied : Untied (({ cls } : View).get name).accepted := fun _ => Nat.zero_le 1
  have kept (place : ℕ ×ₗ List ℕ) :
      membersAt ((({ cls } : View).mergeAll groups).get name).members place =
        (membersAt (membersNamed name groups) place).take 1 := by
    refine (membersAt_sortMembers _ place).trans ?_
    rw [accepted_get_mergeAll, Index.membersAt_merge untied]
    rfl
  refine ⟨kept, (inPlace_sortMembers _).strict fun place => ?_⟩
  refine Nat.le_trans (Nat.le_of_eq (congrArg List.length (kept place))) ?_
  rw [List.length_take]
  exact Nat.min_le_left _ _

end View

end MemberDispatch
