import Mathlib.Data.List.Induction
import Mathlib.Data.List.Lex
import Mathlib.Data.Prod.Lex
import MemberDispatch.Member.Index

/-!
# The order of an index

Members of one name stand by their number of arguments and then by the ranks of their converters.
Inserting them one after the other sorts them stably, so the list of an index is the stable sort of
the members that it accepted, and the stretch of an arity in that list holds exactly the members
of that arity. A sorted list in which every place keeps the order of arrival is unique, which is
what the comparison with the merge sort rests on.
-/

namespace MemberDispatch

namespace Member

/-- Where a member stands among the members of its name. -/
def place (member : Member) : ℕ ×ₗ List ℕ :=
  toLex member.sortKey

/-- Whether a member may stand in front of another one. -/
def notAfter (left right : Member) : Bool :=
  decide (left.place ≤ right.place)

theorem ranksBefore_iff (left right : List ℕ) : ranksBefore left right = true ↔ left < right := by
  induction left generalizing right with
  | nil =>
      cases right with
      | nil => simp [ranksBefore]
      | cons rank ranks => simp [ranksBefore]
  | cons rank ranks ih =>
      cases right with
      | nil => simp [ranksBefore]
      | cons other others =>
          simp only [ranksBefore, beq_iff_eq]
          split
          · rename_i same
            subst same
            simp [ih]
          · rename_i different
            simp [List.cons_lt_cons_iff, different]

theorem before_iff (left right : Member) : left.before right = true ↔ left.place < right.place := by
  simp [before, place, sortKey, Prod.Lex.toLex_lt_toLex, ranksBefore_iff]

theorem notAfter_iff (left right : Member) :
    left.notAfter right = true ↔ left.place ≤ right.place := by
  simp [notAfter]

theorem notAfter_trans (first second third : Member) (left : first.notAfter second = true)
    (right : second.notAfter third = true) : first.notAfter third = true := by
  rw [notAfter_iff] at left right ⊢
  exact left.trans right

theorem notAfter_total (left right : Member) :
    (left.notAfter right || right.notAfter left) = true := by
  simpa [notAfter_iff] using le_total left.place right.place

theorem sameArguments_iff (left right : Member) :
    left.sameArguments right = true ↔ left.place = right.place := by
  constructor
  · intro same
    have ranks : left.ranks = right.ranks := by simpa [sameArguments] using same
    have arity : left.arity = right.arity := by
      simpa [Member.ranks, Member.arity] using congrArg List.length ranks
    simp [place, sortKey, ranks, arity]
  · intro same
    have keys := toLex.injective same
    simp only [sortKey, Prod.mk.injEq] at keys
    simp [sameArguments, keys.2]

theorem arity_le_of_place_le {left right : Member} (ordered : left.place ≤ right.place) :
    left.arity ≤ right.arity := by
  simp only [place, sortKey, Prod.Lex.toLex_le_toLex] at ordered
  rcases ordered with smaller | ⟨same, _⟩
  · exact smaller.le
  · exact same.le

end Member

/-- Whether no member of a list stands in front of an earlier one. -/
def InPlace (members : List Member) : Prop :=
  members.Pairwise fun left right => left.place ≤ right.place

/-- The members of a list that stand at a place. -/
abbrev membersAt (members : List Member) (place : ℕ ×ₗ List ℕ) : List Member :=
  members.filter fun member => member.place = place

theorem insertMember_perm (member : Member) (members : List Member) :
    (insertMember member members).Perm (member :: members) := by
  induction members with
  | nil => exact .refl _
  | cons first rest ih =>
      simp only [insertMember]
      split
      · exact .refl _
      · exact (ih.cons first).trans (.swap member first rest)

theorem inPlace_insertMember {members : List Member} (ordered : InPlace members)
    (member : Member) : InPlace (insertMember member members) := by
  induction members with
  | nil => simp [insertMember, InPlace]
  | cons first rest ih =>
      obtain ⟨first_le, rest_ordered⟩ := List.pairwise_cons.mp ordered
      simp only [insertMember]
      split
      · rename_i precedes
        have smaller := (Member.before_iff _ _).mp precedes
        refine List.pairwise_cons.mpr ⟨?_, ordered⟩
        intro other mem
        rcases List.mem_cons.mp mem with rfl | mem
        · exact smaller.le
        · exact smaller.le.trans (first_le other mem)
      · rename_i follows
        have larger : first.place ≤ member.place := by
          simpa [Member.before_iff] using follows
        refine List.pairwise_cons.mpr ⟨?_, ih rest_ordered⟩
        intro other mem
        rcases List.mem_cons.mp ((insertMember_perm member rest).mem_iff.mp mem) with rfl | mem
        · exact larger
        · exact first_le other mem

theorem membersAt_insertMember {members : List Member} (ordered : InPlace members)
    (member : Member) (place : ℕ ×ₗ List ℕ) :
    membersAt (insertMember member members) place =
      membersAt members place ++ membersAt [member] place := by
  induction members with
  | nil => simp [insertMember]
  | cons first rest ih =>
      obtain ⟨first_le, rest_ordered⟩ := List.pairwise_cons.mp ordered
      simp only [insertMember]
      split
      · rename_i precedes
        have smaller := (Member.before_iff _ _).mp precedes
        by_cases here : member.place = place
        · -- everything behind the inserted member stands at a later place
          have none_here : membersAt (first :: rest) place = [] := by
            refine List.filter_eq_nil_iff.mpr ?_
            intro other mem
            have later : member.place < other.place := by
              rcases List.mem_cons.mp mem with rfl | mem
              · exact smaller
              · exact smaller.trans_le (first_le other mem)
            simp [← here, later.ne']
          rw [membersAt, List.filter_cons, none_here]
          simp [here, none_here]
        · simp [here]
      · simp only [membersAt, List.filter_cons, ih rest_ordered]
        split <;> simp

theorem sortMembers_append (members : List Member) (member : Member) :
    sortMembers (members ++ [member]) = insertMember member (sortMembers members) := by
  simp [sortMembers]

theorem sortMembers_perm (members : List Member) : (sortMembers members).Perm members := by
  induction members using List.reverseRecOn with
  | nil => exact .refl _
  | append_singleton members member ih =>
      rw [sortMembers_append]
      exact (insertMember_perm _ _).trans
        ((ih.cons member).trans (List.perm_append_singleton _ _).symm)

theorem inPlace_sortMembers (members : List Member) : InPlace (sortMembers members) := by
  induction members using List.reverseRecOn with
  | nil => exact .nil
  | append_singleton members member ih =>
      rw [sortMembers_append]
      exact inPlace_insertMember ih member

/-- Members of one place keep the order in which they came. -/
theorem membersAt_sortMembers (members : List Member) (place : ℕ ×ₗ List ℕ) :
    membersAt (sortMembers members) place = membersAt members place := by
  induction members using List.reverseRecOn with
  | nil => rfl
  | append_singleton members member ih =>
      rw [sortMembers_append, membersAt_insertMember (inPlace_sortMembers members), ih]
      simp

/-- An ordered list is determined by the members at every place. -/
theorem eq_of_membersAt_eq {lefts rights : List Member} (left_ordered : InPlace lefts)
    (right_ordered : InPlace rights)
    (same : ∀ place, membersAt lefts place = membersAt rights place) : lefts = rights := by
  induction lefts generalizing rights with
  | nil =>
      cases rights with
      | nil => rfl
      | cons right rights => simpa using (same right.place).symm
  | cons left lefts ih =>
      cases rights with
      | nil => simpa using same left.place
      | cons right rights =>
          obtain ⟨left_le, lefts_ordered⟩ := List.pairwise_cons.mp left_ordered
          obtain ⟨right_le, rights_ordered⟩ := List.pairwise_cons.mp right_ordered
          have left_mem : left ∈ right :: rights := by
            have mem : left ∈ membersAt (left :: lefts) left.place := by simp
            rw [same] at mem
            exact (List.mem_filter.mp mem).1
          have right_mem : right ∈ left :: lefts := by
            have mem : right ∈ membersAt (right :: rights) right.place := by simp
            rw [← same] at mem
            exact (List.mem_filter.mp mem).1
          -- Both heads are at the least place, and that place lists its members alike in both lists.
          have places : left.place = right.place := by
            apply le_antisymm
            · rcases List.mem_cons.mp right_mem with rfl | mem
              · exact le_rfl
              · exact left_le right mem
            · rcases List.mem_cons.mp left_mem with rfl | mem
              · exact le_rfl
              · exact right_le left mem
          have heads := same left.place
          simp only [membersAt, List.filter_cons, places, decide_true, if_true] at heads
          obtain ⟨rfl, _⟩ := List.cons.inj heads
          congr 1
          apply ih lefts_ordered rights_ordered
          intro place
          have tails := same place
          simp only [membersAt, List.filter_cons] at tails
          split at tails
          · exact (List.cons.inj tails).2
          · exact tails

theorem membersAt_mergeSort (members : List Member) (place : ℕ ×ₗ List ℕ) :
    membersAt (members.mergeSort Member.notAfter) place = membersAt members place := by
  have sublist : (membersAt members place).Sublist (members.mergeSort Member.notAfter) := by
    refine List.sublist_mergeSort Member.notAfter_trans Member.notAfter_total ?_
      List.filter_sublist
    refine List.pairwise_of_forall_mem_list ?_
    intro left left_mem right right_mem
    have left_place := (List.mem_filter.mp left_mem).2
    have right_place := (List.mem_filter.mp right_mem).2
    simp only [decide_eq_true_eq] at left_place right_place
    simp [Member.notAfter_iff, left_place, right_place]
  have kept := sublist.filter fun member => decide (member.place = place)
  simp only [membersAt, List.filter_filter, Bool.and_self] at kept
  exact (kept.eq_of_length ((List.mergeSort_perm members _).filter _).length_eq.symm).symm

/-- Inserting members one after the other is the stable sort. -/
theorem sortMembers_eq_mergeSort (members : List Member) :
    sortMembers members = members.mergeSort Member.notAfter := by
  apply eq_of_membersAt_eq (inPlace_sortMembers members)
  · have ordered : (members.mergeSort Member.notAfter).Pairwise fun left right =>
        left.notAfter right = true :=
      List.pairwise_mergeSort Member.notAfter_trans Member.notAfter_total members
    exact ordered.imp fun ordered => (Member.notAfter_iff _ _).mp ordered
  · intro place
    rw [membersAt_sortMembers, membersAt_mergeSort]

end MemberDispatch
