import MemberDispatch.Proofs.Index.Order

/-!
# Stretches of one arity

The table of an index cuts its ordered list where the number of arguments changes. The cut for a
number of arguments holds the members that take that many, all of them and in their order, and a
number without a cut is taken by no member. The list is gone through from its end, so the induction
carries the cuts of the rest, which start one position later.
-/

namespace MemberDispatch

/-- That stretches cut a list, whose first position is `start`, where the arity changes. -/
structure Cuts (start : ℕ) (members : List Member) (stretches : List (ℕ × ℕ × ℕ)) : Prop where
  ascending : stretches.Pairwise fun left right => left.1 < right.1
  covers : ∀ member ∈ members, ∃ stretch ∈ stretches, stretch.1 = member.arity
  holds : ∀ stretch ∈ stretches, start ≤ stretch.2.1 ∧ stretch.2.1 < stretch.2.2 ∧
    (members.drop (stretch.2.1 - start)).take (stretch.2.2 - stretch.2.1) =
      members.filter fun member => member.arity == stretch.1

namespace Cuts

variable {start : ℕ} {member : Member} {members : List Member} {stretches : List (ℕ × ℕ × ℕ)}

/-- A stretch behind a member of another arity cuts the same members as before. -/
theorem cut_cons {stretch : ℕ × ℕ × ℕ} (cuts : Cuts (start + 1) members stretches)
    (mem : stretch ∈ stretches) (smaller : member.arity < stretch.1) :
    start ≤ stretch.2.1 ∧ stretch.2.1 < stretch.2.2 ∧
      ((member :: members).drop (stretch.2.1 - start)).take (stretch.2.2 - stretch.2.1) =
        (member :: members).filter fun member => member.arity == stretch.1 := by
  obtain ⟨start_le, proper, cut⟩ := cuts.holds stretch mem
  have shifted : stretch.2.1 - start = (stretch.2.1 - (start + 1)) + 1 := by omega
  have different : (member.arity == stretch.1) = false := beq_eq_false_iff_ne.mpr smaller.ne
  refine ⟨by omega, proper, ?_⟩
  rw [shifted, List.drop_succ_cons, cut, List.filter_cons, different]
  rfl

/-- The cuts of a list that gained a member in front of a stretch of another arity. -/
theorem cons_of_lt (cuts : Cuts (start + 1) members stretches)
    (smaller : ∀ stretch ∈ stretches, member.arity < stretch.1) :
    Cuts start (member :: members) ((member.arity, start, start + 1) :: stretches) where
  ascending := List.pairwise_cons.mpr ⟨smaller, cuts.ascending⟩
  covers := by
    intro other mem
    rcases List.mem_cons.mp mem with rfl | mem
    · exact ⟨_, List.mem_cons_self, rfl⟩
    · obtain ⟨stretch, stretch_mem, same⟩ := cuts.covers other mem
      exact ⟨stretch, List.mem_cons_of_mem _ stretch_mem, same⟩
  holds := by
    intro stretch mem
    rcases List.mem_cons.mp mem with rfl | mem
    · refine ⟨le_rfl, Nat.lt_succ_self _, ?_⟩
      have none_equal : members.filter (fun other => other.arity == member.arity) = [] := by
        refine List.filter_eq_nil_iff.mpr ?_
        intro other other_mem
        obtain ⟨stretch, stretch_mem, same⟩ := cuts.covers other other_mem
        have := smaller stretch stretch_mem
        simp only [beq_iff_eq]
        omega
      simp [none_equal]
    · exact cuts.cut_cons mem (smaller stretch mem)

/-- The cuts of a list that gained a member of the arity of its first stretch. -/
theorem cons_of_eq {stop : ℕ}
    (cuts : Cuts (start + 1) members ((member.arity, start + 1, stop) :: stretches)) :
    Cuts start (member :: members) ((member.arity, start, stop) :: stretches) where
  ascending := List.pairwise_cons.mpr (List.pairwise_cons.mp cuts.ascending)
  covers := by
    intro other mem
    rcases List.mem_cons.mp mem with rfl | mem
    · exact ⟨_, List.mem_cons_self, rfl⟩
    · obtain ⟨stretch, stretch_mem, same⟩ := cuts.covers other mem
      rcases List.mem_cons.mp stretch_mem with rfl | stretch_mem
      · exact ⟨_, List.mem_cons_self, same⟩
      · exact ⟨stretch, List.mem_cons_of_mem _ stretch_mem, same⟩
  holds := by
    intro stretch mem
    rcases List.mem_cons.mp mem with rfl | mem
    · obtain ⟨_, proper, cut⟩ := cuts.holds _ List.mem_cons_self
      simp only at proper cut ⊢
      have longer : stop - start = (stop - (start + 1)) + 1 := by omega
      refine ⟨le_rfl, by omega, ?_⟩
      rw [Nat.sub_self] at cut ⊢
      rw [longer, List.drop_zero, List.take_succ_cons, List.filter_cons, ← cut]
      simp
    · have larger := (List.pairwise_cons.mp cuts.ascending).1 stretch mem
      exact cuts.cut_cons (List.mem_cons_of_mem _ mem) larger

end Cuts

theorem arityStretches_cons (start arity : ℕ) (arities : List ℕ) :
    ∃ stop stretches,
      arityStretches start (arity :: arities) = (arity, start, stop) :: stretches := by
  simp only [arityStretches]
  split
  · split
    · exact ⟨_, _, rfl⟩
    · exact ⟨_, _, rfl⟩
  · exact ⟨_, _, rfl⟩

theorem cuts_arityStretches {members : List Member}
    (ordered : members.Pairwise fun left right => left.arity ≤ right.arity) (start : ℕ) :
    Cuts start members (arityStretches start (members.map Member.arity)) := by
  induction members generalizing start with
  | nil => exact ⟨.nil, by simp, by simp [arityStretches]⟩
  | cons member members ih =>
      obtain ⟨member_le, members_ordered⟩ := List.pairwise_cons.mp ordered
      have cuts := ih members_ordered (start + 1)
      cases members with
      | nil =>
          have none : Cuts (start + 1) [] [] := ⟨.nil, by simp, by simp⟩
          exact none.cons_of_lt (by simp)
      | cons next members =>
          obtain ⟨stop, stretches, shape⟩ :=
            arityStretches_cons (start + 1) next.arity (members.map Member.arity)
          simp only [List.map_cons] at cuts ⊢
          rw [arityStretches, shape]
          rw [shape] at cuts
          by_cases same : next.arity = member.arity
          · simp only [same, beq_self_eq_true, if_true]
            rw [same] at cuts
            exact cuts.cons_of_eq
          · simp only [beq_eq_false_iff_ne.mpr same, Bool.false_eq_true, if_false]
            have smaller : member.arity < next.arity := by
              have := member_le next List.mem_cons_self
              omega
            apply cuts.cons_of_lt
            intro stretch mem
            rcases List.mem_cons.mp mem with rfl | mem
            · exact smaller
            · exact smaller.trans ((List.pairwise_cons.mp cuts.ascending).1 stretch mem)

namespace Index

theorem members_eq_mergeSort (index : Index) :
    index.members = index.accepted.mergeSort Member.notAfter :=
  sortMembers_eq_mergeSort index.accepted

theorem cuts_snapshot (index : Index) :
    Cuts 0 index.members index.snapshot.stretches :=
  cuts_arityStretches
    ((inPlace_sortMembers index.accepted).imp fun ordered => Member.arity_le_of_place_le ordered) 0

/-- The candidates for a number of arguments are the members that take that many, in their
order. -/
theorem candidates_eq_filter (index : Index) (arity : ℕ) :
    index.candidates arity = index.members.filter fun member => member.arity == arity := by
  have cuts := index.cuts_snapshot
  simp only [candidates, Snapshot.candidates]
  split
  · rename_i found start stop search
    have arity_eq : found = arity := by simpa using List.find?_some search
    obtain ⟨_, _, cut⟩ := cuts.holds _ (List.mem_of_find?_eq_some search)
    simpa [arity_eq, members] using cut
  · rename_i missing
    symm
    refine List.filter_eq_nil_iff.mpr ?_
    intro member mem
    obtain ⟨stretch, stretch_mem, same⟩ := cuts.covers member mem
    have := List.find?_eq_none.mp missing stretch stretch_mem
    simpa [← same] using this

end Index

end MemberDispatch
