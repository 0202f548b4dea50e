import Mathlib
import MemberDispatch.Member.IndexRequest
import MemberDispatch.Proofs.Index.FirstFit
import MemberDispatch.Proofs.Index.Merging
import MemberDispatch.Proofs.Index.Stretches

/-!
# Indexes that sort when they are read

An index keeps a snapshot from one read to the next, and two ways of adding members drop it under
different conditions. None of this shows: whatever is asked in whatever order, every answer is that of
the members accepted so far, sorted stably for this one question. The invariant that carries the run is
that a snapshot, where there is one, is that of the accepted members. Members of which no two take the
same arguments have only one order, so then the order in which they came does not show either.
-/

namespace MemberDispatch

/-- The members of a batch that take other arguments than all that are there and than all that stand
before them in the batch. -/
def newcomers (present batch : List Member) : List Member :=
  (batch.zipIdx.filter fun (member, position) =>
    !(present ++ batch.take position).any member.sameArguments).map (·.1)

section Newcomers

variable {present batch : List Member}

theorem newcomers_concat (present batch : List Member) (member : Member) :
    newcomers present (batch ++ [member]) =
      newcomers present batch ++
        if (present ++ batch).any member.sameArguments then [] else [member] := by
  have earlier : ∀ entry ∈ batch.zipIdx,
      (!(present ++ (batch ++ [member]).take entry.2).any entry.1.sameArguments) =
        !(present ++ batch.take entry.2).any entry.1.sameArguments := by
    intro entry mem
    have within : entry.2 < batch.length := (List.mem_zipIdx' mem).1
    rw [List.take_append_of_le_length within.le]
  rw [newcomers, List.zipIdx_append, List.filter_append, List.map_append,
    List.filter_congr earlier]
  congr 1
  simp only [List.zipIdx_singleton, Nat.zero_add, List.filter_cons, List.filter_nil,
    List.take_left]
  split
  · rename_i new
    rw [Bool.not_eq_true'] at new
    simp [new]
  · rename_i known
    rw [Bool.not_eq_true', Bool.not_eq_false] at known
    simp [known]

/-- Members that take the same arguments take the same as any third one. -/
theorem sameArguments_congr {left right : Member} (same : left.sameArguments right = true) :
    left.sameArguments = right.sameArguments := by
  have places := (Member.sameArguments_iff left right).mp same
  funext other
  rw [Bool.eq_iff_iff, Member.sameArguments_iff, Member.sameArguments_iff, places]

/-- Whoever takes the arguments of a member of a batch takes those of one that was there or is new. -/
theorem any_newcomers (present batch : List Member) (member : Member) :
    (present ++ newcomers present batch).any member.sameArguments =
      (present ++ batch).any member.sameArguments := by
  induction batch using List.reverseRecOn with
  | nil => rfl
  | append_singleton batch last ih =>
      rw [newcomers_concat]
      simp only [List.any_append, ← Bool.or_assoc] at ih ⊢
      rw [ih]
      split
      · rename_i known
        -- The last one adds nothing, as one before it takes the same arguments.
        by_cases same : member.sameArguments last = true
        · rw [sameArguments_congr same, known]
          rfl
        · simp [same]
      · rfl

/-- Going through a batch, each member is compared with those that were accepted before it. -/
theorem foldl_merge (index : Index) (batch : List Member) :
    batch.foldl
        (fun (added, index) member =>
          if index.accepted.any member.sameArguments then (added, index)
          else (added + 1, index.add member))
        (0, index) =
      ((newcomers index.accepted batch).length,
        { index with accepted := index.accepted ++ newcomers index.accepted batch }) := by
  induction batch using List.reverseRecOn with
  | nil => simp [newcomers]
  | append_singleton batch member ih =>
      rw [List.foldl_append, ih, List.foldl_cons, List.foldl_nil, newcomers_concat]
      simp only [any_newcomers]
      split
      · simp
      · simp [Index.add]

end Newcomers

section Reading

theorem mem_of_mem_arityStretches {start : ℕ} {arities : List ℕ} {stretch : ℕ × ℕ × ℕ}
    (mem : stretch ∈ arityStretches start arities) : stretch.1 ∈ arities := by
  induction arities generalizing start stretch with
  | nil => simp [arityStretches] at mem
  | cons arity arities ih =>
      simp only [arityStretches] at mem
      split at mem
      · rename_i next begun stop stretches behind
        have rest : ∀ other ∈ (next, begun, stop) :: stretches, other.1 ∈ arities := by
          intro other listed
          rw [← behind] at listed
          exact ih listed
        split at mem
        · rcases List.mem_cons.mp mem with rfl | mem
          · exact List.mem_cons_self
          · exact List.mem_cons_of_mem _ (rest _ (List.mem_cons_of_mem _ mem))
        · rcases List.mem_cons.mp mem with rfl | mem
          · exact List.mem_cons_self
          · apply List.mem_cons_of_mem
            rcases List.mem_cons.mp mem with rfl | mem
            · exact rest (next, begun, stop) List.mem_cons_self
            · exact rest _ (List.mem_cons_of_mem _ mem)
      · rw [List.mem_singleton.mp mem]
        exact List.mem_cons_self

theorem getLast_of_ascending {numbers : List ℕ} (ascending : numbers.Pairwise (· ≤ ·)) :
    numbers.getLast?.getD 0 = numbers.toFinset.sup id := by
  rcases last : numbers.getLast? with _ | number
  · rw [List.getLast?_eq_none_iff.mp last]
    rfl
  · have mem : number ∈ numbers.toFinset := List.mem_toFinset.mpr (List.mem_of_getLast? last)
    rw [Option.getD_some]
    apply le_antisymm
    · exact Finset.le_sup (f := id) mem
    · apply Finset.sup_le
      intro other listed
      obtain ⟨before, rfl⟩ := List.getLast?_eq_some_iff.mp last
      rcases List.mem_append.mp (List.mem_toFinset.mp listed) with earlier | final
      · exact (List.pairwise_append.mp ascending).2.2 other earlier number List.mem_cons_self
      · exact (List.mem_singleton.mp final).le

namespace Snapshot

variable (members : List Member)

theorem members_ofMembers : (ofMembers members).members = members.mergeSort Member.notAfter :=
  sortMembers_eq_mergeSort members

theorem size_ofMembers : (ofMembers members).size = members.length :=
  (sortMembers_perm members).length_eq

theorem candidates_ofMembers (arity : ℕ) :
    (ofMembers members).candidates arity =
      (members.mergeSort Member.notAfter).filter fun member => member.arity == arity := by
  have candidates := Index.candidates_eq_filter ⟨"", members⟩ arity
  rw [Index.members_eq_mergeSort] at candidates
  exact candidates

/-- The table of a snapshot has the numbers of arguments in ascending order, each once. -/
theorem arities_ofMembers :
    (ofMembers members).arities = (members.map Member.arity).toFinset.sort := by
  have cuts := Index.cuts_snapshot ⟨"", members⟩
  have ascending : (ofMembers members).arities.Pairwise (· < ·) :=
    List.pairwise_map.mpr cuts.ascending
  have exactly : (ofMembers members).arities.toFinset = (members.map Member.arity).toFinset := by
    ext arity
    simp only [List.mem_toFinset, arities, List.mem_map]
    constructor
    · rintro ⟨stretch, mem, rfl⟩
      obtain ⟨member, listed, same⟩ := List.mem_map.mp (mem_of_mem_arityStretches mem)
      exact ⟨member, (sortMembers_perm members).mem_iff.mp listed, same⟩
    · rintro ⟨member, mem, rfl⟩
      exact cuts.covers member ((sortMembers_perm members).mem_iff.mpr mem)
  rw [← exactly]
  have once : (ofMembers members).arities.Nodup := ascending.imp fun smaller => smaller.ne
  exact ((List.toFinset_sort _ once).mpr (ascending.imp fun smaller => smaller.le)).symm

/-- The last row of the table is that of the largest number of arguments. -/
theorem maxArity_ofMembers :
    (ofMembers members).maxArity = (members.map Member.arity).toFinset.sup id := by
  have ascending : (ofMembers members).arities.Pairwise (· ≤ ·) := by
    rw [arities_ofMembers]
    exact Finset.pairwise_sort _ _
  rw [maxArity, ← List.getLast?_map, ← arities, getLast_of_ascending ascending, arities_ofMembers,
    Finset.sort_toFinset]

theorem display_ofMembers (name : String) :
    (ofMembers members).display name =
      "InvokerIndex(" ++ Text.quoted name ++ ", size=" ++ toString members.length ++
        ", max_arity=" ++ toString ((members.map Member.arity).toFinset.sup id) ++ ")" := by
  unfold display
  rw [size_ofMembers, maxArity_ofMembers]

end Snapshot

end Reading

/-! ### What requests come to -/

namespace LazyIndex

def Request.accepted (isClosed : Bool) (present : List Member) : Request → List Member
  | .add member => if isClosed then [] else [member]
  | .merge batch => if isClosed then [] else newcomers present batch
  | _ => []

/-- Whether a request only asks. -/
def Request.isRead : Request → Bool
  | .add _ | .merge _ => false
  | _ => true

/-- The members that an index holds after requests. -/
def acceptedAfter (isClosed : Bool) (present : List Member) (requests : List Request) :
    List Member :=
  requests.foldl (fun present request => present ++ request.accepted isClosed present) present

/-- That an index holds some members, and that its snapshot is theirs where it has one. -/
structure Holds (lazy : LazyIndex) (name : String) (isClosed : Bool) (present : List Member) :
    Prop where
  index : lazy.index = ⟨name, present⟩
  isClosed : lazy.isClosed = isClosed
  current : ∀ snapshot ∈ lazy.snapshot?, snapshot = .ofMembers present

namespace Holds

variable {lazy : LazyIndex} {name : String} {isClosed : Bool} {present : List Member}

theorem of_ofMembers (name : String) (members : List Member) :
    (ofMembers name members).Holds name false members :=
  ⟨rfl, rfl, by simp [ofMembers]⟩

theorem of_closed : closed.Holds "" true [] :=
  ⟨rfl, rfl, by simp [closed]⟩

theorem read_snapshot (holds : lazy.Holds name isClosed present) :
    lazy.read.1 = .ofMembers present := by
  rw [read]
  rcases there : lazy.snapshot? with _ | snapshot
  · simp only [holds.index, Index.snapshot]
  · exact holds.current snapshot there

theorem read (holds : lazy.Holds name isClosed present) :
    lazy.read.2.Holds name isClosed present := by
  rw [LazyIndex.read]
  rcases there : lazy.snapshot? with _ | snapshot
  · refine ⟨holds.index, holds.isClosed, ?_⟩
    intro snapshot made
    rw [← Option.mem_some.mp made, holds.index]
    rfl
  · exact holds

theorem add (holds : lazy.Holds name isClosed present) (member : Member) :
    (lazy.add member).Holds name isClosed (present ++ [member]) where
  index := by simp only [LazyIndex.add, Index.add, holds.index]
  isClosed := holds.isClosed
  current := by simp [LazyIndex.add]

theorem merge_eq (holds : lazy.Holds name isClosed present) (batch : List Member) :
    lazy.merge batch =
      ((newcomers present batch).length,
        { lazy with
          index := ⟨name, present ++ newcomers present batch⟩
          snapshot? := if newcomers present batch = [] then lazy.snapshot? else none }) := by
  rw [LazyIndex.merge, foldl_merge, holds.index]
  simp only [beq_iff_eq, List.length_eq_zero_iff]

/-- The snapshot stays where a merge adds nothing, and then it is still right. -/
theorem merge (holds : lazy.Holds name isClosed present) (batch : List Member) :
    (lazy.merge batch).2.Holds name isClosed (present ++ newcomers present batch) := by
  rw [holds.merge_eq]
  refine ⟨rfl, holds.isClosed, ?_⟩
  intro snapshot kept
  simp only at kept
  split at kept
  · rename_i nothing
    rw [nothing, List.append_nil]
    exact holds.current snapshot kept
  · cases kept

end Holds

end LazyIndex

namespace Engine

open LazyIndex

variable {engine : Engine} {lazy : LazyIndex} {name : String} {isClosed : Bool}
  {present : List Member}

/-- The answer of members that are sorted for the one request that is made of them. -/
def answerBySorting (engine : Engine) (name : String) (isClosed : Bool) (present : List Member) :
    Request → Act Answer
  | .add _ => if isClosed then throw refusal else return .done
  | .merge batch =>
      if isClosed then throw refusal else return .count (newcomers present batch).length
  | .sort => return .done
  | .find onlyPublic required arguments extras => do
      let candidates := (present.mergeSort Member.notAfter).filter fun member =>
        member.arity == arguments.length
      return .found (← engine.chooseAmong onlyPublic required arguments extras candidates)
  | .members => return .members (present.mergeSort Member.notAfter)
  | .size => return .count present.length
  | .maxArity => return .count ((present.map Member.arity).toFinset.sup id)
  | .arities => return .arities (present.map Member.arity).toFinset.sort
  | .display =>
      return .text ("InvokerIndex(" ++ Text.quoted name ++ ", size=" ++ toString present.length ++
        ", max_arity=" ++ toString ((present.map Member.arity).toFinset.sup id) ++ ")")

/-- What requests come to one after the other, whether or not the ones before failed. -/
def serveRequests (engine : Engine) : LazyIndex → List Request → Act (List (Except Fault Answer))
  | _, [] => return []
  | lazy, request :: requests => do
      let (answer, left) := engine.serveIndex lazy request
      let first ← Act.attempt answer
      return first :: (← engine.serveRequests left requests)

/-- The index that requests leave. -/
def leftByRequests (engine : Engine) (lazy : LazyIndex) (requests : List Request) : LazyIndex :=
  requests.foldl (fun lazy request => (engine.serveIndex lazy request).2) lazy

/-- The answers to requests, each from the members that were accepted until then. -/
def answersBySorting (engine : Engine) (name : String) (isClosed : Bool) :
    List Member → List Request → Act (List (Except Fault Answer))
  | _, [] => return []
  | present, request :: requests => do
      let first ← Act.attempt (engine.answerBySorting name isClosed present request)
      let present := present ++ request.accepted isClosed present
      return first :: (← engine.answersBySorting name isClosed present requests)

/-- One request is answered by sorting, and the index holds what it held with what it accepted. -/
theorem serveIndex_of_holds (engine : Engine) (holds : lazy.Holds name isClosed present)
    (request : Request) :
    (engine.serveIndex lazy request).1 = engine.answerBySorting name isClosed present request ∧
    (engine.serveIndex lazy request).2.Holds name isClosed
      (present ++ request.accepted isClosed present) := by
  have kept : lazy.read.2.Holds name isClosed (present ++ []) := by
    rw [List.append_nil]
    exact holds.read
  cases request with
  | add member =>
      simp only [serveIndex, answerBySorting, Request.accepted, holds.isClosed]
      cases isClosed with
      | true => simpa using holds
      | false => exact ⟨rfl, holds.add member⟩
  | merge batch =>
      simp only [serveIndex, answerBySorting, Request.accepted, holds.isClosed]
      cases isClosed with
      | true => simpa using holds
      | false =>
          have left := holds.merge batch
          rw [holds.merge_eq] at left ⊢
          exact ⟨rfl, left⟩
  | sort => exact ⟨rfl, kept⟩
  | find onlyPublic required arguments extras =>
      refine ⟨?_, kept⟩
      simp only [serveIndex, answerBySorting, holds.read_snapshot, Snapshot.candidates_ofMembers]
  | members =>
      refine ⟨?_, kept⟩
      simp only [serveIndex, answerBySorting, holds.read_snapshot, Snapshot.members_ofMembers]
  | size =>
      refine ⟨?_, kept⟩
      simp only [serveIndex, answerBySorting, holds.read_snapshot, Snapshot.size_ofMembers]
  | maxArity =>
      refine ⟨?_, kept⟩
      simp only [serveIndex, answerBySorting, holds.read_snapshot, Snapshot.maxArity_ofMembers]
  | arities =>
      refine ⟨?_, kept⟩
      simp only [serveIndex, answerBySorting, holds.read_snapshot, Snapshot.arities_ofMembers]
  | display =>
      refine ⟨?_, kept⟩
      simp only [serveIndex, answerBySorting, holds.read_snapshot, holds.index,
        Snapshot.display_ofMembers]

theorem holds_leftByRequests (engine : Engine) (holds : lazy.Holds name isClosed present)
    (requests : List Request) :
    (engine.leftByRequests lazy requests).Holds name isClosed
      (acceptedAfter isClosed present requests) := by
  induction requests generalizing lazy present with
  | nil => exact holds
  | cons request requests ih => exact ih (engine.serveIndex_of_holds holds request).2

theorem serveRequests_of_holds (holds : lazy.Holds name isClosed present)
    (requests : List Request) :
    engine.serveRequests lazy requests =
      engine.answersBySorting name isClosed present requests := by
  induction requests generalizing lazy present with
  | nil => rfl
  | cons request requests ih =>
      obtain ⟨answer, left⟩ := engine.serveIndex_of_holds holds request
      simp only [serveRequests, answersBySorting, answer, ih left]

/-- Members that all take different arguments stand at different places. -/
theorem untied_of_nodup (different : (present.map Member.ranks).Nodup) : Untied present := by
  intro place
  have apart : (membersAt present place).Pairwise fun left right => left.ranks ≠ right.ranks :=
    (List.pairwise_map.mp different).sublist List.filter_sublist
  rcases shape : membersAt present place with _ | ⟨first, _ | ⟨second, rest⟩⟩
  · exact Nat.zero_le 1
  · exact le_rfl
  · have standing : ∀ member ∈ membersAt present place, member.place = place := by
      intro member mem
      exact of_decide_eq_true (List.mem_filter.mp mem).2
    rw [shape] at apart standing
    have first_place := standing first List.mem_cons_self
    have second_place := standing second (List.mem_cons_of_mem _ List.mem_cons_self)
    have same := (Member.sameArguments_iff first second).mpr (first_place.trans second_place.symm)
    exact absurd (beq_iff_eq.mp same)
      ((List.pairwise_cons.mp apart).1 second List.mem_cons_self)

/-- Sorting members that all take different arguments forgets their order. -/
theorem mergeSort_eq_of_perm {others : List Member} (same : present.Perm others)
    (different : (present.map Member.ranks).Nodup) :
    present.mergeSort Member.notAfter = others.mergeSort Member.notAfter := by
  rw [← sortMembers_eq_mergeSort, ← sortMembers_eq_mergeSort]
  apply eq_of_membersAt_eq (inPlace_sortMembers present) (inPlace_sortMembers others)
  intro place
  rw [membersAt_sortMembers, membersAt_sortMembers]
  -- A place has at most one member, and lists of at most one member have no order.
  have untied := untied_of_nodup different place
  have there : (membersAt present place).Perm (membersAt others place) := same.filter _
  rcases shape : membersAt present place with _ | ⟨member, _ | ⟨second, rest⟩⟩
  · rw [shape] at there
    exact there.nil_eq
  · rw [shape] at there
    exact (List.singleton_perm.mp there)
  · rw [shape] at untied
    simp at untied

/-- What is only asked has the same answer whichever order the members came in. -/
theorem answerBySorting_eq_of_perm {others : List Member} (same : present.Perm others)
    (different : (present.map Member.ranks).Nodup) {request : Request} (read : request.isRead) :
    engine.answerBySorting name isClosed present request =
      engine.answerBySorting name isClosed others request := by
  have sorted := mergeSort_eq_of_perm same different
  have arities : (present.map Member.arity).toFinset = (others.map Member.arity).toFinset :=
    List.toFinset_eq_of_perm _ _ (same.map Member.arity)
  cases request with
  | add member => cases read
  | merge batch => cases read
  | sort => rfl
  | find onlyPublic required arguments extras => simp only [answerBySorting, sorted]
  | members => simp only [answerBySorting, sorted]
  | size => simp only [answerBySorting, same.length_eq]
  | maxArity => simp only [answerBySorting, arities]
  | arities => simp only [answerBySorting, arities]
  | display => simp only [answerBySorting, arities, same.length_eq]

/-- Whatever is asked of an index in whatever order, each answer is that of the members accepted until
then, sorted for this one question; the closed index answers as one that has no members and refuses to
take any. Two indexes that hold the same members answer alike, whichever way they came to them, if no
two of the members take the same arguments. -/
theorem serveRequests_sorts (engine : Engine) (name : String) (members : List Member)
    (requests : List Request) :
    engine.serveRequests (.ofMembers name members) requests =
      engine.answersBySorting name false members requests ∧
    engine.serveRequests .closed requests = engine.answersBySorting "" true [] requests ∧
    ∀ others earlier,
      (acceptedAfter false members requests).Perm (acceptedAfter false others earlier) →
      ((acceptedAfter false members requests).map Member.ranks).Nodup →
      ∀ request, request.isRead →
        (engine.serveIndex (engine.leftByRequests (.ofMembers name members) requests) request).1 =
          (engine.serveIndex (engine.leftByRequests (.ofMembers name others) earlier) request).1 := by
  have start (members : List Member) := Holds.of_ofMembers name members
  refine ⟨serveRequests_of_holds (start members) requests,
    serveRequests_of_holds .of_closed requests, ?_⟩
  intro others earlier same different request read
  have left := engine.holds_leftByRequests (start members) requests
  have right := engine.holds_leftByRequests (start others) earlier
  rw [(engine.serveIndex_of_holds left request).1, (engine.serveIndex_of_holds right request).1]
  exact answerBySorting_eq_of_perm same different read

/-- Two members that came in different orders, one way with a read in between, are listed alike. -/
theorem serveRequests_sorts_ranked :
    (acceptedAfter false [] (rankedMembers.map .add)).Perm
        (acceptedAfter false [rankedMembers[1]] [.members, .merge rankedMembers]) ∧
      ((acceptedAfter false [] (rankedMembers.map .add)).map Member.ranks).Nodup ∧
      ((World.engine {}).serveIndex ((World.engine {}).leftByRequests (.ofMembers "f" [])
          (rankedMembers.map .add)) .members).1 =
        ((World.engine {}).serveIndex ((World.engine {}).leftByRequests
          (.ofMembers "f" [rankedMembers[1]]) [.members, .merge rankedMembers]) .members).1 := by
  have same : (acceptedAfter false [] (rankedMembers.map .add)).Perm
      (acceptedAfter false [rankedMembers[1]] [.members, .merge rankedMembers]) :=
    .swap rankedMembers[1] rankedMembers[0] []
  have different : ((acceptedAfter false [] (rankedMembers.map .add)).map Member.ranks).Nodup := by
    decide
  refine ⟨same, different, ?_⟩
  exact ((World.engine {}).serveRequests_sorts "f" [] (rankedMembers.map .add)).2.2 _ _ same different
    .members rfl

/-- The closed index refuses a member that sorting its members would accept. -/
theorem closed_departs_from_sorting :
    ((World.engine {}).serveRequests .closed [.merge [blankMember []]]).runFrom {} =
        (.ok [.error LazyIndex.refusal], {}) ∧
      ((World.engine {}).answersBySorting LazyIndex.closed.index.name false
          LazyIndex.closed.index.accepted [.merge [blankMember []]]).runFrom {} =
        (.ok [.ok (.count 1)], {}) :=
  ⟨rfl, rfl⟩

end Engine

end MemberDispatch
