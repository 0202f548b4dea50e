import Mathlib.Data.List.Forall2
import Mathlib.Order.Basic
import MemberDispatch.Member.Use
import MemberDispatch.Proofs.Index.Stretches

/-!
# Other ranks in the same order

Nothing but their order is ever asked of the ranks of converters. Members whose converters differ in
their ranks alone, and whose ranks stand in the same order, are sorted, merged and chosen alike: the
same functions run on the same arguments. A relation between ranks says which rank answers to which;
it is consistent if it keeps the order both ways, and growing tables only ever add to it.
-/

namespace MemberDispatch

/-- A relation between the ranks of two tables. -/
abbrev RankRelation := ℕ → ℕ → Prop

/-- That related ranks stand in the same order. -/
def RankRelation.Consistent (relation : RankRelation) : Prop :=
  ∀ {left left' right right' : ℕ}, relation left left' → relation right right' →
    (left < right ↔ left' < right')

theorem RankRelation.Consistent.eq_iff {relation : RankRelation} (consistent : relation.Consistent)
    {left left' right right' : ℕ} (first : relation left left') (second : relation right right') :
    left = right ↔ left' = right' := by
  have forth := consistent first second
  have back := consistent second first
  omega

/-- The relation that also relates two further ranks. -/
def RankRelation.extend (relation : RankRelation) (rank rank' : ℕ) : RankRelation :=
  fun left right => relation left right ∨ (left = rank ∧ right = rank')

theorem RankRelation.le_extend (relation : RankRelation) {rank rank' : ℕ} :
    relation ≤ relation.extend rank rank' :=
  fun _ _ related => .inl related

/-- Ranks behind all related ones can be related too. -/
theorem RankRelation.Consistent.extend {relation : RankRelation} (consistent : relation.Consistent)
    {rank rank' : ℕ}
    (bounded : ∀ {left right : ℕ}, relation left right → left < rank ∧ right < rank') :
    (relation.extend rank rank').Consistent := by
  intro left left' right right' first second
  rcases first with first | ⟨rfl, rfl⟩
  · rcases second with second | ⟨rfl, rfl⟩
    · exact consistent first second
    · have := bounded first
      omega
  · rcases second with second | ⟨rfl, rfl⟩
    · have := bounded second
      omega
    · omega

/-- That two converters do the same and have related ranks. -/
structure Converter.Like (relation : RankRelation) (left right : Converter) : Prop where
  rank : relation left.rank right.rank
  target : left.target = right.target
  coercion : left.coercion = right.coercion

/-- That two members do the same and have converters that do. -/
structure Member.Like (relation : RankRelation) (left right : Member) : Prop where
  name : left.name = right.name
  returns : left.returns = right.returns
  isPublic : left.isPublic = right.isPublic
  role : left.role = right.role
  converters : List.Forall₂ (Converter.Like relation) left.converters right.converters

/-- That two lists have members alike. -/
abbrev MembersLike (relation : RankRelation) : List Member → List Member → Prop :=
  List.Forall₂ (Member.Like relation)

/-- That two indexes accepted members alike. -/
structure Index.Like (relation : RankRelation) (left right : Index) : Prop where
  name : left.name = right.name
  accepted : MembersLike relation left.accepted right.accepted

variable {relation larger : RankRelation}

section Growing

theorem Converter.Like.mono {left right : Converter} (like : left.Like relation right)
    (grows : relation ≤ larger) : left.Like larger right :=
  ⟨grows _ _ like.rank, like.target, like.coercion⟩

theorem Member.Like.mono {left right : Member} (like : left.Like relation right)
    (grows : relation ≤ larger) : left.Like larger right :=
  ⟨like.name, like.returns, like.isPublic, like.role,
    like.converters.imp fun _ _ like => like.mono grows⟩

theorem MembersLike.mono {lefts rights : List Member} (like : MembersLike relation lefts rights)
    (grows : relation ≤ larger) : MembersLike larger lefts rights :=
  like.imp fun _ _ like => like.mono grows

theorem Index.Like.mono {left right : Index} (like : left.Like relation right)
    (grows : relation ≤ larger) : left.Like larger right :=
  ⟨like.name, like.accepted.mono grows⟩

end Growing

namespace Member.Like

variable {left right first second : Member}

theorem arity (like : left.Like relation right) : left.arity = right.arity :=
  like.converters.length_eq

theorem ranks (like : left.Like relation right) :
    List.Forall₂ relation left.ranks right.ranks := by
  refine List.forall₂_map_left_iff.mpr (List.forall₂_map_right_iff.mpr ?_)
  exact like.converters.imp fun _ _ like => like.rank

theorem ranksBefore (consistent : relation.Consistent) {lefts lefts' rights rights' : List ℕ}
    (first : List.Forall₂ relation lefts lefts') (second : List.Forall₂ relation rights rights') :
    ranksBefore lefts rights = ranksBefore lefts' rights' := by
  induction first generalizing rights rights' with
  | nil => cases second <;> rfl
  | cons head tail ih =>
      cases second with
      | nil => rfl
      | cons other others =>
          simp only [Member.ranksBefore, ih others, consistent head other, beq_iff_eq,
            consistent.eq_iff head other]

theorem before (consistent : relation.Consistent) (like : left.Like relation right)
    (other : first.Like relation second) : left.before first = right.before second := by
  simp only [Member.before, like.arity, other.arity,
    ranksBefore consistent like.ranks other.ranks]

theorem ranks_eq_iff (consistent : relation.Consistent) {lefts lefts' rights rights' : List ℕ}
    (first : List.Forall₂ relation lefts lefts') (second : List.Forall₂ relation rights rights') :
    lefts = rights ↔ lefts' = rights' := by
  induction first generalizing rights rights' with
  | nil => cases second <;> simp
  | cons head tail ih =>
      cases second with
      | nil => simp
      | cons other others =>
          simp only [List.cons.injEq, ih others, consistent.eq_iff head other]

theorem sameArguments (consistent : relation.Consistent) (like : left.Like relation right)
    (other : first.Like relation second) :
    left.sameArguments first = right.sameArguments second := by
  rw [Bool.eq_iff_iff]
  simp only [Member.sameArguments, beq_iff_eq]
  exact ranks_eq_iff consistent like.ranks other.ranks

end Member.Like

section Sorting

variable {lefts rights : List Member} {left right : Member}

theorem membersLike_insertMember (consistent : relation.Consistent)
    (like : left.Like relation right) (likes : MembersLike relation lefts rights) :
    MembersLike relation (insertMember left lefts) (insertMember right rights) := by
  induction likes with
  | nil => exact .cons like .nil
  | cons head tail ih =>
      simp only [insertMember, like.before consistent head]
      split
      · exact .cons like (.cons head tail)
      · exact .cons head ih

theorem membersLike_sortMembers (consistent : relation.Consistent)
    (likes : MembersLike relation lefts rights) :
    MembersLike relation (sortMembers lefts) (sortMembers rights) := by
  have inserted {sorted sorted' : List Member} (begun : MembersLike relation sorted sorted') :
      MembersLike relation (lefts.foldl (fun sorted member => insertMember member sorted) sorted)
        (rights.foldl (fun sorted member => insertMember member sorted) sorted') := by
    induction likes generalizing sorted sorted' with
    | nil => exact begun
    | cons head tail ih => exact ih (membersLike_insertMember consistent head begun)
  exact inserted .nil

namespace Index.Like

variable {index other : Index}

theorem members (consistent : relation.Consistent) (like : index.Like relation other) :
    MembersLike relation index.members other.members :=
  membersLike_sortMembers consistent like.accepted

theorem add (like : index.Like relation other) (member : left.Like relation right) :
    (index.add left).Like relation (other.add right) :=
  ⟨like.name, List.rel_append like.accepted (.cons member .nil)⟩

theorem merge (consistent : relation.Consistent) (like : index.Like relation other)
    (likes : MembersLike relation lefts rights) :
    (index.merge lefts).Like relation (other.merge rights) := by
  unfold Index.merge
  induction likes generalizing index other with
  | nil => exact like
  | cons head tail ih =>
      rename_i left right lefts rights
      have present : index.accepted.any left.sameArguments =
          other.accepted.any right.sameArguments := by
        have tested := like.accepted
        revert tested
        generalize index.accepted = members
        generalize other.accepted = members'
        intro tested
        induction tested with
        | nil => rfl
        | cons first others ih =>
            simp only [List.any_cons, ih, head.sameArguments consistent first]
      simp only [List.foldl_cons, present]
      split
      · exact ih like
      · exact ih (like.add head)

end Index.Like

end Sorting

/-- The member besides the ranks of its converters. -/
def Member.unranked (member : Member) : Member :=
  { member with converters := member.converters.map fun converter => { converter with rank := 0 } }

/-- The choice besides the ranks of the member's converters. -/
def Choice.unranked (choice : Choice) : Choice :=
  { choice with member := choice.member.unranked }

theorem map_unranked {lefts rights : List Converter}
    (like : List.Forall₂ (Converter.Like relation) lefts rights) :
    lefts.map (fun converter => { converter with rank := 0 }) =
      rights.map fun converter => { converter with rank := 0 } := by
  induction like with
  | nil => rfl
  | cons head tail ih => simp only [List.map_cons, ih, head.target, head.coercion]

theorem Member.Like.unranked {left right : Member} (like : left.Like relation right) :
    left.unranked = right.unranked := by
  rw [Member.unranked, Member.unranked, map_unranked like.converters, like.name, like.returns,
    like.isPublic, like.role]

namespace Engine

variable {engine : Engine}

theorem convert_congr {left right : Converter} (like : left.Like relation right) (value : Value) :
    engine.convert left value = engine.convert right value := by
  cases value <;> simp only [convert, like.target, like.coercion]

theorem convertAll_congr {lefts rights : List Converter}
    (like : List.Forall₂ (Converter.Like relation) lefts rights) (values : List Value) :
    engine.convertAll lefts values = engine.convertAll rights values := by
  induction like generalizing values with
  | nil => rfl
  | cons head tail ih =>
      cases values with
      | nil => rfl
      | cons value values => simp only [convertAll, convert_congr head, ih]

theorem allOfTargets_congr {lefts rights : List Converter}
    (like : List.Forall₂ (Converter.Like relation) lefts rights) (values : List Value) :
    engine.allOfTargets lefts values = engine.allOfTargets rights values := by
  induction like generalizing values with
  | nil => rfl
  | cons head tail ih =>
      cases values with
      | nil => rfl
      | cons value values => simp only [allOfTargets, head.target, ih]

theorem convertFor_congr {left right : Member} (like : left.Like relation right)
    (arguments : List Value) (extras : ℤ) :
    engine.convertFor? left arguments extras = engine.convertFor? right arguments extras := by
  simp only [convertFor?, like.arity, convertAll_congr like.converters,
    allOfTargets_congr like.converters,
    convertAll_congr (List.forall₂_take _ like.converters),
    allOfTargets_congr (List.forall₂_drop _ like.converters)]

/-- Members alike are chosen alike. -/
theorem chooseAmong_congr {lefts rights : List Member} (likes : MembersLike relation lefts rights)
    (onlyPublic : Bool) (required : ClassId) (arguments : List Value) (extras : ℤ) :
    Option.map Choice.unranked <$> engine.chooseAmong onlyPublic required arguments extras lefts =
      Option.map Choice.unranked <$>
        engine.chooseAmong onlyPublic required arguments extras rights := by
  induction likes with
  | nil => rfl
  | cons head tail ih =>
      have accessible (member : Member) : member.isAccessible onlyPublic =
        (member.isPublic || !onlyPublic) := rfl
      simp only [chooseAmong, accessible, head.isPublic, Member.produces, head.returns,
        convertFor_congr head]
      split
      · simp only [map_bind]
        refine congrArg _ (funext fun found => ?_)
        cases found with
        | none => exact ih
        | some converted => simp only [map_pure, Option.map_some, Choice.unranked, head.unranked]
      · exact ih

/-- Indexes alike give the same choice, besides the ranks of the member's converters. -/
theorem choose_congr (consistent : relation.Consistent) {index other : Index}
    (like : index.Like relation other) (onlyPublic : Bool) (required : ClassId)
    (arguments : List Value) (extras : ℤ) :
    Option.map Choice.unranked <$> engine.choose index onlyPublic required arguments extras =
      Option.map Choice.unranked <$> engine.choose other onlyPublic required arguments extras := by
  simp only [choose, Index.candidates_eq_filter]
  have candidates : MembersLike relation
      (index.members.filter fun member => member.arity == arguments.length)
      (other.members.filter fun member => member.arity == arguments.length) :=
    List.rel_filter (fun _ _ like => by simp [like.arity]) (like.members consistent)
  exact chooseAmong_congr candidates onlyPublic required arguments extras

end Engine

end MemberDispatch
