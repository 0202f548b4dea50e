import MemberDispatch.Proofs.Registry.Shares

/-!
# Overriding

A method takes the place of another that takes the same arguments if its class is met sooner on the
walk up the bases. The class that is met first decides, whatever other classes bring. Where no
class has a second base this is the order of the linearization. Over several bases it need not be:
what the first base inherits comes before what the second declares.
-/

namespace MemberDispatch

/-- The name of the function behind a method. -/
def Member.methodName? (member : Member) : Option String :=
  match member.role with
  | .method callable => some callable.qualifiedName
  | _ => none

namespace Share

/-- The methods of its values that a class declares under a name. -/
def methods (name : String) (share : Share) : List Member :=
  (membersNamed name (share.own.instanceMembers.map fun (name, index) =>
    (name, index.members))).filter fun member => member.methodName?.isSome

/-- When the class of a share is met first on the walk from a class. -/
def met (hierarchy : Hierarchy) (cls : ClassId) (share : Share) : ℕ :=
  (hierarchy.walk cls).idxOf share.cls

theorem mem_members_of_mem_methods {share : Share} {name : String} {member : Member}
    (mem : member ∈ share.methods name) (hierarchy : Hierarchy) :
    member ∈ share.members hierarchy name := by
  have declared := (List.mem_filter.mp mem).1
  simp only [members, groups, Catalog.ownGroups, membersNamed_append, List.mem_append]
  exact .inl (.inl declared)

end Share

namespace Rebuild

open RebuildM

variable {world : World} {providersOf : ClassId → List Owner} {table : ConverterTable}
  {classes : List ClassId} {shares : List Share}

theorem settled_of_mem (settled : Settled (classes.mapM (share world providersOf)) table shares)
    {own : Share} (mem : own ∈ shares) : Settled (share world providersOf own.cls) table own := by
  rcases settled.of_mapM repeatable_share own mem with ⟨cls, -, taken⟩
  rwa [(parts_of_share taken).1]

theorem eq_of_cls_eq (settled : Settled (classes.mapM (share world providersOf)) table shares)
    {left right : Share} (left_mem : left ∈ shares) (right_mem : right ∈ shares)
    (same : left.cls = right.cls) : left = right := by
  have first := settled_of_mem settled left_mem
  have second := settled_of_mem settled right_mem
  rw [Settled, same, second] at first
  simpa using (congrArg Prod.fst first).symm

theorem offered_of_no_providers {cls : ClassId} {own : Share}
    (settled : Settled (share world providersOf cls) table own) (none : providersOf cls = []) :
    own.offered = [] := by
  rcases parts_of_share settled with ⟨-, -, groups, offered, flat⟩
  rw [none] at offered
  cases offered
  exact flat

theorem mem_before_of_idxOf_lt {before behind : List ClassId} {cls other : ClassId}
    (sooner : (before ++ cls :: behind).idxOf other < (before ++ cls :: behind).idxOf cls) :
    other ∈ before := by
  by_contra missing
  have latest : (before ++ cls :: behind).idxOf cls ≤ before.length := by
    rw [List.idxOf_append]
    split
    · rename_i mem
      exact (List.idxOf_lt_length_of_mem mem).le
    · simp
  rw [List.idxOf_append, if_neg missing] at sooner
  omega

/-- The member that is listed for given arguments is that of the share that comes first. -/
theorem exists_holder (settled : Settled (classes.mapM (share world providersOf)) table shares)
    {name : String} {members : List Member} {place : ℕ ×ₗ List ℕ}
    (lists : membersAt members place =
      (membersAt (shares.flatMap (Share.members world.hierarchy name)) place).take 1)
    {source : Share} (there : source ∈ shares) {member : Member}
    (mem : member ∈ source.members world.hierarchy name) (here : member.place = place) :
    ∃ holder ∈ shares, ∃ first ∈ holder.members world.hierarchy name,
      membersAt members place = [first] ∧
      ∀ own ∈ shares, classes.idxOf own.cls < classes.idxOf holder.cls →
        ∀ other ∈ own.members world.hierarchy name, other.place ≠ place := by
  let brings (own : Share) : List Member := membersAt (own.members world.hierarchy name) place
  have present : (shares.find? fun own => !(brings own).isEmpty).isSome := by
    rw [List.find?_isSome]
    refine ⟨source, there, ?_⟩
    have brought : member ∈ brings source := List.mem_filter.mpr ⟨mem, decide_eq_true here⟩
    simpa using List.ne_nil_of_mem brought
  rcases Option.isSome_iff_exists.mp present with ⟨holder, found⟩
  rcases List.find?_eq_some_iff_append.mp found with ⟨holds, before, behind, rfl, none⟩
  -- The holder is the first share that brings such a member, and every share before it brings none.
  obtain ⟨first, others, brought⟩ : ∃ first others, brings holder = first :: others := by
    rcases shape : brings holder with _ | ⟨first, others⟩
    · simp [shape] at holds
    · exact ⟨first, others, rfl⟩
  have nothing : before.flatMap brings = [] := by
    rw [List.flatMap_eq_nil_iff]
    intro own mem
    simpa using none own mem
  refine ⟨holder, by simp, first, ?_, ?_, ?_⟩
  · have mem : first ∈ brings holder := by simp [brought]
    exact (List.mem_filter.mp mem).1
  · rw [lists, membersAt, List.filter_flatMap]
    change ((before ++ holder :: behind).flatMap brings).take 1 = [first]
    simp [nothing, brought]
  · intro own mem sooner other among tied
    rw [← cls_of_shares settled, List.map_append, List.map_cons] at sooner
    rcases List.mem_map.mp (mem_before_of_idxOf_lt sooner) with ⟨met, earlier, same⟩
    -- A class that is met again has the same share, so it would have been the holder before.
    have own_eq : met = own := eq_of_cls_eq settled (List.mem_append_left _ earlier) mem same
    have empty : brings own = [] := own_eq ▸ by simpa using none met earlier
    exact List.filter_eq_nil_iff.mp empty other among (decide_eq_true tied)

end Rebuild

namespace Registry

variable {world : World}

/-- That of two methods that take the same arguments the one whose class is met first on the walk
wins: the member in the index comes from that class or from one that is met even sooner. -/
def KeepsOverrides (world : World) (cls : ClassId) (name : String) (index : Index)
    (shares : List Share) : Prop :=
  ∀ upper ∈ shares, ∀ lower ∈ shares, ∀ overriding ∈ upper.methods name,
    ∀ overridden ∈ lower.methods name, overriding.converters = overridden.converters →
      upper.met world.hierarchy cls < lower.met world.hierarchy cls →
        ∃ holder ∈ shares, ∃ member ∈ holder.members world.hierarchy name,
          index.members.filter (fun other => other.ranks = overridden.ranks) = [member] ∧
          holder.cls ≠ lower.cls ∧
          holder.met world.hierarchy cls ≤ upper.met world.hierarchy cls ∧
          ∀ share ∈ shares, share.met world.hierarchy cls < holder.met world.hierarchy cls →
            ∀ other ∈ share.members world.hierarchy name, other.ranks ≠ overridden.ranks

/-- After any run, a method takes the place of those that take the same arguments and whose classes
are met later on the walk up the bases. -/
theorem lookup_keeps_overrides (declared : world.Declared) (table : ConverterTable)
    (operations : List Operation) (cls : ClassId) (name : String) :
    ∃ index shares,
      (RegistryM.runOn (after world { table } operations) (lookupBeforeShares world cls name)).1 =
        .ok (index, shares) ∧
      shares.map Share.cls = world.hierarchy.walk cls ∧
      (∀ ancestor, ancestor ∈ world.hierarchy.walk cls ↔ ancestor ∈ world.linearization cls) ∧
      (∀ share ∈ shares, (after world { table } operations).providersOf share.cls = [] →
        share.offered = []) ∧
      KeepsOverrides world cls name index shares ∧
      ((∀ ancestor ∈ world.linearization cls, (world.bases ancestor).length ≤ 1) →
        world.hierarchy.walk cls = world.linearization cls) := by
  rcases exists_shares declared table operations cls with ⟨view, shares, -, taken, found⟩
  rcases found name with ⟨answered, lists⟩
  refine ⟨_, shares, answered, Rebuild.cls_of_shares taken, fun _ => declared.mem_walk_iff, ?_, ?_,
    declared.walk_eq_linearization⟩
  · intro share mem none
    exact Rebuild.offered_of_no_providers (Rebuild.settled_of_mem taken mem) none
  · intro upper above lower below overriding upperDeclares overridden lowerDeclares same sooner
    have ranks_eq : overriding.ranks = overridden.ranks := by rw [Member.ranks, same, Member.ranks]
    have mem := Share.mem_members_of_mem_methods upperDeclares world.hierarchy
    have here := (overriding.place_eq_iff overridden.ranks).mpr ranks_eq
    obtain ⟨holder, holds, member, brought, only, first⟩ :=
      Rebuild.exists_holder taken (lists _) above mem here
    have reached : holder.met world.hierarchy cls ≤ upper.met world.hierarchy cls := by
      by_contra later
      exact first upper above (Nat.lt_of_not_le later) overriding mem here
    refine ⟨holder, holds, member, brought, ?_, ?_, reached, ?_⟩
    · rw [filter_ranks]
      exact only
    · intro same
      rw [Share.met, same] at reached
      exact absurd sooner (Nat.not_lt.mpr reached)
    · intro share shared sooner other among tied
      exact first share shared sooner other among ((other.place_eq_iff _).mpr tied)

section Diamond

/-- A method without arguments. -/
def answering (qualifiedName : String) : Entry :=
  .method
    { qualifiedName
      parameters := some [{ name := "self" }]
      code := .body .echo }

/-- A class with a method, two that derive from it, the second with a method of its own in the place
of the inherited one, and a class below both. -/
def diamond : World :=
  [{ name := "A", entries := [("f", answering "A.f")] },
    { name := "B", bases := [.declared "A"] },
    { name := "C", bases := [.declared "A"], entries := [("f", answering "C.f")] },
    { name := "D", bases := [.declared "B", .declared "C"] }].foldl World.addClass {}

/-- The functions behind methods, with the ranks of what they take. -/
def shownMethods (members : List Member) : List (Option String × List ℕ) :=
  members.map fun member => (member.methodName?, member.ranks)

/-- What is found under the name of the methods, and the shares that it comes from. -/
def foundInDiamond (cls : ClassId) : Option (Index × List Share) :=
  (RegistryM.runOn (after diamond { table := .standard } [])
    (lookupBeforeShares diamond cls "f")).1.toOption

theorem declared_diamond : diamond.Declared := by
  refine .cls (.cls (.cls (.cls .start _ ?_ ?_ ?_) _ ?_ ?_ ?_) _ ?_ ?_ ?_) _ ?_ ?_ ?_ <;> decide

/-- Below both classes, the method that comes first in the linearization loses to the one that it
overrides, which is met sooner on the walk. -/
theorem overridden_found_in_diamond :
    diamond.Declared ∧
      diamond.linearization (.declared "D") =
        [.declared "D", .declared "B", .declared "C", .declared "A", .object] ∧
      (∀ cls, (after diamond { table := .standard } []).providersOf cls = []) ∧
      (foundInDiamond (.declared "D")).map (fun found => shownMethods found.1.members) =
        some [(some "A.f", [])] ∧
      (foundInDiamond (.declared "D")).map (fun found =>
          found.2.map fun share => (share.cls, shownMethods (share.methods "f"))) =
        some [(.declared "D", []), (.declared "B", []), (.declared "A", [(some "A.f", [])]),
          (.object, []), (.declared "C", [(some "C.f", [])]),
          (.declared "A", [(some "A.f", [])]), (.object, [])] :=
  ⟨declared_diamond, by decide, fun _ => rfl, by decide +kernel, by decide +kernel⟩

/-- Below the second of the two classes its method has the place of the inherited one. -/
theorem override_found_beside_diamond :
    diamond.Declared ∧
      (foundInDiamond (.declared "C")).map (fun found => shownMethods found.1.members) =
        some [(some "C.f", [])] ∧
      (foundInDiamond (.declared "C")).map (fun found =>
          found.2.map fun share => (share.cls, shownMethods (share.methods "f"))) =
        some [(.declared "C", [(some "C.f", [])]), (.declared "A", [(some "A.f", [])]),
          (.object, [])] ∧
      ∃ index shares,
        (RegistryM.runOn (after diamond { table := .standard } [])
            (lookupBeforeShares diamond (.declared "C") "f")).1 = .ok (index, shares) ∧
          shares.map Share.cls = [.declared "C", .declared "A", .object] ∧
          KeepsOverrides diamond (.declared "C") "f" index shares := by
  obtain ⟨index, shares, answered, classes, -, -, keeps, -⟩ :=
    lookup_keeps_overrides declared_diamond .standard [] (.declared "C") "f"
  exact ⟨declared_diamond, by decide +kernel, by decide +kernel, index, shares, answered, classes, keeps⟩

end Diamond

end Registry

end MemberDispatch
