import MemberDispatch.Proofs.Class.Walk
import MemberDispatch.Proofs.Registry.Sources

/-!
# What each class brings to a view

A view merges views that are merged themselves, but in the end every member in it comes from some
class above: from what the class declares or from one of its providers. What each class brings is
its share. Going through the shares along the walk up the bases, the first member that takes given
arguments is the one in the view, and there are no others.
-/

namespace MemberDispatch

/-- What a class itself brings to a view: its own catalog and what its providers offer. -/
structure Share where
  cls : ClassId
  own : Catalog
  offered : List (String × List Member)

namespace Share

/-- The groups of members in a share, the class's own first. -/
def groups (hierarchy : Hierarchy) (share : Share) : List (String × List Member) :=
  share.own.ownGroups hierarchy share.cls ++ share.offered

def members (hierarchy : Hierarchy) (name : String) (share : Share) : List Member :=
  membersNamed name (share.groups hierarchy)

end Share

section Names

theorem membersNamed_append (name : String) (groups more : List (String × List Member)) :
    membersNamed name (groups ++ more) = membersNamed name groups ++ membersNamed name more := by
  simp [membersNamed]

theorem membersAt_append (left right : List Member) (place : ℕ ×ₗ List ℕ) :
    membersAt (left ++ right) place = membersAt left place ++ membersAt right place := by
  simp [membersAt]

theorem take_one_append_congr {α : Type} {lefts rights lefts' rights' : List α}
    (first : lefts.take 1 = lefts'.take 1) (second : rights.take 1 = rights'.take 1) :
    (lefts ++ rights).take 1 = (lefts' ++ rights').take 1 := by
  cases lefts <;> cases lefts' <;> simp_all

theorem keys_putEntry {β : Type} (key : String) (value : β) (entries : List (String × β)) :
    (putEntry key value entries).map (·.1) =
      if key ∈ entries.map (·.1) then entries.map (·.1) else entries.map (·.1) ++ [key] := by
  induction entries with
  | nil => simp [putEntry]
  | cons entry entries ih =>
      rcases entry with ⟨first, old⟩
      by_cases here : first = key
      · simp [putEntry, here]
      · simp only [putEntry, beq_iff_eq, here, if_false, List.map_cons, ih, List.mem_cons,
          Ne.symm here, false_or]
        split <;> rfl

theorem nodup_keys_putEntry {β : Type} {entries : List (String × β)}
    (once : (entries.map (·.1)).Nodup) (key : String) (value : β) :
    ((putEntry key value entries).map (·.1)).Nodup := by
  rw [keys_putEntry]
  split
  · exact once
  · rename_i new
    refine List.nodup_append.mpr ⟨once, List.nodup_singleton _, ?_⟩
    intro other mem last single same
    obtain rfl := List.mem_singleton.mp single
    exact new (same ▸ mem)

theorem View.names_mergeAll {view : View} (once : (view.indexes.map (·.1)).Nodup)
    (groups : List (String × List Member)) : ((view.mergeAll groups).indexes.map (·.1)).Nodup := by
  induction groups generalizing view with
  | nil => exact once
  | cons group groups ih =>
      apply ih
      exact nodup_keys_putEntry once _ _

theorem View.names_of_groups (cls : ClassId) (groups : List (String × List Member)) :
    ((({ cls } : View).mergeAll groups).indexes.map (·.1)).Nodup := by
  have none : (({ cls } : View).indexes.map (·.1)).Nodup := List.nodup_nil
  exact names_mergeAll none groups

theorem View.membersNamed_groups {view : View} (once : (view.indexes.map (·.1)).Nodup)
    (name : String) : membersNamed name view.groups = (view.get name).members := by
  rcases view with ⟨cls, indexes⟩
  induction indexes with
  | nil => rfl
  | cons entry indexes ih =>
      rcases entry with ⟨first, index⟩
      rcases List.nodup_cons.mp once with ⟨absent, once⟩
      have others := ih once
      simp only [View.groups, View.get, View.find?, List.map_cons, membersNamed_cons,
        lookup_cons] at others ⊢
      by_cases here : first = name
      · subst here
        have missing : indexes.lookup first = none := by
          rw [List.lookup_eq_none_iff]
          intro entry mem
          rw [bne_iff_ne]
          intro same
          exact absent (List.mem_map.mpr ⟨entry, mem, same.symm⟩)
        rw [missing] at others
        simp [others]
        rfl
      · simp [here, Ne.symm here, others]

end Names

theorem RebuildM.Settled.bind {α β : Type} {work : RebuildM α} {next : α → RebuildM β}
    {table : ConverterTable} {result : α} {last : β} (first : Settled work table result)
    (second : Settled (next result) table last) : Settled (work >>= next) table last := by
  rw [Settled, on_bind, first]
  exact second

namespace Rebuild

open RebuildM

section Sharing

variable (world : World) (providersOf : ClassId → List Owner)

/-- The share of a class. -/
def share (cls : ClassId) : RebuildM Share := do
  let own ← catalog world (.cls cls)
  let offered ← (providersOf cls).mapM fun provider => functions world provider cls
  return ⟨cls, own, offered.flatten⟩

variable {world providersOf} {table : ConverterTable} {cls : ClassId}

theorem sources_eq_share (cls : ClassId) :
    sources world providersOf cls = (do
      let share ← share world providersOf cls
      let inherited ← (world.hierarchy.bases cls).mapM (view world providersOf)
      return share.groups world.hierarchy ++ inherited.flatMap View.groups) := by
  simp only [sources, share, bind_assoc, pure_bind, Share.groups]

theorem repeatable_share (cls : ClassId) :
    Repeatable world.hierarchy (share world providersOf cls).on := by
  apply repeatable_bind (repeatable_catalog world _)
  intro own
  apply repeatable_bind (repeatable_mapM (fun provider => repeatable_functions world provider cls) _)
  intro offered
  exact repeatable_pure _

/-- That members are, of those in shares that take the same arguments, the first. -/
def ListsFirst (world : World) (shares : List Share) (name : String) (members : List Member) :
    Prop :=
  ∀ place, (membersAt members place).take 1 =
    (membersAt (shares.flatMap (Share.members world.hierarchy name)) place).take 1

theorem shares_of_views {bases : List ClassId} {views : List View}
    (settled : Settled (bases.mapM (view world providersOf)) table views)
    (each : ∀ base ∈ bases, ∀ result, Settled (view world providersOf base) table result →
      ∃ shares, Settled ((world.hierarchy.walk base).mapM (share world providersOf)) table shares ∧
        ∀ name, ListsFirst world shares name (membersNamed name result.groups)) :
    ∃ shares, Settled ((bases.flatMap world.hierarchy.walk).mapM (share world providersOf)) table
        shares ∧
      ∀ name, ListsFirst world shares name (membersNamed name (views.flatMap View.groups)) := by
  induction bases generalizing views with
  | nil =>
      cases settled
      exact ⟨[], rfl, fun _ _ => rfl⟩
  | cons base bases ih =>
      obtain ⟨first, behind, rfl, viewed, viewedBehind⟩ :=
        settled.of_mapM_cons (repeatable_view world providersOf)
      rcases each base List.mem_cons_self first viewed with ⟨shares, taken, lists⟩
      obtain ⟨more, takenBehind, listsBehind⟩ :=
        ih viewedBehind fun base mem => each base (List.mem_cons_of_mem _ mem)
      refine ⟨shares ++ more, ?_, ?_⟩
      · rw [List.flatMap_cons, List.mapM_append]
        exact taken.bind (takenBehind.bind rfl)
      · intro name place
        rw [List.flatMap_cons, membersNamed_append, membersAt_append, List.flatMap_append,
          membersAt_append]
        exact take_one_append_congr (lists name place) (listsBehind name place)

/-- What a view lists comes first in the shares along the walk. -/
theorem shares_of_view (coherent : world.hierarchy.Coherent) {result : View}
    (settled : Settled (view world providersOf cls) table result) :
    ∃ shares, Settled ((world.hierarchy.walk cls).mapM (share world providersOf)) table shares ∧
      ∀ name, ListsFirst world shares name (membersNamed name result.groups) := by
  -- By induction on the class: each base's view comes to its own shares, in the order of the walk.
  induction cls using coherent.induction generalizing result with
  | step cls ih =>
      rw [view_eq_mergeAll coherent] at settled
      rcases settled.of_map with ⟨groups, collected, rfl⟩
      have basing := repeatable_mapM (repeatable_view world providersOf) (world.hierarchy.bases cls)
      rw [sources_eq_share] at collected
      obtain ⟨own, taken, rest⟩ := collected.of_bind (repeatable_share cls) fun _ =>
        repeatable_bind basing fun _ => repeatable_pure _
      rcases rest.of_bind basing fun _ => repeatable_pure _ with ⟨inherited, viewed, last⟩
      cases last
      rcases shares_of_views viewed ih with ⟨shares, takenAbove, lists⟩
      refine ⟨own :: shares, ?_, ?_⟩
      · rw [Hierarchy.walk_eq coherent, List.mapM_cons]
        exact taken.bind (takenAbove.bind rfl)
      · intro name place
        rw [View.membersNamed_groups (View.names_of_groups cls _),
          (View.members_get_mergeAll cls _ name).1 place,
          List.take_take, Nat.min_self, membersNamed_append, membersAt_append, List.flatMap_cons,
          membersAt_append]
        exact take_one_append_congr rfl (lists name place)

/-- A view lists the members of each name in one group and no two that take the same arguments. -/
theorem listing_of_view (coherent : world.hierarchy.Coherent) {result : View}
    (settled : Settled (view world providersOf cls) table result) (name : String) :
    membersNamed name result.groups = (result.get name).members ∧
      Untied (result.get name).members := by
  rw [view_eq_mergeAll coherent] at settled
  rcases settled.of_map with ⟨groups, -, rfl⟩
  constructor
  · exact View.membersNamed_groups (View.names_of_groups cls _) name
  · intro place
    rw [(View.members_get_mergeAll cls groups name).1 place, List.length_take]
    omega

theorem parts_of_share {own : Share} (settled : Settled (share world providersOf cls) table own) :
    own.cls = cls ∧ Settled (catalog world (.cls cls)) table own.own ∧
      ∃ groups, Settled ((providersOf cls).mapM fun provider => functions world provider cls) table
          groups ∧ own.offered = groups.flatten := by
  have offering := repeatable_mapM (fun provider => repeatable_functions world provider cls)
    (providersOf cls)
  obtain ⟨catalog, made, rest⟩ := settled.of_bind (repeatable_catalog world _) fun _ =>
    repeatable_bind offering fun _ => repeatable_pure _
  rcases rest.of_bind offering fun _ => repeatable_pure _ with ⟨groups, offered, last⟩
  cases last
  exact ⟨rfl, made, groups, offered, rfl⟩

theorem cls_of_shares {classes : List ClassId} {shares : List Share}
    (settled : Settled (classes.mapM (share world providersOf)) table shares) :
    shares.map Share.cls = classes := by
  induction classes generalizing shares with
  | nil =>
      cases settled
      rfl
  | cons cls classes ih =>
      obtain ⟨own, behind, rfl, taken, takenBehind⟩ := settled.of_mapM_cons repeatable_share
      rw [List.map_cons, (parts_of_share taken).1, ih takenBehind]

end Sharing

end Rebuild

namespace Registry

variable {world : World} {providersOf : ClassId → List Owner}

def shareOf (world : World) (cls : ClassId) : RegistryM Share := do
  let own ← catalogOf world (.cls cls)
  let offered ← ((← current).providersOf cls).mapM fun provider => functionsOf world provider cls
  return ⟨cls, own, offered.flatten⟩

/-- The members of a name on values of a class, and then the shares along the walk. -/
def lookupBeforeShares (world : World) (cls : ClassId) (name : String) :
    RegistryM (Index × List Share) := do
  let index ← Registry.lookup world cls name
  let shares ← (world.hierarchy.walk cls).mapM (shareOf world)
  return (index, shares)

theorem mirrors_shareOf (cls : ClassId) :
    Mirrors world providersOf (shareOf world cls) (Rebuild.share world providersOf cls) := by
  refine (mirrors_catalogOf _).bind fun own => mirrors_current fun registry same => ?_
  rw [same]
  exact (Mirrors.mapM (fun provider => mirrors_functionsOf provider cls) _).bind fun offered =>
    mirrors_pure _

theorem mirrors_lookupBeforeShares (coherent : world.hierarchy.Coherent) (cls : ClassId)
    (name : String) :
    Mirrors world providersOf (lookupBeforeShares world cls name)
      (do
        let view ← Rebuild.view world providersOf cls
        let shares ← (world.hierarchy.walk cls).mapM (Rebuild.share world providersOf)
        return (view.get name, shares)) := by
  simp only [lookupBeforeShares, Registry.lookup, bind_assoc, pure_bind]
  exact (mirrors_viewOf coherent cls).bind fun view =>
    (Mirrors.mapM mirrors_shareOf _).bind fun shares => mirrors_pure _

/-- After any run a class has a view, and what it lists under a name comes first in the shares along
the walk. The table that is left has settled on them. -/
theorem exists_shares (declared : world.Declared) (table : ConverterTable)
    (operations : List Operation) (cls : ClassId) :
    ∃ view shares,
      (RegistryM.runOn (after world { table } operations) (viewOf world cls)).1 = .ok view ∧
      ((world.hierarchy.walk cls).mapM
        (Rebuild.share world (after world { table } operations).providersOf)).Settled
          (after world { table } (operations ++ [.get cls])).table shares ∧
      ∀ name,
        (RegistryM.runOn (after world { table } operations) (lookupBeforeShares world cls name)).1 =
          .ok (view.get name, shares) ∧
        ∀ place, membersAt (view.get name).members place =
          (membersAt (shares.flatMap (Share.members world.hierarchy name)) place).take 1 := by
  have coherent := declared.coherent
  have sound := (sound_after coherent (sound_of_empty rfl rfl : Sound world { table }) operations).1
  have clear := clear_after coherent table operations
  rw [after_append]
  -- Nothing but soundness and clear providers is needed of the run.
  generalize after world { table } operations = registry at sound clear ⊢
  have repeatable := Rebuild.repeatable_view world registry.providersOf cls
  obtain ⟨view, made⟩ : ∃ view,
      ((Rebuild.view world registry.providersOf cls).on registry.table).1 = .ok view :=
    Rebuild.answers_viewWithin clear _ cls registry.table
  have settled := RebuildM.settled_of_ok repeatable made
  rcases Rebuild.shares_of_view coherent settled with ⟨shares, taken, lists⟩
  have left : (registry.after world [.get cls]).table =
      ((Rebuild.view world registry.providersOf cls).on registry.table).2 :=
    congrArg Essence.table ((Operation.get cls).settles coherent sound { registry } rfl).2
  refine ⟨view, shares, ?_, left ▸ taken, ?_⟩
  · rw [runOn_viewOf coherent sound, made]
  · intro name
    rcases Rebuild.listing_of_view coherent settled name with ⟨listing, untied⟩
    constructor
    · rw [runOn_eq, (mirrors_lookupBeforeShares coherent cls name { registry } sound rfl).1,
        RebuildM.on_bind, made]
      simp only [RebuildM.onward]
      rw [RebuildM.on_bind, taken]
      rfl
    · intro place
      rw [← lists name place, listing, List.take_of_length_le (untied place)]

end Registry

end MemberDispatch
