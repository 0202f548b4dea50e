import MemberDispatch.Proofs.Converter.Likeness
import MemberDispatch.Proofs.Registry.Rebuild

/-!
# Views alike

Catalogs and views rebuilt over tables that are alike are alike themselves. The steps of a catalog
ask both tables for the same keys, so the tables stay alike whatever the keys are; where all of them
are of interest the members come out alike too. What is done with members afterwards looks at their
converters only to compare ranks, and whether a function receives a value at one position or at
several depends on its declaration.
-/

namespace MemberDispatch

/-- That indexes stand under the same names and are alike. -/
abbrev IndexesLike (relation : RankRelation) :
    List (String × Index) → List (String × Index) → Prop :=
  List.Forall₂ fun left right => left.1 = right.1 ∧ left.2.Like relation right.2

/-- That groups of members stand under the same names and are alike. -/
abbrev GroupsLike (relation : RankRelation) :
    List (String × List Member) → List (String × List Member) → Prop :=
  List.Forall₂ fun left right => left.1 = right.1 ∧ MembersLike relation left.2 right.2

/-- That two views are of the same class and have indexes alike. -/
structure View.Like (relation : RankRelation) (left right : View) : Prop where
  cls : left.cls = right.cls
  indexes : IndexesLike relation left.indexes right.indexes

/-- That two catalogs are of the same owner and have indexes alike. -/
structure Catalog.Like (relation : RankRelation) (left right : Catalog) : Prop where
  owner : left.owner = right.owner
  instanceMembers : IndexesLike relation left.instanceMembers right.instanceMembers
  staticMembers : IndexesLike relation left.staticMembers right.staticMembers

variable {relation larger : RankRelation}

section Indexes

variable {lefts rights : List (String × Index)}

theorem IndexesLike.mono (like : IndexesLike relation lefts rights) (grows : relation ≤ larger) :
    IndexesLike larger lefts rights :=
  like.imp fun _ _ like => ⟨like.1, like.2.mono grows⟩

theorem GroupsLike.mono {lefts rights : List (String × List Member)}
    (like : GroupsLike relation lefts rights) (grows : relation ≤ larger) :
    GroupsLike larger lefts rights :=
  like.imp fun _ _ like => ⟨like.1, like.2.mono grows⟩

theorem View.Like.mono {left right : View} (like : left.Like relation right)
    (grows : relation ≤ larger) : left.Like larger right :=
  ⟨like.cls, like.indexes.mono grows⟩

theorem Catalog.Like.mono {left right : Catalog} (like : left.Like relation right)
    (grows : relation ≤ larger) : left.Like larger right :=
  ⟨like.owner, like.instanceMembers.mono grows, like.staticMembers.mono grows⟩

theorem IndexesLike.lookup (like : IndexesLike relation lefts rights) (name : String) :
    Option.Rel (Index.Like relation) (lefts.lookup name) (rights.lookup name) := by
  induction like with
  | nil => exact .none
  | @cons left right lefts rights head tail ih =>
      rcases left with ⟨first, index⟩
      rcases right with ⟨first', index'⟩
      obtain rfl : first = first' := head.1
      simp only [lookup_cons]
      split
      · exact .some head.2
      · exact ih

theorem IndexesLike.lookup_getD (like : IndexesLike relation lefts rights) (name empty : String) :
    ((lefts.lookup name).getD ⟨empty, []⟩).Like relation
      ((rights.lookup name).getD ⟨empty, []⟩) := by
  rcases left : lefts.lookup name with _ | index
  · rcases right : rights.lookup name with _ | index'
    · exact ⟨rfl, .nil⟩
    · have found := like.lookup name
      rw [left, right] at found
      cases found
  · rcases right : rights.lookup name with _ | index'
    · have found := like.lookup name
      rw [left, right] at found
      cases found
    · have found := like.lookup name
      rw [left, right] at found
      cases found with
      | some like => exact like

theorem IndexesLike.put {left right : Index} (like : IndexesLike relation lefts rights)
    (name : String) (head : left.Like relation right) :
    IndexesLike relation (putEntry name left lefts) (putEntry name right rights) := by
  induction like with
  | nil => exact .cons ⟨rfl, head⟩ .nil
  | @cons left right lefts rights first tail ih =>
      rcases left with ⟨key, index⟩
      rcases right with ⟨key', index'⟩
      obtain rfl : key = key' := first.1
      simp only [putEntry]
      split
      · exact .cons ⟨rfl, head⟩ tail
      · exact .cons first ih

theorem IndexesLike.addTo {left right : Member} (like : IndexesLike relation lefts rights)
    (member : left.Like relation right) :
    IndexesLike relation (CatalogBuilder.addTo lefts left) (CatalogBuilder.addTo rights right) := by
  simp only [CatalogBuilder.addTo, member.name]
  exact like.put _ ((like.lookup_getD _ _).add member)

theorem IndexesLike.groups (consistent : relation.Consistent)
    (like : IndexesLike relation lefts rights) :
    GroupsLike relation (lefts.map fun (name, index) => (name, index.members))
      (rights.map fun (name, index) => (name, index.members)) := by
  refine List.forall₂_map_left_iff.mpr (List.forall₂_map_right_iff.mpr ?_)
  exact like.imp fun _ _ like => ⟨like.1, like.2.members consistent⟩

end Indexes

namespace View.Like

variable {left right : View}

theorem merge (consistent : relation.Consistent) (like : left.Like relation right) (name : String)
    {members members' : List Member} (likes : MembersLike relation members members') :
    (left.merge name members).Like relation (right.merge name members') :=
  ⟨like.cls, like.indexes.put name ((like.indexes.lookup_getD name name).merge consistent likes)⟩

theorem mergeAll (consistent : relation.Consistent) (like : left.Like relation right)
    {groups groups' : List (String × List Member)} (likes : GroupsLike relation groups groups') :
    (left.mergeAll groups).Like relation (right.mergeAll groups') := by
  unfold View.mergeAll
  induction likes generalizing left right with
  | nil => exact like
  | @cons group group' groups groups' head tail ih =>
      rcases group with ⟨name, members⟩
      rcases group' with ⟨name', members'⟩
      obtain rfl : name = name' := head.1
      exact ih (like.merge consistent name head.2)

theorem get (like : left.Like relation right) (name : String) :
    (left.get name).Like relation (right.get name) :=
  like.indexes.lookup_getD name ""

end View.Like

/-- That two computations fail alike or succeed with results alike. -/
inductive OutcomeLike {ε α β : Type} (like : α → β → Prop) : Except ε α → Except ε β → Prop
  | ok {left : α} {right : β} (results : like left right) : OutcomeLike like (.ok left) (.ok right)
  | error (issue : ε) : OutcomeLike like (.error issue) (.error issue)

namespace OutcomeLike

variable {ε α β γ δ : Type} {like : α → β → Prop} {likeNext : γ → δ → Prop}

theorem map {left : Except ε α} {right : Except ε β} {change : α → γ} {change' : β → δ}
    (outcome : OutcomeLike like left right)
    (each : ∀ result result', like result result' → likeNext (change result) (change' result')) :
    OutcomeLike likeNext (left.map change) (right.map change') := by
  cases outcome with
  | ok results => exact .ok (each _ _ results)
  | error issue => exact .error issue

theorem mapM {lefts : List α} {rights : List β} {step : α → Except ε γ} {step' : β → Except ε δ}
    (likes : List.Forall₂ like lefts rights)
    (each : ∀ left right, like left right → OutcomeLike likeNext (step left) (step' right)) :
    OutcomeLike (List.Forall₂ likeNext) (lefts.mapM step) (rights.mapM step') := by
  induction likes with
  | nil => exact .ok .nil
  | @cons left right lefts rights head tail ih =>
      have first := each left right head
      rw [List.mapM_cons, List.mapM_cons]
      generalize step left = outcome at first
      generalize step' right = outcome' at first
      cases first with
      | error issue => exact .error issue
      | ok result =>
          generalize lefts.mapM step = others at ih
          generalize rights.mapM step' = others' at ih
          cases ih with
          | error issue => exact .error issue
          | ok results => exact .ok (.cons result results)

end OutcomeLike

section Functions

variable {left right : Member}

theorem Member.Like.inject (like : left.Like relation right) (function : StaticFunction)
    (position : ℕ) :
    (left.inject function position).Like relation (right.inject function position) where
  name := like.name
  returns := like.returns
  isPublic := like.isPublic
  role := rfl
  converters := by
    simp only [Member.inject, List.eraseIdx_eq_take_drop_succ]
    exact List.rel_append (List.forall₂_take _ like.converters)
      (List.forall₂_drop _ like.converters)

theorem Member.Like.forValue (hierarchy : Hierarchy) (cls : ClassId)
    (like : left.Like relation right) :
    OutcomeLike (Option.Rel (Member.Like relation)) (left.forValue hierarchy cls)
      (right.forValue hierarchy cls) := by
  unfold Member.forValue
  rw [like.role]
  cases right.role with
  | static function =>
      simp only
      rcases function.receivers.rule hierarchy cls with issue | position
      · exact .error issue
      · cases position with
        | none => exact .ok .none
        | some position => exact .ok (.some (like.inject function position))
  | abstract => exact .ok .none
  | field getter => exact .ok .none
  | method callable => exact .ok .none
  | injected function position => exact .ok .none

theorem groupsLike_filter {lefts rights : List (String × List Member)}
    (like : GroupsLike relation lefts rights) :
    GroupsLike relation (lefts.filter fun group => !group.2.isEmpty)
      (rights.filter fun group => !group.2.isEmpty) := by
  refine List.rel_filter (fun left right like => ?_) like
  have lengths := like.2.length_eq
  simp only [Bool.not_eq_true', List.isEmpty_eq_false_iff, ne_eq, ← List.length_eq_zero_iff,
    lengths]

variable {catalog other : Catalog}

theorem Catalog.Like.functionsFor (hierarchy : Hierarchy) (cls : ClassId)
    (consistent : relation.Consistent) (like : catalog.Like relation other) :
    OutcomeLike (GroupsLike relation) (catalog.functionsFor hierarchy cls)
      (other.functionsFor hierarchy cls) := by
  unfold Catalog.functionsFor
  refine OutcomeLike.map (OutcomeLike.mapM like.staticMembers ?_) fun _ _ groups =>
    groupsLike_filter groups
  rintro ⟨name, index⟩ ⟨name', index'⟩ ⟨rfl, alike⟩
  refine OutcomeLike.map (OutcomeLike.mapM (alike.members consistent)
    fun _ _ like => like.forValue hierarchy cls) fun members members' likes => ⟨rfl, ?_⟩
  exact List.rel_filterMap (fun _ _ like => like) likes

theorem Catalog.Like.unambiguousFunctionsFor (hierarchy : Hierarchy) (cls : ClassId)
    (consistent : relation.Consistent) (like : catalog.Like relation other) :
    GroupsLike relation (catalog.unambiguousFunctionsFor hierarchy cls).1
      (other.unambiguousFunctionsFor hierarchy cls).1 := by
  unfold Catalog.unambiguousFunctionsFor
  refine groupsLike_filter (List.forall₂_map_left_iff.mpr (List.forall₂_map_right_iff.mpr ?_))
  refine like.staticMembers.imp ?_
  rintro ⟨name, index⟩ ⟨name', index'⟩ ⟨rfl, alike⟩
  refine ⟨rfl, List.rel_filterMap (fun left right like => ?_) (alike.members consistent)⟩
  have received := like.forValue hierarchy cls
  generalize left.forValue hierarchy cls = outcome at received
  generalize right.forValue hierarchy cls = outcome' at received
  cases received with
  | ok members => exact members
  | error issue => exact .none

end Functions

namespace ConverterTable

variable {hierarchy : Hierarchy} {table : ConverterTable}

/-- A table without usable converters keeps every key that it is asked for. -/
theorem Fits.mem_keys_lookup (fits : table.Fits hierarchy []) (key : TypeKey) :
    key ∈ (table.lookup hierarchy key).2.keys := by
  rcases found : table.own? key with _ | converter
  · have nothing : table.serving? hierarchy key = none := by
      cases key with
      | exact width => rfl
      | cls cls =>
          have inherits : table.inherited? hierarchy cls = none :=
            List.findSome?_eq_none_iff.mpr fun _ _ => fits.usable_eq_none List.not_mem_nil
          have adopts : table.adopted? hierarchy cls = none := by
            rw [fits.adopted_eq]
            simp [kept]
          rw [serving?, inherits, adopts]
          rfl
    rw [lookup_of_nothing fits.remembers found nothing]
    simp [keys, append]
  · rw [lookup_of_own found]
    exact List.mem_map_of_mem (mem_of_lookup found)

theorem Grows.keys_subset {larger : ConverterTable} (grows : Grows hierarchy table larger) :
    table.keys ⊆ larger.keys := by
  obtain ⟨gained, append, _⟩ := grows.gains
  rw [keys, keys, append, List.map_append]
  exact List.subset_append_left _ _

theorem Fits.subset_keys_lookupAll (fits : table.Fits hierarchy []) (keys : List TypeKey) :
    keys ⊆ (table.lookupAll hierarchy keys).2.keys := by
  induction keys generalizing table with
  | nil => exact List.nil_subset _
  | cons key keys ih =>
      have grows := grows_lookup hierarchy table key
      have others := (repeatable_lookupAll hierarchy keys).grows (table.lookup hierarchy key).2
      exact List.cons_subset.mpr
        ⟨others.keys_subset (fits.mem_keys_lookup key), ih (fits.grow grows)⟩

end ConverterTable

/-- That two catalogs in the making have fields in common and members alike. -/
structure CatalogBuilder.Like (relation : RankRelation) (left right : CatalogBuilder) : Prop where
  instanceMembers : IndexesLike relation left.instanceMembers right.instanceMembers
  staticMembers : IndexesLike relation left.staticMembers right.staticMembers
  fields : left.fields = right.fields

namespace CatalogBuilder

variable {hierarchy : Hierarchy} {relevant : List TypeKey} {left right : CatalogBuilder}

theorem Like.mono (like : left.Like relation right) (grows : relation ≤ larger) :
    left.Like larger right :=
  ⟨like.instanceMembers.mono grows, like.staticMembers.mono grows, like.fields⟩

theorem Like.addField (like : left.Like relation right) (name : String)
    (returns : Option ClassId) (ownName : String) :
    (left.addField name returns ownName).Like relation (right.addField name returns ownName) := by
  unfold CatalogBuilder.addField
  rw [like.fields]
  split
  · exact like
  · split
    · exact like
    · exact ⟨like.instanceMembers.addTo ⟨rfl, rfl, rfl, rfl, .nil⟩, like.staticMembers, rfl⟩

/-- Steps over tables alike leave tables alike. If what they would ask an empty table for is of
interest, members alike stay alike too. -/
theorem Steps.alike {step : CatalogBuilder → CatalogBuilder} (steps : Steps hierarchy step)
    (alike : ConverterTable.Alike hierarchy relevant relation left.table right.table) :
    ∃ larger, relation ≤ larger ∧
      ConverterTable.Alike hierarchy relevant larger (step left).table (step right).table ∧
      ∀ blank : CatalogBuilder, blank.table.Fits hierarchy [] →
        (step blank).table.keys ⊆ relevant → left.Like relation right →
          (step left).Like larger (step right) := by
  induction steps generalizing relation left right with
  | none => exact ⟨relation, le_rfl, alike, fun _ _ _ like => like⟩
  | next before behind ihBefore ihBehind =>
      obtain ⟨middle, first_le, first, firstLike⟩ := ihBefore alike
      obtain ⟨larger, second_le, second, secondLike⟩ := ihBehind first
      refine ⟨larger, first_le.trans second_le, second, fun blank fits within like => ?_⟩
      refine secondLike _ (fits.grow (before.grows blank)) within (firstLike blank fits ?_ like)
      exact List.Subset.trans (behind.grows _).keys_subset within
  | report event => exact ⟨relation, le_rfl, alike, fun _ _ _ like => ⟨like.1, like.2, like.3⟩⟩
  | field name returns ownName =>
      refine ⟨relation, le_rfl, ?_, fun _ _ _ like => like.addField name returns ownName⟩
      simpa only [addField_table] using alike
  | ofValues keys member =>
      obtain ⟨larger, grows, after, found⟩ := alike.lookupAll keys
      refine ⟨larger, grows, after, fun blank fits within like => ?_⟩
      have converters := found (List.Subset.trans (fits.subset_keys_lookupAll keys) within)
      have kept := like.mono grows
      exact ⟨kept.instanceMembers.addTo ⟨rfl, rfl, rfl, rfl, converters⟩, kept.staticMembers,
        kept.fields⟩
  | standalone keys member =>
      obtain ⟨larger, grows, after, found⟩ := alike.lookupAll keys
      refine ⟨larger, grows, after, fun blank fits within like => ?_⟩
      have converters := found (List.Subset.trans (fits.subset_keys_lookupAll keys) within)
      have kept := like.mono grows
      exact ⟨kept.instanceMembers, kept.staticMembers.addTo ⟨rfl, rfl, rfl, rfl, converters⟩,
        kept.fields⟩

end CatalogBuilder

/-- The keys that the catalog of an owner asks for: those that its making leaves in an empty
table. -/
def askedKeys (world : World) (owner : Owner) : List TypeKey :=
  (Catalog.build world {} owner).2.1.keys

theorem Catalog.alike_making {world : World} {relevant : List TypeKey}
    {table other : ConverterTable}
    (alike : ConverterTable.Alike world.hierarchy relevant relation table other) (owner : Owner) :
    ∃ larger, relation ≤ larger ∧
      ConverterTable.Alike world.hierarchy relevant larger (Catalog.making world owner table).2
        (Catalog.making world owner other).2 ∧
      (askedKeys world owner ⊆ relevant → (Catalog.making world owner table).1.Like larger
        (Catalog.making world owner other).1) := by
  have started : ConverterTable.Alike world.hierarchy relevant relation
      ({ table } : CatalogBuilder).table ({ table := other } : CatalogBuilder).table := alike
  obtain ⟨larger, grows, after, members⟩ :=
    (CatalogBuilder.steps_stepsFor world owner).alike started
  refine ⟨larger, grows, ?_, fun within => ?_⟩
  · simpa only [Catalog.making, Catalog.build_eq] using after
  · have empty : ({} : ConverterTable).Fits world.hierarchy [] :=
      ⟨ConverterTable.orderly_empty _, fun _ mem => absurd mem List.not_mem_nil⟩
    have asked : (CatalogBuilder.stepsFor world owner { table := {} }).table.keys ⊆ relevant := by
      simpa only [askedKeys, Catalog.build_eq] using within
    have made := members { table := {} } empty asked ⟨.nil, .nil, rfl⟩
    simp only [Catalog.making, Catalog.build_eq]
    exact ⟨rfl, made.instanceMembers, made.staticMembers⟩

namespace RebuildM

variable {α β γ δ : Type} {hierarchy : Hierarchy} {relevant : List TypeKey}

/-- That two pieces of work on tables alike leave tables alike and have outcomes alike. -/
def Follows (hierarchy : Hierarchy) (relevant : List TypeKey) (relation : RankRelation)
    (like : RankRelation → α → β → Prop) (work : RebuildM α) (other : RebuildM β) : Prop :=
  ∀ (reached : RankRelation) (table table' : ConverterTable), relation ≤ reached →
    ConverterTable.Alike hierarchy relevant reached table table' →
      ∃ larger, reached ≤ larger ∧
        ConverterTable.Alike hierarchy relevant larger (work.on table).2 (other.on table').2 ∧
        OutcomeLike (like larger) (work.on table).1 (other.on table').1

theorem follows_pure {like : RankRelation → α → β → Prop} {left : α} {right : β}
    (results : ∀ larger, relation ≤ larger → like larger left right) :
    Follows hierarchy relevant relation like (pure left) (pure right) :=
  fun _ _ _ grows alike => ⟨_, le_rfl, alike, .ok (results _ grows)⟩

theorem follows_throw {like : RankRelation → α → β → Prop} (issue : ConfigurationIssue) :
    Follows hierarchy relevant relation like (throw issue) (throw issue) :=
  fun _ _ _ _ alike => ⟨_, le_rfl, alike, .error issue⟩

theorem Follows.bind {like : RankRelation → α → β → Prop} {likeNext : RankRelation → γ → δ → Prop}
    {work : RebuildM α} {other : RebuildM β} {next : α → RebuildM γ} {next' : β → RebuildM δ}
    (first : Follows hierarchy relevant relation like work other)
    (second : ∀ reached : RankRelation, relation ≤ reached → reached.Consistent →
      ∀ left right, like reached left right →
        Follows hierarchy relevant reached likeNext (next left) (next' right)) :
    Follows hierarchy relevant relation likeNext (work >>= next) (other >>= next') := by
  intro reached table table' grows alike
  obtain ⟨middle, middle_le, alikeMiddle, outcome⟩ := first _ _ _ grows alike
  rw [on_bind, on_bind]
  generalize (work.on table).1 = result at outcome ⊢
  generalize (other.on table').1 = result' at outcome ⊢
  cases outcome with
  | error issue => exact ⟨middle, middle_le, alikeMiddle, .error issue⟩
  | ok results =>
      obtain ⟨larger, larger_le, after, last⟩ :=
        second middle (grows.trans middle_le) alikeMiddle.consistent _ _ results _ _ _ le_rfl
          alikeMiddle
      exact ⟨larger, middle_le.trans larger_le, after, last⟩

end RebuildM

namespace Rebuild

open RebuildM

variable {world : World} {relevant : List TypeKey} {providersOf : ClassId → List Owner}

theorem follows_catalog {owner : Owner} (asked : askedKeys world owner ⊆ relevant) :
    Follows world.hierarchy relevant relation Catalog.Like (catalog world owner)
      (catalog world owner) := by
  intro reached table table' grows alike
  obtain ⟨larger, larger_le, after, like⟩ := Catalog.alike_making alike owner
  exact ⟨larger, larger_le, after, .ok (like asked)⟩

theorem follows_functions {owner : Owner} (asked : askedKeys world owner ⊆ relevant)
    (cls : ClassId) :
    Follows world.hierarchy relevant relation GroupsLike (functions world owner cls)
      (functions world owner cls) := by
  refine (follows_catalog asked).bind fun reached grows consistent own own' like => ?_
  have offered := like.functionsFor world.hierarchy cls consistent
  generalize own.functionsFor world.hierarchy cls = outcome at offered ⊢
  generalize own'.functionsFor world.hierarchy cls = outcome' at offered ⊢
  cases offered with
  | error issue => exact follows_throw _
  | ok groups => exact follows_pure fun larger larger_le => groups.mono larger_le

theorem follows_withProviders (cls : ClassId) {providers : List Owner}
    (asked : ∀ owner ∈ providers, askedKeys world owner ⊆ relevant) {view view' : View}
    (like : view.Like relation view') :
    Follows world.hierarchy relevant relation View.Like (withProviders world cls providers view)
      (withProviders world cls providers view') := by
  induction providers generalizing relation view view' with
  | nil => exact follows_pure fun larger grows => like.mono grows
  | cons provider providers ih =>
      refine (follows_functions (asked provider List.mem_cons_self) cls).bind
        fun reached grows consistent groups groups' likes => ?_
      exact ih (fun owner mem => asked owner (List.mem_cons_of_mem _ mem))
        ((like.mono grows).mergeAll consistent likes)

theorem follows_withBases {viewOf : ClassId → RebuildM View} {bases : List ClassId}
    (each : ∀ base ∈ bases, ∀ reached : RankRelation, relation ≤ reached →
      Follows world.hierarchy relevant reached View.Like (viewOf base) (viewOf base))
    {view view' : View} (like : view.Like relation view') :
    Follows world.hierarchy relevant relation View.Like (withBases viewOf bases view)
      (withBases viewOf bases view') := by
  induction bases generalizing relation view view' with
  | nil => exact follows_pure fun larger grows => like.mono grows
  | cons base bases ih =>
      refine (each base List.mem_cons_self relation le_rfl).bind
        fun reached grows consistent inherited inherited' likes => ?_
      refine ih (fun base mem further further_le =>
        each base (List.mem_cons_of_mem _ mem) further (grows.trans further_le)) ?_
      exact (like.mono grows).mergeAll consistent (likes.indexes.groups consistent)

theorem like_ownView (cls : ClassId) (consistent : relation.Consistent) {own own' : Catalog}
    (like : own.Like relation own') :
    (ownView world cls own).Like relation (ownView world cls own') := by
  have bare : ({ cls } : View).Like relation { cls } := ⟨rfl, .nil⟩
  exact (bare.mergeAll consistent (like.instanceMembers.groups consistent)).mergeAll consistent
    (like.unambiguousFunctionsFor world.hierarchy cls consistent)

/-- The owners whose members the view of a class is made of. -/
def Contributes (world : World) (providersOf : ClassId → List Owner) (cls : ClassId)
    (owner : Owner) : Prop :=
  ∃ ancestor ∈ world.hierarchy.linearization cls,
    owner = .cls ancestor ∨ owner ∈ providersOf ancestor

theorem follows_viewWithin (coherent : world.hierarchy.Coherent) {cls : ClassId}
    (asked : ∀ owner, Contributes world providersOf cls owner →
      askedKeys world owner ⊆ relevant) (depth : ℕ) :
    Follows world.hierarchy relevant relation View.Like
      (viewWithin world providersOf depth cls) (viewWithin world providersOf depth cls) := by
  induction depth generalizing cls relation with
  | zero => exact follows_pure fun larger grows => ⟨rfl, .nil⟩
  | succ depth ih =>
      have here := coherent.self_mem cls
      refine (follows_catalog (asked _ ⟨cls, here, .inl rfl⟩)).bind
        fun reached grows consistent own own' like => ?_
      refine (follows_withProviders cls (fun owner mem => asked owner ⟨cls, here, .inr mem⟩)
        (like_ownView cls consistent like)).bind fun further further_le _ view view' views => ?_
      refine follows_withBases (fun base mem last last_le => ih ?_) views
      rintro owner ⟨ancestor, above, source⟩
      exact asked owner ⟨ancestor, coherent.base_subset mem above, source⟩

end Rebuild

end MemberDispatch
