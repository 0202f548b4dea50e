import MemberDispatch.Proofs.Catalog.Counts
import MemberDispatch.Proofs.Registry.Receivers

/-!
# Functions of built-in classes in views

What the catalog of a class has for values of another one is traced to the function that declares it: the
member is one of the shares of a function of its name, with the value put in where the function receives
it. For built-in classes the functions are known, so a name that none of their entries shows is no name
of a member that they bring.
-/

namespace MemberDispatch

theorem exists_of_forall₂ {α β : Type} {relation : α → β → Prop} {items : List α} {others : List β}
    (each : List.Forall₂ relation items others) {other : β} (mem : other ∈ others) :
    ∃ item ∈ items, relation item other := by
  induction each with
  | nil => cases mem
  | @cons item first _ _ related rest ih =>
      rcases List.mem_cons.mp mem with rfl | mem
      · exact ⟨item, List.mem_cons_self, related⟩
      · rcases ih mem with ⟨found, among, related⟩
        exact ⟨found, List.mem_cons_of_mem _ among, related⟩

/-- A step of a catalog lists no name twice among the members that stand by themselves. -/
theorem CatalogBuilder.Steps.once {hierarchy : Hierarchy} {step : CatalogBuilder → CatalogBuilder}
    (steps : Steps hierarchy step) {builder : CatalogBuilder}
    (once : (builder.staticMembers.map (·.1)).Nodup) :
    ((step builder).staticMembers.map (·.1)).Nodup := by
  induction steps generalizing builder with
  | none => exact once
  | next before behind ihBefore ihBehind => exact ihBehind (ihBefore once)
  | report event => exact once
  | field name returns ownName =>
      rw [addField_staticMembers]
      exact once
  | ofValues keys member => exact once
  | standalone keys member => exact nodup_keys_putEntry once _ _

theorem Catalog.once_making (world : World) (owner : Owner) (table : ConverterTable) :
    ((Catalog.making world owner table).1.staticMembers.map (·.1)).Nodup := by
  simp only [Catalog.making, Catalog.build_eq]
  exact (CatalogBuilder.steps_stepsFor world owner).once List.nodup_nil

/-- A member that stands by itself is in the share of a function that the class declares. -/
theorem Catalog.exists_share_of_standing {world : World} {cls : ClassId} {table : ConverterTable}
    {entry : String × Index}
    (listed : entry ∈ (Catalog.making world (.cls cls) table).1.staticMembers) {member : Member}
    (mem : member ∈ entry.2.members) (runs : member.runsFunction = true) :
    ∃ declared ∈ world.memberFunctions cls, ∃ share,
      declared.name = entry.1 ∧ declared.way.isStanding = true ∧
        declared.HasShare world cls (Catalog.making world (.cls cls) table).2 true entry.1 share ∧
          member ∈ share := by
  obtain ⟨-, shares, members, has⟩ := CatalogBuilder.adds_addClass world cls true entry.1 { table }
  have found := (lookup_eq_some_iff_mem (Catalog.once_making world (.cls cls) table)).mpr listed
  have here : member ∈
      runningUnder (Catalog.making world (.cls cls) table).1.staticMembers entry.1 := by
    apply (runningUnder_perm _ entry.1).mem_iff.mp
    simp only [found, Option.map_some, Option.getD_some]
    exact List.mem_filter.mpr ⟨mem, runs⟩
  have start : runningUnder (CatalogBuilder.side true { table }) entry.1 = [] := rfl
  rw [start, List.nil_append] at members
  change member ∈ runningUnder
    (CatalogBuilder.side true (CatalogBuilder.addClass world cls { table })) entry.1 at here
  rw [members] at here
  rcases List.mem_flatten.mp here with ⟨share, among, inside⟩
  rcases exists_of_forall₂ has among with ⟨declared, stated, shares⟩
  have own : declared.way.isStanding = true ∧ declared.name = entry.1 := by
    by_contra apart
    rw [shares.elsewhere (not_and_or.mp apart)] at inside
    cases inside
  exact ⟨declared, stated, share, own.2, own.1, shares, inside⟩

/-- What an exposed member is made of: a share of a function of its name, which receives values of the
class at a position. -/
structure Member.IsShare (world : World) (owner cls : ClassId) (table : ConverterTable)
    (declared : MemberFunction) (member : Member) : Prop where
  stated : declared ∈ world.memberFunctions owner
  named : declared.name = member.name
  standing : declared.way.isStanding = true
  shares : ∃ share source function position,
    declared.HasShare world owner table true member.name share ∧ source ∈ share ∧
      source.role = .static function ∧
      function.receivers.rule world.hierarchy cls = .ok (some position) ∧
      member = source.inject function position

theorem Member.Exposed.isShare {world : World} {owner cls : ClassId} {table : ConverterTable}
    {member : Member} (exposed : member.Exposed world (.cls owner) cls table) :
    ∃ declared, member.IsShare world owner cls table declared := by
  rcases exposed with ⟨kept, exposes⟩
  cases exposes with
  | @receiving entry source _ _ listed mem receives =>
      obtain ⟨function, position, stands, found, rfl⟩ := Member.exists_of_forValue receives
      have runs : source.runsFunction = true := by
        rw [runsFunction, stands]
      obtain ⟨declared, stated, share, named, standing, shares, inside⟩ :=
        Catalog.exists_share_of_standing listed mem runs
      have titled := (Catalog.named_making world (.cls owner) table).2.name_of_mem listed mem
      rw [kept, ← titled] at shares
      refine ⟨declared, stated, named.trans titled.symm, standing, ?_⟩
      exact ⟨share, _, function, position, shares, inside, stands, found, rfl⟩

/-- The name that an entry of a class shows. -/
def shownName (entry : String × Entry) : String :=
  match entry.2 with
  | .method function | .staticMethod function | .classMethod function | .property (some function) =>
      function.exposedName.getD entry.1
  | _ => entry.1

/-- Whether an entry of a built-in class shows a name. -/
def BuiltinClass.shows (kind : BuiltinClass) (name : String) : Bool :=
  kind.allEntries.any fun entry => shownName entry == name

theorem BuiltinClass.shows_of_mem {kind : BuiltinClass} {entry : String × Entry} {name : String}
    (mem : entry ∈ kind.allEntries) (same : shownName entry = name) : kind.shows name = true :=
  List.any_eq_true.mpr ⟨entry, mem, beq_iff_eq.mpr same⟩

theorem MemberFunction.name_of_ofEntry? {entry : String × Entry} {declared : MemberFunction}
    (stated : MemberFunction.ofEntry? entry = some declared) : shownName entry = declared.name := by
  unfold ofEntry? at stated
  unfold shownName
  dsimp only at stated
  split at stated
  · cases stated
  · split at stated
    all_goals cases stated
    all_goals
      rename_i function isFunction
      rw [isFunction]

namespace World

variable {world : World} {kind : BuiltinClass} {name : String}

theorem exists_entry_of_memberFunctions {declared : MemberFunction}
    (stated : declared ∈ world.memberFunctions (.builtin kind)) :
    ∃ entry ∈ kind.allEntries, MemberFunction.ofEntry? entry = some declared := by
  simp only [memberFunctions, Option.toList_none, List.append_nil] at stated
  rcases List.mem_flatMap.mp stated with ⟨entry, mem, found⟩
  exact ⟨entry, mem, Option.mem_toList.mp found⟩

theorem shows_of_memberFunctions {declared : MemberFunction}
    (stated : declared ∈ world.memberFunctions (.builtin kind)) :
    kind.shows declared.name = true := by
  rcases exists_entry_of_memberFunctions stated with ⟨entry, mem, found⟩
  exact BuiltinClass.shows_of_mem mem (MemberFunction.name_of_ofEntry? found)

theorem shows_of_declaresMember {role : Role}
    (declares : world.DeclaresMember (.builtin kind) name role) : kind.shows name = true := by
  cases declares with
  | property entry => exact BuiltinClass.shows_of_mem entry rfl
  | slot entry => exact BuiltinClass.shows_of_mem entry rfl
  | annotated named => cases named
  | method entry => exact BuiltinClass.shows_of_mem entry rfl

end World

/-- A member that a built-in class declares or exposes has a name that an entry of this class shows. -/
theorem Member.shows_of_exposed {world : World} {kind : BuiltinClass} {cls : ClassId}
    {table : ConverterTable} {member : Member}
    (exposed : member.Exposed world (.cls (.builtin kind)) cls table) :
    kind.shows member.name = true := by
  rcases exposed.isShare with ⟨declared, share⟩
  rw [← share.named]
  exact World.shows_of_memberFunctions share.stated

end MemberDispatch
