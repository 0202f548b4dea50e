import MemberDispatch.Proofs.Catalog.Declared
import MemberDispatch.Proofs.Class.Inheritance
import MemberDispatch.Proofs.Registry.Arguments
import MemberDispatch.Proofs.Registry.Shares

/-!
# What receives a value

Every member of a view can be used on values of its class. It is a field or a method that a class
above declares, or a function that receives the value where it is declared to take a class. Which
parameter this is has been decided for a class above, and the values of the class below are passed
there in their turn.
-/

namespace MemberDispatch

section Exposed

variable {hierarchy : Hierarchy} {cls : ClassId} {catalog : Catalog}

/-- A function that receives a value has the name under which it stands by itself. -/
theorem Member.name_of_forValue {source received : Member}
    (receives : source.forValue hierarchy cls = .ok (some received)) :
    received.name = source.name := by
  rcases Member.exists_of_forValue receives with ⟨function, position, -, -, rfl⟩
  rfl

theorem EachNamed.name_of_mem {indexes : List (String × Index)} (named : EachNamed indexes)
    {entry : String × Index} (listed : entry ∈ indexes) {member : Member}
    (mem : member ∈ entry.2.members) : member.name = entry.1 :=
  named entry listed member ((sortMembers_perm _).mem_iff.mp mem)

theorem Catalog.exposes_of_functionsFor (named : EachNamed catalog.staticMembers)
    {groups : List (String × List Member)}
    (made : catalog.functionsFor hierarchy cls = .ok groups) {group : String × List Member}
    (mem : group ∈ groups) {member : Member} (inside : member ∈ group.2) :
    catalog.Exposes hierarchy (some cls) member ∧ member.name = group.1 := by
  rcases ok_of_map made with ⟨all, collected, rfl⟩
  rcases mem_of_mapM collected (List.mem_filter.mp mem).1 with ⟨entry, there, received⟩
  rcases ok_of_map received with ⟨found, outcomes, rfl⟩
  rcases List.mem_filterMap.mp inside with ⟨_, here, rfl⟩
  rcases mem_of_mapM outcomes here with ⟨source, among, receives⟩
  constructor
  · exact .receiving there among receives
  · rw [Member.name_of_forValue receives, named.name_of_mem there among]

theorem Catalog.exposes_of_unambiguousFunctionsFor (named : EachNamed catalog.staticMembers)
    {group : String × List Member}
    (mem : group ∈ (catalog.unambiguousFunctionsFor hierarchy cls).1) {member : Member}
    (inside : member ∈ group.2) :
    catalog.Exposes hierarchy (some cls) member ∧ member.name = group.1 := by
  rcases List.mem_map.mp (List.mem_filter.mp mem).1 with ⟨entry, there, rfl⟩
  rcases List.mem_filterMap.mp inside with ⟨source, among, receives⟩
  rcases outcome : source.forValue hierarchy cls with issue | received
  · simp [outcome] at receives
  · rw [outcome] at receives
    simp only at receives
    subst receives
    constructor
    · exact .receiving there among outcome
    · rw [Member.name_of_forValue outcome, named.name_of_mem there among]

end Exposed

/-- That a member is a function of an owner that receives values of a class: the parameter at its
position is declared with a class that they count as. -/
structure Member.Receives (world : World) (owner : Owner) (cls target : ClassId)
    (function : StaticFunction) (position : ℕ) (member : Member) : Prop where
  role : member.role = .injected function position
  declared : ∃ keys, world.Offers owner keys member.name (.static function) ∧
    keys[position]? = some (.cls target) ∧ keys.length = member.arity + 1
  accepts : world.isSubclass cls target = true

theorem Catalog.receives_making {world : World} (coherent : world.hierarchy.Coherent)
    {owner : Owner} {table : ConverterTable} {cls : ClassId} {member : Member}
    (exposes : (Catalog.making world owner table).1.Exposes world.hierarchy (some cls) member) :
    ∃ target function position, member.Receives world owner cls target function position := by
  rcases Catalog.supplies_making exposes with ⟨keys, supplies, settles⟩
  generalize shape : member.role = role at supplies
  cases supplies with
  | @others keys _ function position key _ offered receiver assignable =>
      cases key with
      | exact width => simp [Hierarchy.assignable] at assignable
      | cls target =>
          refine ⟨target, function, position, shape, ⟨keys, offered, receiver, ?_⟩, ?_⟩
          · rcases List.getElem?_eq_some_iff.mp receiver with ⟨within, -⟩
            have taken := settles.length_eq
            rw [List.length_eraseIdx_of_lt within] at taken
            rw [Member.arity, ← taken]
            omega
          · simp only [Hierarchy.assignable, Bool.or_eq_true, beq_iff_eq] at assignable
            rcases assignable with rfl | counts
            · exact coherent.isSubclass_of_mem (coherent.self_mem target)
            · exact counts

/-- That an owner has a member for values of a class, with converters that a table has settled on. -/
structure Member.Exposed (world : World) (owner : Owner) (cls : ClassId) (table : ConverterTable)
    (member : Member) : Prop where
  settled : (Catalog.making world owner table).2 = table
  exposes : (Catalog.making world owner table).1.Exposes world.hierarchy (some cls) member

/-- What brings a member to values of a class: the declarations of a class above, its functions, or
those of one of its providers. -/
inductive Member.Brought (world : World) (providersOf : ClassId → List Owner) (cls : ClassId)
    (table : ConverterTable) (member : Member) : Prop
  | declared {ancestor : ClassId} (above : ancestor ∈ world.linearization cls)
      (declared : member.Declared world ancestor table)
  | exposed {ancestor : ClassId} {owner : Owner} (above : ancestor ∈ world.linearization cls)
      (brings : owner = .cls ancestor ∨ owner ∈ providersOf ancestor)
      (exposed : member.Exposed world owner ancestor table)

/-- Where a member that values of a class have comes from: a class above declares it for its values, or
brings it as a function that receives them. -/
inductive Member.Arises (world : World) (providersOf : ClassId → List Owner) (cls : ClassId)
    (table : ConverterTable) (member : Member) : Prop
  | declared {ancestor : ClassId} (above : ancestor ∈ world.linearization cls)
      (declared : member.Declared world ancestor table)
  | received {ancestor target : ClassId} {owner : Owner} {function : StaticFunction} {position : ℕ}
      (above : ancestor ∈ world.linearization cls)
      (brings : owner = .cls ancestor ∨ owner ∈ providersOf ancestor)
      (receives : member.Receives world owner ancestor target function position)

theorem Member.Brought.arises {world : World} (coherent : world.hierarchy.Coherent)
    {providersOf : ClassId → List Owner} {cls : ClassId} {table : ConverterTable} {member : Member}
    (brought : member.Brought world providersOf cls table) :
    member.Arises world providersOf cls table := by
  cases brought with
  | declared above declared => exact .declared above declared
  | exposed above brings exposed =>
      rcases Catalog.receives_making coherent exposed.exposes with
        ⟨target, function, position, receives⟩
      exact .received above brings receives

/-- That a member can be used on values of a class: a class above declares it for its own values, or
brings it as a function that receives them. The values of the class itself are accepted there too,
unless the class withdraws the members for it. -/
inductive Member.Fits (world : World) (providersOf : ClassId → List Owner) (cls : ClassId)
    (member : Member) : Prop
  | declared {ancestor : ClassId} (above : ancestor ∈ world.linearization cls)
      (declares : world.DeclaresMember ancestor member.name member.role)
  | received {ancestor target : ClassId} {owner : Owner} {function : StaticFunction} {position : ℕ}
      (above : ancestor ∈ world.linearization cls)
      (brings : owner = .cls ancestor ∨ owner ∈ providersOf ancestor)
      (receives : member.Receives world owner ancestor target function position)
      (inherits : world.isSubclass cls target = true ∨ world.Withdraws cls ancestor target)

namespace Rebuild

open RebuildM

variable {world : World} {providersOf : ClassId → List Owner} {table : ConverterTable}
  {cls : ClassId}

theorem exposed_of_functions {owner : Owner} {groups : List (String × List Member)}
    (settled : Settled (functions world owner cls) table groups) {group : String × List Member}
    (mem : group ∈ groups) {member : Member} (inside : member ∈ group.2) :
    member.Exposed world owner cls table ∧ member.name = group.1 := by
  obtain ⟨own, found, offered⟩ := parts_of_functions settled
  obtain ⟨making, kept⟩ := eq_making_of_settled found
  have named := (Catalog.named_making world owner table).2
  rw [← making] at named
  obtain ⟨exposes, titled⟩ := Catalog.exposes_of_functionsFor named offered mem inside
  exact ⟨⟨kept, making ▸ exposes⟩, titled⟩

/-- What a class brings to a view under a name is declared by it, or has its values put in. -/
theorem brought_of_share {own : Share} (settled : Settled (share world providersOf cls) table own)
    {name : String} {member : Member} (mem : member ∈ own.members world.hierarchy name) :
    member.name = name ∧ (member.Declared world cls table ∨
      ∃ owner, (owner = .cls cls ∨ owner ∈ providersOf cls) ∧
        member.Exposed world owner cls table) := by
  rcases parts_of_share settled with ⟨same, made, groups, asked, flat⟩
  obtain ⟨making, kept⟩ := eq_making_of_settled made
  obtain ⟨ofValues, standing⟩ := Catalog.named_making world (.cls cls) table
  rcases List.mem_flatMap.mp mem with ⟨group, there, inside⟩
  obtain ⟨there, titled⟩ := List.mem_filter.mp there
  rw [decide_eq_true_eq] at titled
  simp only [Share.groups, Catalog.ownGroups, same, making, flat, List.mem_append] at there
  rcases there with (there | there) | there
  · rcases List.mem_map.mp there with ⟨entry, listed, rfl⟩
    have declared := Catalog.declared_making world cls table entry listed member
      ((sortMembers_perm _).mem_iff.mp inside)
    rw [kept] at declared
    exact ⟨(ofValues.name_of_mem listed inside).trans titled, .inl declared⟩
  · obtain ⟨exposes, named⟩ := Catalog.exposes_of_unambiguousFunctionsFor standing there inside
    exact ⟨named.trans titled, .inr ⟨_, .inl rfl, kept, exposes⟩⟩
  · rcases List.mem_flatten.mp there with ⟨groups, among, there⟩
    obtain ⟨provider, provides, offers⟩ :=
      asked.of_mapM (fun provider => repeatable_functions world provider cls) groups among
    obtain ⟨exposed, named⟩ := exposed_of_functions offers there inside
    exact ⟨named.trans titled, .inr ⟨provider, .inr provides, exposed⟩⟩

end Rebuild

namespace Registry

variable {world : World}

/-- What values have is handed them where it is declared to take them, among all its arguments. -/
theorem use_of_arises {providersOf : ClassId → List Owner} {cls : ClassId} {table : ConverterTable}
    {member : Member} (arises : member.Arises world providersOf cls table) (engine : Engine)
    (target : Value) {values : List Value} (takes : values.length = member.arity) :
    engine.use member target values = member.role.handsOver engine target values := by
  apply Engine.use_eq_handsOver takes
  intro function position role
  cases arises with
  | declared above declared =>
      rcases declared.isField_or_isMethod with ⟨getter, field, -⟩ | ⟨_, _, _, isMethod⟩
      · cases role.symm.trans field
      · cases role.symm.trans isMethod.role
  | received above brings receives =>
      rcases receives.declared with ⟨keys, -, receiver, length⟩
      rcases List.getElem?_eq_some_iff.mp receiver with ⟨within, -⟩
      have same := receives.role.symm.trans role
      cases same
      omega

/-- After any run, every member of a view is brought to it from above its class, and the table that is
left has settled on its converters. -/
theorem viewOf_brought (declared : world.Declared) (table : ConverterTable)
    (operations : List Operation) (cls : ClassId) :
    ∃ view,
      (RegistryM.runOn (after world { table } operations) (viewOf world cls)).1 = .ok view ∧
      ∀ name, ∀ member ∈ (view.get name).members, member.name = name ∧
        member.Brought world (after world { table } operations).providersOf cls
          (after world { table } (operations ++ [.get cls])).table := by
  obtain ⟨view, shares, answered, taken, found⟩ := exists_shares declared table operations cls
  refine ⟨view, answered, ?_⟩
  intro name member mem
  have here : member ∈ membersAt (view.get name).members member.place :=
    List.mem_filter.mpr ⟨mem, decide_eq_true rfl⟩
  rw [(found name).2] at here
  obtain ⟨own, among, brought⟩ :=
    List.mem_flatMap.mp (List.mem_filter.mp (List.mem_of_mem_take here)).1
  rcases taken.of_mapM Rebuild.repeatable_share own among with ⟨ancestor, met, settled⟩
  have above := declared.mem_walk_iff.mp met
  rcases Rebuild.brought_of_share settled brought with ⟨named, declares | ⟨owner, brings, exposed⟩⟩
  · exact ⟨named, .declared above declares⟩
  · exact ⟨named, .exposed above brings exposed⟩

/-- After any run, every member of a view arises above its class, and the table that is left has settled
on its converters. -/
theorem viewOf_arises (declared : world.Declared) (table : ConverterTable)
    (operations : List Operation) (cls : ClassId) :
    ∃ view,
      (RegistryM.runOn (after world { table } operations) (viewOf world cls)).1 = .ok view ∧
      ∀ name, ∀ member ∈ (view.get name).members, member.name = name ∧
        member.Arises world (after world { table } operations).providersOf cls
          (after world { table } (operations ++ [.get cls])).table := by
  obtain ⟨view, answered, brought⟩ := viewOf_brought declared table operations cls
  refine ⟨view, answered, ?_⟩
  intro name member mem
  obtain ⟨named, comes⟩ := brought name member mem
  exact ⟨named, comes.arises declared.coherent⟩

/-- After any run, every member of a view is declared for the values of its class or receives them,
and it is used as declared. -/
theorem viewOf_fits (declared : world.Declared) (table : ConverterTable)
    (operations : List Operation) (cls : ClassId) :
    ∃ view,
      (RegistryM.runOn (after world { table } operations) (viewOf world cls)).1 = .ok view ∧
      ∀ name, ∀ member ∈ (view.get name).members,
        member.Fits world (after world { table } operations).providersOf cls ∧
        ∀ (engine : Engine) (target : Value) (values : List Value), values.length = member.arity →
          engine.use member target values = member.role.handsOver engine target values := by
  have coherent := declared.coherent
  obtain ⟨view, answered, arises⟩ := viewOf_arises declared table operations cls
  refine ⟨view, answered, ?_⟩
  intro name member mem
  have arises := (arises name member mem).2
  constructor
  · cases arises with
    | declared above declared => exact .declared above declared.declares
    | received above brings receives =>
        have derives := Hierarchy.linearization_subset_of_mem_walk coherent
          (declared.mem_walk_iff.mpr above)
        exact .received above brings receives
          (World.isSubclass_of_derives derives receives.accepts)
  · exact fun engine target values takes => use_of_arises arises engine target takes

section Hashing

/-- A class with a function that takes whatever has a hash. -/
def hashing : World :=
  World.addClass {}
    { name := "P"
      entries := [("f", .staticMethod
        { qualifiedName := "P.f"
          parameters := some [{ name := "x", type := .cls (.builtin .hashable) }]
          code := .body .echo })] }

/-- All objects receive the function. -/
def providing : List Operation :=
  [.registerProviders .object [.ok (.cls (.declared "P"))]]

/-- The parameters of the functions found under a name, and which of them receive values. -/
def foundReceivers (cls : ClassId) (name : String) : Option (List (Option (ValueIndex × ℕ))) :=
  let receiver (member : Member) : Option (ValueIndex × ℕ) :=
    match member.role with
    | .injected function position => some (function.receivers, position)
    | _ => none
  match (RegistryM.runOn (after hashing { table := .standard } providing)
      (Registry.lookup hashing cls name)).1 with
  | .ok index => some (index.members.map receiver)
  | .error _ => none

theorem declared_hashing : hashing.Declared :=
  .cls .start _ (by decide) (by decide) (by decide)

/-- Lists receive a function where it is declared to take what has a hash, as objects do, although
they have none. -/
theorem received_by_list_without_hash :
    hashing.Declared ∧
      hashing.linearization (.builtin .list) = [.builtin .list, .object] ∧
      foundReceivers (.builtin .list) "f" =
        some [some (ValueIndex.ofKeys [.cls (.builtin .hashable)], 0)] ∧
      hashing.isSubclass .object (.builtin .hashable) = true ∧
      hashing.isSubclass (.builtin .list) (.builtin .hashable) = false :=
  ⟨declared_hashing, rfl, by decide +kernel, by decide, by decide⟩

/-- Numbers receive the function, too, and they have a hash. -/
theorem viewOf_fits_for_int :
    hashing.Declared ∧
      foundReceivers (.builtin .int) "f" =
        some [some (ValueIndex.ofKeys [.cls (.builtin .hashable)], 0)] ∧
      hashing.isSubclass (.builtin .int) (.builtin .hashable) = true ∧
      ∃ view,
        (RegistryM.runOn (after hashing { table := .standard } providing)
            (viewOf hashing (.builtin .int))).1 = .ok view ∧
          ∀ name, ∀ member ∈ (view.get name).members,
            member.Fits hashing (after hashing { table := .standard } providing).providersOf
                (.builtin .int) ∧
              ∀ (engine : Engine) (target : Value) (values : List Value),
                values.length = member.arity →
                  engine.use member target values = member.role.handsOver engine target values :=
  ⟨declared_hashing, by decide +kernel, by decide,
    viewOf_fits declared_hashing .standard providing (.builtin .int)⟩

end Hashing

end Registry

end MemberDispatch
