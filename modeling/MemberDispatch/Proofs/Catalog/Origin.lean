import Mathlib.Data.List.Forall2
import MemberDispatch.Proofs.Catalog.Steps
import MemberDispatch.Proofs.Index.Order
import MemberDispatch.Proofs.Member.ValueIndex

/-!
# Where members come from

Every member of a catalog is one that the owner offers, and its converters are those that the table
has settled on for the keys of the offer. A member that stands by itself can become one of values:
then one of the parameters, declared with a key that the values can be passed for, receives them, and
the caller supplies the others.
-/

namespace MemberDispatch

theorem mem_putEntry {β : Type} {key : String} {value : β} {entries : List (String × β)}
    {entry : String × β} (mem : entry ∈ putEntry key value entries) :
    entry = (key, value) ∨ entry ∈ entries := by
  induction entries with
  | nil => exact .inl (List.mem_singleton.mp mem)
  | cons first entries ih =>
      rcases first with ⟨name, old⟩
      rw [putEntry] at mem
      split at mem
      · exact (List.mem_cons.mp mem).imp_right (List.mem_cons_of_mem _)
      · rcases List.mem_cons.mp mem with rfl | mem
        · exact .inr List.mem_cons_self
        · exact (ih mem).imp_right (List.mem_cons_of_mem _)

namespace ConverterTable

variable {table larger : ConverterTable} {keys : List TypeKey} {converters : List Converter}

/-- That a table has settled on converters for keys. -/
def Settles (table : ConverterTable) (keys : List TypeKey) (converters : List Converter) : Prop :=
  List.Forall₂ (fun key converter => table.settled? key = some converter) keys converters

theorem Settles.extend (settles : table.Settles keys converters)
    (extension : larger.Extends table) : larger.Settles keys converters := by
  refine List.Forall₂.imp ?_ settles
  intro key converter settled
  exact extension key converter settled

theorem settles_lookupAll (hierarchy : Hierarchy) (table : ConverterTable) (keys : List TypeKey) :
    (table.lookupAll hierarchy keys).2.Settles keys (table.lookupAll hierarchy keys).1 := by
  induction keys generalizing table with
  | nil => exact .nil
  | cons key keys ih =>
      have first : (table.lookup hierarchy key).2.settled? key =
          some (table.lookup hierarchy key).1 := by
        rw [settled_lookup, if_pos rfl]
      have grows := (repeatable_lookupAll hierarchy keys).grows (table.lookup hierarchy key).2
      exact .cons (grows.keeps key _ first) (ih _)

theorem Settles.eraseIdx (settles : table.Settles keys converters) (position : ℕ) :
    table.Settles (keys.eraseIdx position) (converters.eraseIdx position) := by
  induction settles generalizing position with
  | nil => exact .nil
  | cons first others ih =>
      cases position with
      | zero => exact others
      | succ position => exact .cons first (ih position)

end ConverterTable

/-- That a property holds of all members in indexes. -/
def EachMember (property : Member → Prop) (indexes : List (String × Index)) : Prop :=
  ∀ entry ∈ indexes, ∀ member ∈ entry.2.accepted, property member

theorem EachMember.imp {property weaker : Member → Prop} {indexes : List (String × Index)}
    (each : EachMember property indexes) (implies : ∀ member, property member → weaker member) :
    EachMember weaker indexes :=
  fun entry listed member mem => implies member (each entry listed member mem)

/-- A member that stands under a name once one was added stood there before, or it is that one. -/
theorem mem_accepted_of_mem_addTo {indexes : List (String × Index)} {member other : Member}
    {entry : String × Index} (listed : entry ∈ CatalogBuilder.addTo indexes member)
    (mem : other ∈ entry.2.accepted) :
    (∃ index, (entry.1, index) ∈ indexes ∧ other ∈ index.accepted) ∨
      entry.1 = member.name ∧ other = member := by
  rcases mem_putEntry listed with rfl | listed
  · rcases List.mem_append.mp mem with old | last
    · rcases found : indexes.lookup member.name with _ | index
      · rw [found] at old
        cases old
      · rw [found] at old
        exact .inl ⟨index, mem_of_lookup found, old⟩
    · exact .inr ⟨rfl, List.mem_singleton.mp last⟩
  · exact .inl ⟨entry.2, listed, mem⟩

theorem EachMember.addTo {property : Member → Prop} {indexes : List (String × Index)}
    (each : EachMember property indexes) {member : Member} (new : property member) :
    EachMember property (CatalogBuilder.addTo indexes member) := by
  intro entry listed other mem
  rcases mem_accepted_of_mem_addTo listed mem with ⟨index, before, old⟩ | ⟨-, rfl⟩
  · exact each _ before other old
  · exact new

/-- That all members in indexes stand under their own names. -/
def EachNamed (indexes : List (String × Index)) : Prop :=
  ∀ entry ∈ indexes, ∀ member ∈ entry.2.accepted, member.name = entry.1

theorem EachNamed.addTo {indexes : List (String × Index)} (named : EachNamed indexes)
    (member : Member) : EachNamed (CatalogBuilder.addTo indexes member) := by
  intro entry listed other mem
  rcases mem_accepted_of_mem_addTo listed mem with ⟨index, before, old⟩ | ⟨under, rfl⟩
  · exact named _ before other old
  · exact under.symm

/-- Every step of a catalog puts members under their names. -/
theorem CatalogBuilder.Steps.named {hierarchy : Hierarchy} {step : CatalogBuilder → CatalogBuilder}
    (steps : Steps hierarchy step) {builder : CatalogBuilder}
    (named : EachNamed builder.instanceMembers ∧ EachNamed builder.staticMembers) :
    EachNamed (step builder).instanceMembers ∧ EachNamed (step builder).staticMembers := by
  induction steps generalizing builder with
  | none => exact named
  | next before behind ihBefore ihBehind => exact ihBehind (ihBefore named)
  | report event => exact named
  | field name returns ownName =>
      beta_reduce
      rcases builder.addField_cases name returns ownName with same | ⟨produced, -, added⟩
      · rwa [same]
      · rw [added]
        exact ⟨named.1.addTo _, named.2⟩
  | ofValues keys member => exact ⟨named.1.addTo _, named.2⟩
  | standalone keys member => exact ⟨named.1, named.2.addTo _⟩

theorem Catalog.named_making (world : World) (owner : Owner) (table : ConverterTable) :
    EachNamed (Catalog.making world owner table).1.instanceMembers ∧
      EachNamed (Catalog.making world owner table).1.staticMembers := by
  have fresh : EachNamed ({ table } : CatalogBuilder).instanceMembers ∧
      EachNamed ({ table } : CatalogBuilder).staticMembers :=
    ⟨fun _ listed => absurd listed List.not_mem_nil, fun _ listed => absurd listed List.not_mem_nil⟩
  simp only [Catalog.making, Catalog.build_eq]
  exact (CatalogBuilder.steps_stepsFor world owner).named fresh

/-- That a member is one that an owner offers, with converters that a table has settled on. -/
def Member.Stems (world : World) (owner : Owner) (table : ConverterTable) (member : Member) : Prop :=
  ∃ keys, world.Offers owner keys member.name member.role ∧ table.Settles keys member.converters

theorem Member.Stems.extend {world : World} {owner : Owner} {table larger : ConverterTable}
    (extension : larger.Extends table) (member : Member) (stems : member.Stems world owner table) :
    member.Stems world owner larger := by
  obtain ⟨keys, offered, settles⟩ := stems
  exact ⟨keys, offered, settles.extend extension⟩

/-- That all members of a catalog in the making stem from its owner. -/
structure CatalogBuilder.Stems (world : World) (owner : Owner) (builder : CatalogBuilder) :
    Prop where
  ofValues : EachMember (Member.Stems world owner builder.table) builder.instanceMembers
  standing : EachMember (Member.Stems world owner builder.table) builder.staticMembers

namespace CatalogBuilder

variable {world : World} {owner : Owner} {builder : CatalogBuilder}

theorem Stems.addField (stems : builder.Stems world owner) (name : String)
    (returns : Option ClassId) (ownName : String) :
    (builder.addField name returns ownName).Stems world owner := by
  rcases builder.addField_cases name returns ownName with same | ⟨produced, -, added⟩
  · rwa [same]
  · rw [added]
    exact ⟨stems.ofValues.addTo ⟨[], .field name _, .nil⟩, stems.standing⟩

/-- What the table settled on stays when it is asked for more keys. -/
theorem Stems.askMore (stems : builder.Stems world owner) (keys : List TypeKey) :
    EachMember (Member.Stems world owner (builder.table.lookupAll world.hierarchy keys).2)
        builder.instanceMembers ∧
      EachMember (Member.Stems world owner (builder.table.lookupAll world.hierarchy keys).2)
        builder.staticMembers := by
  have grows := (repeatable_lookupAll world.hierarchy keys).grows builder.table
  exact ⟨stems.ofValues.imp (Member.Stems.extend grows.keeps),
    stems.standing.imp (Member.Stems.extend grows.keeps)⟩

theorem Makes.stems {step : CatalogBuilder → CatalogBuilder} (makes : Makes world owner step)
    (stems : builder.Stems world owner) : (step builder).Stems world owner := by
  induction makes generalizing builder with
  | none => exact stems
  | next before behind ihBefore ihBehind => exact ihBehind (ihBefore stems)
  | report event => exact ⟨stems.ofValues, stems.standing⟩
  | field name returns ownName => exact stems.addField name returns ownName
  | ofValues keys member offered =>
      obtain ⟨ofValues, standing⟩ := stems.askMore keys
      refine ⟨ofValues.addTo ?_, standing⟩
      exact ⟨keys, offered, ConverterTable.settles_lookupAll world.hierarchy builder.table keys⟩
  | standalone keys member offered =>
      obtain ⟨ofValues, standing⟩ := stems.askMore keys
      refine ⟨ofValues, standing.addTo ?_⟩
      exact ⟨keys, offered, ConverterTable.settles_lookupAll world.hierarchy builder.table keys⟩

end CatalogBuilder

/-- The members of a catalog stem from its owner. -/
theorem Catalog.stems_making (world : World) (owner : Owner) (table : ConverterTable) :
    EachMember (Member.Stems world owner (Catalog.making world owner table).2)
        (Catalog.making world owner table).1.instanceMembers ∧
      EachMember (Member.Stems world owner (Catalog.making world owner table).2)
        (Catalog.making world owner table).1.staticMembers := by
  have fresh : CatalogBuilder.Stems world owner { table } :=
    ⟨fun _ listed => absurd listed List.not_mem_nil, fun _ listed => absurd listed List.not_mem_nil⟩
  obtain ⟨ofValues, standing⟩ := (CatalogBuilder.makes_stepsFor world owner).stems fresh
  simp only [Catalog.making, Catalog.build_eq]
  exact ⟨ofValues, standing⟩

section Receiving

theorem Member.exists_of_forValue {hierarchy : Hierarchy} {cls : ClassId} {member received : Member}
    (receives : member.forValue hierarchy cls = .ok (some received)) :
    ∃ function position, member.role = .static function ∧
      function.receivers.rule hierarchy cls = .ok (some position) ∧
        received = member.inject function position := by
  unfold Member.forValue at receives
  split at receives
  · rename_i function stands
    rcases found : function.receivers.rule hierarchy cls with issue | answer
    · rw [found] at receives
      cases receives
    · rw [found] at receives
      cases answer with
      | none => cases receives
      | some position =>
          cases receives
          exact ⟨function, position, stands, found, rfl⟩
  · cases receives

namespace ValueIndex

/-- That an index records positions of keys only where they stand. -/
def Records (index : ValueIndex) (keys : List TypeKey) : Prop :=
  ∀ entry ∈ index.first, keys[entry.2]? = some entry.1

theorem records_ofKeys (keys : List TypeKey) : (ofKeys keys).Records keys := by
  rintro ⟨key, position⟩ mem
  obtain ⟨there, rfl⟩ := ((indexes_ofKeys keys).mem_iff key position).mp mem
  exact List.getElem?_idxOf there

/-- The position that receives values of a class is declared with a key that they can be passed
for. -/
theorem Records.key_of_rule {hierarchy : Hierarchy} {index : ValueIndex} {keys : List TypeKey}
    (records : index.Records keys) {cls : ClassId} {position : ℕ}
    (receives : index.rule hierarchy cls = .ok (some position)) :
    ∃ key, keys[position]? = some key ∧ hierarchy.assignable key cls = true := by
  unfold rule at receives
  split at receives
  · rename_i found same
    cases receives
    exact ⟨.cls cls, records _ (mem_of_lookup same), by simp [Hierarchy.assignable]⟩
  · split at receives
    · cases receives
    · rename_i key found only
      cases receives
      have mem : (key, position) ∈ index.candidates hierarchy cls := by simp [only]
      obtain ⟨there, assignable⟩ := List.mem_filter.mp mem
      exact ⟨key, records _ there, assignable⟩
    · cases receives

end ValueIndex

end Receiving

/-- The members that a catalog exposes: those that it lists, and for a class those that receive its
values. -/
inductive Catalog.Exposes (hierarchy : Hierarchy) (catalog : Catalog) :
    Option ClassId → Member → Prop
  | ofValues {entry : String × Index} {member : Member} (listed : entry ∈ catalog.instanceMembers)
      (mem : member ∈ entry.2.members) : Exposes hierarchy catalog none member
  | standing {entry : String × Index} {member : Member} (listed : entry ∈ catalog.staticMembers)
      (mem : member ∈ entry.2.members) : Exposes hierarchy catalog none member
  | receiving {entry : String × Index} {source member : Member} {cls : ClassId}
      (listed : entry ∈ catalog.staticMembers) (mem : source ∈ entry.2.members)
      (receives : source.forValue hierarchy cls = .ok (some member)) :
      Exposes hierarchy catalog (some cls) member

/-- The keys of the arguments that a caller supplies to a member, by the declarations of its owner. A
function that receives values of a class has one more parameter, with a key that they can be passed
for. -/
inductive World.Supplies (world : World) (owner : Owner) :
    Option ClassId → List TypeKey → String → Role → Prop
  | all {keys : List TypeKey} {name : String} {role : Role}
      (offered : world.Offers owner keys name role) : Supplies world owner none keys name role
  | others {keys : List TypeKey} {name : String} {function : StaticFunction} {position : ℕ}
      {key : TypeKey} {cls : ClassId} (offered : world.Offers owner keys name (.static function))
      (receiver : keys[position]? = some key)
      (assignable : world.hierarchy.assignable key cls = true) :
      Supplies world owner (some cls) (keys.eraseIdx position) name (.injected function position)

theorem World.Offers.records {world : World} {owner : Owner} {keys : List TypeKey} {name : String}
    {function : StaticFunction} (offered : world.Offers owner keys name (.static function)) :
    function.receivers.Records keys := by
  cases offered
  exact ValueIndex.records_ofKeys _

/-- What a catalog exposes is supplied with arguments for the declared keys, and takes the converters
that the table has settled on for them. -/
theorem Catalog.supplies_making {world : World} {owner : Owner} {table : ConverterTable}
    {receiver : Option ClassId} {member : Member}
    (exposes : (Catalog.making world owner table).1.Exposes world.hierarchy receiver member) :
    ∃ keys, world.Supplies owner receiver keys member.name member.role ∧
      (Catalog.making world owner table).2.Settles keys member.converters := by
  obtain ⟨ofValues, standing⟩ := Catalog.stems_making world owner table
  have accepted (index : Index) {member : Member} (mem : member ∈ index.members) :
      member ∈ index.accepted := (sortMembers_perm index.accepted).mem_iff.mp mem
  cases exposes with
  | ofValues listed mem =>
      obtain ⟨keys, offered, settles⟩ := ofValues _ listed member (accepted _ mem)
      exact ⟨keys, .all offered, settles⟩
  | standing listed mem =>
      obtain ⟨keys, offered, settles⟩ := standing _ listed member (accepted _ mem)
      exact ⟨keys, .all offered, settles⟩
  | @receiving entry source member cls listed mem receives =>
      obtain ⟨keys, offered, settles⟩ := standing _ listed source (accepted _ mem)
      obtain ⟨function, position, stands, found, rfl⟩ := Member.exists_of_forValue receives
      rw [stands] at offered
      obtain ⟨key, receiver, assignable⟩ := offered.records.key_of_rule found
      exact ⟨_, .others offered receiver assignable, settles.eraseIdx position⟩

end MemberDispatch
