import MemberDispatch.Proofs.Converter.Ranging
import MemberDispatch.Proofs.Host.Names
import MemberDispatch.Proofs.Library.UnsignedShift
import MemberDispatch.Proofs.Registry.Standard

/-!
# Counts of unsigned shifts

Whole numbers have the unsigned shift from the provider of numbers alone, which declares that it takes a
count of 32 bits. So a handler over the registry as it was prepared passes it nothing but what the test of
this width accepted.
-/

namespace MemberDispatch

def unsignedShift : String :=
  "shift_right_unsigned"

def unsignedShiftFunction : FunctionDecl where
  qualifiedName := "NumberFunctions.shift_right_unsigned"
  parameters := some
    [{ name := "v", type := .cls (.builtin .int) }, { name := "count", type := .ofWidth .int32 }]
  result := .cls (.builtin .int)
  code := .library .numberFunctions unsignedShift

def unsignedShiftMember : MemberFunction :=
  ⟨.staticMethod, unsignedShift, unsignedShift, unsignedShiftFunction⟩

theorem sources_showing_unsignedShift :
    (BuiltinClass.int.sources.filter fun source => source.2.shows unsignedShift) =
      [(.builtin .int, .numberFunctions)] := by
  decide +kernel

theorem entries_showing_unsignedShift :
    (BuiltinClass.numberFunctions.allEntries.filter fun entry => shownName entry == unsignedShift) =
      [(unsignedShift, .staticMethod unsignedShiftFunction)] := by
  with_unfolding_all rfl

theorem eq_unsignedShiftMember {world : World} {declared : MemberFunction}
    (stated : declared ∈ world.memberFunctions (.builtin .numberFunctions))
    (named : declared.name = unsignedShift) : declared = unsignedShiftMember := by
  rcases World.exists_entry_of_memberFunctions stated with ⟨entry, mem, found⟩
  have shown : shownName entry = unsignedShift :=
    (MemberFunction.name_of_ofEntry? found).trans named
  have only : entry ∈ BuiltinClass.numberFunctions.allEntries.filter fun entry =>
      shownName entry == unsignedShift :=
    List.mem_filter.mpr ⟨mem, beq_iff_eq.mpr shown⟩
  rw [entries_showing_unsignedShift, List.mem_singleton] at only
  subst only
  have exposed : MemberFunction.ofEntry? (unsignedShift, .staticMethod unsignedShiftFunction) =
      some unsignedShiftMember := by
    with_unfolding_all rfl
  exact Option.some.inj (found.symm.trans exposed)

theorem normal_unsignedShift (world : World) :
    unsignedShiftMember.Normal world (unsignedShiftFunction.parameters.getD [])
      [.cls (.builtin .int), .exact .int32] where
  known := rfl
  ordered := by simp [Parameter.Ordered, unsignedShiftFunction, Parameter.takesPosition,
    Parameter.isRequired]
  normalizes := rfl
  produces _ := by
    have result : ((unsignedShiftFunction.hint world.lookUpType?)
        unsignedShiftFunction.result).returnClass = some (.builtin .int) := rfl
    simp only [unsignedShiftMember, result, ne_eq, reduceCtorEq, not_false_eq_true]

theorem receiver_of_unsignedShift (hierarchy : Hierarchy) :
    (ValueIndex.ofKeys [.cls (.builtin .int), .exact .int32]).rule hierarchy (.builtin .int) =
      .ok (some 0) :=
  rfl

/-- That a member is the unsigned shift of the value that it is used on, by a count that the converter
of its width gave. -/
structure Member.Shifts (table : ConverterTable) (member : Member) : Prop where
  settles : table.Settles [.exact .int32] member.converters
  role : ∃ function, member.role = .injected function 0 ∧
    function.callable = .plain unsignedShiftFunction

theorem Member.IsShare.shifts {world : World} {table : ConverterTable} {member : Member}
    {declared : MemberFunction}
    (share : member.IsShare world (.builtin .numberFunctions) (.builtin .int) table declared)
    (named : member.name = unsignedShift) : member.Shifts table := by
  obtain rfl := eq_unsignedShiftMember share.stated (share.named.trans named)
  have normal := normal_unsignedShift world
  rcases share.shares with ⟨members, source, function, position, has, mem, stands, found, rfl⟩
  have counts := has.counts normal share.standing (named ▸ share.named)
  have arity : source.arity = 2 := by
    have among := List.mem_map_of_mem (f := Member.arity) mem
    rw [counts] at among
    exact List.mem_singleton.mp among
  obtain ⟨role, settles⟩ := has.members normal mem
  rw [arity] at role settles
  rw [stands] at role
  cases role
  cases (receiver_of_unsignedShift world.hierarchy).symm.trans found
  exact ⟨settles.eraseIdx 0, _, rfl, rfl⟩

namespace Registry

variable {world : World} {registry : Registry} {table : ConverterTable} {member : Member}

/-- Over a basic registry, what whole numbers have under the name of the unsigned shift is this shift. -/
theorem Basic.shifts (basic : registry.Basic world)
    (brought : member.Brought world registry.providersOf (.builtin .int) table)
    (named : member.name = unsignedShift) : member.Shifts table := by
  obtain ⟨source, among, sourced⟩ := basic.sourced brought
  have only : source ∈ BuiltinClass.int.sources.filter fun source =>
      source.2.shows unsignedShift :=
    List.mem_filter.mpr ⟨among, named ▸ sourced.shows⟩
  rw [sources_showing_unsignedShift, List.mem_singleton] at only
  -- The only source that shows the name is a provider, so no class above declares the member itself.
  generalize shape : source = place at sourced
  cases sourced with
  | declared declared =>
      cases shape.symm.trans only
  | exposed exposed =>
      cases shape.symm.trans only
      rcases exposed.isShare with ⟨declared, share⟩
      exact share.shifts named

end Registry

section Counting

variable {world : World} {level : ℕ} {member : Member} {table : ConverterTable}

/-- That a value is of the class of whole numbers in a session, and in the range of the width for counts
unless it is an object of a class that has an order of its own. -/
structure Value.IsCount (world : World) (count : Value) (session : Session) : Prop where
  instances : world.isSubclass (count.classOf session.objects) (.builtin .int) = true
  spans (leaves : world.Leaves ["__le__", "__ge__"] (count.classOf session.objects)) {number : ℤ}
    (whole : (count.content session.objects).Whole number) : Width.int32.Spans number

/-- A plain whole number that is a count is in range. -/
theorem Value.IsCount.spans_of_whole {count : Value} {session : Session} {number : ℤ}
    (isCount : count.IsCount world session) (whole : count.Whole number) :
    Width.int32.Spans number := by
  apply isCount.spans
  · rcases whole.classOf session.objects with ofClass | ofClass
    · exact ofClass ▸ world.leaves_builtin _ .int
    · exact ofClass ▸ world.leaves_builtin _ .bool
  · exact (whole.content session.objects).symm ▸ whole

theorem eq_of_standsFor_exact {hierarchy : Hierarchy} {width : Width} {key : TypeKey}
    (stands : table.StandsFor hierarchy (.exact width) key) : key = .exact width := by
  cases stands with
  | itself present => rfl

/-- The unsigned shift takes one argument, which comes to be a count. -/
theorem Member.Shifts.isCount (shifts : member.Shifts table) (declared : world.Declared)
    (plain : table.Plain) (orderly : table.Orderly world.hierarchy) {arguments values : List Value}
    {begun last : Session}
    (converts : (machine world (level + 1)).Converts member.converters arguments begun values last) :
    ∃ count, values = [count] ∧ count.IsCount world last := by
  have settles := shifts.settles
  generalize member.converters = converters at settles converts
  cases settles with
  | cons settled none =>
      cases none
      obtain ⟨stands, standard⟩ := plain.standsFor_of_settled declared orderly settled
      cases converts with
      | @next _ _ _ count _ _ _ _ _ first others =>
          cases others
          -- No key but the declared one stands for a width.
          have admits := Engine.admits_of_convert standard first
          rw [eq_of_standsFor_exact stands] at admits
          have accepts := Engine.accepts_of_admits admits nofun
          obtain ⟨instances, spans⟩ := Engine.spans_of_accepts (by decide) rfl accepts
          exact ⟨count, rfl, instances, fun leaves _ whole => spans leaves _ whole⟩

/-- The unsigned shift is used by calling the function of the provider with the value and the count. -/
theorem Member.Shifts.use_eq (shifts : member.Shifts table) {providersOf : ClassId → List Owner}
    (arises : member.Arises world providersOf (.builtin .int) table) (target count : Value) :
    (machine world (level + 1)).use member target [count] =
      (machine world level).callStatic .numberFunctions unsignedShift [target, count] := by
  rcases shifts.role with ⟨function, role, calls⟩
  have takes : [count].length = member.arity := shifts.settles.length_eq
  rw [Registry.use_of_arises arises _ target takes, role]
  change (machine world (level + 1)).call function.callable [target, count] = _
  rw [calls]
  have known : ((machine world level).world.entries (.builtin .numberFunctions)).lookup unsignedShift =
      some (.staticMethod unsignedShiftFunction) := rfl
  rw [Engine.callStatic, known]
  rfl

/-- That whatever a search finds in an index under the name of the unsigned shift is used on a value by
calling the function with this value and a count. -/
def Index.PassesCounts (world : World) (level : ℕ) (index : Index) : Prop :=
  ∀ {onlyPublic : Bool} {required : ClassId} {arguments : List Value} {extras : ℤ} {begun last : Session}
    {choice : Choice},
    ((machine world (level + 1)).choose index onlyPublic required arguments extras).runFrom begun =
        (.ok (some choice), last) →
      choice.member.name = unsignedShift →
        ∃ count, choice.arguments = [count] ∧ count.IsCount world last ∧
          ∀ target, (machine world (level + 1)).use choice.member target choice.arguments =
            (machine world level).callStatic .numberFunctions unsignedShift [target, count]

variable (level) in
/-- The view that a basic registry has of whole numbers passes counts under every name. -/
theorem Registry.Basic.passesCounts {registry : Registry} (declared : world.Declared)
    (basic : registry.Basic world) :
    ∃ view, registry.Shows world (.builtin .int) view ∧
      ∀ name, (view.get name).PassesCounts world level := by
  obtain ⟨view, table, answers, plain, orderly, brought⟩ := basic.brought declared (.builtin .int)
  refine ⟨view, ⟨basic.reached, answers⟩, ?_⟩
  intro name onlyPublic required arguments extras begun last choice found named
  obtain ⟨among, -⟩ := Engine.trial_of_choose found
  obtain ⟨start, converts⟩ := Engine.converts_of_choose found
  have comes := (brought name choice.member among).2
  have shifts := basic.shifts comes named
  obtain ⟨count, single, isCount⟩ := shifts.isCount declared plain orderly converts
  refine ⟨count, single, isCount, ?_⟩
  intro target
  rw [single]
  exact shifts.use_eq (comes.arises declared.coherent) target count

end Counting

namespace Engine

variable {world : World} {level : ℕ} {adaptor : Adaptor} {session between : Session} {id : ℕ}

section Oddities

/-- The count that a handler of numbers makes of an argument of the unsigned shift. -/
def foundCount (world : World) (session : Session) (argument : Value) : Option ℤ :=
  let search : Act (Option Choice) := do
    let index ← (machine world 3).resolveIndex (.number (some 0)) (.builtin .int) "shiftRightUnsigned"
    (machine world 3).choose index true .object [argument] 0
  match (search.runFrom session).1 with
  | .ok (some choice) =>
      if choice.member.name = unsignedShift then
        choice.arguments.head?.bind fun count => (count.content session.objects).int?
      else none
  | _ => none

/-- A session with the registry as it is prepared, and with objects. -/
def shiftingSession (world : World) (objects : Array Object) : Session where
  objects
  registries := #[Registry.standard world]

-- For any registry, as one that was prepared would be prepared again to be compared.
theorem registry_of_sole (world : World) (objects : Array Object) (registry : Registry) :
    ({ objects, registries := #[registry] } : Session).registries[0]? =
      some (Registry.after world registry []) :=
  rfl

theorem registry_of_shiftingSession (world : World) (objects : Array Object) :
    (shiftingSession world objects).registries[0]? =
      some (Registry.after world (Registry.standard world) []) :=
  registry_of_sole world objects (Registry.standard world)

/-- A comparison that always holds. -/
def alwaysHolds (name : String) : String × Entry :=
  (name, .method
    { qualifiedName := "Odd." ++ name
      parameters := some [{ name := "self" }, { name := "other" }]
      code := .body (.constant (.bool true)) })

/-- A class of whole numbers with an order of its own. -/
def oddities : World :=
  World.addClass {}
    { name := "Odd"
      bases := [.builtin .int]
      entries := [alwaysHolds "__ge__", alwaysHolds "__le__"] }

theorem not_writable_of_long : ¬ Writable (10 ^ 4300) := by
  rintro ⟨written, writes⟩
  have long : digitCount ((10 ^ 4300 : ℤ).natAbs) > digitLimit := by decide +kernel
  rw [writeInteger, if_pos long] at writes
  cases writes

end Oddities

end Engine

end MemberDispatch
