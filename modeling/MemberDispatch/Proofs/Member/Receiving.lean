import MemberDispatch.Proofs.Catalog.Origin
import MemberDispatch.Proofs.Index.Landing

/-!
# The value among the arguments

A function that receives a value at one of its parameters is called with one argument for each of
them. The caller's arguments are converted one after the other for the other parameters, and then the
value is put in its place between them. So the arguments in front of the value keep their positions
and those behind it move up by one, which is how the keys lie that the function was declared with.
-/

namespace MemberDispatch

section Positions

variable {α : Type} {items : List α} {hole position : ℕ}

theorem getElem?_eraseIdx_of_ne (other : position ≠ hole) :
    (items.eraseIdx hole)[if position < hole then position else position - 1]? =
      items[position]? := by
  rw [List.getElem?_eraseIdx]
  by_cases front : position < hole
  · simp [front]
  · have behind : ¬ position - 1 < hole := by omega
    have back : position - 1 + 1 = position := by omega
    simp [front, behind, back]

theorem getElem?_insertIdx_of_ne (other : position ≠ hole) (item : α) :
    (items.insertIdx hole item)[position]? =
      items[if position < hole then position else position - 1]? := by
  rw [List.getElem?_insertIdx]
  by_cases front : position < hole
  · simp [front]
  · simp [front, other]

end Positions

/-- What using a member does with arguments, all of which it takes. -/
def Role.handsOver (engine : Engine) (target : Value) (values : List Value) : Role → Act Value
  | .abstract => throw (.raised .notImplemented .silent)
  | .field getter => engine.call getter [target]
  | .method callable => engine.call callable (target :: values)
  | .static function => engine.call function.callable values
  | .injected function position => engine.call function.callable (values.insertIdx position target)

namespace Engine

variable {engine : Engine} {converters : List Converter} {arguments values : List Value}
  {session last : Session}

theorem Converts.exists_of_getElem?
    (converts : engine.Converts converters arguments session values last) {position : ℕ}
    {converter : Converter} (there : converters[position]? = some converter) :
    ∃ argument value before behind, arguments[position]? = some argument ∧
      values[position]? = some value ∧
        (engine.convert converter argument).runFrom before = (.ok value, behind) := by
  induction converts generalizing position with
  | done => simp at there
  | @next first others argument value arguments values session between last made rest ih =>
      cases position with
      | zero =>
          cases there
          exact ⟨argument, value, session, between, rfl, rfl, made⟩
      | succ position => exact ih there

/-- With no extras, arguments that fit a member were all converted for it, and nothing else was
done. -/
theorem converts_of_convertFor_zero {member : Member}
    (fits : (engine.convertFor? member arguments 0).runFrom session = (.ok (some values), last)) :
    engine.Converts member.converters arguments session values last := by
  have takes : member.arity = arguments.length := by
    obtain ⟨start, converts⟩ := converts_of_convertFor fits
    obtain ⟨left, right⟩ := converts.lengths
    exact left.trans right.symm
  have all : member.converters.take arguments.length = member.converters := by
    rw [← takes]
    exact List.take_length
  have none : member.converters.drop arguments.length = [] := by
    rw [← takes]
    exact List.drop_length
  have bounded : 0 ≤ arguments.length := Nat.zero_le _
  rcases fits_or_misfits engine takes arguments.length session with
    ⟨made, after, fit⟩ | ⟨cause, after, misfit⟩
  · have run := Fits.run bounded takes fit
    rw [Int.ofNat_zero, fits] at run
    obtain ⟨converted, suited⟩ := fit
    rw [all, List.take_length] at converted
    rw [none, List.drop_length] at suited
    cases suited
    simp only [Nat.sub_zero, List.drop_length, List.append_nil, Prod.mk.injEq, Except.ok.injEq,
      Option.some.injEq] at run
    rw [run.1, run.2]
    exact converted
  · have run := Misfits.run bounded takes misfit
    rw [Int.ofNat_zero, fits] at run
    cases cause with
    | none => cases run
    | some fault =>
        rw [trialOutcome] at run
        split at run <;> cases run

theorem use_eq_handsOver {member : Member}
    (takes : values.length = member.arity)
    (within : ∀ function position, member.role = .injected function position →
      position ≤ values.length) (target : Value) :
    engine.use member target values = member.role.handsOver engine target values := by
  have all : values.take member.arity = values := by rw [← takes, List.take_length]
  unfold Engine.use
  simp only [all]
  rcases role : member.role with _ | getter | callable | function | ⟨function, position⟩
  case injected =>
    simp only [Nat.min_eq_left (within function position role)]
    rfl
  all_goals rfl

/-- That a call has one argument for each parameter: a target for the one that receives it, and for
every other one what the converter of its key made of the caller's argument. -/
structure Places (engine : Engine) (converterOf : TypeKey → Converter) (keys : List TypeKey)
    (receiver : ℕ) (target : Value) (arguments full : List Value) : Prop where
  length_eq : full.length = keys.length
  received : full[receiver]? = some target
  others {position : ℕ} {key : TypeKey} (declared : keys[position]? = some key)
    (other : position ≠ receiver) :
    ∃ argument value before behind,
      arguments[if position < receiver then position else position - 1]? = some argument ∧
        full[position]? = some value ∧
          (engine.convert (converterOf key) argument).runFrom before = (.ok value, behind)

theorem Converts.places {converterOf : TypeKey → Converter} {keys : List TypeKey} {receiver : ℕ}
    (within : receiver < keys.length)
    (converts : engine.Converts ((keys.map converterOf).eraseIdx receiver) arguments session values
      last) (target : Value) :
    engine.Places converterOf keys receiver target arguments (values.insertIdx receiver target) := by
  have counts : keys.length = values.length + 1 := by
    have same := converts.length_eq
    rw [List.length_eraseIdx_of_lt (by simpa using within), List.length_map] at same
    omega
  have fits : receiver ≤ values.length := by omega
  refine ⟨?_, ?_, ?_⟩
  · rw [List.length_insertIdx_of_le_length fits, counts]
  · rw [List.getElem?_insertIdx_self, if_pos fits]
  · intro position key declared other
    have mine : ((keys.map converterOf).eraseIdx receiver)[
        if position < receiver then position else position - 1]? = some (converterOf key) := by
      rw [getElem?_eraseIdx_of_ne other, List.getElem?_map, declared, Option.map_some]
    obtain ⟨argument, value, before, behind, given, made, converted⟩ :=
      converts.exists_of_getElem? mine
    refine ⟨argument, value, before, behind, given, ?_, converted⟩
    rw [getElem?_insertIdx_of_ne other]
    exact made

end Engine

namespace ConverterTable

/-- Looking up keys that a table has settled on finds their converters. -/
theorem Settles.eq_map {table : ConverterTable} {keys : List TypeKey} {converters : List Converter}
    (hierarchy : Hierarchy) (settles : table.Settles keys converters) :
    converters = keys.map fun key => (table.lookup hierarchy key).1 := by
  induction settles with
  | nil => rfl
  | cons settled others ih => rw [List.map_cons, lookup_of_settled settled, ← ih]

end ConverterTable

namespace Catalog

/-- A function of a catalog that receives a value is called once, with the value at the parameter that
receives it and at the others the caller's arguments, converted one after the other. -/
theorem use_of_forValue {world : World} {owner : Owner} {table after : ConverterTable}
    {catalog : Catalog} (made : Catalog.making world owner table = (catalog, after))
    {entry : String × Index} (listed : entry ∈ catalog.staticMembers) {member received : Member}
    (mem : member ∈ entry.2.members) {cls : ClassId}
    (receives : member.forValue world.hierarchy cls = .ok (some received)) {engine : Engine}
    {arguments values : List Value} {session last : Session}
    (fits : (engine.convertFor? received arguments 0).runFrom session = (.ok (some values), last)) :
    ∃ function receiver keys, received.role = .injected function receiver ∧
      world.Offers owner keys member.name (.static function) ∧
      keys.length = member.arity ∧ receiver < member.arity ∧
      arguments.length + 1 = member.arity ∧
      engine.Converts ((keys.map fun key => (after.lookup world.hierarchy key).1).eraseIdx receiver)
        arguments session values last ∧
      ∀ target, ∃ full,
        engine.use received target values = engine.call function.callable full ∧
          engine.Places (fun key => (after.lookup world.hierarchy key).1) keys receiver target
            arguments full := by
  obtain ⟨function, receiver, stands, found, rfl⟩ := Member.exists_of_forValue receives
  -- The keys of the declaration are those that the converters of the member were looked up for.
  have stems := (Catalog.stems_making world owner table).2
  rw [made] at stems
  obtain ⟨keys, offered, settles⟩ :=
    stems entry listed member ((sortMembers_perm entry.2.accepted).mem_iff.mp mem)
  rw [stands] at offered
  have looked := settles.eq_map world.hierarchy
  have arity : keys.length = member.arity := settles.length_eq
  obtain ⟨key, declared, -⟩ := offered.records.key_of_rule found
  obtain ⟨within, -⟩ := List.getElem?_eq_some_iff.mp declared
  have converts := Engine.converts_of_convertFor_zero fits
  change engine.Converts (member.converters.eraseIdx receiver) arguments session values last
    at converts
  obtain ⟨taken, given⟩ := converts.lengths
  have others : (member.converters.eraseIdx receiver).length + 1 = member.arity := by
    rw [List.length_eraseIdx_of_lt (by rwa [← settles.length_eq]), Member.arity]
    have := settles.length_eq
    omega
  rw [looked] at converts
  refine ⟨function, receiver, keys, rfl, offered, arity, by omega, by omega, converts, ?_⟩
  intro target
  have used : engine.use (member.inject function receiver) target values =
      engine.call function.callable (values.insertIdx receiver target) := by
    refine Engine.use_eq_handsOver taken.symm ?_ target
    rintro _ _ ⟨⟩
    omega
  exact ⟨values.insertIdx receiver target, used, converts.places within target⟩

section Weighing

/-- A function that takes a flag, a value of a class and, if need be, a number. -/
def weigh : FunctionDecl where
  qualifiedName := "K.weigh"
  parameters := some
    [{ name := "flag", type := .cls (.builtin .bool) }, { name := "k", type := .cls (.declared "K") },
      { name := "n", type := .cls (.builtin .int), default := some (.int 0) }]
  code := .body .echo

/-- The class with that function. -/
def weighing : World :=
  World.addClass {} { name := "K", entries := [("weigh", .staticMethod weigh)] }

/-- The function with all three parameters. -/
def weigher : StaticFunction where
  callable := .plain weigh
  receivers := ValueIndex.ofKeys [.cls (.builtin .bool), .cls (.declared "K"), .cls (.builtin .int)]
  qualifiedName := "K.weigh"

/-- The member for it, with the converters that the standard table has and a placeholder for the
class. -/
def weighed : Member where
  name := "weigh"
  converters := [⟨7, .cls (.builtin .bool), some .bool⟩, ⟨11, .cls (.declared "K"), none⟩,
    ⟨1, .cls (.builtin .int), some .int⟩]
  returns := .object
  role := .static weigher

theorem mem_staticMembers_weighing :
    ∃ entry ∈ (Catalog.making weighing (.cls (.declared "K")) .standard).1.staticMembers,
      weighed ∈ entry.2.members := by
  obtain ⟨shorter, listed⟩ : ∃ shorter,
      (Catalog.making weighing (.cls (.declared "K")) .standard).1.staticMembers =
        [("weigh", ⟨"weigh", [shorter, weighed]⟩)] := by
    refine ⟨{ weighed with
      converters := weighed.converters.take 2
      role := .static { weigher with
        receivers := ValueIndex.ofKeys [.cls (.builtin .bool), .cls (.declared "K")] } }, ?_⟩
    with_unfolding_all rfl
  refine ⟨("weigh", ⟨"weigh", [shorter, weighed]⟩), ?_, ?_⟩
  · rw [listed]
    exact List.mem_cons_self
  · refine (sortMembers_perm [shorter, weighed]).mem_iff.mpr ?_
    exact List.mem_cons_of_mem _ List.mem_cons_self

/-- A number that stands for the flag goes in front of the value of the class and another one behind
it. -/
theorem use_of_forValue_weighed :
    ∃ catalog after received keys,
      Catalog.making weighing (.cls (.declared "K")) .standard = (catalog, after) ∧
      (∃ entry ∈ catalog.staticMembers, weighed ∈ entry.2.members) ∧
      weighed.forValue weighing.hierarchy (.declared "K") = .ok (some received) ∧
      (weighing.engine.convertFor? received [.int 1, .int 5] 0).runFrom {} =
        (.ok (some [.bool true, .int 5]), {}) ∧
      ∀ target, ∃ full,
        weighing.engine.use received target [.bool true, .int 5] =
            weighing.engine.call (.plain weigh) full ∧
          weighing.engine.Places (fun key => (after.lookup weighing.hierarchy key).1) keys 1
            target [.int 1, .int 5] full := by
  obtain ⟨entry, listed, mem⟩ := mem_staticMembers_weighing
  have receives : weighed.forValue weighing.hierarchy (.declared "K") =
      .ok (some (weighed.inject weigher 1)) := by
    rfl
  have fits : (weighing.engine.convertFor? (weighed.inject weigher 1) [.int 1, .int 5] 0).runFrom
      {} = (.ok (some [.bool true, .int 5]), {}) := by
    with_unfolding_all rfl
  obtain ⟨function, receiver, keys, role, -, -, -, -, -, used⟩ :=
    use_of_forValue rfl listed mem receives fits
  obtain ⟨rfl, rfl⟩ : weigher = function ∧ 1 = receiver := by
    simpa [Member.inject] using role
  exact ⟨_, _, _, keys, rfl, ⟨entry, listed, mem⟩, receives, fits, used⟩

end Weighing

end Catalog

end MemberDispatch
