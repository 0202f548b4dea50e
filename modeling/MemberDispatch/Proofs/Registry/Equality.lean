import MemberDispatch.Proofs.Registry.Operators

/-!
# Tests for equality

A method that tests for equality with anything is offered for what converts to its class and for
nothing else. This goes for every class by itself. The view of a class has the tests of all classes
above it, and that of the class of all objects takes whatever there is, so a value that the class
itself has no use for is left to the inherited test.
-/

namespace MemberDispatch

namespace Registry

variable {world : World} {registry : Registry}

/-- A converter that the table has settled on is the one that is looked up. -/
theorem lookupConverter_of_settled {key : TypeKey} {converter : Converter}
    (settled : registry.table.settled? key = some converter) :
    (RegistryM.runOn registry (lookupConverter world key)).1 = .ok converter := by
  have found : registry.table.lookup world.hierarchy key = (converter, registry.table) :=
    ConverterTable.lookup_of_settled settled
  rw [runOn_eq]
  simp only [lookupConverter, RegistryM.runFrom_bind, runFrom_current, runFrom_update, found]
  rw [if_neg (Nat.lt_irrefl _)]
  rfl

end Registry

/-- Where a member that is found by the name of a test for equality, with one argument, comes from, and
which converter it takes the argument with. A registry says what the converters for keys are. -/
inductive Member.Tests (world : World) (registry : Registry) (cls : ClassId)
    (converter : Converter) (member : Member) : Prop
  | anything {ancestor : ClassId} {ownName : String} {function : FunctionDecl}
      {signature : Signature} (above : ancestor ∈ world.linearization cls)
      (isMethod : member.IsMethod world ancestor registry.table ownName function signature)
      (any : signature.keys.take 1 = [.object])
      (narrowed : (RegistryM.runOn registry (Registry.lookupConverter world (.cls ancestor))).1 =
        .ok converter)
  | something {ancestor : ClassId} {ownName : String} {function : FunctionDecl}
      {signature : Signature} {key : TypeKey} (above : ancestor ∈ world.linearization cls)
      (isMethod : member.IsMethod world ancestor registry.table ownName function signature)
      (takes : signature.keys.take 1 = [key]) (particular : key ≠ .object)
      (declared : (RegistryM.runOn registry (Registry.lookupConverter world key)).1 =
        .ok converter)
  | received {ancestor target : ClassId} {owner : Owner} {function : StaticFunction} {position : ℕ}
      (above : ancestor ∈ world.linearization cls)
      (brings : owner = .cls ancestor ∨ owner ∈ registry.providersOf ancestor)
      (receives : member.Receives world owner ancestor target function position)

variable {world : World} {registry : Registry} {cls : ClassId} {member : Member}
  {converter : Converter}

/-- The key of a method's only argument, and the converter for it. -/
theorem Member.IsMethod.key_of_single {table : ConverterTable} {ownName : String}
    {function : FunctionDecl} {signature : Signature}
    (isMethod : member.IsMethod world cls table ownName function signature)
    (single : member.converters = [converter]) :
    ∃ key, signature.methodKeys cls member.name 1 = [key] ∧ table.settled? key = some converter := by
  have settles := isMethod.settles
  rw [Member.arity, single, List.length_singleton] at settles
  generalize signature.methodKeys cls member.name 1 = keys at settles
  cases settles with
  | cons settled others =>
      cases others
      exact ⟨_, rfl, settled⟩

theorem Signature.methodKeys_of_any {signature : Signature} (any : signature.keys.take 1 = [.object])
    {name : String} (named : name ∈ equalityNames) (cls : ClassId) :
    signature.methodKeys cls name 1 = [.cls cls] := by
  rw [methodKeys, any, if_pos (by simpa using named)]

/-- The converter that a test for equality with anything takes its argument with is the one for the
class that declares the test. -/
theorem Member.IsMethod.narrowed {ownName : String} {function : FunctionDecl} {signature : Signature}
    (isMethod : member.IsMethod world cls registry.table ownName function signature)
    (named : member.name ∈ equalityNames) (any : signature.keys.take 1 = [.object])
    (single : member.converters = [converter]) :
    (RegistryM.runOn registry (Registry.lookupConverter world (.cls cls))).1 = .ok converter := by
  obtain ⟨key, keys, settled⟩ := isMethod.key_of_single single
  rw [signature.methodKeys_of_any any named] at keys
  cases keys
  exact Registry.lookupConverter_of_settled settled

theorem Member.Arises.tests
    (arises : member.Arises world registry.providersOf cls registry.table)
    (named : member.name ∈ equalityNames) (single : member.converters = [converter]) :
    member.Tests world registry cls converter := by
  cases arises with
  | received above brings receives => exact .received above brings receives
  | declared above declared =>
      rcases declared.isField_or_isMethod with
        ⟨getter, role, takesNone⟩ | ⟨ownName, function, signature, isMethod⟩
      · rw [takesNone] at single
        cases single
      · by_cases any : signature.keys.take 1 = [.object]
        · exact .anything above isMethod any (isMethod.narrowed named any single)
        · obtain ⟨key, keys, settled⟩ := isMethod.key_of_single single
          rw [Signature.methodKeys, if_neg (by simp [any])] at keys
          have particular : key ≠ .object := by
            rintro rfl
            exact any keys
          exact .something above isMethod keys particular
            (Registry.lookupConverter_of_settled settled)

namespace Registry

/-- Asking for a view changes no list of providers. -/
theorem providersOf_get (declared : world.Declared) (table : ConverterTable)
    (operations : List Operation) (cls : ClassId) :
    (after world { table } (operations ++ [.get cls])).providersOf =
      (after world { table } operations).providersOf := by
  have coherent := declared.coherent
  have begun : Sound world { table } := sound_of_empty rfl rfl
  have sound := (sound_after coherent begun operations).1
  rw [after_append]
  exact congrArg Essence.providersOf
    ((Operation.get cls).settles coherent sound { registry := after world { table } operations } rfl).2

/-- After any run, what is found for one argument by the name of a test for equality converts the
argument. A test for equality with anything converts it to the class that declares the test; so a
class's own test is not found for what the class's converter refuses, and only what stands above it, or
takes something in particular, is. -/
theorem lookup_tests (declared : world.Declared) (table : ConverterTable)
    (operations : List Operation) (cls : ClassId) {name : String} (named : name ∈ equalityNames) :
    ∃ index,
      (RegistryM.runOn (after world { table } operations) (Registry.lookup world cls name)).1 =
        .ok index ∧
      ∀ {engine : Engine} {onlyPublic : Bool} {required : ClassId} {argument : Value}
        {values : List Value} {extras : ℤ} {session last : Session} {member : Member},
        (engine.choose index onlyPublic required [argument] extras).runFrom session =
            (.ok (some ⟨member, values⟩), last) →
          let left := after world { table } (operations ++ [.get cls])
          (∃ converter value start,
            values = [value] ∧
            (engine.convert converter argument).runFrom start = (.ok value, last) ∧
            member.Tests world left cls converter) ∧
          ∀ own, (RegistryM.runOn left (lookupConverter world (.cls cls))).1 = .ok own →
            (∀ start value, (engine.convert own argument).runFrom start ≠ (.ok value, last)) →
              ∀ ownName function signature,
                member.IsMethod world cls left.table ownName function signature →
                  signature.keys.take 1 ≠ [.object] := by
  obtain ⟨index, answered, arises⟩ := lookup_arises declared table operations cls name
  refine ⟨index, answered, ?_⟩
  intro engine onlyPublic required argument values extras session last member found left
  obtain ⟨mem, -⟩ := Engine.trial_of_choose found
  obtain ⟨begun, converts⟩ := Engine.converts_of_choose found
  obtain ⟨titled, arises⟩ := arises member mem
  rw [← providersOf_get declared table operations cls] at arises
  obtain ⟨converter, value, single, rfl, converted⟩ := converts.of_single
  constructor
  · exact ⟨converter, value, begun, rfl, converted, arises.tests (titled ▸ named) single⟩
  · intro own looked refuses ownName function signature isMethod any
    rw [isMethod.narrowed (titled ▸ named) any single] at looked
    cases looked
    exact refuses begun value converted

section Judging

/-- A test for equality with anything. -/
def judge : FunctionDecl where
  qualifiedName := "K.__eq__"
  parameters := some [{ name := "self" }, { name := "other", type := .cls .object }]
  code := .body .echo

/-- A class with this test. -/
def judging : World :=
  World.addClass {} { name := "K", entries := [("__eq__", .method judge)] }

theorem declared_judging : judging.Declared :=
  .cls .start _ (by decide) (by decide) (by decide)

theorem runFrom_convert_of_placeholder {engine : Engine} {converter : Converter}
    (placeholder : converter.coercion = none) {cls : ClassId} (target : converter.target = .cls cls)
    {argument : Value} (present : argument ≠ .none) {session : Session}
    (other : engine.hierarchy.isSubclass (argument.classOf session.objects) cls = false) :
    ∃ fault, (engine.convert converter argument).runFrom session = (.error fault, session) := by
  unfold Engine.convert
  split
  · exact absurd rfl present
  · rw [target, Act.runFrom_bind_of_ok (Engine.runFrom_isOfKey_cls present cls session), other]
    simp only [placeholder]
    exact ⟨_, rfl⟩

/-- Whether the converter for a class, once it has a view, only accepts values of the class. -/
def onlyAccepts (world : World) (cls : ClassId) : Bool :=
  match (RegistryM.runOn (after world { table := .standard } [.get cls])
      (lookupConverter world (.cls cls))).1 with
  | .ok converter => converter.coercion.isNone && converter.target == .cls cls
  | .error _ => false

theorem exists_of_onlyAccepts {cls : ClassId} (test : onlyAccepts world cls = true) :
    ∃ converter, (RegistryM.runOn (after world { table := .standard } [.get cls])
        (lookupConverter world (.cls cls))).1 = .ok converter ∧
      converter.coercion = none ∧ converter.target = .cls cls := by
  unfold onlyAccepts at test
  split at test
  · rename_i converter looked
    rw [Bool.and_eq_true, Option.isNone_iff_eq_none, beq_iff_eq] at test
    exact ⟨converter, looked, test⟩
  · cases test

/-- A test for equality with a text is found, although the converter for the class of the target
refuses the text in every session. -/
theorem equality_found_for_refused :
    judging.Declared ∧
      ("__eq__", .method judge) ∈ judging.entries (.declared "K") ∧
      judge.signature judging.lookUpType? judge.parameters true none =
        .ok ⟨[{ name := "other", type := .cls .object }], [.object], .object⟩ ∧
      ∃ index choice last converter,
        (RegistryM.runOn (after judging { table := .standard } [])
          (Registry.lookup judging (.declared "K") "__eq__")).1 = .ok index ∧
        (judging.engine.choose index true .object [.text "x"] 0).runFrom {} =
          (.ok (some choice), last) ∧
        (RegistryM.runOn (after judging { table := .standard } [.get (.declared "K")])
          (lookupConverter judging (.cls (.declared "K")))).1 = .ok converter ∧
        ∀ session, ∃ fault,
          (judging.engine.convert converter (.text "x")).runFrom session = (.error fault, session) := by
  have test : (foundIn judging [] {} (.declared "K") "__eq__" [.text "x"]).isSome = true := by
    decide +kernel
  obtain ⟨⟨choice, last⟩, found⟩ := Option.isSome_iff_exists.mp test
  obtain ⟨index, answered, chosen⟩ := exists_of_foundIn found
  have accepts : onlyAccepts judging (.declared "K") = true := by
    decide +kernel
  obtain ⟨converter, looked, placeholder, target⟩ := exists_of_onlyAccepts accepts
  refine ⟨declared_judging, List.mem_cons_self, rfl, index, choice, last, converter, answered,
    chosen, looked, ?_⟩
  intro session
  have other : judging.hierarchy.isSubclass (.builtin .text) (.declared "K") = false := by
    decide
  exact runFrom_convert_of_placeholder placeholder target Value.noConfusion other

/-- An object of the class itself is tested. -/
theorem lookup_tests_own :
    judging.Declared ∧ "__eq__" ∈ equalityNames ∧
      ∃ index choice last converter value start,
        (RegistryM.runOn (after judging { table := .standard } [])
          (Registry.lookup judging (.declared "K") "__eq__")).1 = .ok index ∧
        (judging.engine.choose index true .object [.object 0] 0).runFrom
          (holding (.declared "K")) = (.ok (some choice), last) ∧
        choice.arguments = [value] ∧
        (judging.engine.convert converter (.object 0)).runFrom start = (.ok value, last) ∧
        choice.member.Tests judging
          (after judging { table := .standard } ([] ++ [.get (.declared "K")])) (.declared "K")
          converter := by
  have test : (foundIn judging [] (holding (.declared "K")) (.declared "K") "__eq__"
      [.object 0]).isSome = true := by
    decide +kernel
  obtain ⟨⟨choice, last⟩, found⟩ := Option.isSome_iff_exists.mp test
  obtain ⟨index, answered, chosen⟩ := exists_of_foundIn found
  have named : "__eq__" ∈ equalityNames := List.mem_cons_self
  obtain ⟨other, answeredToo, tests⟩ :=
    lookup_tests declared_judging .standard [] (.declared "K") named
  rw [answered] at answeredToo
  cases answeredToo
  obtain ⟨⟨converter, value, start, converted⟩, -⟩ := tests chosen
  exact ⟨declared_judging, named, index, choice, last, converter, value, start, answered, chosen,
    converted⟩

end Judging

end Registry

end MemberDispatch
