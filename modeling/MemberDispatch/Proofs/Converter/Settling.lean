import MemberDispatch.Proofs.Converter.Exactness
import MemberDispatch.Proofs.Session.Looking

/-!
# Conversions that settle

What a standard converter gives is of its target, and stays what it is when it is converted again. The
last thing that a conversion does is to test its result, and where the test only looks, it finds the
same ever after. The exception are values of declared classes that answer the operators themselves with
which the test asks for a length or a range, or the converter of truth values for a difference from
zero: they may answer otherwise the next time, or with no truth value at all.
-/

namespace MemberDispatch

/-- The operators that a converter asks values for: those of its test and, for truth values, whether
they differ from zero. -/
def Converter.asks (converter : Converter) : List String :=
  converter.target.asks ++ match converter.coercion with
    | some .bool => ["__ne__"]
    | _ => []

theorem World.Leaves.mono {world : World} {names more : List String} {cls : ClassId}
    (leaves : world.Leaves more cls) (among : names ⊆ more) : world.Leaves names cls :=
  fun name mem => leaves name (among mem)

namespace Engine

/-- That a converter takes a value for one of its target and converts it to itself, as long as the value
stands. -/
def Settled (engine : Engine) (converter : Converter) (value : Value) (session : Session) : Prop :=
  ∀ later, value.Standing session later →
    (engine.isOfKey converter.target value).runFrom later = (.ok true, later) ∧
      (engine.convert converter value).runFrom later = (.ok value, later)

/-- That a value is of a class that leaves the operators of a converter to the built-in classes and, where
single characters are made, that so is what the value says of itself. -/
structure Quiet (engine : Engine) (converter : Converter) (value : Value) (session : Session) :
    Prop where
  ofClass : engine.world.Leaves converter.asks (value.classOf session.objects)
  said : converter.coercion = some .char → ∀ answer after,
    (engine.spoken value).runFrom session = (.ok answer, after) →
      engine.world.Leaves converter.target.asks (answer.classOf after.objects)

variable {world : World} {level : ℕ} {converter : Converter} {value source : Value}
  {session before after : Session}

section Judging

variable {engine : Engine} {answer : Value}

/-- Zero differs from a number or does not. -/
theorem truth_of_zero_differs (isNumber : (value.content session.objects).isNumber = true)
    (run : (engine.compareFrom .ne (.int 0) value).runFrom session = (.ok answer, after)) :
    ∃ truth, answer = .bool truth := by
  have ownless := engine.declaredMethod?_builtin .int
  unfold compareFrom at run
  rw [Act.runFrom_bind_of_ok (Act.runFrom_classOf (.int 0) session), Value.classOf, ownless,
    ownless] at run
  have builtin : (engine.compareBuiltin .ne (.int 0) value).runFrom session = (.ok answer, after) :=
    run
  have numbers : (((Value.int 0).content session.objects).isNumber &&
      (value.content session.objects).isNumber) = true := by
    rw [isNumber]
    rfl
  rw [engine.runFrom_compareBuiltin_numbers .ne numbers] at builtin
  exact gives_truth_of_numbers _ _ session answer after builtin

/-- A number whose class does not define inequality differs from zero or does not. -/
theorem truth_of_differs
    (undefined : engine.declaredMethod? (value.classOf session.objects) "__ne__" = none)
    (isNumber : (value.content session.objects).isNumber = true)
    (run : (engine.compareWith .ne value (.int 0)).runFrom session = (.ok answer, after)) :
    ∃ truth, answer = .bool truth := by
  have zeroLast : (engine.compareFrom .ne (.int 0) value).Gives Value.Verdict :=
    fun _ _ _ run => verdict_of_compareFrom (engine.declaredMethod?_builtin .int _) run
  unfold compareWith at run
  rw [Act.runFrom_bind_of_ok (Act.runFrom_classOf value session),
    Act.runFrom_bind_of_ok (Act.runFrom_classOf (.int 0) session)] at run
  dsimp only at run
  split at run
  · obtain ⟨first, between, asked, rest⟩ := Act.exists_of_runFrom_bind run
    obtain ⟨truth, rfl⟩ := truth_of_zero_differs isNumber asked
    cases rest
    exact ⟨truth, rfl⟩
  · obtain ⟨first, between, declined, rest⟩ := Act.exists_of_runFrom_bind run
    cases declined
    obtain ⟨found, last, asked, rest⟩ := Act.exists_of_runFrom_bind rest
    cases verdict_of_compareFrom undefined asked with
    | truth truth =>
        cases rest
        exact ⟨truth, rfl⟩
    | declined => exact gives_truth_of_last zeroLast value (.int 0) _ _ _ rest

theorem truth_of_toTruth (leaves : world.Leaves ["__ne__"] (source.classOf session.objects))
    (made : ((machine world (level + 1)).toTruth source).runFrom session = (.ok value, after)) :
    ∃ truth, value = .bool truth := by
  unfold toTruth at made
  obtain ⟨content, between, looked, rest⟩ := Act.exists_of_runFrom_bind made
  cases looked
  split at rest
  · rename_i number address isNumber
    exact truth_of_differs (leaves.machine level "__ne__" List.mem_cons_self)
      (Value.Whole.of_int? isNumber).isNumber rest
  · cases rest
    exact ⟨_, rfl⟩
  · obtain ⟨text, last, _, rest⟩ := Act.exists_of_runFrom_bind rest
    split at rest
    · cases rest
      exact ⟨_, rfl⟩
    · obtain ⟨number, _, _, rest⟩ := Act.exists_of_runFrom_bind rest
      cases rest
      exact ⟨_, rfl⟩

end Judging

section Settling

/-- What passed a test that only looks is settled. -/
theorem settled_of_tested (leaves : world.Leaves converter.target.asks (value.classOf before.objects))
    (tested : ((machine world (level + 1)).isOfKey converter.target value).runFrom before =
      (.ok true, after)) : (machine world (level + 1)).Settled converter value after := by
  obtain ⟨rfl, always⟩ := (looks_isOfKey level leaves).run_eq (.refl value before) tested
  exact fun later standing =>
    ⟨always later standing, runFrom_convert_of_accepted (always later standing)⟩

/-- The test of a class looks at any value. -/
theorem settled_of_cls {cls : ClassId} (target : converter.target = .cls cls)
    (accepts : (machine world (level + 1)).Accepts (.cls cls) value after) :
    (machine world (level + 1)).Settled converter value after := by
  obtain ⟨before, tested⟩ := accepts
  rw [← target] at tested
  refine settled_of_tested ?_ tested
  rw [target]
  nofun

theorem settled_of_toWidth {width : Width} (target : converter.target = .exact width)
    (ofNumbers : width.representation = .builtin .int) (bounded : width.bits ≠ 0)
    (made : ((machine world (level + 1)).toWidth width source).runFrom session =
      (.ok value, after)) : (machine world (level + 1)).Settled converter value after := by
  obtain ⟨before, tested⟩ := accepts_of_toWidth ofNumbers bounded made
  have isNumber : ∃ number, value = .int number := by
    obtain ⟨number, between, _, rest⟩ := Act.exists_of_runFrom_bind made
    obtain ⟨isWithin, last, _, rest⟩ := Act.exists_of_runFrom_bind rest
    cases isWithin with
    | true =>
        cases rest
        exact ⟨number, rfl⟩
    | false =>
        obtain ⟨text, _, _, rest⟩ := Act.exists_of_runFrom_bind rest
        cases rest
  obtain ⟨number, rfl⟩ := isNumber
  rw [← target] at tested
  exact settled_of_tested (world.leaves_builtin _ .int) tested

theorem settled_of_toCharacter (target : converter.target = .exact .char)
    (leaves : world.Leaves converter.target.asks (source.classOf session.objects))
    (said : ∀ answer between,
      ((machine world (level + 1)).spoken source).runFrom session = (.ok answer, between) →
        world.Leaves converter.target.asks (answer.classOf between.objects))
    (made : ((machine world (level + 1)).toCharacter source).runFrom session = (.ok value, after)) :
    (machine world (level + 1)).Settled converter value after := by
  obtain ⟨before, tested, origin⟩ := tested_of_toCharacter made
  rw [← target] at tested
  rcases origin with ⟨rfl, rfl⟩ | spoken
  · exact settled_of_tested leaves tested
  · exact settled_of_tested (said value before spoken) tested

theorem settled_of_coerce {coercion : Coercion} (found : converter.coercion = some coercion)
    (standard : (converter.target, coercion) ∈ standardCoercions)
    (quiet : (machine world (level + 1)).Quiet converter source session)
    (made : ((machine world (level + 1)).coerce coercion source).runFrom session =
      (.ok value, after)) : (machine world (level + 1)).Settled converter value after := by
  have ofTarget : world.Leaves converter.target.asks (source.classOf session.objects) :=
    World.Leaves.mono quiet.ofClass (List.subset_append_left _ _)
  have admits := admits_of_coerce standard made
  -- Instances of a built-in class stay what they are. Truth values are apart, as a comparison may answer
  -- for them.
  have ofClass {kind : BuiltinClass} (target : converter.target = .cls (.builtin kind))
      (other : kind ≠ .bool) : (machine world (level + 1)).Settled converter value after := by
    rw [target] at admits
    refine settled_of_cls target (accepts_of_admits admits fun same => ?_)
    cases same
    exact absurd rfl other
  cases coercion with
  | char =>
      have target : converter.target = .exact .char := by simpa [standardCoercions] using standard
      exact settled_of_toCharacter target ofTarget (quiet.said found) made
  | int => exact ofClass (by simpa [standardCoercions] using standard) (by decide)
  | float => exact ofClass (by simpa [standardCoercions] using standard) (by decide)
  | decimal => exact ofClass (by simpa [standardCoercions] using standard) (by decide)
  | text => exact ofClass (by simpa [standardCoercions] using standard) (by decide)
  | bytes => exact ofClass (by simpa [standardCoercions] using standard) (by decide)
  | bool =>
      have target : converter.target = .cls (.builtin .bool) := by
        simpa [standardCoercions] using standard
      have undefined : world.Leaves ["__ne__"] (source.classOf session.objects) := by
        refine World.Leaves.mono quiet.ofClass ?_
        rw [Converter.asks, found]
        exact List.subset_append_right _ _
      obtain ⟨truth, rfl⟩ := truth_of_toTruth undefined made
      have present : Value.bool truth ≠ .none := by
        intro same
        cases same
      exact settled_of_cls target (accepts_of_classOf present rfl)
  | width width =>
      obtain ⟨target, ofNumbers, bounded⟩ := narrows_of_standard standard
      exact settled_of_toWidth target ofNumbers bounded made
  | body body => simp [standardCoercions] at standard
  | callable callable => simp [standardCoercions] at standard

theorem quiet_text (text : String) (session : Session) :
    (machine world (level + 1)).Quiet converter (.text text) session where
  ofClass := world.leaves_builtin _ .text
  said _ answer after said := by
    obtain ⟨own, between, _, rest⟩ := Act.exists_of_runFrom_bind said
    cases rest
    exact world.leaves_builtin _ .text

theorem session_of_carriedText (carried : (carriedText value).runFrom session = (.ok source, after)) :
    after = session := by
  obtain ⟨bytes, found⟩ := runFrom_bytes value session
  rw [carriedText, Act.runFrom_bind_of_ok found] at carried
  split at carried
  · cases carried
    rfl
  · split at carried
    · cases carried
      rfl
    · cases carried

theorem settled_of_convert (standard : converter.Standard)
    (quiet : (machine world (level + 1)).Quiet converter source session)
    (converted : ((machine world (level + 1)).convert converter source).runFrom session =
      (.ok value, after)) : (machine world (level + 1)).Settled converter value after := by
  have ofTarget : world.Leaves converter.target.asks (source.classOf session.objects) :=
    World.Leaves.mono quiet.ofClass (List.subset_append_left _ _)
  rcases tested_or_coerced_of_convert converted with
    ⟨rfl, tested⟩ | ⟨coercion, carrier, between, last, found, tested, carried, made⟩
  · exact settled_of_tested ofTarget tested
  · obtain ⟨rfl, -⟩ := (looks_isOfKey level ofTarget).run_eq (.refl source session) tested
    obtain rfl := session_of_carriedText carried
    rcases eq_or_text_of_carriedText carried with rfl | ⟨text, rfl⟩
    · exact settled_of_coerce found (standard coercion found) quiet made
    · exact settled_of_coerce found (standard coercion found) (quiet_text text _) made

theorem standard_of_mem (listed : converter ∈ ConverterTable.standard.converters) :
    converter.Standard := by
  obtain ⟨entry, mem, rfl⟩ := List.mem_map.mp listed
  rw [ConverterTable.entries_standard] at mem
  obtain ⟨rank, within, rfl⟩ := List.mem_mapIdx.mp mem
  intro coercion found
  cases found
  exact List.getElem_mem within

end Settling

section Growing

/-- A length that is one more each time. -/
def growingLength : FunctionDecl where
  qualifiedName := "S.__len__"
  parameters := some [{ name := "self" }]
  code := .body (.increment 0 "n")

/-- A class of texts that answers its length itself. -/
def growing : World :=
  World.addClass {}
    { name := "S"
      bases := [.builtin .text]
      entries := [("n", .value (.int 0)), ("__len__", .method growingLength)] }

/-- A session with one text of that class, and what the text stores. -/
def holdingGrowing (attributes : List (String × Value)) : Session where
  objects := #[{ cls := .declared "S", content := .scalar (.text "x"), attributes }]

/-- The converter of single characters. -/
def forCharacters : Converter :=
  ⟨0, .exact .char, some .char⟩

end Growing

end Engine

end MemberDispatch
