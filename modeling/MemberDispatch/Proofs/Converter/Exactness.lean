import MemberDispatch.Converter.Convert
import MemberDispatch.Proofs.Index.Landing
import MemberDispatch.Proofs.Number.Whole
import MemberDispatch.Proofs.Value.WholeNumbers

/-!
# Exact conversion to whole numbers

The converters of whole numbers take numbers of five kinds. Each kind goes another way: whole numbers
and truth values may pass as they are, the others are asked whether they are whole and what they are
then. All ways agree on one criterion, that the source is finite, whole and in the range of the target,
and nothing is ever cut off. A text that a whole number is written as, and the bytes of such a text,
convert like the number.
-/

namespace MemberDispatch

/-- That work does not succeed. -/
def Act.Fails {α : Type} (work : Act α) (session : Session) : Prop :=
  ∃ fault after, work.runFrom session = (.error fault, after)

namespace Act.Fails

variable {α β : Type} {work : Act α} {next : α → Act β} {session between : Session}

theorem throw (fault : Fault) (session : Session) :
    Fails (MonadExcept.throw fault : Act α) session :=
  ⟨fault, session, rfl⟩

theorem bind (fails : work.Fails session) (next : α → Act β) : Fails (work >>= next) session := by
  obtain ⟨fault, after, run⟩ := fails
  exact ⟨fault, after, Act.runFrom_bind_of_error run next⟩

/-- Work fails that fails whatever its first step gives. -/
theorem behind (fails : ∀ result session, (next result).Fails session) (session : Session) :
    Fails (work >>= next) session := by
  rcases run : work.runFrom session with ⟨fault | result, after⟩
  · exact ⟨fault, after, Act.runFrom_bind_of_error run next⟩
  · obtain ⟨fault, last, rest⟩ := fails result after
    exact ⟨fault, last, (Act.runFrom_bind_of_ok run next).trans rest⟩

theorem not_ok (fails : work.Fails session) {result : α} {after : Session} :
    work.runFrom session ≠ (.ok result, after) := by
  obtain ⟨fault, last, run⟩ := fails
  rw [run]
  nofun

end Act.Fails

/-- The number that a value is, if it is a finite one. -/
def Value.number? : Value → Option ℚ
  | .bool truth => some (if truth then 1 else 0)
  | .int number => some number
  | .decimal number => number.value?
  | .fraction number => some number
  | .float number => (Binary64.ofFloat number).value?
  | _ => Option.none

/-- The whole number that is extracted from a number. -/
def Value.extracted? : Value → Option ℤ
  | .bool truth => some (if truth then 1 else 0)
  | .int number => some number
  | .decimal number => number.whole?
  | .fraction number => if number.den == 1 then some number.num else Option.none
  | .float number => (Binary64.ofFloat number).whole?
  | _ => Option.none

section Extracting

variable {value : Value} {number : ℤ}

theorem whole_fraction_iff (ratio : ℚ) (number : ℤ) :
    (if ratio.den == 1 then some ratio.num else none) = some number ↔ ratio = number := by
  constructor
  · intro found
    split at found
    · rename_i undivided
      rw [← Option.some.inj found]
      exact (Rat.coe_int_num_of_den_eq_one (beq_iff_eq.mp undivided)).symm
    · cases found
  · rintro rfl
    rfl

/-- What is extracted from a number is the whole number that it is. -/
theorem Value.extracted_eq_some_iff (isNumber : value.isNumber = true) :
    value.extracted? = some number ↔ value.number? = some (number : ℚ) := by
  cases value with
  | bool truth =>
      rw [extracted?, number?, Option.some_inj, Option.some_inj]
      cases truth <;> exact_mod_cast Iff.rfl
  | int number =>
      rw [extracted?, number?, Option.some_inj, Option.some_inj]
      exact_mod_cast Iff.rfl
  | decimal number => exact number.whole_eq_some_iff _
  | fraction ratio =>
      rw [number?, Option.some_inj]
      exact whole_fraction_iff ratio number
  | float number => exact (Binary64.ofFloat number).whole_eq_some_iff _
  | _ => cases isNumber

variable (engine : Engine) (session : Session)

theorem Value.Whole.extracted (whole : value.Whole number) : value.extracted? = some number := by
  cases whole <;> rfl

theorem Engine.runFrom_toInteger (isNumber : value.isNumber = true)
    (found : value.extracted? = some number) :
    (engine.toInteger value).runFrom session = (.ok number, session) := by
  cases value with
  | bool truth | int number =>
      cases found
      rfl
  | decimal _ | fraction _ | float _ =>
      simp only [Value.extracted?] at found
      unfold toInteger
      rw [Act.runFrom_bind_of_ok (runFrom_contentOf _ session)]
      simp only [Value.content, found]
      rfl
  | _ => cases isNumber

theorem Engine.fails_toInteger (isNumber : value.isNumber = true)
    (missing : value.extracted? = none) : (engine.toInteger value).Fails session := by
  cases value with
  | bool truth | int number => cases missing
  | decimal _ | fraction _ | float _ =>
      simp only [Value.extracted?] at missing
      have complains : ∀ text session,
          Act.Fails (throw (.conversion (.notWhole text)) : Act ℤ) session :=
        fun text session => .throw _ session
      unfold toInteger
      rw [Act.Fails, Act.runFrom_bind_of_ok (runFrom_contentOf _ session)]
      simp only [Value.content, missing]
      exact Act.Fails.behind complains session
  | _ => cases isNumber

end Extracting

/-- The converters that a session has for whole numbers: without bounds, or narrowed to a width of at
least one bit. Each comes with the numbers in its range. -/
inductive Converter.OfWhole : Converter → (ℤ → Prop) → Prop
  | unbounded (rank : ℕ) : OfWhole ⟨rank, .cls (.builtin .int), some .int⟩ fun _ => True
  | narrow (rank : ℕ) {width : Width} (ofNumbers : width.representation = .builtin .int)
      (wide : 1 ≤ width.bits) : OfWhole ⟨rank, .exact width, some (.width width)⟩ width.Spans

/-- That a value denotes a whole number: as a number of some kind, as the text that it is written as, or
as the bytes of this text. -/
inductive Value.Denotes (number : ℤ) : Value → Prop
  | int : Denotes number (.int number)
  | decimal : Denotes number (.decimal (.ofInt number))
  | fraction : Denotes number (.fraction number)
  | text {text : String} (written : writeInteger number = .ok text) : Denotes number (.text text)
  | bytes {text : String} (written : writeInteger number = .ok text) :
      Denotes number (.bytes (Text.encodeUtf8 text))

namespace Engine

section Testing

variable {world : World} {value : Value}

/-- Of the built-in classes, that of whole numbers has only that of truth values below it. -/
theorem isSubclass_int (world : World) {kind : BuiltinClass}
    (other : BuiltinClass.int ∉ kind.linearization) :
    world.isSubclass (.builtin kind) (.builtin .int) = false := by
  rw [← Bool.not_eq_true]
  intro counts
  have among := World.mem_linearization_of_isSubclass rfl counts
  obtain ⟨base, mem, same⟩ := List.mem_map.mp among
  cases same
  exact other mem

theorem isSubclass_of_whole (world : World) {number : ℤ} (whole : value.Whole number)
    (objects : Array Object) : world.isSubclass (value.classOf objects) (.builtin .int) = true := by
  rcases whole.classOf objects with same | same <;> rw [same]
  · exact World.isSubclass_of_mem_linearization (List.mem_map_of_mem (by decide))
  · exact World.isSubclass_of_mem_linearization (List.mem_map_of_mem (by decide))

/-- That a value is of a built-in class that has nothing to do with whole numbers. -/
def Foreign (value : Value) : Prop :=
  ∀ objects, ∃ kind : BuiltinClass,
    value.classOf objects = .builtin kind ∧ BuiltinClass.int ∉ kind.linearization

theorem refused_of_foreign {converter : Converter} {range : ℤ → Prop}
    (ofWhole : converter.OfWhole range) (engine : Engine) (foreign : Foreign value)
    (present : value ≠ .none) (session : Session) :
    (engine.isOfKey converter.target value).runFrom session = (.ok false, session) := by
  obtain ⟨kind, ofKind, other⟩ := foreign session.objects
  have apart : engine.hierarchy.isSubclass (value.classOf session.objects) (.builtin .int) =
      false := by
    rw [ofKind]
    exact isSubclass_int engine.world other
  cases ofWhole with
  | unbounded rank => rw [runFrom_isOfKey_cls present, apart]
  | @narrow rank width ofNumbers wide =>
      have test : engine.isOfKey (.exact width) value = engine.isOfWidth width value := by
        cases value with
        | none => exact absurd rfl present
        | _ => rfl
      dsimp only
      rw [test, isOfWidth, Act.runFrom_bind, Act.runFrom_isInstance, ofNumbers, apart]
      rfl

/-- Whole numbers and truth values pass as they are just where the number is in range. -/
theorem tested_of_whole {converter : Converter} {range : ℤ → Prop}
    (ofWhole : converter.OfWhole range) (world : World) (level : ℕ) {number : ℤ}
    (whole : value.Whole number) (session : Session) :
    ∃ within, (within = true ↔ range number) ∧
      ((machine world (level + 1)).isOfKey converter.target value).runFrom session =
        (.ok within, session) := by
  have present : value ≠ .none := by
    rintro rfl
    cases whole
  have instances := isSubclass_of_whole (machine world (level + 1)).world whole session.objects
  cases ofWhole with
  | unbounded rank =>
      refine ⟨true, iff_of_true rfl trivial, ?_⟩
      rw [runFrom_isOfKey_cls present]
      exact congrArg (fun answer => (Except.ok answer, session)) instances
  | @narrow rank width ofNumbers wide =>
      have represents : (machine world (level + 1)).hierarchy.isSubclass
          (value.classOf session.objects) width.representation = true := by
        rw [ofNumbers]
        exact instances
      have bounded : (width.bits != 0) = true := bne_iff_ne.mpr (by omega)
      refine ⟨decide (width.Spans number), decide_eq_true_iff, ?_⟩
      dsimp only
      rw [runFrom_isOfKey_exact present represents, if_pos bounded, runFrom_inRange wide whole]

end Testing

section Converting

variable {world : World} {level : ℕ} {converter : Converter} {range : ℤ → Prop}
  {value source : Value} {number : ℤ} {session : Session}

/-- What converting comes to behind the test. -/
theorem runFrom_convert_of_refused {engine : Engine} {coercion : Coercion}
    (found : converter.coercion = some coercion) (present : value ≠ .none)
    (refused : (engine.isOfKey converter.target value).runFrom session = (.ok false, session))
    (carried : (carriedText value).runFrom session = (.ok source, session)) :
    (engine.convert converter value).runFrom session =
      (engine.coerce coercion source).runFrom session := by
  have shape : engine.convert converter value =
      (engine.isOfKey converter.target value >>= fun accepted =>
        if accepted then pure value else carriedText value >>= engine.coerce coercion) := by
    unfold convert
    rw [found]
    cases value with
    | none => exact absurd rfl present
    | _ => rfl
  rw [shape, Act.runFrom_bind_of_ok refused, if_neg Bool.false_ne_true,
    Act.runFrom_bind_of_ok carried]

theorem runFrom_coerce_of_extracted (ofWhole : converter.OfWhole range)
    (extracted : ((machine world (level + 1)).toInteger source).runFrom session =
      (.ok number, session)) :
    ∃ coercion, converter.coercion = some coercion ∧
      (range number →
        ((machine world (level + 1)).coerce coercion source).runFrom session =
          (.ok (.int number), session)) ∧
      (¬range number → ((machine world (level + 1)).coerce coercion source).Fails session) := by
  cases ofWhole with
  | unbounded rank =>
      refine ⟨.int, rfl, fun _ => ?_, fun beyond => absurd trivial beyond⟩
      exact (Act.runFrom_bind_of_ok extracted _).trans rfl
  | @narrow rank width ofNumbers wide =>
      have within := runFrom_inRange wide (.int number) world level session
      refine ⟨.width width, rfl, fun inside => ?_, fun beyond => ?_⟩
      · change (toWidth _ width source).runFrom session = _
        rw [toWidth, Act.runFrom_bind_of_ok extracted, Act.runFrom_bind_of_ok within,
          decide_eq_true inside]
        rfl
      · change (toWidth _ width source).Fails session
        have complains : ∀ text session,
            Act.Fails (throw (.conversion (.outOfRange width.name text)) : Act Value) session :=
          fun text session => .throw _ session
        rw [Act.Fails, toWidth, Act.runFrom_bind_of_ok extracted, Act.runFrom_bind_of_ok within,
          decide_eq_false beyond]
        exact Act.Fails.behind complains session

theorem fails_coerce (ofWhole : converter.OfWhole range) {engine : Engine}
    (stuck : (engine.toInteger source).Fails session) :
    ∃ coercion, converter.coercion = some coercion ∧
      (engine.coerce coercion source).Fails session := by
  cases ofWhole with
  | unbounded rank => exact ⟨.int, rfl, stuck.bind _⟩
  | @narrow rank width ofNumbers wide => exact ⟨.width width, rfl, stuck.bind _⟩

/-- A number that has to be coerced is converted just where the number extracted is in range. -/
theorem convert_of_refused (ofWhole : converter.OfWhole range) (present : value ≠ .none)
    (refused : ((machine world (level + 1)).isOfKey converter.target value).runFrom session =
      (.ok false, session))
    (carried : (carriedText value).runFrom session = (.ok source, session))
    (extracted : ((machine world (level + 1)).toInteger source).runFrom session =
      (.ok number, session)) :
    (range number →
      ((machine world (level + 1)).convert converter value).runFrom session =
        (.ok (.int number), session)) ∧
    (¬range number → ((machine world (level + 1)).convert converter value).Fails session) := by
  obtain ⟨coercion, found, inside, beyond⟩ := runFrom_coerce_of_extracted ofWhole extracted
  have coerced := runFrom_convert_of_refused found present refused carried
  refine ⟨fun within => coerced.trans (inside within), fun outside => ?_⟩
  rw [Act.Fails, coerced]
  exact beyond outside

/-- Whole numbers and truth values pass as they are just where they are in range. -/
theorem convert_of_whole (ofWhole : converter.OfWhole range) (whole : value.Whole number) :
    (range number →
      ((machine world (level + 1)).convert converter value).runFrom session =
        (.ok value, session)) ∧
    (¬range number → ((machine world (level + 1)).convert converter value).Fails session) := by
  have present : value ≠ .none := by
    rintro rfl
    cases whole
  have extracted := runFrom_toInteger (machine world (level + 1)) session whole.isNumber
    whole.extracted
  have carried : (carriedText value).runFrom session = (.ok value, session) := by
    cases whole <;> rfl
  obtain ⟨within, isWithin, tested⟩ := tested_of_whole ofWhole world level whole session
  cases within with
  | true =>
      have inside := isWithin.mp rfl
      exact ⟨fun _ => runFrom_convert_of_accepted tested, fun beyond => absurd inside beyond⟩
  | false =>
      have beyond : ¬range number := fun inside => Bool.false_ne_true (isWithin.mpr inside)
      exact ⟨fun inside => absurd inside beyond,
        (convert_of_refused ofWhole present tested carried extracted).2⟩

theorem fails_convert_of_refused (ofWhole : converter.OfWhole range) (present : value ≠ .none)
    {engine : Engine}
    (refused : (engine.isOfKey converter.target value).runFrom session = (.ok false, session))
    (carried : (carriedText value).runFrom session = (.ok source, session))
    (stuck : (engine.toInteger source).Fails session) :
    (engine.convert converter value).Fails session := by
  obtain ⟨coercion, found, fails⟩ := fails_coerce ofWhole stuck
  rw [Act.Fails, runFrom_convert_of_refused found present refused carried]
  exact fails

/-- A number is a whole number or truth value, or of a class that has nothing to do with these. -/
theorem whole_or_foreign (isNumber : value.isNumber = true) :
    (∃ number, value.Whole number) ∨ Foreign value := by
  cases value with
  | bool truth => exact .inl ⟨_, .bool truth⟩
  | int number => exact .inl ⟨_, .int number⟩
  | float number => exact .inr fun _ => ⟨.float, rfl, by decide⟩
  | decimal number => exact .inr fun _ => ⟨.decimal, rfl, by decide⟩
  | fraction number => exact .inr fun _ => ⟨.fraction, rfl, by decide⟩
  | _ => cases isNumber

theorem present_of_number (isNumber : value.isNumber = true) : value ≠ .none := by
  rintro rfl
  cases isNumber

theorem carriedText_of_number (isNumber : value.isNumber = true) (session : Session) :
    (carriedText value).runFrom session = (.ok value, session) := by
  cases value with
  | bool _ | int _ | float _ | decimal _ | fraction _ => rfl
  | _ => cases isNumber

/-- A number converts just where a whole number is extracted from it that is in range. -/
theorem convert_of_extracted (ofWhole : converter.OfWhole range) (isNumber : value.isNumber = true)
    (extracted : value.extracted? = some number) :
    (range number → ∃ result : Value, result.int? = some number ∧
      ((machine world (level + 1)).convert converter value).runFrom session =
        (.ok result, session)) ∧
    (¬range number → ((machine world (level + 1)).convert converter value).Fails session) := by
  rcases whole_or_foreign isNumber with ⟨same, whole⟩ | foreign
  · obtain rfl : same = number := Option.some.inj (whole.extracted.symm.trans extracted)
    obtain ⟨inside, beyond⟩ := convert_of_whole ofWhole whole
    exact ⟨fun within => ⟨value, whole.int?, inside within⟩, beyond⟩
  · have present := present_of_number isNumber
    obtain ⟨inside, beyond⟩ := convert_of_refused ofWhole present
      (refused_of_foreign ofWhole _ foreign present session) (carriedText_of_number isNumber session)
      (runFrom_toInteger (machine world (level + 1)) session isNumber extracted)
    exact ⟨fun within => ⟨.int number, rfl, inside within⟩, beyond⟩

theorem fails_convert_of_missing (ofWhole : converter.OfWhole range) (engine : Engine)
    (isNumber : value.isNumber = true) (missing : value.extracted? = none) :
    (engine.convert converter value).Fails session := by
  rcases whole_or_foreign isNumber with ⟨number, whole⟩ | foreign
  · rw [whole.extracted] at missing
    cases missing
  · have present := present_of_number isNumber
    exact fails_convert_of_refused ofWhole present
      (refused_of_foreign ofWhole engine foreign present session)
      (carriedText_of_number isNumber session) (engine.fails_toInteger session isNumber missing)

/-- What denotes a whole number is that number, or is read as it. -/
theorem convert_of_denotes (ofWhole : converter.OfWhole range) (denotes : Value.Denotes number value) :
    (range number →
      ((machine world (level + 1)).convert converter value).runFrom session =
        (.ok (.int number), session)) ∧
    (¬range number → ((machine world (level + 1)).convert converter value).Fails session) := by
  have read {text : String} (written : writeInteger number = .ok text) :
      ((machine world (level + 1)).toInteger (.text text)).runFrom session =
        (.ok number, session) := by
    have spoken : (Written.integer 10 text).runFrom session = (.ok number, session) := by
      rw [Written.integer, readInteger_of_writeInteger written]
      rfl
    exact spoken
  -- What is no whole number yet is refused by the test, and extracted from what it carries.
  have coerced {value source : Value} (foreign : Foreign value) (present : value ≠ .none)
      (carried : (carriedText value).runFrom session = (.ok source, session))
      (extracted : ((machine world (level + 1)).toInteger source).runFrom session =
        (.ok number, session)) :=
    convert_of_refused ofWhole present
      (refused_of_foreign ofWhole (machine world (level + 1)) foreign present session) carried
      extracted
  cases denotes with
  | int => exact convert_of_whole ofWhole (.int number)
  | decimal =>
      have extracted := ((Decimal.ofInt number).whole_eq_some_iff number).mpr (Decimal.value_ofInt number)
      exact coerced (fun _ => ⟨.decimal, rfl, by decide⟩) nofun rfl
        (runFrom_toInteger _ session rfl extracted)
  | fraction =>
      exact coerced (fun _ => ⟨.fraction, rfl, by decide⟩) nofun rfl
        (runFrom_toInteger _ session rfl rfl)
  | text written =>
      exact coerced (fun _ => ⟨.text, rfl, by decide⟩) nofun rfl (read written)
  | @bytes text written =>
      have carried : (carriedText (.bytes (Text.encodeUtf8 text))).runFrom session =
          (.ok (.text text), session) := by
        have bytes : (bytes? (.bytes (Text.encodeUtf8 text))).runFrom session =
            (.ok (some (Text.encodeUtf8 text)), session) := rfl
        rw [carriedText, Act.runFrom_bind_of_ok bytes]
        simp only [decodeUtf8_of_writeInteger written]
        rfl
      exact coerced (fun _ => ⟨.bytes, rfl, by decide⟩) nofun carried (read written)

/-- Conversion to whole numbers is exact. A number of any of the five kinds converts just where it is
finite, whole and in the range of the target, and then to an integer that equals it; every whole number
and whatever denotes it converts to the number itself where it is in range, and not at all elsewhere. -/
theorem convert_exactly (world : World) (level : ℕ) (ofWhole : converter.OfWhole range)
    (session : Session) :
    (∀ value : Value, value.isNumber = true →
      ((∃ result after, ((machine world (level + 1)).convert converter value).runFrom session =
          (.ok result, after)) ↔
        ∃ number : ℤ, value.number? = some (number : ℚ) ∧ range number) ∧
      ∀ result after, ((machine world (level + 1)).convert converter value).runFrom session =
          (.ok result, after) →
        after = session ∧
          ∃ number : ℤ, result.int? = some number ∧ value.number? = some (number : ℚ)) ∧
    ∀ (number : ℤ) (value : Value), value.Denotes number →
      (range number →
        ((machine world (level + 1)).convert converter value).runFrom session =
          (.ok (.int number), session)) ∧
      (¬range number →
        ((machine world (level + 1)).convert converter value).Fails session) := by
  refine ⟨fun value isNumber => ?_, fun number value denotes => convert_of_denotes ofWhole denotes⟩
  -- Whatever succeeds had a whole number in range to extract.
  have success (result : Value) (after : Session)
      (run : ((machine world (level + 1)).convert converter value).runFrom session =
        (.ok result, after)) :
      after = session ∧ ∃ number : ℤ, result.int? = some number ∧
        value.number? = some (number : ℚ) ∧ range number := by
    rcases found : value.extracted? with _ | number
    · exact absurd run (fails_convert_of_missing ofWhole _ isNumber found).not_ok
    · obtain ⟨inside, beyond⟩ := convert_of_extracted ofWhole isNumber found
      by_cases within : range number
      · obtain ⟨same, isResult, converted⟩ := inside within
        rw [converted] at run
        cases run
        exact ⟨rfl, number, isResult, (Value.extracted_eq_some_iff isNumber).mp found, within⟩
      · exact absurd run (beyond within).not_ok
  refine ⟨⟨?_, ?_⟩, fun result after run => ?_⟩
  · rintro ⟨result, after, run⟩
    obtain ⟨-, number, -, equal, within⟩ := success result after run
    exact ⟨number, equal, within⟩
  · rintro ⟨number, equal, within⟩
    have found := (Value.extracted_eq_some_iff isNumber).mpr equal
    obtain ⟨result, -, run⟩ := (convert_of_extracted ofWhole isNumber found).1 within
    exact ⟨result, session, run⟩
  · obtain ⟨unchanged, number, isResult, equal, -⟩ := success result after run
    exact ⟨unchanged, number, isResult, equal⟩

/-- The standard width of eight bits takes 127 from a decimal number and refuses 128 as a text. -/
theorem convert_exactly_int8 :
    Converter.OfWhole ⟨5, .exact .int8, some (.width .int8)⟩ Width.int8.Spans ∧
      ((World.engine {}).convert ⟨5, .exact .int8, some (.width .int8)⟩
        (.decimal (.ofInt 127))).runFrom {} = (.ok (.int 127), {}) ∧
      ((World.engine {}).convert ⟨5, .exact .int8, some (.width .int8)⟩
        (.text "128")).Fails {} := by
  have ofWhole : Converter.OfWhole ⟨5, .exact .int8, some (.width .int8)⟩ Width.int8.Spans :=
    .narrow 5 rfl (by decide)
  have exact := convert_exactly {} 999 ofWhole {}
  exact ⟨ofWhole, (exact.2 127 _ .decimal).1 (by decide), (exact.2 128 _ (.text rfl)).2 (by decide)⟩

end Converting

end Engine

end MemberDispatch
