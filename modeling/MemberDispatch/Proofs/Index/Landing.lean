import MemberDispatch.Proofs.Class.Coherence
import MemberDispatch.Proofs.Index.FirstFit
import MemberDispatch.Proofs.Session.Habit

/-!
# What conversions give

A converter that can only accept, or that has one of the standard coercions, gives values of its
target only: the last thing that happens is that its own test accepts the value. A coercion that makes
a number or a text makes it of the right class. The one that makes single characters asks for the
length, and one that narrows asks for the range, just as the test of the width does. The exception is
an object that is a whole number of a class of its own: it is asked itself whether it differs from
zero, and the answer stands whatever it is.
-/

namespace MemberDispatch

/-- That a value that is an object is there. -/
def Session.Has (session : Session) (value : Value) : Prop :=
  ∀ address, value = .object address → address < session.objects.size

/-- That objects that are there stay, in their classes. -/
def Session.SameClasses (before after : Session) : Prop :=
  ∀ (address : ℕ) (object : Object), before.objects[address]? = some object →
    ∃ later : Object, after.objects[address]? = some later ∧ later.cls = object.cls

namespace Session.SameClasses

variable {before between after : Session}

theorem refl (session : Session) : session.SameClasses session :=
  fun _ object found => ⟨object, found, rfl⟩

theorem trans (first : before.SameClasses between) (second : between.SameClasses after) :
    before.SameClasses after := by
  intro address object found
  obtain ⟨middle, there, same⟩ := first address object found
  obtain ⟨later, still, alike⟩ := second address middle there
  exact ⟨later, still, alike.trans same⟩

theorem has (same : before.SameClasses after) {value : Value} (there : before.Has value) :
    after.Has value := by
  intro address isObject
  obtain ⟨later, found, _⟩ := same address _ (Array.getElem?_eq_getElem (there address isObject))
  exact (Array.getElem?_eq_some_iff.mp found).1

theorem classOf_eq (same : before.SameClasses after) {value : Value} (there : before.Has value) :
    value.classOf after.objects = value.classOf before.objects := by
  cases value with
  | object address =>
      have found := Array.getElem?_eq_getElem (there address rfl)
      obtain ⟨later, still, alike⟩ := same address _ found
      simp only [Value.classOf, still, found, alike]
  | _ => rfl

end Session.SameClasses

/-- Leaving all objects in their classes. -/
def Act.keepingClasses : Act.Habit where
  Of work := ∀ session : Session, session.SameClasses (work.runFrom session).2
  pure _ session := .refl session
  throw _ session := .refl session
  bind {α β work next} first second session := by
    rw [Act.runFrom_bind]
    have begun := first session
    rcases run : work.runFrom session with ⟨fault | result, between⟩
    · rw [run] at begun
      exact begun
    · rw [run] at begun
      exact begun.trans (second result between)
  attempt kept session := kept session
  look _ session := .refl session

/-- A converter without coercion, or with the standard one of its target. -/
def Converter.Standard (converter : Converter) : Prop :=
  ∀ coercion ∈ converter.coercion, (converter.target, coercion) ∈ standardCoercions

/-- The table that a session starts with has the standard coercions in their order. -/
theorem ConverterTable.entries_standard :
    standard.entries =
      standardCoercions.mapIdx fun rank pair => (pair.1, ⟨rank, pair.1, some pair.2⟩) :=
  rfl

theorem World.isSubclass_builtin (world : World) (kind : BuiltinClass) :
    world.isSubclass (.builtin kind) (.builtin kind) = true :=
  isSubclass_of_mem_linearization (List.mem_map_of_mem kind.mem_linearization)

namespace Engine

/-- That the test of a key was answered with yes just now. -/
def Accepts (engine : Engine) (key : TypeKey) (value : Value) (after : Session) : Prop :=
  ∃ before, (engine.isOfKey key value).runFrom before = (.ok true, after)

/-- What an object that is a whole number answered when it was asked whether it differs from zero. -/
def Speaks (engine : Engine) (argument answer : Value) (after : Session) : Prop :=
  ∃ address before, argument = .object address ∧
    (argument.content before.objects).int?.isSome = true ∧
    (engine.operate (.compare .ne) [argument, .int 0]).runFrom before = (.ok answer, after)

/-- That objects that are whole numbers answer this with truth values. -/
def SpeaksTruly (engine : Engine) : Prop :=
  ∀ argument answer after, engine.Speaks argument answer after → ∃ truth, answer = .bool truth

/-- That a value may stand for an argument: the test of the key accepted it just now, or it is what
an object answered that was asked for a truth value. -/
def Admits (engine : Engine) (key : TypeKey) (argument value : Value) (after : Session) : Prop :=
  engine.Accepts key value after ∨
    key = .cls (.builtin .bool) ∧ engine.Speaks argument value after

variable {engine : Engine} {argument value : Value} {session after : Session} {key : TypeKey}

section Coercing

theorem runFrom_isOfKey_cls (present : value ≠ .none) (cls : ClassId) (session : Session) :
    (engine.isOfKey (.cls cls) value).runFrom session =
      (.ok (engine.hierarchy.isSubclass (value.classOf session.objects) cls), session) := by
  cases value with
  | none => exact absurd rfl present
  | _ => rfl

theorem accepts_of_classOf (present : value ≠ .none) {kind : BuiltinClass}
    (made : value.classOf after.objects = .builtin kind) :
    engine.Accepts (.cls (.builtin kind)) value after := by
  have same : engine.hierarchy.isSubclass (.builtin kind) (.builtin kind) = true :=
    engine.world.isSubclass_builtin kind
  refine ⟨after, ?_⟩
  rw [runFrom_isOfKey_cls present, made, same]

theorem runFrom_isOfKey_exact {width : Width} (present : value ≠ .none)
    (represents : engine.hierarchy.isSubclass (value.classOf session.objects)
      width.representation = true) :
    (engine.isOfKey (.exact width) value).runFrom session =
      (if width.bits != 0 then engine.inRange width value
        else if width.length != 0 then
          engine.operate .length [value] >>= fun length =>
            engine.compares .eq length (.int width.length)
        else pure true : Act Bool).runFrom session := by
  have test : engine.isOfKey (.exact width) value = engine.isOfWidth width value := by
    cases value with
    | none => exact absurd rfl present
    | _ => rfl
  rw [test, isOfWidth, Act.runFrom_bind, Act.runFrom_isInstance, represents]
  rfl

/-- A single character is taken for one by its length. -/
theorem tested_of_single (present : value ≠ .none)
    (ofTexts : engine.hierarchy.isSubclass (value.classOf session.objects) (.builtin .text) = true)
    {length : Value} {between : Session}
    (measured : (engine.operate .length [value]).runFrom session = (.ok length, between))
    (single : (engine.compares .eq length (.int 1)).runFrom between = (.ok true, after)) :
    (engine.isOfKey (.exact .char) value).runFrom session = (.ok true, after) := by
  rw [runFrom_isOfKey_exact present ofTexts]
  have test : (engine.operate .length [value] >>= fun length =>
      engine.compares .eq length (.int 1)).runFrom session = (.ok true, after) := by
    rw [Act.runFrom_bind_of_ok measured]
    exact single
  exact test

/-- What a value says of itself is a text. -/
theorem isSubclass_of_spoken
    (said : (engine.spoken argument).runFrom session = (.ok value, after)) :
    engine.hierarchy.isSubclass (value.classOf after.objects) (.builtin .text) = true := by
  have plain {before : Session}
      (said : (engine.text argument >>= fun text => pure (Value.text text)).runFrom before =
        (.ok value, after)) :
      engine.hierarchy.isSubclass (value.classOf after.objects) (.builtin .text) = true := by
    obtain ⟨text, between, _, rest⟩ := Act.exists_of_runFrom_bind said
    cases rest
    exact engine.world.isSubclass_builtin .text
  unfold spoken at said
  split at said
  · obtain ⟨object, between, _, rest⟩ := Act.exists_of_runFrom_bind said
    split at rest
    · obtain ⟨answer, later, _, rest⟩ := Act.exists_of_runFrom_bind rest
      obtain ⟨isText, last, tested, rest⟩ := Act.exists_of_runFrom_bind rest
      rw [Act.runFrom_isInstance] at tested
      obtain ⟨counts, rfl⟩ := Prod.mk.inj tested
      cases isText with
      | true =>
          cases rest
          exact Except.ok.inj counts
      | false =>
          obtain ⟨cls, _, _, rest⟩ := Act.exists_of_runFrom_bind rest
          cases rest
    · exact plain rest
  · exact plain said

theorem present_of_texts {objects : Array Object}
    (ofTexts : engine.hierarchy.isSubclass (value.classOf objects) (.builtin .text) = true) :
    value ≠ .none := by
  rintro rfl
  have counts : engine.world.isSubclass (.builtin .noneType) (.builtin .text) = true := ofTexts
  have among := World.mem_linearization_of_isSubclass rfl counts
  obtain ⟨base, mem, same⟩ := List.mem_map.mp among
  cases same
  exact absurd mem (by decide)

/-- What is made a single character was tested as one: the value itself, or what it says of itself. -/
theorem tested_of_toCharacter
    (made : (engine.toCharacter argument).runFrom session = (.ok value, after)) :
    ∃ before, (engine.isOfKey (.exact .char) value).runFrom before = (.ok true, after) ∧
      (value = argument ∧ before = session ∨
        (engine.spoken argument).runFrom session = (.ok value, before)) := by
  have judged {result : Value} {start : Session}
      (ofTexts : engine.hierarchy.isSubclass (result.classOf start.objects) (.builtin .text) = true)
      (rest : (do
        if ← engine.compares .eq (← engine.operate .length [result]) (.int 1) then return result
        else throw (.conversion (.notOneCharacter (← engine.display result))) : Act Value).runFrom
          start = (.ok value, after)) :
      value = result ∧
        (engine.isOfKey (.exact .char) result).runFrom start = (.ok true, after) := by
    obtain ⟨length, between, measured, rest⟩ := Act.exists_of_runFrom_bind rest
    obtain ⟨isSingle, last, single, rest⟩ := Act.exists_of_runFrom_bind rest
    cases isSingle with
    | true =>
        cases rest
        exact ⟨rfl, tested_of_single (present_of_texts ofTexts) ofTexts measured single⟩
    | false =>
        obtain ⟨shown, _, _, rest⟩ := Act.exists_of_runFrom_bind rest
        cases rest
  unfold toCharacter at made
  obtain ⟨isText, between, tested, rest⟩ := Act.exists_of_runFrom_bind made
  rw [Act.runFrom_isInstance] at tested
  obtain ⟨answer, rfl⟩ := Prod.mk.inj tested
  cases isText with
  | true =>
      obtain ⟨rfl, single⟩ := judged (Except.ok.inj answer) rest
      exact ⟨_, single, .inl ⟨rfl, rfl⟩⟩
  | false =>
      obtain ⟨result, before, said, rest⟩ := Act.exists_of_runFrom_bind rest
      obtain ⟨rfl, single⟩ := judged (isSubclass_of_spoken said) rest
      exact ⟨before, single, .inr said⟩

theorem accepts_of_toWidth {width : Width} (ofNumbers : width.representation = .builtin .int)
    (bounded : width.bits ≠ 0)
    (made : (engine.toWidth width argument).runFrom session = (.ok value, after)) :
    engine.Accepts (.exact width) value after := by
  unfold toWidth at made
  obtain ⟨number, between, _, rest⟩ := Act.exists_of_runFrom_bind made
  obtain ⟨isWithin, last, within, rest⟩ := Act.exists_of_runFrom_bind rest
  cases isWithin with
  | true =>
      cases rest
      have represents : engine.hierarchy.isSubclass ((Value.int number).classOf between.objects)
          width.representation = true := by
        rw [ofNumbers]
        exact engine.world.isSubclass_builtin .int
      refine ⟨between, ?_⟩
      rw [runFrom_isOfKey_exact (by simp) represents, if_pos (by simpa using bounded)]
      exact within
  | false =>
      obtain ⟨text, _, _, rest⟩ := Act.exists_of_runFrom_bind rest
      cases rest

theorem admits_of_toTruth
    (made : (engine.toTruth argument).runFrom session = (.ok value, after)) :
    engine.Admits (.cls (.builtin .bool)) argument value after := by
  have judged (truth : Bool) : engine.Accepts (.cls (.builtin .bool)) (.bool truth) after :=
    accepts_of_classOf (by simp) rfl
  unfold toTruth at made
  obtain ⟨content, between, looked, rest⟩ := Act.exists_of_runFrom_bind made
  cases looked
  split at rest
  · rename_i address isNumber
    exact .inr ⟨rfl, address, session, rfl, by rw [isNumber, Option.isSome_some], rest⟩
  · cases rest
    exact .inl (judged _)
  · obtain ⟨text, last, _, rest⟩ := Act.exists_of_runFrom_bind rest
    split at rest
    · cases rest
      exact .inl (judged _)
    · obtain ⟨number, _, _, rest⟩ := Act.exists_of_runFrom_bind rest
      cases rest
      exact .inl (judged _)

/-- Work that makes its result a value of a built-in class. -/
theorem accepts_of_making {α : Type} {work : Act α} {make : α → Value} {kind : BuiltinClass}
    (present : ∀ result, make result ≠ .none)
    (ofKind : ∀ result objects, (make result).classOf objects = .builtin kind)
    (made : (work >>= fun result => pure (make result)).runFrom session = (.ok value, after)) :
    engine.Accepts (.cls (.builtin kind)) value after := by
  obtain ⟨result, between, _, rest⟩ := Act.exists_of_runFrom_bind made
  cases rest
  exact accepts_of_classOf (present result) (ofKind result _)

/-- The standard widths are those of whole numbers with bounds. -/
theorem narrows_of_standard {width : Width} (standard : (key, .width width) ∈ standardCoercions) :
    key = .exact width ∧ width.representation = .builtin .int ∧ width.bits ≠ 0 := by
  simp only [standardCoercions, List.mem_cons, Prod.mk.injEq, reduceCtorEq, and_false,
    false_or, Coercion.width.injEq, List.not_mem_nil, or_false] at standard
  rcases standard with ⟨rfl, rfl⟩ | ⟨rfl, rfl⟩ | ⟨rfl, rfl⟩ | ⟨rfl, rfl⟩
  all_goals exact ⟨rfl, rfl, by decide⟩

/-- What a standard coercion makes may stand for the argument. -/
theorem admits_of_coerce {coercion : Coercion}
    (standard : (key, coercion) ∈ standardCoercions)
    (made : (engine.coerce coercion argument).runFrom session = (.ok value, after)) :
    engine.Admits key argument value after := by
  cases coercion with
  | char =>
      obtain rfl : key = .exact .char := by simpa [standardCoercions] using standard
      obtain ⟨before, tested, _⟩ := tested_of_toCharacter made
      exact .inl ⟨before, tested⟩
  | int =>
      obtain rfl : key = .cls (.builtin .int) := by simpa [standardCoercions] using standard
      exact .inl (accepts_of_making (by simp) (fun _ _ => rfl) made)
  | float =>
      obtain rfl : key = .cls (.builtin .float) := by simpa [standardCoercions] using standard
      exact .inl (accepts_of_making (by simp) (fun _ _ => rfl) made)
  | bool =>
      obtain rfl : key = .cls (.builtin .bool) := by simpa [standardCoercions] using standard
      exact admits_of_toTruth made
  | decimal =>
      obtain rfl : key = .cls (.builtin .decimal) := by simpa [standardCoercions] using standard
      exact .inl (accepts_of_making (by simp) (fun _ _ => rfl) made)
  | text =>
      obtain rfl : key = .cls (.builtin .text) := by simpa [standardCoercions] using standard
      have ofTexts := isSubclass_of_spoken made
      refine .inl ⟨after, ?_⟩
      rw [runFrom_isOfKey_cls (present_of_texts ofTexts), ofTexts]
  | bytes =>
      obtain rfl : key = .cls (.builtin .bytes) := by simpa [standardCoercions] using standard
      exact .inl (accepts_of_making (by simp) (fun _ _ => rfl) made)
  | width width =>
      obtain ⟨rfl, ofNumbers, bounded⟩ := narrows_of_standard standard
      exact .inl (accepts_of_toWidth ofNumbers bounded made)
  | body body => simp [standardCoercions] at standard
  | callable callable => simp [standardCoercions] at standard

end Coercing

section Converting

/-- Only byte strings are carried as something else, which is a text. -/
theorem eq_or_text_of_carriedText
    (carried : (carriedText argument).runFrom session = (.ok value, after)) :
    value = argument ∨ ∃ text, value = .text text := by
  unfold carriedText at carried
  obtain ⟨bytes, between, _, rest⟩ := Act.exists_of_runFrom_bind carried
  split at rest
  · cases rest
    exact .inl rfl
  · split at rest
    · cases rest
      exact .inr ⟨_, rfl⟩
    · cases rest

/-- What a converter gives is the argument, if its test accepts it, and what its coercion makes of what
the argument carries otherwise. -/
theorem tested_or_coerced_of_convert {converter : Converter}
    (converted : (engine.convert converter argument).runFrom session = (.ok value, after)) :
    value = argument ∧ (engine.isOfKey converter.target argument).runFrom session = (.ok true, after) ∨
      ∃ coercion carried between last, converter.coercion = some coercion ∧
        (engine.isOfKey converter.target argument).runFrom session = (.ok false, between) ∧
        (carriedText argument).runFrom between = (.ok carried, last) ∧
        (engine.coerce coercion carried).runFrom last = (.ok value, after) := by
  unfold convert at converted
  split at converted
  · cases converted
  · obtain ⟨isOfKey, between, tested, rest⟩ := Act.exists_of_runFrom_bind converted
    cases isOfKey with
    | true =>
        cases rest
        exact .inl ⟨rfl, tested⟩
    | false =>
        rcases found : converter.coercion with _ | coercion
        · simp only [found] at rest
          obtain ⟨cls, _, _, rest⟩ := Act.exists_of_runFrom_bind rest
          cases rest
        · simp only [found] at rest
          obtain ⟨carried, last, carries, made⟩ := Act.exists_of_runFrom_bind rest
          exact .inr ⟨coercion, carried, between, last, rfl, tested, carries, made⟩

/-- What a standard converter gives may stand for the argument. -/
theorem admits_of_convert {converter : Converter} (standard : converter.Standard)
    (converted : (engine.convert converter argument).runFrom session = (.ok value, after)) :
    engine.Admits converter.target argument value after := by
  rcases tested_or_coerced_of_convert converted with
    ⟨rfl, tested⟩ | ⟨coercion, carried, _, _, found, -, carries, made⟩
  · exact .inl ⟨session, tested⟩
  · rcases eq_or_text_of_carriedText carries with rfl | ⟨text, rfl⟩
    · exact admits_of_coerce (standard coercion found) made
    · rcases admits_of_coerce (standard coercion found) made with accepted | ⟨_, _, _, isObject, _⟩
      · exact .inl accepted
      · cases isObject

/-- What the test accepts is converted to itself. -/
theorem runFrom_convert_of_accepted {converter : Converter}
    (accepted : (engine.isOfKey converter.target value).runFrom session = (.ok true, after)) :
    (engine.convert converter value).runFrom session = (.ok value, after) := by
  unfold convert
  split
  · cases accepted
  · rw [Act.runFrom_bind_of_ok accepted]
    rfl

/-- What converts as it is was accepted as it is. -/
theorem Suits.converts {converters : List Converter} {arguments : List Value}
    (suits : engine.Suits converters arguments session after) :
    engine.Converts converters arguments session arguments after := by
  induction suits with
  | done session => exact .done session
  | next first others ih => exact .next (runFrom_convert_of_accepted first) ih

theorem Converts.append {converters others : List Converter}
    {arguments rest values more : List Value} {between : Session}
    (first : engine.Converts converters arguments session values between)
    (second : engine.Converts others rest between more after) :
    engine.Converts (converters ++ others) (arguments ++ rest) session (values ++ more) after := by
  induction first with
  | done session => exact second
  | next head tail ih => exact .next head (ih second)

theorem Converts.lengths {converters : List Converter} {arguments values : List Value}
    (converts : engine.Converts converters arguments session values after) :
    converters.length = values.length ∧ arguments.length = values.length := by
  induction converts with
  | done session => exact ⟨rfl, rfl⟩
  | next first others ih => simp [ih]

theorem Converts.length_eq {converters : List Converter} {arguments values : List Value}
    (converts : engine.Converts converters arguments session values after) :
    converters.length = values.length :=
  converts.lengths.1

theorem Converts.of_single {converters : List Converter} {argument : Value} {values : List Value}
    (converts : engine.Converts converters [argument] session values after) :
    ∃ converter value, converters = [converter] ∧ values = [value] ∧
      (engine.convert converter argument).runFrom session = (.ok value, after) := by
  cases converts with
  | next first others =>
      cases others
      exact ⟨_, _, rfl, rfl, first⟩

end Converting

section Choosing

variable {member : Member} {arguments values : List Value} {extras : ℤ}

theorem converts_of_convertAll {converters : List Converter}
    (same : converters.length = arguments.length)
    (made : (engine.convertAll converters arguments).runFrom session = (.ok values, after)) :
    engine.Converts converters arguments session values after := by
  rcases convertAll_cases engine same session with ⟨_, _, converts⟩ | ⟨_, _, breaks⟩
  · rw [converts.run] at made
    cases made
    exact converts
  · rw [breaks.run] at made
    cases made

theorem converts_of_allOfTargets {converters : List Converter}
    (same : converters.length = arguments.length)
    (tested : (engine.allOfTargets converters arguments).runFrom session = (.ok true, after)) :
    engine.Converts converters arguments session arguments after := by
  rcases allOfTargets_cases engine same session with ⟨_, suits⟩ | ⟨cause, _, unsuited⟩
  · rw [suits.run] at tested
    cases tested
    exact suits.converts
  · rw [unsuited.run] at tested
    cases cause with
    | none => cases tested
    | some fault => cases tested

theorem succeeded_of_ifSuccessful {α : Type} {work : Act (Option α)} {result : α}
    (made : (ifSuccessful work).runFrom session = (.ok (some result), after)) :
    work.runFrom session = (.ok (some result), after) := by
  unfold ifSuccessful at made
  rw [Act.runFrom_bind, Act.runFrom_attempt] at made
  rcases run : work.runFrom session with ⟨fault | outcome, last⟩
  · rw [run] at made
    simp only at made
    split at made <;> cases made
  · rw [run] at made
    cases made
    rfl

/-- Arguments that fit a member were all converted for it, from some moment of the search on. -/
theorem converts_of_convertFor
    (fits : (engine.convertFor? member arguments extras).runFrom session =
      (.ok (some values), after)) :
    ∃ start, engine.Converts member.converters arguments start values after := by
  unfold convertFor? at fits
  dsimp only at fits
  split at fits
  · cases fits
  · rename_i counts
    simp only [bne_iff_ne, ne_eq, not_not] at counts
    have takes : member.converters.length = arguments.length := counts.symm
    have done := succeeded_of_ifSuccessful fits
    split at done
    · obtain ⟨_, _, _, rest⟩ := Act.exists_of_runFrom_bind done
      cases rest
    · split at done
      · generalize arguments.length - extras.toNat = lead at done
        obtain ⟨converted, between, first, rest⟩ := Act.exists_of_runFrom_bind done
        obtain ⟨suit, last, second, rest⟩ := Act.exists_of_runFrom_bind rest
        cases suit with
        | true =>
            cases rest
            have leading := converts_of_convertAll (by simp [takes]) first
            have trailing := converts_of_allOfTargets (by simp [takes]) second
            have all := leading.append trailing
            rw [List.take_append_drop, List.take_append_drop] at all
            exact ⟨session, all⟩
        | false => cases rest
      · split at done
        · obtain ⟨first, between, _, rest⟩ := Act.exists_of_runFrom_bind done
          cases first with
          | true =>
              obtain ⟨second, last, tested, rest⟩ := Act.exists_of_runFrom_bind rest
              cases second with
              | true =>
                  cases rest
                  exact ⟨between, converts_of_allOfTargets takes tested⟩
              | false => cases rest
          | false => cases rest
        · cases done

/-- What a search finds is a member of the index that the arguments were tried on and fitted. -/
theorem trial_of_choose {index : Index} {onlyPublic : Bool} {required : ClassId} {choice : Choice}
    (found : (engine.choose index onlyPublic required arguments extras).runFrom session =
      (.ok (some choice), after)) :
    choice.member ∈ index.members ∧ ∃ start,
      (engine.convertFor? choice.member arguments extras).runFrom start =
        (.ok (some choice.arguments), after) := by
  unfold choose at found
  have among : ∀ member ∈ index.candidates arguments.length, member ∈ index.members := by
    rw [index.candidates_eq_filter]
    exact fun member mem => (List.mem_filter.mp mem).1
  generalize index.candidates arguments.length = members at found among
  induction members generalizing session with
  | nil => cases found
  | cons member members ih =>
      rcases List.forall_mem_cons.mp among with ⟨here, others⟩
      unfold chooseAmong at found
      split at found
      · obtain ⟨converted, between, trial, rest⟩ := Act.exists_of_runFrom_bind found
        cases converted with
        | some values =>
            cases rest
            exact ⟨here, session, trial⟩
        | none => exact ih rest others
      · exact ih found others

theorem converts_of_choose {index : Index} {onlyPublic : Bool} {required : ClassId}
    {choice : Choice}
    (found : (engine.choose index onlyPublic required arguments extras).runFrom session =
      (.ok (some choice), after)) :
    ∃ start, engine.Converts choice.member.converters arguments start choice.arguments after := by
  obtain ⟨-, start, trial⟩ := trial_of_choose found
  exact converts_of_convertFor trial

end Choosing

section Delivering

/-- That arguments are converted one after the other, each to a value that may stand for it at the end
of its conversion. -/
inductive Delivers (engine : Engine) :
    List TypeKey → List Value → Session → List Value → Session → Prop
  | done (session : Session) : Delivers engine [] [] session [] session
  | next {converter : Converter} {keys : List TypeKey} {argument value : Value}
      {arguments values : List Value} {session between after : Session}
      (converted : (engine.convert converter argument).runFrom session = (.ok value, between))
      (admitted : engine.Admits converter.target argument value between)
      (others : Delivers engine keys arguments between values after) :
      Delivers engine (converter.target :: keys) (argument :: arguments) session
        (value :: values) after

variable {keys : List TypeKey} {arguments values : List Value}

theorem Converts.delivers {converters : List Converter}
    (standard : ∀ converter ∈ converters, converter.Standard)
    (converts : engine.Converts converters arguments session values after) :
    engine.Delivers (converters.map Converter.target) arguments session values after := by
  induction converts with
  | done session => exact .done session
  | next first others ih =>
      obtain ⟨here, behind⟩ := List.forall_mem_cons.mp standard
      exact .next first (admits_of_convert here first) (ih behind)

theorem isSubclass_of_accepts {cls : ClassId} (accepts : engine.Accepts (.cls cls) value after) :
    engine.hierarchy.isSubclass (value.classOf after.objects) cls = true := by
  obtain ⟨before, tested⟩ := accepts
  by_cases present : value = .none
  · rw [present] at tested
    cases tested
  · rw [runFrom_isOfKey_cls present] at tested
    obtain ⟨answer, rfl⟩ := Prod.mk.inj tested
    exact Except.ok.inj answer

theorem Delivers.sameClasses (keeps : engine.Keeps Act.keepingClasses)
    (delivers : engine.Delivers keys arguments session values after) :
    session.SameClasses after := by
  induction delivers with
  | done session => exact .refl session
  | @next converter _ argument _ _ _ session between after converted admitted others ih =>
      have first := keeps.convert converter argument session
      rw [converted] at first
      exact first.trans ih

theorem accepts_of_admits (admits : engine.Admits key argument value after)
    (truly : key = .cls (.builtin .bool) → engine.SpeaksTruly) :
    engine.Accepts key value after := by
  rcases admits with accepts | ⟨same, speaks⟩
  · exact accepts
  · obtain ⟨truth, rfl⟩ := truly same argument value after speaks
    rw [same]
    exact accepts_of_classOf (by simp) rfl

/-- Where work leaves objects in their classes, what was delivered for a class is an instance of it
when everything is. -/
theorem Delivers.instances (keeps : engine.Keeps Act.keepingClasses)
    (delivers : engine.Delivers keys arguments session values after) :
    List.Forall₂ (fun key value => session.Has value → ∀ cls, key = .cls cls →
      (cls = .builtin .bool → engine.SpeaksTruly) →
        engine.hierarchy.isSubclass (value.classOf after.objects) cls = true) keys values := by
  induction delivers with
  | done session => exact .nil
  | @next converter keys argument value _ values session between after converted admitted others
      ih =>
      have first := keeps.convert converter argument session
      rw [converted] at first
      refine .cons ?_ (ih.imp fun key value holds there => holds (first.has there))
      intro there cls same truly
      rw [same] at admitted
      rw [(others.sameClasses keeps).classOf_eq (first.has there)]
      exact isSubclass_of_accepts (accepts_of_admits admitted fun ofTruths =>
        truly (TypeKey.cls.inj ofTruths))

end Delivering

end Engine

end MemberDispatch
