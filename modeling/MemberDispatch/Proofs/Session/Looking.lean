import MemberDispatch.Proofs.Value.Inequality
import MemberDispatch.Proofs.Value.WholeNumbers

/-!
# Tests that only look

The test of a converter asks a value for its class, for its length or for its order among whole numbers.
Where the class of the value leaves these operators to the built-in classes, nothing runs that could
change anything: the answer depends on the value alone, and asking again gives it again.
-/

namespace MemberDispatch

/-- That a value stands in a later session as it stood in an earlier one: it is no object, or all
objects are as they were. -/
def Value.Standing (value : Value) (start later : Session) : Prop :=
  ∀ address, value = .object address → later.objects = start.objects

namespace Value.Standing

variable {value : Value} {start later : Session}

theorem refl (value : Value) (session : Session) : value.Standing session session :=
  fun _ _ => rfl

theorem classOf_eq (standing : value.Standing start later) :
    value.classOf later.objects = value.classOf start.objects := by
  cases value with
  | object address => rw [standing address rfl]
  | _ => rfl

theorem content_eq (standing : value.Standing start later) :
    value.content later.objects = value.content start.objects := by
  cases value with
  | object address => rw [standing address rfl]
  | _ => rfl

theorem objects_eq (standing : value.Standing start later) {address : ℕ}
    (made : value.content start.objects = .object address) : later.objects = start.objects := by
  cases value with
  | object _ => exact standing _ rfl
  | _ => cases made

end Value.Standing

/-- That work has one outcome as long as a value stands, that it leaves the session as it is, and that
its result has a property. -/
def Act.LooksAt {α : Type} (value : Value) (start : Session) (property : α → Prop)
    (work : Act α) : Prop :=
  ∃ outcome : Except Fault α, (∀ result, outcome = .ok result → property result) ∧
    ∀ later, value.Standing start later → work.runFrom later = (outcome, later)

namespace Act.LooksAt

variable {α β : Type} {value : Value} {start : Session} {property : α → Prop}
  {following : β → Prop}

theorem pure {result : α} (holds : property result) :
    LooksAt value start property (Pure.pure result) := by
  refine ⟨.ok result, fun _ same => ?_, fun _ _ => rfl⟩
  cases same
  exact holds

theorem throw (fault : Fault) : LooksAt value start property (MonadExcept.throw fault : Act α) :=
  ⟨.error fault, nofun, fun _ _ => rfl⟩

theorem bind {work : Act α} {next : α → Act β} (first : work.LooksAt value start property)
    (second : ∀ result, property result → (next result).LooksAt value start following) :
    LooksAt value start following (work >>= next) := by
  obtain ⟨fault | result, has, run⟩ := first
  · exact ⟨.error fault, nofun, fun later standing =>
      Act.runFrom_bind_of_error (run later standing) next⟩
  · obtain ⟨outcome, given, rest⟩ := second result (has result rfl)
    exact ⟨outcome, given, fun later standing =>
      (Act.runFrom_bind_of_ok (run later standing) next).trans (rest later standing)⟩

/-- What was answered once is answered as long as the value stands. -/
theorem run_eq {work : Act α} (looks : work.LooksAt value start property) {session after : Session}
    {outcome : Except Fault α} (standing : value.Standing start session)
    (run : work.runFrom session = (outcome, after)) :
    after = session ∧
      ∀ later, value.Standing start later → work.runFrom later = (outcome, later) := by
  obtain ⟨found, _, always⟩ := looks
  rw [always session standing] at run
  cases run
  exact ⟨rfl, always⟩

theorem classOf {asked : Value} (same : ∀ later, value.Standing start later →
      asked.classOf later.objects = asked.classOf start.objects) :
    LooksAt value start (· = asked.classOf start.objects) (Act.classOf asked) := by
  refine ⟨.ok _, fun _ same => (Except.ok.inj same).symm, fun later standing => ?_⟩
  rw [Act.runFrom_classOf, same later standing]

theorem contentOf (value : Value) (start : Session) :
    LooksAt value start (· = value.content start.objects) (Act.contentOf value) := by
  refine ⟨.ok _, fun _ same => (Except.ok.inj same).symm, fun later standing => ?_⟩
  rw [Engine.runFrom_contentOf, standing.content_eq]

theorem objectAt {address : ℕ} (made : value.content start.objects = .object address) :
    LooksAt value start (fun _ => True) (Act.objectAt address) := by
  refine ⟨.ok (start.objects[address]?.getD default), fun _ _ => trivial, fun later standing => ?_⟩
  rw [Engine.runFrom_objectAt, standing.objects_eq made]

theorem isInstance (hierarchy : Hierarchy) (cls : ClassId) :
    LooksAt value start (fun _ => True) (Act.isInstance hierarchy value cls) :=
  (classOf fun _ standing => standing.classOf_eq).bind fun _ _ => .pure trivial

end Act.LooksAt

/-- That one of two values is a whole number and the other one the value at hand. -/
def Value.Bounds (value left right : Value) : Prop :=
  ∃ bound, left = .int bound ∧ right = value ∨ left = value ∧ right = .int bound

namespace Value.Bounds

variable {value left right : Value} {start later : Session}

theorem swap (bounds : value.Bounds left right) : value.Bounds right left := by
  obtain ⟨bound, ⟨isLeft, isRight⟩ | ⟨isLeft, isRight⟩⟩ := bounds
  · exact ⟨bound, .inr ⟨isRight, isLeft⟩⟩
  · exact ⟨bound, .inl ⟨isRight, isLeft⟩⟩

theorem oneInt (bounds : value.Bounds left right) :
    ∃ bound, left = .int bound ∨ right = .int bound := by
  obtain ⟨bound, ⟨isLeft, -⟩ | ⟨-, isRight⟩⟩ := bounds
  · exact ⟨bound, .inl isLeft⟩
  · exact ⟨bound, .inr isRight⟩

theorem classOf_eq (bounds : value.Bounds left right) (standing : value.Standing start later) :
    left.classOf later.objects = left.classOf start.objects ∧
      right.classOf later.objects = right.classOf start.objects := by
  obtain ⟨bound, ⟨rfl, rfl⟩ | ⟨rfl, rfl⟩⟩ := bounds
  · exact ⟨rfl, standing.classOf_eq⟩
  · exact ⟨standing.classOf_eq, rfl⟩

theorem content_eq (bounds : value.Bounds left right) (standing : value.Standing start later) :
    left.content later.objects = left.content start.objects ∧
      right.content later.objects = right.content start.objects := by
  obtain ⟨bound, ⟨rfl, rfl⟩ | ⟨rfl, rfl⟩⟩ := bounds
  · exact ⟨rfl, standing.content_eq⟩
  · exact ⟨standing.content_eq, rfl⟩

end Value.Bounds

/-- That a class leaves some operators to the built-in classes. -/
def Engine.Leaves (engine : Engine) (names : List String) (cls : ClassId) : Prop :=
  ∀ name ∈ names, engine.declaredMethod? cls name = none

namespace Engine

variable {engine : Engine} {value left right : Value} {start : Session}

section Measuring

theorem looks_lengthOf (inherited : engine.declaredMethod? (value.classOf start.objects) "__len__" = none) :
    (engine.lengthOf value).LooksAt value start fun length => ∃ number, length = .int number := by
  unfold lengthOf
  refine (Act.LooksAt.classOf fun _ standing => standing.classOf_eq).bind ?_
  rintro cls rfl
  rw [inherited]
  refine (Act.LooksAt.contentOf value start).bind ?_
  rintro content made
  split
  any_goals exact .pure ⟨_, rfl⟩
  · refine (Act.LooksAt.objectAt made.symm).bind ?_
    rintro object -
    split
    any_goals exact .pure ⟨_, rfl⟩
    exact .throw _
  · exact .throw _

end Measuring

section Comparing

/-- That a comparison is one of the two that ranges ask. -/
inductive Bounding : Comparison → Prop
  | le : Bounding .le
  | ge : Bounding .ge

theorem looks_compareNumbers (value : Value) (start : Session) (comparison : Comparison)
    (left right : Value) :
    (compareNumbers comparison left right).LooksAt value start Value.Verdict := by
  unfold compareNumbers
  dsimp only
  split
  · exact .pure (.truth _)
  · split
    · exact .throw _
    · exact .pure (.truth _)

theorem runFrom_listItems (value : Value) (session : Session) :
    ∃ items, (listItems? value).runFrom session = (.ok items, session) := by
  unfold listItems?
  split
  · rw [Act.runFrom_bind_of_ok (runFrom_objectAt _ session)]
    split
    all_goals exact ⟨_, rfl⟩
  · exact ⟨_, rfl⟩

theorem runFrom_setItems (value : Value) (session : Session) :
    ∃ items, (setItems? value).runFrom session = (.ok items, session) := by
  unfold setItems?
  split
  · exact ⟨_, rfl⟩
  · rw [Act.runFrom_bind_of_ok (runFrom_objectAt _ session)]
    split
    all_goals exact ⟨_, rfl⟩
  · exact ⟨_, rfl⟩

theorem runFrom_bytes (value : Value) (session : Session) :
    ∃ bytes, (bytes? value).runFrom session = (.ok bytes, session) := by
  unfold bytes?
  split
  · exact ⟨_, rfl⟩
  · rw [Act.runFrom_bind_of_ok (runFrom_objectAt _ session)]
    split
    all_goals exact ⟨_, rfl⟩
  · exact ⟨_, rfl⟩

theorem runFrom_dictEntries (value : Value) (session : Session) :
    ∃ entries, (dictEntries? value).runFrom session = (.ok entries, session) := by
  unfold dictEntries?
  split
  · rw [Act.runFrom_bind_of_ok (runFrom_objectAt _ session)]
    split
    all_goals exact ⟨_, rfl⟩
  · exact ⟨_, rfl⟩

/-- Whole numbers have no order with what is no number. -/
theorem runFrom_compareBuiltin_apart (engine : Engine) {comparison : Comparison}
    (bounding : Bounding comparison) {left right : Value} {session : Session}
    (oneInt : ∃ bound, left = .int bound ∨ right = .int bound)
    (noNumbers : ((left.content session.objects).isNumber &&
      (right.content session.objects).isNumber) = false) :
    (engine.compareBuiltin comparison left right).runFrom session =
      (.ok .notImplemented, session) := by
  have neither : (comparison == .eq) = false ∧ (comparison == .ne) = false := by
    cases bounding <;> decide
  -- A whole number is of none of the kinds that are compared item by item, so no kind has both.
  have notBoth {β : Type} {find : Value → Act (Option β)}
      (misses : ∀ bound, find (.int bound) = pure none) {inLeft inRight : β}
      (foundLeft : (find left).runFrom session = (.ok (some inLeft), session))
      (foundRight : (find right).runFrom session = (.ok (some inRight), session)) : False := by
    rcases oneInt with ⟨bound, rfl | rfl⟩
    · rw [misses] at foundLeft
      cases foundLeft
    · rw [misses] at foundRight
      cases foundRight
  obtain ⟨lefts, listed⟩ := runFrom_listItems left session
  obtain ⟨rights, listedRight⟩ := runFrom_listItems right session
  obtain ⟨leftSet, inSet⟩ := runFrom_setItems left session
  obtain ⟨rightSet, inSetRight⟩ := runFrom_setItems right session
  obtain ⟨leftBytes, inBytes⟩ := runFrom_bytes left session
  obtain ⟨rightBytes, inBytesRight⟩ := runFrom_bytes right session
  obtain ⟨leftDict, inDict⟩ := runFrom_dictEntries left session
  obtain ⟨rightDict, inDictRight⟩ := runFrom_dictEntries right session
  unfold compareBuiltin
  rw [Act.runFrom_bind_of_ok (runFrom_contentOf left session),
    Act.runFrom_bind_of_ok (runFrom_contentOf right session), noNumbers,
    if_neg Bool.false_ne_true]
  split
  · rename_i isLeft isRight
    rcases oneInt with ⟨bound, rfl | rfl⟩
    · cases isLeft
    · cases isRight
  · rename_i isLeft isRight
    rcases oneInt with ⟨bound, rfl | rfl⟩
    · cases isLeft
    · cases isRight
  · rw [Act.runFrom_bind_of_ok listed, Act.runFrom_bind_of_ok listedRight]
    split
    · exact (notBoth (fun _ => rfl) listed listedRight).elim
    · rw [Act.runFrom_bind_of_ok inSet, Act.runFrom_bind_of_ok inSetRight]
      split
      · exact (notBoth (fun _ => rfl) inSet inSetRight).elim
      · rw [Act.runFrom_bind_of_ok inBytes, Act.runFrom_bind_of_ok inBytesRight]
        split
        · exact (notBoth (fun _ => rfl) inBytes inBytesRight).elim
        · rw [Act.runFrom_bind_of_ok inDict, Act.runFrom_bind_of_ok inDictRight]
          split
          · exact (notBoth (fun _ => rfl) inDict inDictRight).elim
          · simp only [neither.1, neither.2, Bool.false_and, Bool.false_eq_true, if_false]
            rfl

/-- What the built-in classes say to a value and a bound depends on the value alone. -/
theorem looks_compareBuiltin (engine : Engine) {comparison : Comparison}
    (bounding : Bounding comparison) (bounds : value.Bounds left right) (start : Session) :
    (engine.compareBuiltin comparison left right).LooksAt value start Value.Verdict := by
  rcases numbers : (left.content start.objects).isNumber && (right.content start.objects).isNumber
  · refine ⟨.ok .notImplemented, ?_, fun later standing => ?_⟩
    · rintro result same
      cases same
      exact .declined
    · obtain ⟨ofLeft, ofRight⟩ := bounds.content_eq standing
      rw [← ofLeft, ← ofRight] at numbers
      exact engine.runFrom_compareBuiltin_apart bounding bounds.oneInt numbers
  · obtain ⟨outcome, verdicts, always⟩ := looks_compareNumbers value start comparison
      (left.content start.objects) (right.content start.objects)
    refine ⟨outcome, verdicts, fun later standing => ?_⟩
    obtain ⟨ofLeft, ofRight⟩ := bounds.content_eq standing
    rw [← ofLeft, ← ofRight] at numbers
    rw [engine.runFrom_compareBuiltin_numbers comparison numbers, ofLeft, ofRight]
    exact always later standing

theorem looks_compareFrom (engine : Engine) {comparison : Comparison}
    (bounding : Bounding comparison) (bounds : value.Bounds left right) {start : Session}
    (inherited : engine.declaredMethod? (left.classOf start.objects) comparison.memberName = none) :
    (engine.compareFrom comparison left right).LooksAt value start Value.Verdict := by
  have builtin := engine.looks_compareBuiltin bounding bounds start
  unfold compareFrom
  refine (Act.LooksAt.classOf fun _ standing => (bounds.classOf_eq standing).1).bind ?_
  rintro cls rfl
  rw [inherited]
  cases bounding <;> exact builtin

theorem looks_ifDeclined {asked next : Act Value}
    (looks : asked.LooksAt value start Value.Verdict)
    (falls : next.LooksAt value start fun answer => ∃ truth, answer = .bool truth) :
    Act.LooksAt value start (fun answer => ∃ truth, answer = .bool truth) (do
      match ← asked with
      | .notImplemented => next
      | answer => return answer) := by
  refine looks.bind ?_
  rintro answer (truth | -)
  · exact .pure ⟨truth, rfl⟩
  · exact falls

/-- Whoever is asked first, a value in range is told from others by looking. -/
theorem looks_compareWith (engine : Engine) (bounds : value.Bounds left right) {start : Session}
    (inherited : engine.Leaves ["__le__", "__ge__"] (value.classOf start.objects)) :
    (engine.compareWith .le left right).LooksAt value start fun answer =>
      ∃ truth, answer = .bool truth := by
  have ownless (name : String) (among : name ∈ ["__le__", "__ge__"]) :
      engine.declaredMethod? (left.classOf start.objects) name = none ∧
        engine.declaredMethod? (right.classOf start.objects) name = none := by
    obtain ⟨bound, ⟨rfl, rfl⟩ | ⟨rfl, rfl⟩⟩ := bounds
    · exact ⟨engine.declaredMethod?_builtin .int name, inherited name among⟩
    · exact ⟨inherited name among, engine.declaredMethod?_builtin .int name⟩
  have asked := engine.looks_compareFrom .le bounds (ownless "__le__" (by simp)).1
  have reversed := engine.looks_compareFrom .ge bounds.swap (ownless "__ge__" (by simp)).2
  have declines : Act.LooksAt value start Value.Verdict (pure .notImplemented) := .pure .declined
  unfold compareWith
  refine (Act.LooksAt.classOf fun _ standing => (bounds.classOf_eq standing).1).bind ?_
  rintro leftClass -
  refine (Act.LooksAt.classOf fun _ standing => (bounds.classOf_eq standing).2).bind ?_
  rintro rightClass -
  dsimp only
  split
  · exact looks_ifDeclined reversed (looks_ifDeclined asked (looks_ifDeclined declines (.throw _)))
  · exact looks_ifDeclined declines (looks_ifDeclined asked (looks_ifDeclined reversed (.throw _)))

end Comparing

section Testing

theorem looks_compares {world : World} {level : ℕ} (bounds : value.Bounds left right)
    (inherited : (machine world level).Leaves ["__le__", "__ge__"] (value.classOf start.objects)) :
    ((machine world (level + 1)).compares .le left right).LooksAt value start fun _ => True := by
  have asked := (machine world level).looks_compareWith bounds inherited
  have answered : ((machine world (level + 1)).operate (.compare .le) [left, right]).LooksAt value
      start fun answer => ∃ truth, answer = .bool truth := asked
  unfold compares
  refine answered.bind ?_
  rintro answer ⟨truth, rfl⟩
  exact .pure trivial

theorem looks_inRange {world : World} {level : ℕ} (width : Width)
    (inherited : (machine world level).Leaves ["__le__", "__ge__"] (value.classOf start.objects)) :
    ((machine world (level + 1)).inRange width value).LooksAt value start fun _ => True := by
  unfold inRange
  split
  · exact .pure trivial
  · split
    · rename_i least greatest _ _
      refine (looks_compares ⟨least, .inl ⟨rfl, rfl⟩⟩ inherited).bind ?_
      rintro above -
      split
      · exact looks_compares ⟨greatest, .inr ⟨rfl, rfl⟩⟩ inherited
      · exact .pure trivial
    · exact .throw _

theorem looks_hasLength {world : World} {level : ℕ} (length : ℤ)
    (inherited : (machine world level).Leaves ["__len__"] (value.classOf start.objects)) :
    Act.LooksAt value start (fun _ => True) (do
      (machine world (level + 1)).compares .eq
        (← (machine world (level + 1)).operate .length [value]) (.int length)) := by
  have measured : ((machine world (level + 1)).operate .length [value]).LooksAt value start
      fun length => ∃ number, length = .int number :=
    (machine world level).looks_lengthOf (inherited "__len__" List.mem_cons_self)
  refine measured.bind ?_
  rintro found ⟨number, rfl⟩
  exact ⟨_, fun _ _ => trivial, fun later _ =>
    runFrom_compares world level .eq (.int number) (.int length) later⟩

end Testing

end Engine

/-- The operators that the test of a key asks values for. -/
def TypeKey.asks : TypeKey → List String
  | .exact width => if width.bits != 0 then ["__le__", "__ge__"] else ["__len__"]
  | .cls _ => []

/-- That a class leaves some operators to the built-in classes. -/
def World.Leaves (world : World) (names : List String) (cls : ClassId) : Prop :=
  ∀ name ∈ names, ∀ owner function,
    world.entryAlong? cls name ≠ some (.declared owner, .method function)

theorem World.leaves_builtin (world : World) (names : List String) (kind : BuiltinClass) :
    world.Leaves names (.builtin kind) := by
  intro name _ owner function found
  obtain ⟨ancestor, among, own⟩ := List.exists_of_findSome?_eq_some found
  obtain ⟨entry, _, same⟩ := Option.map_eq_some_iff.mp own
  obtain ⟨base, _, rfl⟩ := List.mem_map.mp among
  cases same

theorem World.Leaves.machine {world : World} {names : List String} {cls : ClassId}
    (leaves : world.Leaves names cls) (level : ℕ) : (machine world level).Leaves names cls := by
  have sees : (MemberDispatch.machine world level).world = world := by cases level <;> rfl
  intro name among
  unfold Engine.declaredMethod?
  rw [sees]
  split
  · rename_i owner function found
    exact absurd found (leaves name among owner function)
  · rfl

/-- The test of a key looks at a value whose class leaves the operators to the built-in classes. -/
theorem Engine.looks_isOfKey {world : World} (level : ℕ) {value : Value} {start : Session}
    {key : TypeKey} (leaves : world.Leaves key.asks (value.classOf start.objects)) :
    ((machine world (level + 1)).isOfKey key value).LooksAt value start fun _ => True := by
  have inherited := leaves.machine level
  unfold isOfKey
  split
  · exact .pure trivial
  · rename_i width _
    unfold isOfWidth
    refine (Act.LooksAt.isInstance _ _).bind ?_
    rintro instances -
    split
    · exact .pure trivial
    · split
      · rename_i bounded
        rw [TypeKey.asks, if_pos bounded] at inherited
        exact looks_inRange width inherited
      · rename_i unbounded
        rw [TypeKey.asks, if_neg unbounded] at inherited
        split
        · exact looks_hasLength width.length inherited
        · exact .pure trivial
  · exact .isInstance _ _

end MemberDispatch
