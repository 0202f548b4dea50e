import MemberDispatch.Proofs.Registry.Receivers
import MemberDispatch.Proofs.Value.Decision

/-!
# Methods named for operators

A method that is named for an operator becomes a member for every number of arguments that it can
take. The one with as many as the operator takes runs the operator, which asks both operands and never
declines. The others run the function itself, and so does a function that is merely exposed under the
name of an operator; there it shows if the function declines.
-/

namespace MemberDispatch

/-- What using a member of values of a class with all its arguments comes to. A method runs the
operator that it is declared to define if the arguments are as many as the operator takes. In every
other case it runs the function itself. -/
inductive Member.Runs (world : World) (cls : ClassId) (engine : Engine) (member : Member)
    (target : Value) (values : List Value) : Prop
  | operator {ancestor : ClassId} {ownName : String} {function : FunctionDecl} {operator : Operator}
      (above : ancestor ∈ world.linearization cls)
      (entry : (ownName, .method function) ∈ world.entries ancestor)
      (named : Operator.ofMemberName? ownName = some operator)
      (takes : values.length = operator.arity)
      (runs : engine.use member target values =
        engine.call (.operation operator) (target :: values))
      (answers : operator.Declinable → (engine.use member target values).Gives Value.Answers)
  | function {ancestor : ClassId} {ownName : String} {function : FunctionDecl}
      (above : ancestor ∈ world.linearization cls)
      (entry : (ownName, .method function) ∈ world.entries ancestor)
      (other : ∀ operator, Operator.ofMemberName? ownName = some operator →
        values.length ≠ operator.arity)
      (runs : engine.use member target values = engine.call (.plain function) (target :: values))
  | field {getter : Callable} (role : member.role = .field getter)
      (runs : engine.use member target values = engine.call getter [target])
  | received {function : StaticFunction} {position : ℕ}
      (role : member.role = .injected function position)
      (runs : engine.use member target values =
        engine.call function.callable (values.insertIdx position target))

variable {world : World} {cls : ClassId} {engine : Engine} {member : Member}

theorem FunctionDecl.callableAt_eq (function : FunctionDecl) (ownName : String) (arity : ℕ) :
    (∃ operator, Operator.ofMemberName? ownName = some operator ∧ arity = operator.arity ∧
        function.callableAt ownName arity = .operation operator) ∨
      (∀ operator, Operator.ofMemberName? ownName = some operator → arity ≠ operator.arity) ∧
        function.callableAt ownName arity = .plain function := by
  unfold callableAt
  rcases Operator.ofMemberName? ownName with _ | operator
  · exact .inr ⟨nofun, rfl⟩
  · by_cases takes : operator.arity = arity
    · exact .inl ⟨operator, rfl, takes.symm, by simp [takes]⟩
    · refine .inr ⟨?_, by simp [takes]⟩
      rintro other same
      cases same
      exact Ne.symm takes

theorem Member.Arises.runs {providersOf : ClassId → List Owner} {table : ConverterTable}
    (arises : member.Arises world providersOf cls table) (decides : engine.Decides)
    (target : Value) {values : List Value} (takes : values.length = member.arity) :
    member.Runs world cls engine target values := by
  have used := Registry.use_of_arises arises engine target takes
  cases arises with
  | received above brings receives =>
      rw [receives.role] at used
      exact .received receives.role used
  | declared above declared =>
      rcases declared.isField_or_isMethod with
        ⟨getter, role, -⟩ | ⟨ownName, function, signature, isMethod⟩
      · rw [role] at used
        exact .field role used
      · rw [isMethod.role, ← takes] at used
        rcases function.callableAt_eq ownName values.length with
          ⟨operator, named, arity, runs⟩ | ⟨other, runs⟩
        · rw [runs] at used
          refine .operator above isMethod.entry named arity used fun declinable => ?_
          rw [used]
          exact decides operator declinable _
        · rw [runs] at used
          exact .function above isMethod.entry other used

namespace Registry

/-- After any run, what is found under a name arises above the class. -/
theorem lookup_arises (declared : world.Declared) (table : ConverterTable)
    (operations : List Operation) (cls : ClassId) (name : String) :
    ∃ index,
      (RegistryM.runOn (after world { table } operations) (Registry.lookup world cls name)).1 =
        .ok index ∧
      ∀ member ∈ index.members, member.name = name ∧
        member.Arises world (after world { table } operations).providersOf cls
          (after world { table } (operations ++ [.get cls])).table := by
  obtain ⟨view, answered, arises⟩ := viewOf_arises declared table operations cls
  refine ⟨view.get name, ?_, arises name⟩
  rw [runOn_lookup, answered]
  rfl

/-- After any run, using what was found for arguments on any value runs an operator, which gives an
answer or fails, if the member is a method that a class declares for the operator and the arguments
are as many as it takes. In every other case it runs the function itself. -/
theorem lookup_runs (declared : world.Declared) (table : ConverterTable)
    (operations : List Operation) (cls : ClassId) (name : String) :
    ∃ index,
      (RegistryM.runOn (after world { table } operations) (Registry.lookup world cls name)).1 =
        .ok index ∧
      ∀ {engine : Engine}, engine.Decides → ∀ {onlyPublic : Bool} {required : ClassId}
        {arguments values : List Value} {extras : ℤ} {session last : Session} {member : Member},
        (engine.choose index onlyPublic required arguments extras).runFrom session =
            (.ok (some ⟨member, values⟩), last) →
          values.length = arguments.length ∧
            ∀ target, member.Runs world cls engine target values := by
  obtain ⟨index, answered, arises⟩ := lookup_arises declared table operations cls name
  refine ⟨index, answered, ?_⟩
  intro engine decides onlyPublic required arguments values extras session last member found
  obtain ⟨mem, -⟩ := Engine.trial_of_choose found
  obtain ⟨start, converts⟩ := Engine.converts_of_choose found
  obtain ⟨takes, given⟩ := converts.lengths
  exact ⟨given.symm, fun target => (arises member mem).2.runs decides target takes.symm⟩

section Finding

/-- A session with an object of a class. -/
def holding (cls : ClassId) : Session where
  objects := #[{ cls }]

/-- What is found for arguments under a name after a run that started with the standard converters. -/
def foundIn (world : World) (operations : List Operation) (session : Session) (cls : ClassId)
    (name : String) (arguments : List Value) : Option (Choice × Session) :=
  match (RegistryM.runOn (after world { table := .standard } operations)
      (Registry.lookup world cls name)).1 with
  | .error _ => none
  | .ok index => match (world.engine.choose index true .object arguments 0).runFrom session with
    | (.ok choice, last) => choice.map fun choice => (choice, last)
    | (.error _, _) => none

/-- What comes of using it on a value. -/
def usedIn (world : World) (operations : List Operation) (session : Session) (target : Value)
    (cls : ClassId) (name : String) (arguments : List Value) : Option Value :=
  (foundIn world operations session cls name arguments).bind fun (choice, last) =>
    ((world.engine.use choice.member target choice.arguments).runFrom last).1.toOption

/-- Whether two values are the same truth value, or both the refusal of an answer. -/
def agrees : Value → Value → Bool
  | .bool left, .bool right => left == right
  | .notImplemented, .notImplemented => true
  | _, _ => false

theorem eq_of_agrees {left right : Value} (test : agrees left right = true) : left = right := by
  unfold agrees at test
  split at test
  · rw [beq_iff_eq.mp test]
  · rfl
  · cases test

variable {operations : List Operation} {session last : Session} {name : String}
  {arguments : List Value}

theorem exists_of_foundIn {choice : Choice}
    (found : foundIn world operations session cls name arguments = some (choice, last)) :
    ∃ index,
      (RegistryM.runOn (after world { table := .standard } operations)
        (Registry.lookup world cls name)).1 = .ok index ∧
      (world.engine.choose index true .object arguments 0).runFrom session =
        (.ok (some choice), last) := by
  unfold foundIn at found
  split at found
  · cases found
  · rename_i index answered
    split at found
    · rename_i chosen ended outcome
      rcases chosen with _ | chosen
      · cases found
      · cases found
        exact ⟨index, answered, outcome⟩
    · cases found

/-- That something is found for arguments under a name, after a run that started with the standard
converters, and that using it on a value comes to a result. -/
def Yields (world : World) (operations : List Operation) (session : Session) (target : Value)
    (cls : ClassId) (name : String) (arguments : List Value) (result : Value) : Prop :=
  ∃ index choice last ended,
    (RegistryM.runOn (after world { table := .standard } operations)
      (Registry.lookup world cls name)).1 = .ok index ∧
    (world.engine.choose index true .object arguments 0).runFrom session =
      (.ok (some choice), last) ∧
    (world.engine.use choice.member target choice.arguments).runFrom last = (.ok result, ended)

theorem yields_of_usedIn {target result : Value}
    (used : (usedIn world operations session target cls name arguments).any (agrees result) =
      true) :
    Yields world operations session target cls name arguments result := by
  rcases found : foundIn world operations session cls name arguments with _ | ⟨choice, last⟩
  · simp [usedIn, found] at used
  · rcases outcome : (world.engine.use choice.member target choice.arguments).runFrom last with
      ⟨fault | given, ended⟩
    · simp [usedIn, found, outcome, Except.toOption] at used
    · simp only [usedIn, found, Option.bind_some, outcome, Except.toOption, Option.any_some] at used
      cases eq_of_agrees used
      obtain ⟨index, answered, chosen⟩ := exists_of_foundIn found
      exact ⟨index, choice, last, ended, answered, chosen, outcome⟩

end Finding

/-- A power of a whole number to a text, modulo a third number, is found and used, and what comes of
it is that the function declines. -/
theorem use_declines_with_modulus :
    World.Declared {} ∧ (World.engine {}).Decides ∧
      Operator.ofMemberName? "__pow__" = some (.binary .pow) ∧
      Yields {} [] {} (.int 2) (.builtin .int) "__pow__" [.text "x", .int 3] .notImplemented := by
  have test : (usedIn {} [] {} (.int 2) (.builtin .int) "__pow__" [.text "x", .int 3]).any
      (agrees .notImplemented) = true := by
    decide +kernel
  exact ⟨.start, Engine.decides_machine {} recursionLimit, by decide, yields_of_usedIn test⟩

/-- Without the third number the operator is run. -/
theorem lookup_runs_power :
    World.Declared {} ∧ (World.engine {}).Decides ∧
      ∃ index choice last,
        (RegistryM.runOn (after {} { table := .standard } [])
          (Registry.lookup {} (.builtin .int) "__pow__")).1 = .ok index ∧
        ((World.engine {}).choose index true .object [.text "x"] 0).runFrom {} =
          (.ok (some choice), last) ∧
        ∀ target, choice.member.Runs {} (.builtin .int) (World.engine {}) target
          choice.arguments := by
  have test : (foundIn {} [] {} (.builtin .int) "__pow__" [.text "x"]).isSome = true := by
    decide +kernel
  obtain ⟨⟨choice, last⟩, found⟩ := Option.isSome_iff_exists.mp test
  obtain ⟨index, answered, chosen⟩ := exists_of_foundIn found
  have decides : (World.engine {}).Decides := Engine.decides_machine {} recursionLimit
  obtain ⟨same, answeredToo, runs⟩ := lookup_runs .start .standard [] (.builtin .int) "__pow__"
  rw [answered] at answeredToo
  cases answeredToo
  exact ⟨.start, decides, index, choice, last, answered, chosen, (runs decides chosen).2⟩

end Registry

end MemberDispatch
