import MemberDispatch.Session

/-!
# Runs

Work on a session as a function from the session that it starts in to its outcome and the session
that it leaves, which it leaves also when it fails. The equations take work apart along its steps;
what is proved of an operation is proved of its runs.
-/

namespace MemberDispatch

namespace Act

variable {α β : Type}

/-- The outcome of work on a session, and the session that it leaves. -/
def runFrom (work : Act α) (session : Session) : Except Fault α × Session :=
  StateT.run (ExceptT.run work) session

@[simp]
theorem runFrom_pure (result : α) (session : Session) :
    (pure result : Act α).runFrom session = (.ok result, session) :=
  rfl

@[simp]
theorem runFrom_throw (fault : Fault) (session : Session) :
    (throw fault : Act α).runFrom session = (.error fault, session) :=
  rfl

theorem runFrom_bind (work : Act α) (next : α → Act β) (session : Session) :
    (work >>= next).runFrom session =
      match work.runFrom session with
      | (.ok result, after) => (next result).runFrom after
      | (.error fault, after) => (.error fault, after) := by
  rcases run : work.runFrom session with ⟨outcome, after⟩
  change StateT.run (ExceptT.run work) session = _ at run
  simp only [runFrom, ExceptT.run_bind, StateT.run_bind]
  rw [run]
  cases outcome with
  | ok result => rfl
  | error fault => rfl

theorem runFrom_bind_of_ok {work : Act α} {session after : Session} {result : α}
    (run : work.runFrom session = (.ok result, after)) (next : α → Act β) :
    (work >>= next).runFrom session = (next result).runFrom after := by
  rw [runFrom_bind, run]

theorem runFrom_bind_of_error {work : Act α} {session after : Session} {fault : Fault}
    (run : work.runFrom session = (.error fault, after)) (next : α → Act β) :
    (work >>= next).runFrom session = (.error fault, after) := by
  rw [runFrom_bind, run]

/-- Work that gives a result did so in each of its steps. -/
theorem exists_of_runFrom_bind {work : Act α} {next : α → Act β} {session after : Session}
    {result : β} (run : (work >>= next).runFrom session = (.ok result, after)) :
    ∃ given between, work.runFrom session = (.ok given, between) ∧
      (next given).runFrom between = (.ok result, after) := by
  rw [runFrom_bind] at run
  rcases first : work.runFrom session with ⟨fault | given, between⟩
  · rw [first] at run
    cases run
  · rw [first] at run
    exact ⟨given, between, rfl, run⟩

theorem runFrom_map (change : α → β) (work : Act α) (session : Session) :
    (change <$> work).runFrom session =
      match work.runFrom session with
      | (.ok result, after) => (.ok (change result), after)
      | (.error fault, after) => (.error fault, after) := by
  rw [← bind_pure_comp, runFrom_bind]
  rfl

@[simp]
theorem runFrom_get (session : Session) :
    (get : Act Session).runFrom session = (.ok session, session) :=
  rfl

@[simp]
theorem runFrom_modify (change : Session → Session) (session : Session) :
    (modify change : Act Unit).runFrom session = (.ok (), change session) :=
  rfl

@[simp]
theorem runFrom_set (session next : Session) :
    (set next : Act PUnit).runFrom session = (.ok (), next) :=
  rfl

@[simp]
theorem runFrom_attempt (work : Act α) (session : Session) :
    (attempt work).runFrom session =
      (.ok (work.runFrom session).1, (work.runFrom session).2) :=
  rfl

theorem runFrom_classOf (value : Value) (session : Session) :
    (classOf value).runFrom session = (.ok (value.classOf session.objects), session) :=
  rfl

theorem runFrom_isInstance (hierarchy : Hierarchy) (value : Value) (cls : ClassId)
    (session : Session) :
    (isInstance hierarchy value cls).runFrom session =
      (.ok (hierarchy.isSubclass (value.classOf session.objects) cls), session) :=
  rfl

/-- Looking at a registry that has nothing to add changes nothing. -/
theorem runFrom_onRegistry {session : Session} {id : Nat} {registry : Registry}
    {work : RegistryM α} {result : α} (found : session.registries[id]? = some registry)
    (run : RegistryM.runOn registry work = (.ok result, registry, [])) :
    (onRegistry id work).runFrom session = (.ok result, session) := by
  have back : session.registries.set! id registry = session.registries := by
    refine Array.ext_getElem? fun other => ?_
    rw [Array.set!_eq_setIfInBounds, Array.getElem?_setIfInBounds]
    split
    · rename_i here
      have within := (Array.getElem?_eq_some_iff.mp found).1
      rw [if_pos (here ▸ within), ← here, found]
    · rfl
  simp only [onRegistry, runFrom_bind, runFrom_get, found, run, runFrom_set, back]
  simp

/-- That whatever work gives has a property. -/
def Gives (property : α → Prop) (work : Act α) : Prop :=
  ∀ session result after, work.runFrom session = (.ok result, after) → property result

namespace Gives

variable {property : β → Prop}

theorem pure {result : β} (holds : property result) : Gives property (Pure.pure result) := by
  intro session result after run
  cases run
  exact holds

theorem throw (fault : Fault) : Gives property (MonadExcept.throw fault : Act β) := by
  intro session result after run
  cases run

theorem bindOf {work : Act α} {next : α → Act β} {before : α → Prop} (first : work.Gives before)
    (second : ∀ result, before result → Gives property (next result)) :
    Gives property (work >>= next) := by
  intro session result after run
  obtain ⟨given, between, done, rest⟩ := exists_of_runFrom_bind run
  exact second given (first session given between done) between result after rest

theorem bind {work : Act α} {next : α → Act β}
    (second : ∀ result, Gives property (next result)) : Gives property (work >>= next) := by
  have first : work.Gives fun _ => True := fun _ _ _ _ => trivial
  exact first.bindOf fun result _ => second result

end Gives

end Act

end MemberDispatch
