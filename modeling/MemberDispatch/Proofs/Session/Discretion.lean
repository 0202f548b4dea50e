import MemberDispatch.Proofs.Session.Habit

/-!
# Discreet work

Work on a session is discreet if it neither sees nor changes the pending calls and the hosts. Amid
others it does just the same. Finding a member for arguments, using it and looking members up in a
registry are discreet on every engine whose own operations are.
-/

namespace MemberDispatch

/-- The session amid other pending calls and hosts. -/
def Session.amid (session : Session) (calls : Array PendingCall) (hosts : Array Host) : Session :=
  { session with calls, hosts }

@[simp]
theorem Session.amid_amid (session : Session) (calls others : Array PendingCall)
    (hosts otherHosts : Array Host) :
    (session.amid calls hosts).amid others otherHosts = session.amid others otherHosts :=
  rfl

@[simp]
theorem Session.amid_calls (session : Session) (calls : Array PendingCall) (hosts : Array Host) :
    (session.amid calls hosts).calls = calls :=
  rfl

@[simp]
theorem Session.amid_hosts (session : Session) (calls : Array PendingCall) (hosts : Array Host) :
    (session.amid calls hosts).hosts = hosts :=
  rfl

@[simp]
theorem Session.amid_objects (session : Session) (calls : Array PendingCall) (hosts : Array Host) :
    (session.amid calls hosts).objects = session.objects :=
  rfl

@[simp]
theorem Session.amid_self (session : Session) :
    session.amid session.calls session.hosts = session :=
  rfl

namespace Act

variable {α β : Type}

/-- That work, amid any pending calls and hosts, does what a model of it does in a session. -/
def RunsAs (work model : Act α) (session : Session) : Prop :=
  ∀ (calls : Array PendingCall) (hosts : Array Host),
    work.runFrom (session.amid calls hosts) =
      ((model.runFrom session).1, (model.runFrom session).2.amid calls hosts)

theorem RunsAs.map {work model : Act α} {session : Session} (runs : RunsAs work model session)
    (change : α → β) :
    RunsAs (do return change (← work)) (do return change (← model)) session := by
  intro calls hosts
  rw [runFrom_bind, runFrom_bind, runs calls hosts]
  rcases model.runFrom session with ⟨fault | result, after⟩ <;> rfl

/-- That work neither sees nor changes pending calls and hosts. -/
def Discreet (work : Act α) : Prop :=
  ∀ session, RunsAs work work session

section Closure

theorem discreet_pure (result : α) : Discreet (pure result : Act α) :=
  fun _ _ _ => rfl

theorem discreet_throw (fault : Fault) : Discreet (throw fault : Act α) :=
  fun _ _ _ => rfl

theorem Discreet.bind {work : Act α} {next : α → Act β} (first : Discreet work)
    (second : ∀ result, Discreet (next result)) : Discreet (work >>= next) := by
  intro session calls hosts
  rw [runFrom_bind, runFrom_bind, first session calls hosts]
  rcases work.runFrom session with ⟨fault | result, after⟩
  · rfl
  · exact second result after calls hosts

theorem Discreet.map {work : Act α} (discreet : Discreet work) (change : α → β) :
    Discreet (change <$> work) := by
  rw [map_eq_pure_bind]
  exact discreet.bind fun result => discreet_pure _

/-- Reading what is no pending call and no host. -/
theorem discreet_read {read : Session → α}
    (elsewhere : ∀ session calls hosts, read (session.amid calls hosts) = read session) :
    Discreet (get >>= fun session => pure (read session) : Act α) := by
  intro session calls hosts
  change (Except.ok (read (session.amid calls hosts)), session.amid calls hosts) = _
  rw [elsewhere]
  rfl

theorem Discreet.attempt {work : Act α} (discreet : Discreet work) : Discreet (attempt work) := by
  intro session calls hosts
  rw [runFrom_attempt, runFrom_attempt, discreet session calls hosts]

/-- Discreet work keeps pending calls and hosts. -/
theorem Discreet.keeps {work : Act α} (discreet : Discreet work) (session : Session) :
    (work.runFrom session).2.calls = session.calls ∧
      (work.runFrom session).2.hosts = session.hosts := by
  have same := discreet session session.calls session.hosts
  rw [Session.amid_self] at same
  rw [same]
  exact ⟨rfl, rfl⟩

end Closure

/-- Discreet work is a habit. -/
def Habit.discretion : Habit where
  Of := Discreet
  pure := discreet_pure
  throw := discreet_throw
  bind := Discreet.bind
  attempt := Discreet.attempt
  look _ := discreet_read fun _ _ _ => rfl

section Registries

theorem discreet_onRegistry (id : ℕ) (work : RegistryM α) : Discreet (onRegistry id work) := by
  intro session calls hosts
  have same : (session.amid calls hosts).registries = session.registries := rfl
  simp only [onRegistry, runFrom_bind, runFrom_get, same]
  rcases session.registries[id]? with _ | registry
  · rfl
  · simp only [runFrom_bind, runFrom_set]
    rcases RegistryM.runOn registry work with ⟨_ | _, after, events⟩ <;> rfl

theorem discreet_addRegistry (work : RegistryM Unit) : Discreet (addRegistry work) := by
  intro session calls hosts
  simp only [addRegistry, runFrom_bind, runFrom_get, runFrom_set]
  rcases RegistryM.runOn {} work with ⟨_ | _, after, events⟩ <;> rfl

theorem discreet_sharedRegistry (world : World) : Discreet (sharedRegistry world) := by
  intro session calls hosts
  have same : (session.amid calls hosts).shared = session.shared := rfl
  simp only [sharedRegistry, runFrom_bind, runFrom_get, same]
  rcases session.shared with _ | id
  · have added := discreet_addRegistry (Registry.prepare world) session calls hosts
    simp only [runFrom_bind, added]
    rcases (addRegistry (Registry.prepare world)).runFrom session with ⟨_ | _, after⟩ <;> rfl
  · rfl

end Registries

end Act

open Act

/-- That the operations of an engine besides its property steps are discreet. -/
structure Engine.Discreet (engine : Engine) : Prop where
  call (callable : Callable) (arguments : List Value) : Act.Discreet (engine.call callable arguments)
  text (value : Value) : Act.Discreet (engine.text value)
  display (value : Value) : Act.Discreet (engine.display value)
  operate (operator : Operator) (operands : List Value) :
    Act.Discreet (engine.operate operator operands)

namespace Engine.Discreet

variable {engine : Engine} (discreet : engine.Discreet)

include discreet

theorem keeps : engine.Keeps Act.Habit.discretion :=
  ⟨discreet.call, discreet.text, discreet.display, discreet.operate⟩

theorem choose (index : Index) (onlyPublic : Bool) (required : ClassId) (arguments : List Value)
    (extras : ℤ) : Act.Discreet (engine.choose index onlyPublic required arguments extras) :=
  discreet.keeps.choose index onlyPublic required arguments extras

theorem use (member : Member) (value : Value) (arguments : List Value) :
    Act.Discreet (engine.use member value arguments) :=
  discreet.keeps.use member value arguments

end Engine.Discreet

end MemberDispatch
