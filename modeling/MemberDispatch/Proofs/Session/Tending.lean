import Mathlib.Data.Nat.Notation
import MemberDispatch.Proofs.Session.Run

/-!
# Tending a registry

What is done on a registry of a session fails with a complaint, or for want of the registry. Work tends
the registry if it fails in expected ways only and leaves the registry there, unless the want of it is
expected too. What tends the registry step by step does so as a whole.
-/

namespace MemberDispatch

/-- The complaint over a registry that is not there. -/
def Registry.missing : Fault :=
  .say .system "no such registry"

/-- That a session has a registry, or that the want of it is expected. -/
def Session.Accounts (id : ℕ) (expected : Fault → Prop) (session : Session) : Prop :=
  expected Registry.missing ∨ id < session.registries.size

namespace Act

variable {α β : Type} {id : ℕ} {expected : Fault → Prop} {property : α → Prop}
  {following : β → Prop}

/-- That a run leaves a registry there, and comes to a result of a kind or to an expected fault. -/
structure Tended (id : ℕ) (expected : Fault → Prop) (property : α → Prop)
    (made : Except Fault α × Session) : Prop where
  accounts : made.2.Accounts id expected
  result : ∀ result, made.1 = .ok result → property result
  fault : ∀ fault, made.1 = .error fault → expected fault

/-- That work on a session with a registry leaves the registry there, and comes to results of a kind and
to expected faults. -/
def Tends (id : ℕ) (expected : Fault → Prop) (property : α → Prop) (work : Act α) : Prop :=
  ∀ session : Session, session.Accounts id expected →
    Tended id expected property (work.runFrom session)

theorem tended_ok {session : Session} {result : α} (accounts : session.Accounts id expected)
    (holds : property result) : Tended id expected property (.ok result, session) where
  accounts := accounts
  result := by
    rintro _ ⟨⟩
    exact holds
  fault := nofun

theorem tended_error {session : Session} {fault : Fault} (accounts : session.Accounts id expected)
    (holds : expected fault) : Tended id expected property (.error fault, session) where
  accounts := accounts
  result := nofun
  fault := by
    rintro _ ⟨⟩
    exact holds

namespace Tends

theorem pure {result : α} (holds : property result) :
    Tends id expected property (Pure.pure result) :=
  fun _ accounts => tended_ok accounts holds

theorem throw {fault : Fault} (holds : expected fault) :
    Tends id expected property (MonadExcept.throw fault : Act α) :=
  fun _ accounts => tended_error accounts holds

theorem bind {work : Act α} {next : α → Act β} (first : Tends id expected property work)
    (second : ∀ result, property result → Tends id expected following (next result)) :
    Tends id expected following (work >>= next) := by
  intro session accounts
  obtain ⟨still, given, raised⟩ := first session accounts
  rw [runFrom_bind]
  rcases run : work.runFrom session with ⟨fault | result, after⟩
  all_goals rw [run] at still given raised
  · exact tended_error still (raised fault rfl)
  · exact second result (given result rfl) after still

/-- Nothing runs behind a fault. -/
theorem throwBind {fault : Fault} (holds : expected fault) (next : α → Act β) :
    Tends id expected following ((MonadExcept.throw fault : Act α) >>= next) := by
  intro session accounts
  rw [runFrom_bind_of_error (runFrom_throw fault session)]
  exact tended_error accounts holds

/-- A result is one of a run. -/
theorem ran {work : Act α} (tends : Tends id expected property work) :
    Tends id expected
      (fun result => ∃ before after, work.runFrom before = (.ok result, after)) work := by
  intro session accounts
  obtain ⟨still, -, raised⟩ := tends session accounts
  exact ⟨still, fun result given => ⟨session, _, Prod.ext given rfl⟩, raised⟩

theorem mapM {step : α → Act β} {items : List α}
    (each : ∀ item ∈ items, Tends id expected following (step item)) :
    Tends id expected (fun results => ∀ result ∈ results, following result) (items.mapM step) := by
  induction items with
  | nil => exact .pure nofun
  | cons item items ih =>
      rw [List.mapM_cons]
      refine (each item List.mem_cons_self).bind fun first here => ?_
      refine (ih fun other mem => each other (List.mem_cons_of_mem _ mem)).bind fun rest behind => ?_
      exact .pure (List.forall_mem_cons.mpr ⟨here, behind⟩)

/-- Work whose outcome is looked at goes on from each of its outcomes. -/
theorem attempt {work : Act α} {next : Except Fault α → Act β}
    (stays : ∀ session, Session.Accounts id expected session →
      (work.runFrom session).2.Accounts id expected)
    (second : ∀ session, Session.Accounts id expected session →
      Tends id expected following (next (work.runFrom session).1)) :
    Tends id expected following (Act.attempt work >>= next) := by
  intro session accounts
  have run := runFrom_attempt work session
  rw [runFrom_bind_of_ok run]
  exact second session accounts _ (stays session accounts)

end Tends

section Registries

/-- Work on a registry lacks it, or it leaves as many and gives a result or a complaint. -/
theorem onRegistry_ends (id : ℕ) (work : RegistryM α) (session : Session) :
    (session.registries.size ≤ id ∧
      (onRegistry id work).runFrom session = (.error Registry.missing, session)) ∨
    id < session.registries.size ∧ ∃ after : Session,
      after.registries.size = session.registries.size ∧
        ((∃ result, (onRegistry id work).runFrom session = (.ok result, after)) ∨
          ∃ issue, (onRegistry id work).runFrom session = (.error (.configuration issue), after)) := by
  rcases found : session.registries[id]? with _ | registry
  · simp only [onRegistry, runFrom_bind, runFrom_get, found]
    exact .inl ⟨Array.getElem?_eq_none_iff.mp found, rfl⟩
  · simp only [onRegistry, runFrom_bind, runFrom_get, found]
    refine .inr ⟨(Array.getElem?_eq_some_iff.mp found).1, ?_⟩
    rcases work.runOn registry with ⟨issue | result, changed, events⟩
    · exact ⟨_, Array.size_setIfInBounds, .inr ⟨issue, rfl⟩⟩
    · exact ⟨_, Array.size_setIfInBounds, .inl ⟨result, rfl⟩⟩

theorem tends_onRegistry (complaints : ∀ issue, expected (.configuration issue))
    (work : RegistryM α) : Tends id expected (fun _ => True) (onRegistry id work) := by
  intro session accounts
  rcases onRegistry_ends id work session with ⟨absent, run⟩ | ⟨present, after, same, ends⟩
  · have lacks : expected Registry.missing := by
      rcases accounts with lacks | present
      · exact lacks
      · omega
    rw [run]
    exact tended_error accounts lacks
  · have there : after.Accounts id expected := .inr (by omega)
    rcases ends with ⟨result, run⟩ | ⟨issue, run⟩
    · rw [run]
      exact tended_ok there trivial
    · rw [run]
      exact tended_error there (complaints issue)

/-- Work on a registry that gives a result had the registry, and leaves it there. -/
theorem present_of_onRegistry {work : RegistryM α} {session : Session} {result : α}
    (given : ((onRegistry id work).runFrom session).1 = .ok result) :
    id < ((onRegistry id work).runFrom session).2.registries.size := by
  rcases onRegistry_ends id work session with ⟨_, run⟩ | ⟨present, after, same, ends⟩
  · rw [run] at given
    cases given
  · rcases ends with ⟨result, run⟩ | ⟨issue, run⟩
    · rw [run]
      exact same.symm ▸ present
    · rw [run] at given
      cases given

/-- A registry is added behind the others, or there is a complaint. -/
theorem addRegistry_ends (work : RegistryM Unit) (session : Session) :
    (∃ after, (addRegistry work).runFrom session = (.ok session.registries.size, after) ∧
      session.registries.size < after.registries.size) ∨
    ∃ issue after, (work.runOn {}).1 = .error issue ∧
      (addRegistry work).runFrom session = (.error (.configuration issue), after) := by
  simp only [addRegistry, runFrom_bind, runFrom_get, runFrom_set]
  rcases work.runOn {} with ⟨issue | _, registry, events⟩
  · exact .inr ⟨issue, _, rfl, rfl⟩
  · refine .inl ⟨_, rfl, ?_⟩
    simp

end Registries

end Act

end MemberDispatch
