import MemberDispatch.Proofs.Host.Faults
import MemberDispatch.Proofs.Host.Memory

/-!
# Feeding pending calls

A property step on a pending call gives it the property for its next argument, as asking it to take
the argument does. A step without a name of its own has the text of the property for a name, which is
made first although the call has no use for it. What making the text changes comes before the call
takes the argument, and if the text cannot be had the call does not take the argument at all.
-/

namespace MemberDispatch

/-- Whether a host has pending calls take the properties of steps on them as arguments. -/
def Host.feeds (hierarchy : Hierarchy) (host : Host) : Bool :=
  match host.handlers.rule hierarchy.linearization (.builtin .pendingCall) with
  | some .arguments => true
  | _ => false

open Act

namespace Engine

/-- That steps on a pending call come to what taking the argument does: at once if the step has a
name, and otherwise after the text of the argument was made. -/
structure Feeds (engine : Engine) (host id : ℕ) (argument : Value) (session : Session) : Prop where
  named (name : String) : Agree engine.hierarchy
    ((engine.stepWith host (.pending id) argument (some name)).runFrom session)
    ((engine.accept id argument).runFrom session)
  told : Agree engine.hierarchy
    ((engine.stepWith host (.pending id) argument none).runFrom session)
    ((engine.text argument >>= fun _ => engine.accept id argument).runFrom session)
  quiet {text : String} (made : (engine.text argument).runFrom session = (.ok text, session)) :
    Agree engine.hierarchy
      ((engine.stepWith host (.pending id) argument none).runFrom session)
      ((engine.accept id argument).runFrom session)
  failing {fault : Fault} {after : Session}
    (failed : (engine.text argument).runFrom session = (.error fault, after)) :
    Agree engine.hierarchy
      ((engine.stepWith host (.pending id) argument none).runFrom session) (.error fault, after)

variable {engine : Engine} {session : Session} {host : ℕ}

/-- The host passes steps on pending calls on, and remembers that it does. -/
theorem runFrom_handlerFor_of_feeds {hierarchy : Hierarchy}
    (remembers : session.Remembers hierarchy)
    (feeds : (session.hosts[host]?).map (Host.feeds hierarchy) = some true) :
    ∃ asked, (handlerFor hierarchy host (.builtin .pendingCall)).runFrom session =
        (.ok .arguments, asked) ∧ session.Alike hierarchy asked := by
  rcases Option.map_eq_some_iff.mp feeds with ⟨served, there, feeds⟩
  have rule : served.handlers.rule hierarchy.linearization (.builtin .pendingCall) =
      some .arguments := by
    unfold Host.feeds at feeds
    split at feeds
    · assumption
    · cases feeds
  have answer := (DispatchMap.lookup_eq_rule (remembers host served there)
    (.builtin .pendingCall)).1
  rw [rule] at answer
  refine ⟨_, ?_, remembers.answer there (.builtin .pendingCall)⟩
  simp only [handlerFor, hostAt, runFrom_bind, runFrom_get, there, runFrom_pure, runFrom_modify,
    answer]

/-- A step on a pending call gives it the argument, once the text of the argument was made unless the
step has a name. -/
theorem stepWith_pending (remembers : session.Remembers engine.hierarchy)
    (feeds : (session.hosts[host]?).map (Host.feeds engine.hierarchy) = some true) (id : ℕ)
    (argument : Value) :
    (∃ asked, session.Alike engine.hierarchy asked ∧
      (∀ name, (engine.stepWith host (.pending id) argument (some name)).runFrom session =
        (engine.accept id argument).runFrom asked) ∧
      (engine.stepWith host (.pending id) argument none).runFrom session =
        (engine.text argument >>= fun _ => engine.accept id argument).runFrom asked) ∧
    (engine.Unmindful → engine.Feeds host id argument session) := by
  rcases runFrom_handlerFor_of_feeds remembers feeds with ⟨asked, answered, alike⟩
  have named (name : String) :
      (engine.stepWith host (.pending id) argument (some name)).runFrom session =
        (engine.accept id argument).runFrom asked := by
    unfold stepWith
    rw [runFrom_bind_of_ok (runFrom_classOf _ _)]
    exact runFrom_bind_of_ok answered _
  have told : (engine.stepWith host (.pending id) argument none).runFrom session =
      (engine.text argument >>= fun _ => engine.accept id argument).runFrom asked := by
    unfold stepWith
    rw [runFrom_bind_of_ok (runFrom_classOf _ _)]
    exact runFrom_bind_of_ok answered _
  refine ⟨⟨asked, alike, named, told⟩, fun unmindful => ?_⟩
  have accepts := unmindful.accept id argument
  have fed : Agree engine.hierarchy
      ((engine.stepWith host (.pending id) argument none).runFrom session)
      ((engine.text argument >>= fun _ => engine.accept id argument).runFrom session) := by
    rw [told]
    exact (unmindful.keeps.text argument).bind (fun _ => accepts) asked session alike.symm
  refine ⟨fun name => ?_, fed, fun {text} made => ?_, fun {fault after} failed => ?_⟩
  · rw [named]
    exact accepts asked session alike.symm
  · rwa [runFrom_bind_of_ok made] at fed
  · rwa [runFrom_bind_of_error failed] at fed

section Sevens

/-- A class with a method that takes anything and always gives the same number. -/
def sevens : World :=
  World.addClass {}
    { name := "K"
      entries := [("f", .method
        { qualifiedName := "K.f"
          parameters := some [{ name := "self" }, { name := "a", type := .cls .object }]
          code := .body (.constant (.int 7)) })] }

/-- A step that gives a pending call of the method. -/
def sevensCall : Access :=
  .property 0 (.object 0) (.text "f") none

/-- A session with a value of the class in which the step was made twice. -/
def sevensSession : Session :=
  sevens.engine.accessAll [sevensCall, sevensCall]
    { objects := #[{ cls := .declared "K" }]
      hosts := #[.standard 0]
      registries := #[{ table := .standard }] }

/-- The number that an access gives, if it gives one. -/
def number? (engine : Engine) (access : Access) (session : Session) : Option ℤ :=
  match ((access.work engine).runFrom session).1 with
  | .ok (.int number) => some number
  | _ => none

/-- How far a pending call is after an access. -/
def phaseAfter (engine : Engine) (access : Access) (session : Session) (id : ℕ) : Option Phase :=
  (((access.work engine).runFrom session).2.calls[id]?).map PendingCall.phase

/-- One call takes the other for its argument and leaves it pending. A step with the other has it make
its outcome first, and fails because it lacks an argument. -/
theorem step_fails_beside_accept :
    sevensSession.calls.size = 2 ∧
      (sevensSession.hosts[0]?).map (Host.feeds sevens.hierarchy) = some true ∧
      sevens.engine.number? (.accept 0 (.pending 1)) sevensSession = some 7 ∧
      sevens.engine.phaseAfter (.accept 0 (.pending 1)) sevensSession 1 = some .seeded ∧
      sevens.engine.faultKind? (.property 0 (.pending 0) (.pending 1) none) sevensSession =
        some .noMatch ∧
      sevens.engine.phaseAfter (.property 0 (.pending 0) (.pending 1) none) sevensSession 1 =
        some .resolved := by
  refine ⟨?_, ?_, ?_, ?_, ?_, ?_⟩ <;> decide +kernel

theorem unmindful_failing : failing.Unmindful where
  keeps :=
    { call := fun _ _ => unmindful_throw _
      text := fun value => by
        cases value
        case text text => exact unmindful_pure _
        all_goals exact unmindful_throw _
      display := fun value => by
        cases value
        case text text => exact unmindful_pure _
        all_goals exact unmindful_throw _
      operate := fun _ _ => unmindful_throw _ }
  step _ _ _ _ := unmindful_throw _

/-- A text is fed by a step as the call takes it. -/
theorem stepWith_pending_text :
    let session := sevensSession.forgetting
    (session.hosts[0]?).map (Host.feeds sevens.hierarchy) = some true ∧
      sevens.engine.number? (.property 0 (.pending 0) (.text "1") none) session = some 7 ∧
      (∃ asked, session.Alike sevens.hierarchy asked ∧
        (∀ name, (sevens.engine.stepWith 0 (.pending 0) (.text "1") (some name)).runFrom session =
          (sevens.engine.accept 0 (.text "1")).runFrom asked) ∧
        (sevens.engine.stepWith 0 (.pending 0) (.text "1") none).runFrom session =
          (sevens.engine.text (.text "1") >>= fun _ =>
            sevens.engine.accept 0 (.text "1")).runFrom asked) ∧
      failing.Unmindful ∧ failing.Feeds 0 0 (.text "1") session := by
  intro session
  have feeds : (session.hosts[0]?).map (Host.feeds sevens.hierarchy) = some true := by
    decide +kernel
  have others : (session.hosts[0]?).map (Host.feeds failing.hierarchy) = some true := by
    decide +kernel
  have remembers (hierarchy : Hierarchy) : session.Remembers hierarchy :=
    sevensSession.remembers_forgetting
  have fed := stepWith_pending (remembers sevens.engine.hierarchy) feeds 0 (.text "1")
  have failed := stepWith_pending (remembers failing.hierarchy) others 0 (.text "1")
  exact ⟨feeds, by decide +kernel, fed.1, unmindful_failing, failed.2 unmindful_failing⟩

end Sevens

end Engine

end MemberDispatch
