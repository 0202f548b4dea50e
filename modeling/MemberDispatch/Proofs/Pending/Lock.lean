import MemberDispatch.Proofs.Host.Answers

/-!
# Locks of pending calls

Whoever is at work on a pending call holds its lock. What is done meanwhile, finding members, using
them, applying property steps and describing values, is taken to leave the record of a locked call
alone, since it would wait for the lock forever otherwise. All of this is asked only where the work on
the call can come: a workplace says in which sessions and with which values that is. It also counts
uses of members, to which only using the member of the call may add, and no more than one.
-/

namespace MemberDispatch

/-- The session with a change to a pending call. -/
def Session.changing (session : Session) (id : ℕ) (change : PendingCall → PendingCall) : Session :=
  session.amid (session.calls.modify id change) session.hosts

/-- Where a pending call is at work and what may come up there. -/
structure Workplace where
  id : ℕ
  /-- The call as it was started. -/
  call : PendingCall
  /-- What the call chooses from. -/
  index : Index
  sessions : Set Session
  arguments : Set Value
  /-- What the member and the steps behind it come to. -/
  results : Set Value
  /-- A count of uses of members. -/
  uses : Session → ℕ

namespace Workplace

variable (place : Workplace)

/-- That a session is one of the workplace and has a record of the call. -/
structure Holds (session : Session) (call : PendingCall) : Prop where
  inside : session ∈ place.sessions
  record : session.calls[place.id]? = some call

/-- That a record is one of the call: what it was started with lasts, and the rest belongs to the
workplace. -/
structure Sound (call : PendingCall) : Prop where
  host : call.host = place.call.host
  target : call.target = place.call.target
  name : call.name = place.call.name
  index : call.index = place.call.index
  onlyPublic : call.onlyPublic = place.call.onlyPublic
  returns : call.returns = place.call.returns
  arguments : ∀ argument ∈ call.arguments, argument ∈ place.arguments
  member : ∀ fit, call.selection = some fit → fit.member ∈ place.index.members
  result : call.result ∈ place.results ∨ call.result = .unset
  fresh : call.phase ≠ .resolved → call.result = .unset ∧ call.fault = none

end Workplace

namespace Act

variable {α β : Type} (place : Workplace)

/-- That work leaves the record of a locked call alone, adds no more than a limit to the uses and
gives one of some results. -/
structure Leaves (limit : ℕ) (results : Set α) (session : Session) (call : PendingCall)
    (made : Except Fault α × Session) : Prop where
  holds : place.Holds made.2 call
  uses : place.uses made.2 ≤ place.uses session + limit
  given : ∀ result, made.1 = .ok result → result ∈ results

/-- That work heeds the lock of the call. -/
def Heeds (limit : ℕ) (results : Set α) (work : Act α) : Prop :=
  ∀ session call, place.Holds session call → call.locked = true →
    Leaves place limit results session call (work.runFrom session)

variable {place} {limit more : ℕ} {results : Set α} {others : Set β}

theorem heeds_pure {result : α} (given : result ∈ results) :
    Heeds place 0 results (pure result : Act α) :=
  fun _ _ holds _ => ⟨holds, Nat.le_refl _, fun _ same => Except.ok.inj same ▸ given⟩

theorem heeds_throw (fault : Fault) : Heeds place 0 results (throw fault : Act α) :=
  fun _ _ holds _ => ⟨holds, Nat.le_refl _, fun _ same => nomatch same⟩

theorem Heeds.bind {work : Act α} {next : α → Act β} (first : Heeds place limit results work)
    (second : ∀ result ∈ results, Heeds place more others (next result)) :
    Heeds place (limit + more) others (work >>= next) := by
  intro session call holds locked
  obtain ⟨still, bounded, given⟩ := first session call holds locked
  rw [runFrom_bind]
  rcases run : work.runFrom session with ⟨fault | result, after⟩
  all_goals rw [run] at still bounded given
  · exact ⟨still, Nat.le_trans bounded (by omega), fun _ same => nomatch same⟩
  · obtain ⟨last, further, values⟩ := second result (given result rfl) after call still locked
    exact ⟨last, Nat.le_trans further (by dsimp only at bounded; omega), values⟩

/-- Only what comes first adds to the uses. -/
theorem Heeds.behind {work : Act α} {next : α → Act β} (first : Heeds place limit results work)
    (second : ∀ result ∈ results, Heeds place 0 others (next result)) :
    Heeds place limit others (work >>= next) :=
  first.bind second

/-- Only what comes last adds to the uses. -/
theorem Heeds.before {work : Act α} {next : α → Act β} (first : Heeds place 0 results work)
    (second : ∀ result ∈ results, Heeds place limit others (next result)) :
    Heeds place limit others (work >>= next) := by
  have both := first.bind second
  rwa [Nat.zero_add] at both

theorem Heeds.mono {work : Act α} (heeds : Heeds place limit results work) (le : limit ≤ more) :
    Heeds place more results work := by
  intro session call holds locked
  obtain ⟨still, bounded, given⟩ := heeds session call holds locked
  exact ⟨still, Nat.le_trans bounded (Nat.add_le_add_left le _), given⟩

/-- An attempt gives what the work gives, or a fault. -/
theorem Heeds.attempt {work : Act α} (heeds : Heeds place limit results work) :
    Heeds place limit { made | ∀ result, made = .ok result → result ∈ results } (attempt work) := by
  intro session call holds locked
  obtain ⟨still, bounded, given⟩ := heeds session call holds locked
  exact ⟨still, bounded, fun made same => Except.ok.inj same ▸ given⟩

theorem Heeds.mapM {step : α → Act β} {items : List α}
    (each : ∀ item ∈ items, Heeds place 0 Set.univ (step item)) :
    Heeds place 0 Set.univ (items.mapM step) := by
  induction items with
  | nil => exact heeds_pure trivial
  | cons item items ih =>
      rw [List.mapM_cons]
      exact (each item List.mem_cons_self).before fun first _ =>
        (ih fun other mem => each other (List.mem_cons_of_mem _ mem)).before fun rest _ =>
          heeds_pure trivial

variable (place) in
/-- That work gives a result while the call is locked. -/
def Succeeds (work : Act α) : Prop :=
  ∀ session call, place.Holds session call → call.locked = true →
    ∃ result, (work.runFrom session).1 = .ok result

theorem succeeds_pure (result : α) : Succeeds place (pure result : Act α) :=
  fun _ _ _ _ => ⟨result, rfl⟩

/-- Work that succeeds on a locked call and heeds its lock gives a result with the record as it was. -/
theorem Succeeds.run {work : Act α} (succeeds : Succeeds place work)
    (heeds : Heeds place limit results work) {session : Session} {call : PendingCall}
    (holds : place.Holds session call) (locked : call.locked = true) :
    ∃ result after, work.runFrom session = (.ok result, after) ∧ place.Holds after call := by
  obtain ⟨result, answer⟩ := succeeds session call holds locked
  obtain ⟨still, -, -⟩ := heeds session call holds locked
  exact ⟨result, _, Prod.ext answer rfl, still⟩

theorem Succeeds.bind {work : Act α} {next : α → Act β} (first : Succeeds place work)
    (heeds : Heeds place limit results work) (second : ∀ result, Succeeds place (next result)) :
    Succeeds place (work >>= next) := by
  intro session call holds locked
  obtain ⟨given, after, run, still⟩ := first.run heeds holds locked
  rw [runFrom_bind_of_ok run]
  exact second given after call still locked

theorem Succeeds.mapM {step : α → Act β} {items : List α}
    (each : ∀ item ∈ items, Succeeds place (step item) ∧ Heeds place 0 Set.univ (step item)) :
    Succeeds place (items.mapM step) := by
  induction items with
  | nil => exact succeeds_pure _
  | cons item items ih =>
      obtain ⟨first, heeds⟩ := each item List.mem_cons_self
      have others := fun other mem => each other (List.mem_cons_of_mem item mem)
      rw [List.mapM_cons]
      exact first.bind heeds fun _ =>
        (ih others).bind (Heeds.mapM fun other mem => (others other mem).2) fun _ => succeeds_pure _

theorem heeds_classOf (value : Value) : Heeds place 0 Set.univ (classOf value) :=
  fun _ _ holds _ => ⟨holds, Nat.le_refl _, fun _ _ => trivial⟩

end Act

open Act

/-- That an engine minds the lock of the call at a workplace. -/
structure Engine.Minds (engine : Engine) (place : Workplace) : Prop where
  change {session : Session} (inside : session ∈ place.sessions)
    (change : PendingCall → PendingCall) :
    session.changing place.id change ∈ place.sessions ∧
      place.uses (session.changing place.id change) = place.uses session
  report {session : Session} (inside : session ∈ place.sessions) (event : Event) :
    ((report event).runFrom session).2 ∈ place.sessions ∧
      place.uses ((report event).runFrom session).2 = place.uses session
  candidates {session : Session} (inside : session ∈ place.sessions) :
    (candidatesOf place.call).runFrom session = (.ok place.index, session)
  choose {arguments : List Value} (known : ∀ argument ∈ arguments, argument ∈ place.arguments) :
    Heeds place 0 Set.univ
      (engine.choose place.index place.call.onlyPublic place.call.returns arguments 0)
  use {member : Member} (known : member ∈ place.index.members) (converted : List Value) :
    Heeds place 1 place.results (engine.use member place.call.target converted)
  step {value argument : Value} (reached : value ∈ place.results)
    (known : argument ∈ place.arguments) :
    Heeds place 0 place.results (engine.step place.call.host value argument none)
  renderArgument {argument : Value} (known : argument ∈ place.arguments) :
    Heeds place 0 Set.univ (engine.renderArgument argument)
  displayTarget : Heeds place 0 Set.univ (engine.display place.call.target)
  display {argument : Value} (known : argument ∈ place.arguments) :
    Heeds place 0 Set.univ (engine.display argument)
  text {value : Value} (reached : value ∈ place.results ∨ value = .unset) :
    Heeds place 0 Set.univ (engine.text value)

namespace Engine.Minds

variable {engine : Engine} {place : Workplace} (minds : engine.Minds place)

include minds

theorem heeds_report (event : Event) : Heeds place 0 Set.univ (Act.report event) := by
  intro session call holds _
  obtain ⟨still, same⟩ := minds.report holds.inside event
  exact ⟨⟨still, holds.record⟩, Nat.le_of_eq same, fun _ _ => trivial⟩

theorem holds_changing {session : Session} {call : PendingCall} (holds : place.Holds session call)
    (change : PendingCall → PendingCall) :
    place.Holds (session.changing place.id change) (change call) := by
  refine ⟨(minds.change holds.inside change).1, ?_⟩
  change (session.calls.modify place.id change)[place.id]? = _
  rw [Array.getElem?_modify, if_pos rfl, holds.record]
  rfl

variable {call : PendingCall} (sound : place.Sound call)

include sound

theorem callPath (count : Option ℤ) : Heeds place 0 Set.univ (engine.callPath call count) := by
  refine Heeds.before (Heeds.mapM fun argument mem => ?_) fun _ _ => heeds_pure trivial
  exact minds.renderArgument (sound.arguments argument (Slice.mem_of_mem_upTo mem))

theorem failure (failure : Failure) (path reason : String) (origin : Option Fault) :
    Heeds place 0 Set.univ (engine.failure failure call.target path reason origin) := by
  have display := minds.displayTarget
  rw [← sound.target] at display
  exact display.before fun _ _ => (heeds_classOf call.target).before fun _ _ => heeds_pure trivial

omit sound in
theorem applyRest {value : Value} (reached : value ∈ place.results) {arguments : List Value}
    (known : ∀ argument ∈ arguments, argument ∈ place.arguments) (used : ℕ) :
    Heeds place 0 { made | ∀ result, made = .ok result → result ∈ place.results }
      (engine.applyRest place.call.host used value arguments) := by
  induction arguments generalizing value used with
  | nil => exact heeds_pure fun _ same => Except.ok.inj same ▸ reached
  | cons argument arguments ih =>
      have step := minds.step reached (known argument List.mem_cons_self)
      refine step.attempt.before fun made given => ?_
      rcases made with fault | next
      · exact heeds_pure fun _ same => nomatch same
      · exact ih (given next rfl) (fun other mem => known other (List.mem_cons_of_mem _ mem)) _

theorem runSelection {fit : Selection} (chosen : call.selection = some fit) :
    Heeds place 1 { made | ∀ result, made = .ok result → result ∈ place.results }
      (engine.runSelection call fit) := by
  have use := minds.use (sound.member fit chosen) fit.arguments
  rw [← sound.target] at use
  refine use.attempt.behind fun made given => ?_
  rcases made with fault | result
  · exact heeds_pure fun _ same => nomatch same
  · dsimp only
    rw [sound.host]
    exact minds.applyRest (given result rfl)
      (fun argument mem => sound.arguments argument (List.mem_of_mem_drop mem)) _

/-- Making a call uses its member no more than once. -/
theorem perform : Heeds place 1 place.results (engine.perform call) := by
  unfold Engine.perform
  refine (heeds_classOf _).before fun cls _ => ?_
  split
  · refine Heeds.mono ?_ (Nat.zero_le 1)
    refine (minds.callPath sound _).before fun path _ => ?_
    refine (minds.heeds_report _).before fun _ _ => ?_
    refine (minds.callPath sound _).before fun path _ => ?_
    exact (minds.failure sound _ _ _ _).before fun _ _ => heeds_throw _
  · rename_i fit chosen
    refine (minds.runSelection sound chosen).behind fun made given => ?_
    split
    · exact heeds_pure (given _ rfl)
    · split
      · exact heeds_throw _
      · refine (minds.callPath sound _).before fun path _ => ?_
        refine (minds.heeds_report _).before fun _ _ => ?_
        exact (minds.failure sound _ _ _ _).before fun _ _ => heeds_throw _

end Engine.Minds

end MemberDispatch
