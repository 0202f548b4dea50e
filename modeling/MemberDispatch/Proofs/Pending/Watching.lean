import MemberDispatch.Proofs.Host.Faults
import MemberDispatch.Proofs.Pending.Turn
import MemberDispatch.Proofs.Routine.Lasting

/-!
# Work that only looks

A session remembers which formatter shows values of a class. Work that only looks at a session leaves it
as it was but for such answers, which are the same whether or not they are remembered. It may count an
object as being displayed or hold the lock of a pending call for a while, but takes both back in the end.
What two works that only look come to is compared in one session.
-/

namespace MemberDispatch

/-- The session while an object is being displayed. -/
def Session.displayingToo (session : Session) (address : ℕ) : Session :=
  { session with displaying := address :: session.displaying }

/-- The session while someone is at work on a pending call. -/
def Session.locking (session : Session) (id : ℕ) : Session :=
  session.changing id fun call => { call with locked := true }

def Session.formatter? (session : Session) (hierarchy : Hierarchy) (cls : ClassId) :
    Option Formatter :=
  (session.formatters.lookup hierarchy.linearization cls).1

theorem DispatchMap.fst_lookup {α : Type} (linearization : ClassId → List ClassId)
    (map : DispatchMap α) (cls : ClassId) :
    (map.lookup linearization cls).1 =
      (map.answers.lookup cls).or (map.rule linearization cls) := by
  unfold lookup
  rcases map.answers.lookup cls with _ | value
  · rcases map.rule linearization cls with _ | value <;> rfl
  · rfl

/-- Whatever a map remembers, remembering an answer changes no other one. -/
theorem DispatchMap.lookup_lookup {α : Type} (linearization : ClassId → List ClassId)
    (map : DispatchMap α) (cls other : ClassId) :
    ((map.lookup linearization cls).2.lookup linearization other).1 =
      (map.lookup linearization other).1 := by
  rw [fst_lookup, fst_lookup, rule, entries_lookup, ← rule]
  rcases remembered : map.answers.lookup cls with _ | value
  · rcases answer : map.rule linearization cls with _ | value
    · simp only [lookup, remembered, answer]
    · simp only [lookup, remembered, answer, List.lookup_append, lookup_cons]
      by_cases same : other = cls
      · simp [same, answer]
      · simp [same]
  · simp only [lookup, remembered]

theorem Session.changing_self {session : Session} {id : ℕ} {call : PendingCall}
    (there : session.calls[id]? = some call) {change : PendingCall → PendingCall}
    (same : change call = call) : session.changing id change = session := by
  have back : session.calls.modify id (fun call => call) = session.calls := by
    refine Array.ext_getElem? fun other => ?_
    simp [Array.getElem?_modify]
  have keeps : session.changing id change = session.changing id fun call => call :=
    Session.changing_congr there same
  rw [keeps, Session.changing, back]
  rfl

/-- That a session differs from another one at most in what its formatters remember, and not in what
they answer. -/
structure Session.Matches (hierarchy : Hierarchy) (session other : Session) : Prop where
  same : other = { session with formatters := other.formatters }
  formatter : ∀ cls, other.formatter? hierarchy cls = session.formatter? hierarchy cls

namespace Session.Matches

variable {hierarchy : Hierarchy} {session other last : Session}

theorem refl (session : Session) : session.Matches hierarchy session :=
  ⟨rfl, fun _ => rfl⟩

theorem trans (first : session.Matches hierarchy other) (second : other.Matches hierarchy last) :
    session.Matches hierarchy last := by
  refine ⟨?_, fun cls => (second.formatter cls).trans (first.formatter cls)⟩
  rw [second.same, first.same]

theorem objects (same : session.Matches hierarchy other) : other.objects = session.objects := by
  rw [same.same]

theorem calls (same : session.Matches hierarchy other) : other.calls = session.calls := by
  rw [same.same]

theorem displaying (same : session.Matches hierarchy other) :
    other.displaying = session.displaying := by
  rw [same.same]

theorem displayingToo (same : session.Matches hierarchy other) (address : ℕ) :
    (session.displayingToo address).Matches hierarchy (other.displayingToo address) := by
  refine ⟨?_, same.formatter⟩
  rw [same.same]
  rfl

theorem locking (same : session.Matches hierarchy other) (id : ℕ) :
    (session.locking id).Matches hierarchy (other.locking id) := by
  refine ⟨?_, same.formatter⟩
  rw [same.same]
  rfl

/-- Looking up a formatter has it remembered. -/
theorem lookup (session : Session) (cls : ClassId) :
    session.Matches hierarchy
      { session with formatters := (session.formatters.lookup hierarchy.linearization cls).2 } :=
  ⟨rfl, fun other => DispatchMap.lookup_lookup hierarchy.linearization session.formatters cls other⟩

end Session.Matches

namespace Act

variable {α β : Type}

/-- That two works come to the same in a session, which they only look at. -/
def OnlyLook (hierarchy : Hierarchy) (session : Session) (left right : Act α) : Prop :=
  ∀ other, session.Matches hierarchy other → ∃ outcome after,
    session.Matches hierarchy after ∧ left.runFrom other = (outcome, after) ∧
      right.runFrom other = (outcome, after)

namespace OnlyLook

variable {hierarchy : Hierarchy} {session : Session}

theorem pure (result : α) :
    OnlyLook hierarchy session (Pure.pure result : Act α) (Pure.pure result) :=
  fun _ same => ⟨_, _, same, rfl, rfl⟩

theorem throw (fault : Fault) :
    OnlyLook hierarchy session (MonadExcept.throw fault : Act α) (MonadExcept.throw fault) :=
  fun _ same => ⟨_, _, same, rfl, rfl⟩

theorem bind {left right : Act α} {next onward : α → Act β}
    (first : OnlyLook hierarchy session left right)
    (second : ∀ result, OnlyLook hierarchy session (next result) (onward result)) :
    OnlyLook hierarchy session (left >>= next) (right >>= onward) := by
  intro other same
  obtain ⟨fault | result, after, still, leftRun, rightRun⟩ := first other same
  · exact ⟨.error fault, after, still, runFrom_bind_of_error leftRun _,
      runFrom_bind_of_error rightRun _⟩
  · rw [runFrom_bind_of_ok leftRun, runFrom_bind_of_ok rightRun]
    exact second result after still

/-- What is read off a session is the same in one that matches it. -/
theorem read {work : Act α} {result : α}
    (reads : ∀ other, session.Matches hierarchy other → work.runFrom other = (.ok result, other))
    {next onward : α → Act β} (rest : OnlyLook hierarchy session (next result) (onward result)) :
    OnlyLook hierarchy session (work >>= next) (work >>= onward) := by
  intro other same
  rw [runFrom_bind_of_ok (reads other same), runFrom_bind_of_ok (reads other same)]
  exact rest other same

theorem classOf (value : Value) {next onward : ClassId → Act β}
    (rest : OnlyLook hierarchy session (next (value.classOf session.objects))
      (onward (value.classOf session.objects))) :
    OnlyLook hierarchy session (Act.classOf value >>= next) (Act.classOf value >>= onward) :=
  read (fun other same => by rw [runFrom_classOf, same.objects]) rest

theorem contentOf (value : Value) {next onward : Value → Act β}
    (rest : OnlyLook hierarchy session (next (value.content session.objects))
      (onward (value.content session.objects))) :
    OnlyLook hierarchy session (Act.contentOf value >>= next) (Act.contentOf value >>= onward) :=
  read (fun other same => by rw [← same.objects]; rfl) rest

theorem objectAt (address : ℕ) {next onward : Object → Act β}
    (rest : OnlyLook hierarchy session (next ((session.objects[address]?).getD default))
      (onward ((session.objects[address]?).getD default))) :
    OnlyLook hierarchy session (Act.objectAt address >>= next) (Act.objectAt address >>= onward) :=
  read (fun other same => by rw [← same.objects]; rfl) rest

theorem callAt? (id : ℕ) {next onward : Option PendingCall → Act β}
    (rest : OnlyLook hierarchy session (next session.calls[id]?) (onward session.calls[id]?)) :
    OnlyLook hierarchy session (Act.callAt? id >>= next) (Act.callAt? id >>= onward) :=
  read (fun other same => by rw [← same.calls]; rfl) rest

theorem callAt (id : ℕ) {next onward : PendingCall → Act β}
    (rest : ∀ call, session.calls[id]? = some call →
      OnlyLook hierarchy session (next call) (onward call)) :
    OnlyLook hierarchy session (Act.callAt id >>= next) (Act.callAt id >>= onward) := by
  rcases there : session.calls[id]? with _ | call
  · have missing (other : Session) (same : session.Matches hierarchy other) :
        (Act.callAt id).runFrom other = (.error (.say .system "no such pending call"), other) := by
      rw [← same.calls] at there
      simp [Act.callAt, Act.callAt?, runFrom_bind, there]
    intro other same
    exact ⟨_, other, same, runFrom_bind_of_error (missing other same) _,
      runFrom_bind_of_error (missing other same) _⟩
  · refine read (fun other same => runFrom_callAt_of_record ?_) (rest call there)
    rw [same.calls, there]

theorem mapM {left right : α → Act β} {items : List α}
    (each : ∀ item ∈ items, OnlyLook hierarchy session (left item) (right item)) :
    OnlyLook hierarchy session (items.mapM left) (items.mapM right) := by
  induction items with
  | nil => exact pure _
  | cons item items ih =>
      obtain ⟨first, others⟩ := List.forall_mem_cons.mp each
      rw [List.mapM_cons, List.mapM_cons]
      exact first.bind fun _ => (ih others).bind fun _ => pure _

/-- Once the object is displayed, it no longer counts as being displayed. -/
theorem whileDisplaying {left right : Act α} {address : ℕ}
    (inside : OnlyLook hierarchy (session.displayingToo address) left right) :
    OnlyLook hierarchy session (Act.whileDisplaying address left)
      (Act.whileDisplaying address right) := by
  intro other same
  obtain ⟨outcome, after, still, leftRun, rightRun⟩ := inside _ (same.displayingToo address)
  have back : session.Matches hierarchy
      { after with displaying := after.displaying.erase address } := by
    refine ⟨?_, still.formatter⟩
    rw [still.same]
    simp [Session.displayingToo]
  have run {work : Act α} (ran : work.runFrom (other.displayingToo address) = (outcome, after)) :
      (Act.whileDisplaying address work).runFrom other =
        (outcome, { after with displaying := after.displaying.erase address }) := by
    unfold Session.displayingToo at ran
    simp only [Act.whileDisplaying, runFrom_bind, runFrom_modify, runFrom_attempt, ran]
    rcases outcome with fault | result <;> rfl
  exact ⟨outcome, _, back, run leftRun, run rightRun⟩

/-- Once the work on a call is done, nobody is at work on it again. -/
theorem whileLocked {left right : Act α} {id : ℕ} {call : PendingCall}
    (there : session.calls[id]? = some call) (unlocked : call.locked = false)
    (inside : OnlyLook hierarchy (session.locking id) left right) :
    OnlyLook hierarchy session (Engine.whileLocked id left) (Engine.whileLocked id right) := by
  intro other same
  obtain ⟨outcome, after, still, leftRun, rightRun⟩ := inside _ (same.locking id)
  have unlock : (session.locking id).changing id (fun call => { call with locked := false }) =
      session := by
    rw [Session.locking, Session.changing_changing]
    refine Session.changing_self there ?_
    rw [Function.comp_apply, ← unlocked]
  have back : session.Matches hierarchy
      (after.changing id fun call => { call with locked := false }) := by
    refine ⟨?_, still.formatter⟩
    rw [still.same]
    exact congrArg (fun session : Session => { session with formatters := after.formatters }) unlock
  have run {work : Act α} (ran : work.runFrom (other.locking id) = (outcome, after)) :
      (Engine.whileLocked id work).runFrom other =
        (outcome, after.changing id fun call => { call with locked := false }) := by
    unfold Session.locking at ran
    rw [runFrom_whileLocked_changing, ran]
  exact ⟨outcome, _, back, run leftRun, run rightRun⟩

end OnlyLook

end Act

end MemberDispatch
