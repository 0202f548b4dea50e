import MemberDispatch.Proofs.Index.Landing
import MemberDispatch.Proofs.Pending.Outcome

/-!
# What a failed call blames

A call that is made fails because no member was found for its arguments, because its member fails,
or because a property step on what came before fails. The failure names what was attempted: all
arguments of the call, those that its member takes, or those up to the step that failed, as they
were given. What was raised there is its origin, and nothing behind it is attempted.
-/

namespace MemberDispatch

def Session.reporting (session : Session) (event : Event) : Session :=
  { session with events := session.events.push event }

/-- The arguments among requests. -/
def Request.given (requests : List Request) : List Value :=
  requests.filterMap fun
    | accept argument => some argument
    | _ => none

theorem Request.given_append (requests more : List Request) :
    given (requests ++ more) = given requests ++ given more :=
  List.filterMap_append

/-- That the member of a call takes as many arguments as it was found for, and no more than there
are. -/
def PendingCall.Fits (call : PendingCall) : Prop :=
  ∀ fit, call.selection = some fit →
    fit.consumed = fit.member.arity ∧ fit.member.arity ≤ call.arguments.length

namespace Engine

open Act

/-- That making a call breaks with a fault, after so many of its first arguments: its member fails,
or a property step does behind others that succeed. -/
inductive Breaks (engine : Engine) (call : PendingCall) (begun : Session) :
    ℕ → Fault → Session → Prop
  | member {fit : Selection} {fault : Fault} {failed : Session}
      (chosen : call.selection = some fit)
      (fails : (engine.use fit.member call.target fit.arguments).runFrom begun =
        (.error fault, failed)) :
      Breaks engine call begun fit.member.arity fault failed
  | step {fit : Selection} {result value argument : Value} {before behind : List Value}
      {used last failed : Session} {fault : Fault}
      (chosen : call.selection = some fit)
      (succeeds : (engine.use fit.member call.target fit.arguments).runFrom begun =
        (.ok result, used))
      (excess : call.arguments.drop fit.member.arity = before ++ argument :: behind)
      (steps : (engine.stepAll call.host result before).runFrom used = (.ok value, last))
      (fails : (engine.step call.host value argument none).runFrom last = (.error fault, failed)) :
      Breaks engine call begun (fit.member.arity + (before.length + 1)) fault failed

/-- What the failure of a call says, which is put together in what the call left when it broke. -/
inductive Blame (engine : Engine) (call : PendingCall) (begun : Session) :
    PropertyFault → Session → Prop
  | unmatched {event : Event} {noted path shown : String} {first second last : Session}
      (unfit : call.selection = none)
      (notes : (engine.renderPath call.name call.arguments).runFrom begun = (.ok noted, first))
      (renders : (engine.renderPath call.name call.arguments).runFrom (first.reporting event) =
        (.ok path, second))
      (displays : (engine.display call.target).runFrom second = (.ok shown, last)) :
      Blame engine call begun
        { failure := .noMatch
          target := call.target
          targetText := (call.target.classOf last.objects).name ++ "(" ++ shown ++ ")"
          path
          reason := "no overload accepts the arguments" }
        last
  | broken {used : ℕ} {cause : Fault} {event : Event} {path shown : String}
      {failed first last : Session}
      (breaks : engine.Breaks call begun used cause failed)
      (within : used ≤ call.arguments.length)
      (renders : (engine.renderPath call.name (call.arguments.take used)).runFrom failed =
        (.ok path, first))
      (displays : (engine.display call.target).runFrom (first.reporting event) = (.ok shown, last)) :
      Blame engine call begun
        { failure := .invocation
          target := call.target
          targetText := (call.target.classOf last.objects).name ++ "(" ++ shown ++ ")"
          path
          reason := cause.kind.name ++ ": " ++ cause.message
          origin := some cause }
        last

/-- That what a failure says of a call can be shown. -/
structure Shows (engine : Engine) (place : Workplace) : Prop where
  renderArgument {argument : Value} (known : argument ∈ place.arguments) :
    Succeeds place (engine.renderArgument argument)
  displayTarget : Succeeds place (engine.display place.call.target)

variable {engine : Engine} {place : Workplace} {session : Session} {call : PendingCall}

section Breaking

variable {fault : Fault} {failed : Session} {used reached : ℕ}

/-- Applying the rest of the arguments breaks at the first step that fails. -/
theorem exists_of_applyRest {host : ℕ} {value : Value} {arguments : List Value}
    (run : (engine.applyRest host used value arguments).runFrom session =
      (.ok (.error (fault, reached)), failed)) :
    ∃ before argument behind next last, arguments = before ++ argument :: behind ∧
      (engine.stepAll host value before).runFrom session = (.ok next, last) ∧
      (engine.step host next argument none).runFrom last = (.error fault, failed) ∧
      reached = used + (before.length + 1) := by
  induction arguments generalizing used value session with
  | nil => cases run
  | cons argument arguments ih =>
      simp only [applyRest, runFrom_bind, runFrom_attempt] at run
      rcases step : (engine.step host value argument none).runFrom session with ⟨cause | next, after⟩
      · rw [step] at run
        cases run
        exact ⟨[], argument, arguments, value, session, rfl, rfl, step, rfl⟩
      · rw [step] at run
        obtain ⟨before, other, behind, reaching, last, split, steps, fails, count⟩ := ih run
        refine ⟨argument :: before, other, behind, reaching, last, ?_, ?_, fails, ?_⟩
        · rw [split, List.cons_append]
        · exact (runFrom_bind_of_ok step _).trans steps
        · rw [count, List.length_cons]
          omega

theorem runFrom_applyRest_of_fails {host : ℕ} {value next argument : Value}
    {before behind : List Value} {last : Session}
    (steps : (engine.stepAll host value before).runFrom session = (.ok next, last))
    (fails : (engine.step host next argument none).runFrom last = (.error fault, failed)) :
    (engine.applyRest host used value (before ++ argument :: behind)).runFrom session =
      (.ok (.error (fault, used + (before.length + 1))), failed) := by
  induction before generalizing used value session with
  | nil =>
      cases steps
      simp only [List.nil_append, applyRest, runFrom_bind, runFrom_attempt, fails, runFrom_pure]
      rfl
  | cons other before ih =>
      obtain ⟨between, after, step, rest⟩ := exists_of_runFrom_bind steps
      simp only [List.cons_append, applyRest, runFrom_bind, runFrom_attempt, step, ih rest,
        List.length_cons]
      rw [Nat.add_assoc, Nat.add_comm 1]

/-- Using a selected member always comes to something, which may be what failed. -/
theorem runFrom_runSelection_ok (engine : Engine) (call : PendingCall) (fit : Selection)
    (session : Session) :
    ∃ made after, (engine.runSelection call fit).runFrom session = (.ok made, after) := by
  rcases uses : (engine.use fit.member call.target fit.arguments).runFrom session with
    ⟨cause | result, after⟩
  · refine ⟨.error (cause, fit.consumed), after, ?_⟩
    simp only [runSelection, runFrom_bind, runFrom_attempt, uses, runFrom_pure]
  · obtain ⟨reached, run⟩ := Engine.runFrom_runSelection uses
    exact ⟨_, _, run⟩

/-- A selected member that does not come to a result breaks the call. -/
theorem breaks_of_runSelection {fit : Selection} (chosen : call.selection = some fit)
    (consumed : fit.consumed = fit.member.arity)
    (run : (engine.runSelection call fit).runFrom session = (.ok (.error (fault, used)), failed)) :
    engine.Breaks call session used fault failed := by
  simp only [runSelection, runFrom_bind, runFrom_attempt] at run
  rcases uses : (engine.use fit.member call.target fit.arguments).runFrom session with
    ⟨cause | result, after⟩
  · rw [uses] at run
    cases run
    rw [consumed]
    exact .member chosen uses
  · rw [uses] at run
    obtain ⟨before, argument, behind, value, last, excess, steps, fails, count⟩ :=
      exists_of_applyRest run
    rw [consumed] at excess count
    rw [count]
    exact .step chosen uses excess steps fails

theorem Breaks.runFrom_runSelection (breaks : engine.Breaks call session used fault failed)
    (fits : call.Fits) :
    ∃ fit, call.selection = some fit ∧
      (engine.runSelection call fit).runFrom session = (.ok (.error (fault, used)), failed) := by
  cases breaks with
  | @member fit _ _ chosen fails =>
      refine ⟨fit, chosen, ?_⟩
      simp only [runSelection, runFrom_bind, runFrom_attempt, fails, runFrom_pure,
        (fits fit chosen).1]
  | @step fit _ _ _ _ _ _ _ _ _ chosen succeeds excess steps fails =>
      refine ⟨fit, chosen, ?_⟩
      simp only [runSelection, runFrom_bind, runFrom_attempt, succeeds, (fits fit chosen).1,
        excess]
      exact runFrom_applyRest_of_fails steps fails

/-- A call breaks within its arguments if its member takes no more than there are. -/
theorem Breaks.within (breaks : engine.Breaks call session used fault failed) (fits : call.Fits) :
    used ≤ call.arguments.length := by
  cases breaks with
  | member chosen => exact (fits _ chosen).2
  | step _ _ excess =>
      have count := congrArg List.length excess
      rw [List.length_drop, List.length_append, List.length_cons] at count
      omega

theorem runFrom_failure {kind : Failure} {target : Value} {path reason shown : String}
    {origin : Option Fault} {after : Session}
    (displays : (engine.display target).runFrom session = (.ok shown, after)) :
    (do throw (.property (← engine.failure kind target path reason origin)) : Act Value).runFrom
        session =
      (.error (.property
        { failure := kind
          target
          targetText := (target.classOf after.objects).name ++ "(" ++ shown ++ ")"
          path
          reason
          origin }), after) := by
  simp only [failure, bind_assoc, pure_bind, runFrom_bind_of_ok displays,
    runFrom_bind_of_ok (runFrom_classOf _ _), runFrom_throw]

end Breaking

section Performing

variable {fault : Fault} {ended : Session} (minds : engine.Minds place) (shows : engine.Shows place)
  (sound : place.Sound call) (holds : place.Holds session call) (locked : call.locked = true)

include minds shows sound holds locked

theorem Minds.runs_renderPath (count : Option ℤ) :
    ∃ path after, (engine.renderPath call.name (Slice.upTo call.arguments count)).runFrom session =
      (.ok path, after) ∧ place.Holds after call :=
  (minds.succeeds_callPath shows.renderArgument sound count).run (minds.callPath sound count) holds
    locked

theorem Minds.runs_display :
    ∃ shown after, (engine.display call.target).runFrom session = (.ok shown, after) := by
  have succeeds := shows.displayTarget
  have heeds := minds.displayTarget
  rw [← sound.target] at succeeds heeds
  obtain ⟨shown, after, displays, -⟩ := succeeds.run heeds holds locked
  exact ⟨shown, after, displays⟩

omit shows sound locked in
theorem Minds.holds_reporting (event : Event) : place.Holds (session.reporting event) call :=
  ⟨(minds.report holds.inside event).1, holds.record⟩

/-- A call without a member fails with all of its arguments. -/
theorem Minds.blame_of_unfit (unfit : call.selection = none) :
    ∃ failure last, (engine.perform call).runFrom session = (.error (.property failure), last) ∧
      engine.Blame call session failure last := by
  obtain ⟨noted, first, notes, still⟩ := minds.runs_renderPath shows sound holds locked none
  let event : Event :=
    .noOverload (Text.quoted call.name) (call.target.classOf session.objects).name noted
  obtain ⟨path, second, renders, after⟩ :=
    minds.runs_renderPath shows sound (minds.holds_reporting still event) locked none
  obtain ⟨shown, last, displays⟩ := minds.runs_display shows sound after locked
  refine ⟨_, last, ?_, .unmatched unfit notes renders displays⟩
  unfold Engine.perform
  rw [runFrom_bind_of_ok (runFrom_classOf _ _)]
  dsimp only
  rw [unfit]
  refine (runFrom_bind_of_ok notes _).trans ?_
  refine (runFrom_bind_of_ok renders _).trans ?_
  exact runFrom_failure displays

/-- A call that breaks fails with the arguments that were attempted, unless what broke it escapes. -/
theorem Minds.blame_of_breaks {fit : Selection} {cause : Fault} {used : ℕ} {failed : Session}
    (chosen : call.selection = some fit) (fits : call.Fits)
    (run : (engine.runSelection call fit).runFrom session = (.ok (.error (cause, used)), failed))
    (ordinary : cause.escapes = false) :
    ∃ failure last, (engine.perform call).runFrom session = (.error (.property failure), last) ∧
      engine.Blame call session failure last := by
  have breaks := breaks_of_runSelection chosen (fits fit chosen).1 run
  -- What is said of the call is put together in the session in which the step failed.
  have within := breaks.within fits
  obtain ⟨still, -, -⟩ := minds.runSelection sound chosen _ _ holds locked
  rw [run] at still
  obtain ⟨path, first, renders, after⟩ := minds.runs_renderPath shows sound still locked (some used)
  let event : Event :=
    .failedInvocation path (call.target.classOf session.objects).name cause.display
  obtain ⟨shown, last, displays⟩ :=
    minds.runs_display shows sound (minds.holds_reporting after event) locked
  have named := renders
  rw [Slice.upTo_natCast] at named
  refine ⟨_, last, ?_, .broken breaks within named displays⟩
  unfold Engine.perform
  rw [runFrom_bind_of_ok (runFrom_classOf _ _)]
  dsimp only
  rw [chosen]
  refine (runFrom_bind_of_ok run _).trans ?_
  dsimp only
  rw [ordinary]
  refine (runFrom_bind_of_ok renders _).trans ?_
  exact runFrom_failure displays

omit minds shows sound holds locked in
/-- What escapes is passed on. -/
theorem runFrom_perform_of_escapes {fit : Selection} {cause : Fault} {used : ℕ} {failed : Session}
    (chosen : call.selection = some fit)
    (run : (engine.runSelection call fit).runFrom session = (.ok (.error (cause, used)), failed))
    (escapes : cause.escapes = true) :
    (engine.perform call).runFrom session = (.error cause, failed) := by
  unfold Engine.perform
  rw [runFrom_bind_of_ok (runFrom_classOf _ _)]
  dsimp only
  rw [chosen]
  refine (runFrom_bind_of_ok run _).trans ?_
  dsimp only
  rw [escapes]
  rfl

/-- A call that has no member or breaks fails. -/
theorem Minds.exists_fault_of_perform (fits : call.Fits)
    (stuck : call.selection = none ∨
      ∃ used cause failed, engine.Breaks call session used cause failed) :
    ∃ fault, ((engine.perform call).runFrom session).1 = .error fault := by
  rcases stuck with unfit | ⟨used, cause, failed, breaks⟩
  · obtain ⟨failure, last, run, -⟩ := minds.blame_of_unfit shows sound holds locked unfit
    exact ⟨_, congrArg Prod.fst run⟩
  · obtain ⟨fit, chosen, run⟩ := breaks.runFrom_runSelection fits
    by_cases escapes : cause.escapes = true
    · exact ⟨cause, congrArg Prod.fst (runFrom_perform_of_escapes chosen run escapes)⟩
    · obtain ⟨failure, last, run, -⟩ := minds.blame_of_breaks shows sound holds locked chosen fits
        run (Bool.eq_false_iff.mpr escapes)
      exact ⟨_, congrArg Prod.fst run⟩

/-- The failure of a call that is made says what broke it, unless what broke it escapes. -/
theorem Minds.blame_of_perform (fits : call.Fits)
    (fails : (engine.perform call).runFrom session = (.error fault, ended))
    (ordinary : fault.escapes = false) :
    ∃ failure, fault = .property failure ∧ engine.Blame call session failure ended := by
  rcases chosen : call.selection with _ | fit
  · obtain ⟨failure, last, run, blame⟩ := minds.blame_of_unfit shows sound holds locked chosen
    cases fails.symm.trans run
    exact ⟨failure, rfl, blame⟩
  · obtain ⟨made, after, run⟩ := engine.runFrom_runSelection_ok call fit session
    rcases made with ⟨cause, used⟩ | result
    · by_cases escapes : cause.escapes = true
      · cases fails.symm.trans (runFrom_perform_of_escapes chosen run escapes)
        cases ordinary.symm.trans escapes
      · obtain ⟨failure, last, run, blame⟩ := minds.blame_of_breaks shows sound holds locked chosen
          fits run (Bool.eq_false_iff.mpr escapes)
        cases fails.symm.trans run
        exact ⟨failure, rfl, blame⟩
    · cases fails.symm.trans (runFrom_perform chosen run)

end Performing

/-- What a call that waits has of the requests that it served: their arguments, one session for each
search, of which the first was made before any request, and the latest member that was found. -/
structure Sought (engine : Engine) (place : Workplace) (sessions : List Session)
    (requests : List Request) (call : PendingCall) : Prop where
  counted : sessions.length = call.arguments.length + 1
  arguments : call.arguments = Request.given requests
  selection :
    Latest (engine.foundIn place sessions call.arguments) call.arguments.length call.selection

/-- A member that was found for a number of arguments takes as many. -/
theorem arity_of_foundIn {sessions : List Session} {arguments : List Value} {count : ℕ}
    {choice : Choice} (within : count ≤ arguments.length)
    (found : engine.foundIn place sessions arguments count = some choice) :
    choice.member.arity = count := by
  unfold foundIn at found
  split at found
  · cases found
  · rename_i session _
    rcases search : (engine.choose place.index place.call.onlyPublic place.call.returns
      (arguments.take count) 0).runFrom session with ⟨fault | other, after⟩
    all_goals rw [search] at found
    · cases found
    · cases found
      obtain ⟨start, converts⟩ := converts_of_choose search
      obtain ⟨converters, taken⟩ := converts.lengths
      rw [List.length_take, Nat.min_eq_left within] at taken
      exact converters.trans taken.symm

namespace Sought

variable {sessions : List Session} {requests : List Request} {next : PendingCall}
  {request : Request} {made : Except Fault Value × Session}

theorem fits (sought : Sought engine place sessions requests call) : call.Fits := by
  intro fit chosen
  obtain ⟨within, found, -⟩ := sought.selection.within fit chosen
  have arity : fit.member.arity = fit.consumed := arity_of_foundIn within found
  exact ⟨arity.symm, arity ▸ within⟩

/-- A search for one more argument counts if it finds something, and may also fail. -/
theorem take (sought : Sought engine place sessions requests call) {argument : Value}
    {found : Option Choice}
    (search : foundBy ((engine.choose place.index place.call.onlyPublic place.call.returns
      (call.arguments ++ [argument]) 0).runFrom (session.seeking place.id argument)).1 = found) :
    Sought engine place (sessions ++ engine.searches place.id [.accept argument] session)
      (requests ++ [.accept argument]) ((call.taking argument).finding found) := by
  have latest :=
    latest_concat sought.selection sought.counted (session.seeking place.id argument) argument
  rw [foundIn_concat sought.counted, search] at latest
  refine ⟨?_, ?_, latest⟩
  · change (sessions ++ [_]).length = (call.arguments ++ [argument]).length + 1
    rw [List.length_append, sought.counted, List.length_append]
    rfl
  · change call.arguments ++ [argument] = Request.given (requests ++ [.accept argument])
    rw [sought.arguments, Request.given_append]
    rfl

/-- A request that leaves a call waiting is no search, or one for one more argument. -/
theorem serve (sought : Sought engine place sessions requests call)
    (serves : Served engine place session call request made next) (waits : next.phase ≠ .resolved) :
    Sought engine place (sessions ++ engine.searches place.id [request] session)
      (requests ++ [request]) next := by
  have turn := serves.turn
  generalize made.1 = told at turn
  cases turn with
  | keeps resolved => exact absurd resolved waits
  | looks =>
      change Sought engine place (sessions ++ []) _ _
      rw [List.append_nil]
      refine ⟨sought.counted, ?_, sought.selection⟩
      rw [sought.arguments, Request.given_append]
      exact (List.append_nil _).symm
  | makes => exact absurd (call.phase_keeping _) waits
  | takes _ search => exact sought.take (congrArg foundBy search)
  | completes => exact absurd (PendingCall.phase_keeping _ _) waits
  | breaks _ search => exact sought.take (congrArg foundBy search)

end Sought

/-- That a request makes a call: with which record and in which session the call is made, what it comes
to, which the request answers, and in which session it ends, in which the request leaves a failure
recorded. -/
structure Makes (engine : Engine) (place : Workplace) (request : Request)
    (answer : Except Fault Value × Session) (made : PendingCall) (begun : Session)
    (outcome : Except Fault Value) (ended : Session) : Prop where
  holds : place.Holds begun made
  sound : place.Sound made
  locked : made.locked = true
  resolved : made.phase = .resolved
  performs : (engine.perform made).runFrom begun = (outcome, ended)
  tells : request.Tells engine outcome answer.1
  leaves : ∀ fault, outcome = .error fault →
    answer.2 =
      (ended.keeping place.id outcome).changing place.id fun call => { call with locked := false }

section Making

variable (minds : engine.Minds place)

include minds

/-- Work on a locked call that comes to settling it makes the call. -/
theorem Minds.makes_of_settle (request : Request) {work : Act Value} {waiting : Session}
    (holds : place.Holds waiting call) (sound : place.Sound call) (locked : call.locked = true)
    (unresolved : call.phase ≠ .resolved) (next : Value → Act Value)
    (tells : ∀ result session, request.Tells engine (.ok result) ((next result).runFrom session).1)
    (fails : ∀ fault, request.Tells engine (.error fault) (.error fault))
    (run : work.runFrom (session.changing place.id fun call => { call with locked := true }) =
      (engine.settle place.id >>= next).runFrom waiting) :
    ∃ begun outcome ended,
      Makes engine place request ((whileLocked place.id work).runFrom session)
        { call with phase := .resolved } begun outcome ended := by
  obtain ⟨marked, settles⟩ := minds.runFrom_settle holds sound locked unresolved
  rcases performs : (engine.perform { call with phase := .resolved }).runFrom
    (waiting.changing place.id fun call => { call with phase := .resolved }) with ⟨outcome, ended⟩
  rw [performs] at settles
  rw [runFrom_whileLocked_changing, run, runFrom_bind, settles]
  refine ⟨_, outcome, ended, marked, sound.resolved, locked, rfl, performs, ?_, ?_⟩
  · cases outcome with
    | error fault => exact fails fault
    | ok result => exact tells result _
  · rintro fault rfl
    rfl

variable (rests : place.Rests session call) (unresolved : call.phase ≠ .resolved)

include rests unresolved

/-- An argument that completes a call makes it once it was taken and a member was looked for. -/
theorem Minds.makes_accept {argument : Value} {found : Option Choice}
    (known : argument ∈ place.arguments)
    (search : ((engine.choose place.index place.call.onlyPublic place.call.returns
      (call.arguments ++ [argument]) 0).runFrom (session.seeking place.id argument)).1 = .ok found)
    (full : place.index.maxArity ≤ call.arguments.length + 1) :
    ∃ begun outcome ended,
      Makes engine place (.accept argument) ((engine.accept place.id argument).runFrom session)
        { (call.taking argument).finding found with locked := true, phase := .resolved } begun
        outcome ended := by
  let taken : PendingCall := { call.taking argument with locked := true }
  have sound : place.Sound taken := (rests.sound.taking unresolved known).lock true
  obtain ⟨seeks, -⟩ := minds.holds_seeking rests argument
  obtain ⟨work, works, run⟩ := minds.runFrom_accept rests unresolved argument
  obtain ⟨still, -, -⟩ := minds.choose sound.arguments _ _ seeks rfl
  obtain ⟨members, -⟩ := engine.choose_spec place.index place.call.onlyPublic place.call.returns
    taken.arguments (session.seeking place.id argument)
  rw [works]
  rw [runFrom_bind, minds.runFrom_selectionOf sound seeks.inside] at run
  rcases searches : (engine.choose place.index place.call.onlyPublic place.call.returns
    taken.arguments 0).runFrom (session.seeking place.id argument) with ⟨answer, after⟩
  obtain rfl : answer = .ok found := (congrArg Prod.fst searches).symm.trans search
  rw [searches] at run still members
  obtain ⟨last, finds, -, goesOn⟩ := minds.runFrom_finding still found (do
    if taken.arguments.length < (← candidatesOf taken).maxArity then return .pending place.id
    else engine.settle place.id)
  have finding : place.Sound (taken.finding found) :=
    sound.finding fun choice same => members choice (congrArg Except.ok same)
  have run := run.trans goesOn
  -- No member takes more arguments, so all that is left to do is to settle the call.
  have enough : ¬ taken.arguments.length < place.index.maxArity := by
    have count : taken.arguments.length = call.arguments.length + 1 := List.length_append
    omega
  rw [runFrom_bind_of_ok (minds.runFrom_candidatesOf sound finds.inside), if_neg enough,
    ← bind_pure (engine.settle place.id)] at run
  exact minds.makes_of_settle (.accept argument) finds finding rfl nofun pure (fun _ _ => rfl)
    (fun _ => rfl) run

/-- A request that makes a call makes it with what was sought for the requests up to it. -/
theorem Minds.makes {sessions : List Session} {requests : List Request} {request : Request}
    {next : PendingCall} (sought : Sought engine place sessions requests call)
    (known : request.Known place)
    (serves : Served engine place session call request
      ((request.work engine place.id).runFrom session) next)
    (resolved : next.phase = .resolved) :
    ∃ made begun outcome ended,
      Makes engine place request ((request.work engine place.id).runFrom session) made begun outcome
        ended ∧
      Sought engine place (sessions ++ engine.searches place.id [request] session)
        (requests ++ [request]) made := by
  have turn := serves.turn
  generalize ((request.work engine place.id).runFrom session).1 = told at turn
  have locks := minds.holds_locked rests
  have sound := rests.sound.lock true
  -- Only a request for the outcome and the last argument conclude a call that has none.
  cases turn with
  | keeps ended => exact absurd ended unresolved
  | looks => exact absurd resolved unresolved
  | makes _ asked =>
      have kept : Sought engine place (sessions ++ engine.searches place.id [request] session)
          (requests ++ [request]) { call with locked := true, phase := .resolved } := by
        rcases asked with rfl | rfl
        all_goals
          change Sought engine place (sessions ++ []) _ _
          rw [List.append_nil]
          refine ⟨sought.counted, ?_, sought.selection⟩
          rw [Request.given_append, ← sought.arguments]
          exact (List.append_nil _).symm
      rcases asked with rfl | rfl
      · have run := congrArg
          (runFrom · (session.changing place.id fun call => { call with locked := true }))
          (bind_pure (engine.settle place.id)).symm
        obtain ⟨begun, outcome, ended, makes⟩ := minds.makes_of_settle .resolve locks sound rfl
          unresolved pure (fun _ _ => rfl) (fun _ => rfl) run
        exact ⟨_, begun, outcome, ended, makes, kept⟩
      · obtain ⟨begun, outcome, ended, makes⟩ := minds.makes_of_settle .text locks sound rfl
          unresolved (fun result => do return .text (← engine.text result))
          (fun _ session => ⟨session, rfl⟩) (fun _ => rfl) rfl
        rw [runFrom_text rests.holds rests.unlocked]
        exact ⟨_, begun, outcome, ended, makes, kept⟩
  | takes => cases resolved
  | @completes argument found _ _ search full =>
      obtain ⟨begun, outcome, ended, makes⟩ :=
        minds.makes_accept rests unresolved known search full
      have took := sought.take (congrArg foundBy search)
      exact ⟨_, begun, outcome, ended, makes, took.counted, took.arguments, took.selection⟩
  | breaks => cases resolved

end Making

section Runs

variable (minds : engine.Minds place) {before start : Session} (blank : place.call.Blank)
  (inside : before ∈ place.sessions ∧ start ∈ place.sessions)
  (begins : (engine.startCall place.call).runFrom before = (.ok place.id, start))

include minds blank inside begins

/-- A call that still waits has what was sought for the requests that it served. -/
theorem Sought.of_startCall {requests : List Request}
    (known : ∀ request ∈ requests, request.Known place)
    (waits : (engine.serveAll place.id requests start).calls[place.id]? = some call)
    (unresolved : call.phase ≠ .resolved) :
    place.Rests (engine.serveAll place.id requests start) call ∧
      Sought engine place (before :: engine.searches place.id requests start) requests call := by
  obtain ⟨first, progress, rests, -⟩ := Progress.startCall minds blank inside begins
  induction requests using List.reverseRecOn generalizing call with
  | nil =>
      obtain rfl : call = first := Option.some.inj (waits.symm.trans rests.holds.record)
      have none : call.arguments = [] := progress.arguments.trans (Request.taken_nil _)
      exact ⟨rests, congrArg (· + 1) (congrArg List.length none).symm, none, progress.selection⟩
  | append_singleton requests request ih =>
      have fewer : ∀ other ∈ requests, other.Known place := fun other mem =>
        known other (List.mem_append_left _ mem)
      obtain ⟨between, resting⟩ := minds.rests_serveAll rests requests fewer
      obtain ⟨next, serves⟩ := minds.serves resting request
        (known request (List.mem_append_right _ List.mem_cons_self))
      rw [serveAll_concat] at waits ⊢
      obtain rfl : call = next := Option.some.inj (waits.symm.trans serves.rests.holds.record)
      -- The call waited before, too: one that has its outcome would have stayed as it was.
      have waiting : between.phase ≠ .resolved := fun resolved =>
        unresolved (serves.turn.eq_of_resolved resolved ▸ resolved)
      obtain ⟨-, sought⟩ := ih fewer resting.holds.record waiting
      rw [searches_append]
      exact ⟨serves.rests, sought.serve serves unresolved⟩

end Runs

end Engine

end MemberDispatch
