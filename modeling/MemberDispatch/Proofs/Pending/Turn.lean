import MemberDispatch.Proofs.Pending.Lock

/-!
# What a pending call does when asked

A call is given arguments, asked for its outcome and asked for its text, the latter also by someone
while another one is at work on it. What a request can do to the record of the call is said once, with
what the request answers: it leaves a call that has its outcome alone, makes one that has none, or
gives it one more argument, which may fail over the search for a member, leave the call waiting or
complete it.
-/

namespace MemberDispatch

/-- What a pending call is asked. -/
inductive Request
  | accept (argument : Value)
  | resolve
  | text
  /-- For its text while someone is at work on the call. -/
  | lockedText

namespace Request

def work (engine : Engine) (id : ℕ) : Request → Act Value
  | accept argument => engine.accept id argument
  | resolve => engine.resolve id
  | text => do return .text (← engine.callText id)
  | lockedText => do return .text (← Engine.whileLocked id (engine.callText id))

/-- That the arguments of a request are known at a workplace. -/
def Known (place : Workplace) : Request → Prop
  | accept argument => argument ∈ place.arguments
  | _ => True

/-- What a request answers to an outcome of the call: the outcome, or the text of a value. -/
def Tells (engine : Engine) : Request → Except Fault Value → Except Fault Value → Prop
  | text, .ok result, told => ∃ session,
      told = ((do return .text (← engine.text result) : Act Value).runFrom session).1
  | _, made, told => told = made

end Request

namespace PendingCall

variable (call : PendingCall)

/-- The outcome that a call has. -/
def kept : Except Fault Value :=
  match call.fault with
  | some fault => .error fault
  | none => .ok call.result

/-- The call once it was made. Of faults, only failures of property steps are kept. -/
def keeping : Except Fault Value → PendingCall
  | .ok result => { call with phase := .resolved, result }
  | .error (.property fault) => { call with phase := .resolved, fault := some (.property fault) }
  | .error _ => { call with phase := .resolved }

def taking (argument : Value) : PendingCall :=
  { call with arguments := call.arguments ++ [argument], phase := .accumulating }

/-- The call with a member that was found for its arguments, if there is one. -/
def finding (found : Option Choice) : PendingCall :=
  { call with
    selection := (found.map fun choice =>
      ⟨choice.member, choice.arguments, call.arguments.length⟩) <|> call.selection }

/-- How often the member of a call can have been used. -/
def spent : ℕ :=
  if call.phase = .resolved then 1 else 0

end PendingCall

/-- What is kept of an outcome. -/
def keepable : Except Fault Value → Except Fault Value
  | .ok result => .ok result
  | .error (.property fault) => .error (.property fault)
  | .error _ => .ok .unset

theorem PendingCall.kept_keeping {call : PendingCall} (unset : call.result = .unset)
    (faultless : call.fault = none) (made : Except Fault Value) :
    (call.keeping made).kept = keepable made := by
  rcases made with fault | result
  · cases fault
    case property fault => rfl
    all_goals
      simp only [keeping, kept, faultless, unset]
      rfl
  · simp only [keeping, kept, faultless]
    rfl

theorem PendingCall.phase_keeping (call : PendingCall) (made : Except Fault Value) :
    (call.keeping made).phase = .resolved := by
  rcases made with fault | result
  · cases fault <;> rfl
  · rfl

theorem PendingCall.arguments_keeping (call : PendingCall) (made : Except Fault Value) :
    (call.keeping made).arguments = call.arguments := by
  rcases made with fault | result
  · cases fault <;> rfl
  · rfl

theorem PendingCall.selection_keeping (call : PendingCall) (made : Except Fault Value) :
    (call.keeping made).selection = call.selection := by
  rcases made with fault | result
  · cases fault <;> rfl
  · rfl

theorem PendingCall.spent_keeping (call : PendingCall) (made : Except Fault Value) :
    (call.keeping made).spent = 1 :=
  if_pos (call.phase_keeping made)

theorem PendingCall.keeping_unlocked (call : PendingCall) (made : Except Fault Value) :
    { call.keeping made with locked := false } =
      ({ call with locked := false } : PendingCall).keeping made := by
  rcases made with fault | result
  · cases fault <;> rfl
  · rfl

theorem PendingCall.keeping_resolved (call : PendingCall) (made : Except Fault Value) :
    ({ call with phase := .resolved } : PendingCall).keeping made = call.keeping made := by
  rcases made with fault | result
  · cases fault <;> rfl
  · rfl

/-- The session once what is kept of an outcome went to the record of the call. -/
def Session.keeping (session : Session) (id : ℕ) : Except Fault Value → Session
  | .ok result => session.changing id fun call => { call with result }
  | .error (.property fault) =>
      session.changing id fun call => { call with fault := some (.property fault) }
  | .error _ => session

/-- The session in which a call looks for a member that takes one more argument. -/
def Session.seeking (session : Session) (id : ℕ) (argument : Value) : Session :=
  session.changing id fun call => { call.taking argument with locked := true }

section Records

variable {session : Session} {id : ℕ} {call : PendingCall}

theorem Session.changing_changing (session : Session) (id : ℕ)
    (first second : PendingCall → PendingCall) :
    (session.changing id first).changing id second = session.changing id (second ∘ first) := by
  have same : (session.calls.modify id first).modify id second =
      session.calls.modify id (second ∘ first) := by
    refine Array.ext_getElem? fun other => ?_
    simp only [Array.getElem?_modify]
    split
    · exact Option.map_map _ _ _
    · rfl
  change session.amid ((session.calls.modify id first).modify id second) session.hosts = _
  rw [same]
  rfl

/-- Changes that do the same to the record of a call are the same. -/
theorem Session.changing_congr (there : session.calls[id]? = some call)
    {change other : PendingCall → PendingCall} (same : change call = other call) :
    session.changing id change = session.changing id other := by
  have agree : session.calls.modify id change = session.calls.modify id other := by
    refine Array.ext_getElem? fun own => ?_
    simp only [Array.getElem?_modify]
    split
    · rename_i here
      rw [← here, there, Option.map_some, Option.map_some, same]
    · rfl
  unfold Session.changing
  rw [agree]

theorem Act.runFrom_callAt_of_record (there : session.calls[id]? = some call) :
    (Act.callAt id).runFrom session = (.ok call, session) :=
  runFrom_callAt there session session.hosts

theorem Act.runFrom_whileLocked_changing {α : Type} (id : ℕ) (work : Act α) (session : Session) :
    (Engine.whileLocked id work).runFrom session =
      let made := work.runFrom (session.changing id fun call => { call with locked := true })
      (made.1, made.2.changing id fun call => { call with locked := false }) :=
  runFrom_whileLocked id work session

theorem Act.runFrom_whileLocked_map {α β : Type} (id : ℕ) (work : Act α) (change : α → β)
    (session : Session) :
    (do return change (← Engine.whileLocked id work) : Act β).runFrom session =
      (Engine.whileLocked id (do return change (← work))).runFrom session := by
  rw [runFrom_bind, runFrom_whileLocked_changing, runFrom_whileLocked_changing, runFrom_bind]
  rcases work.runFrom _ with ⟨fault | result, after⟩ <;> rfl

end Records

namespace Engine

open Act

variable {engine : Engine} {place : Workplace} {session : Session} {call : PendingCall}

/-- What a request can do to the record of a call, and what it answers. -/
inductive Turn (engine : Engine) (place : Workplace) (session : Session) (call : PendingCall) :
    Request → Except Fault Value → PendingCall → Prop
  | keeps {request : Request} {told : Except Fault Value} (resolved : call.phase = .resolved)
      (tells : request = .resolve ∨ request = .text → request.Tells engine call.kept told) :
      Turn engine place session call request told call
  | looks {told : Except Fault Value} : Turn engine place session call .lockedText told call
  | makes {request : Request} {made told : Except Fault Value}
      (unresolved : call.phase ≠ .resolved) (asked : request = .resolve ∨ request = .text)
      (tells : request.Tells engine made told) :
      Turn engine place session call request told (call.keeping made)
  | takes {argument : Value} {found : Option Choice} (unresolved : call.phase ≠ .resolved)
      (search : ((engine.choose place.index place.call.onlyPublic place.call.returns
        (call.arguments ++ [argument]) 0).runFrom (session.seeking place.id argument)).1 = .ok found)
      (room : call.arguments.length + 1 < place.index.maxArity) :
      Turn engine place session call (.accept argument) (.ok (.pending place.id))
        ((call.taking argument).finding found)
  | completes {argument : Value} {found : Option Choice} {made : Except Fault Value}
      (unresolved : call.phase ≠ .resolved)
      (search : ((engine.choose place.index place.call.onlyPublic place.call.returns
        (call.arguments ++ [argument]) 0).runFrom (session.seeking place.id argument)).1 = .ok found)
      (full : place.index.maxArity ≤ call.arguments.length + 1) :
      Turn engine place session call (.accept argument) made
        (((call.taking argument).finding found).keeping made)
  | breaks {argument : Value} {fault : Fault} (unresolved : call.phase ≠ .resolved)
      (search : ((engine.choose place.index place.call.onlyPublic place.call.returns
        (call.arguments ++ [argument]) 0).runFrom (session.seeking place.id argument)).1 =
          .error fault) :
      Turn engine place session call (.accept argument) (.error fault) (call.taking argument)

section Turns

variable {request : Request} {told : Except Fault Value} {next : PendingCall}

/-- A call that has its outcome stays as it is. -/
theorem Turn.eq_of_resolved (turn : Turn engine place session call request told next)
    (resolved : call.phase = .resolved) : next = call := by
  cases turn with
  | keeps => rfl
  | looks => rfl
  | makes unresolved => exact absurd resolved unresolved
  | takes unresolved => exact absurd resolved unresolved
  | completes unresolved => exact absurd resolved unresolved
  | breaks unresolved => exact absurd resolved unresolved

/-- A look at a call changes nothing. -/
theorem Turn.eq_of_lockedText (turn : Turn engine place session call .lockedText told next) :
    next = call := by
  cases turn with
  | keeps => rfl
  | looks => rfl
  | makes _ asked => rcases asked with asked | asked <;> cases asked

end Turns

end Engine

namespace Workplace

variable {place : Workplace} {call : PendingCall}

/-- That nobody is at work on the call. -/
structure Rests (place : Workplace) (session : Session) (call : PendingCall) : Prop where
  holds : place.Holds session call
  sound : place.Sound call
  unlocked : call.locked = false

theorem Sound.lock (sound : place.Sound call) (locked : Bool) :
    place.Sound { call with locked } :=
  ⟨sound.host, sound.target, sound.name, sound.index, sound.onlyPublic, sound.returns,
    sound.arguments, sound.member, sound.result, sound.fresh⟩

theorem Sound.resolved (sound : place.Sound call) : place.Sound { call with phase := .resolved } :=
  ⟨sound.host, sound.target, sound.name, sound.index, sound.onlyPublic, sound.returns,
    sound.arguments, sound.member, sound.result, fun other => absurd rfl other⟩

theorem Sound.keeping (sound : place.Sound call) {made : Except Fault Value}
    (given : ∀ result, made = .ok result → result ∈ place.results) :
    place.Sound (call.keeping made) := by
  obtain ⟨host, target, name, index, onlyPublic, returns, arguments, member, result, -⟩ :=
    sound.resolved
  rcases made with fault | made
  · cases fault
    all_goals exact ⟨host, target, name, index, onlyPublic, returns, arguments, member, result,
      fun other => absurd rfl other⟩
  · exact ⟨host, target, name, index, onlyPublic, returns, arguments, member, .inl (given _ rfl),
      fun other => absurd rfl other⟩

theorem Sound.taking (sound : place.Sound call) (unresolved : call.phase ≠ .resolved)
    {argument : Value} (known : argument ∈ place.arguments) :
    place.Sound (call.taking argument) where
  host := sound.host
  target := sound.target
  name := sound.name
  index := sound.index
  onlyPublic := sound.onlyPublic
  returns := sound.returns
  arguments other mem := by
    rcases List.mem_append.mp mem with mem | mem
    · exact sound.arguments other mem
    · exact List.mem_singleton.mp mem ▸ known
  member := sound.member
  result := sound.result
  fresh _ := sound.fresh unresolved

theorem Sound.finding (sound : place.Sound call) {found : Option Choice}
    (member : ∀ choice, found = some choice → choice.member ∈ place.index.members) :
    place.Sound (call.finding found) := by
  refine ⟨sound.host, sound.target, sound.name, sound.index, sound.onlyPublic, sound.returns,
    sound.arguments, fun fit chosen => ?_, sound.result, sound.fresh⟩
  cases found with
  | none => exact sound.member fit chosen
  | some choice =>
      cases chosen
      exact member choice rfl

end Workplace

namespace Engine

open Act

variable {engine : Engine} {place : Workplace} {session : Session} {call : PendingCall}

/-- A call that has its outcome gives it and does nothing else. -/
theorem settle_of_resolved (engine : Engine) {id : ℕ} (there : session.calls[id]? = some call)
    (resolved : call.phase = .resolved) :
    (engine.settle id).runFrom session = (call.kept, session) := by
  have ended : (call.phase != .resolved) = false := by simp [resolved]
  unfold settle PendingCall.kept
  rw [runFrom_bind_of_ok (runFrom_callAt_of_record there), ended]
  simp only [Bool.false_eq_true, if_false]
  rw [runFrom_bind_of_ok (runFrom_callAt_of_record there)]
  rcases call.fault with _ | fault <;> rfl

/-- The text of a call that someone is at work on is its path. -/
theorem runFrom_callText_locked (holds : place.Holds session call)
    (locked : call.locked = true) :
    (engine.callText place.id).runFrom session =
      (do return "locked:" ++ (← engine.callPath call none) : Act String).runFrom session := by
  unfold callText
  rw [runFrom_bind_of_ok (runFrom_callAt_of_record holds.record), if_pos locked]

theorem runFrom_callText_unlocked (holds : place.Holds session call) (unlocked : call.locked = false) :
    (engine.callText place.id).runFrom session =
      (whileLocked place.id (do engine.text (← engine.settle place.id))).runFrom session := by
  have free : ¬ call.locked = true := by simp [unlocked]
  unfold callText
  rw [runFrom_bind_of_ok (runFrom_callAt_of_record holds.record), if_neg free]

/-- The text of a call that nobody is at work on is that of its outcome. -/
theorem runFrom_text (holds : place.Holds session call) (unlocked : call.locked = false) :
    (Request.text.work engine place.id).runFrom session =
      (whileLocked place.id (do
        let result ← engine.settle place.id
        return .text (← engine.text result))).runFrom session := by
  have texts := runFrom_whileLocked_map place.id
    (do engine.text (← engine.settle place.id)) Value.text session
  rw [bind_assoc] at texts
  rw [← texts]
  change (engine.callText place.id >>= _).runFrom session = _
  rw [runFrom_bind, runFrom_callText_unlocked holds unlocked, ← runFrom_bind]

namespace Minds

variable (minds : engine.Minds place) (holds : place.Holds session call) (sound : place.Sound call)

include minds holds sound

omit sound in
theorem holds_keeping (resolved : call.phase = .resolved) (made : Except Fault Value) :
    place.Holds (session.keeping place.id made) (call.keeping made) ∧
      place.uses (session.keeping place.id made) = place.uses session := by
  have same : { call with phase := .resolved } = call := by rw [← resolved]
  rcases made with fault | result
  · cases fault
    case property fault =>
      have keeps := minds.holds_changing holds fun call =>
        { call with fault := some (.property fault) }
      rw [← same] at keeps
      exact ⟨keeps, (minds.change holds.inside _).2⟩
    all_goals
      rw [← same] at holds
      exact ⟨holds, rfl⟩
  · have keeps := minds.holds_changing holds fun call => { call with result }
    rw [← same] at keeps
    exact ⟨keeps, (minds.change holds.inside _).2⟩

/-- A call that has no outcome yet is made once it is marked, and what is kept of the outcome goes to
its record. -/
theorem runFrom_settle (locked : call.locked = true) (unresolved : call.phase ≠ .resolved) :
    let marked : PendingCall := { call with phase := .resolved }
    let begun := session.changing place.id fun call => { call with phase := .resolved }
    let made := (engine.perform marked).runFrom begun
    place.Holds begun marked ∧
      (engine.settle place.id).runFrom session = (made.1, made.2.keeping place.id made.1) := by
  have waits : (call.phase != .resolved) = true := bne_iff_ne.mpr unresolved
  obtain ⟨-, faultless⟩ := sound.fresh unresolved
  let resolve (call : PendingCall) : PendingCall := { call with phase := .resolved }
  have marked := minds.holds_changing holds resolve
  obtain ⟨still, -, -⟩ := minds.perform sound.resolved _ _ marked locked
  refine ⟨marked, ?_⟩
  unfold Engine.settle
  rw [runFrom_bind_of_ok (runFrom_callAt_of_record holds.record), if_pos waits]
  rw [runFrom_bind_of_ok (runFrom_changeCall _ _ _)]
  change runFrom _ (session.changing place.id resolve) = _
  rw [runFrom_bind, runFrom_attempt]
  rcases run : (engine.perform (resolve call)).runFrom (session.changing place.id resolve) with
    ⟨fault | result, after⟩
  all_goals rw [run] at still
  -- Only the failure of a property step is kept in the record; other faults go through.
  · rcases fault with issue | issue | ⟨path, argument⟩ | fault | ⟨kind, detail⟩
    case property =>
      have keeps := minds.holds_changing still fun call => { call with fault := some (.property fault) }
      refine (runFrom_bind_of_ok (runFrom_changeCall _ _ _) _).trans ?_
      exact runFrom_bind_of_ok (runFrom_callAt_of_record keeps.record) _
    all_goals rfl
  · have keeps := minds.holds_changing still fun call => { call with result }
    refine (runFrom_bind_of_ok (runFrom_changeCall _ _ _) _).trans ?_
    refine (runFrom_bind_of_ok (runFrom_callAt_of_record keeps.record) _).trans ?_
    change runFrom (match call.fault with
      | some fault => throw fault
      | none => pure result) _ = _
    rw [faultless]
    rfl

/-- A call that has no outcome yet is made, and what is kept of the outcome goes to its record. -/
theorem settle (locked : call.locked = true) (unresolved : call.phase ≠ .resolved) :
    ∃ made after, (engine.settle place.id).runFrom session = (made, after) ∧
      place.Holds after (call.keeping made) ∧ place.uses after ≤ place.uses session + 1 ∧
        ∀ result, made = .ok result → result ∈ place.results := by
  obtain ⟨marked, run⟩ := minds.runFrom_settle holds sound locked unresolved
  obtain ⟨still, bounded, given⟩ := minds.perform sound.resolved _ _ marked locked
  rw [(minds.change holds.inside _).2] at bounded
  obtain ⟨keeps, unchanged⟩ := minds.holds_keeping still rfl
    ((engine.perform { call with phase := .resolved }).runFrom _).1
  refine ⟨_, _, run, ?_, Nat.le_trans (Nat.le_of_eq unchanged) bounded, given⟩
  rwa [PendingCall.keeping_resolved] at keeps

omit holds in
theorem runFrom_candidatesOf (inside : session ∈ place.sessions) :
    (candidatesOf call).runFrom session = (.ok place.index, session) := by
  have same : candidatesOf call = candidatesOf place.call := by
    simp only [candidatesOf, sound.index]
  rw [same]
  exact minds.candidates inside

omit holds in
/-- The search for a member for the arguments so far. -/
theorem runFrom_selectionOf (inside : session ∈ place.sessions) :
    (engine.selectionOf call).runFrom session =
      let search := (engine.choose place.index place.call.onlyPublic place.call.returns
        call.arguments 0).runFrom session
      (search.1.map fun found => found.map fun choice =>
        ⟨choice.member, choice.arguments, call.arguments.length⟩, search.2) := by
  unfold Engine.selectionOf
  rw [runFrom_bind_of_ok (minds.runFrom_candidatesOf sound inside), sound.onlyPublic, sound.returns,
    runFrom_bind]
  rcases (engine.choose place.index place.call.onlyPublic place.call.returns
    call.arguments 0).runFrom session with ⟨fault | found, after⟩
  · rfl
  · rfl

end Minds

/-- That a request was served: a turn of the call, after which nobody is at work on it. -/
structure Served (engine : Engine) (place : Workplace) (session : Session) (call : PendingCall)
    (request : Request) (made : Except Fault Value × Session) (next : PendingCall) : Prop where
  turn : Turn engine place session call request made.1 next
  rests : place.Rests made.2 next
  uses : place.uses made.2 + call.spent ≤ place.uses session + next.spent

namespace Minds

variable (minds : engine.Minds place)

include minds

/-- Work on a locked call serves a request with what it does to the record, once it is unlocked. -/
theorem served_of_locked {request : Request} {work : Act Value} {locked next : PendingCall}
    {made : Except Fault Value × Session}
    (run : work.runFrom (session.changing place.id fun call => { call with locked := true }) = made)
    (turn : Turn engine place session call request made.1 next)
    (holds : place.Holds made.2 locked) (sound : place.Sound locked)
    (frees : { locked with locked := false } = next)
    (uses : place.uses made.2 + call.spent ≤ place.uses session + next.spent) :
    Served engine place session call request ((whileLocked place.id work).runFrom session) next := by
  subst run frees
  rw [runFrom_whileLocked_changing]
  refine ⟨turn, ⟨minds.holds_changing holds _, sound.lock false, rfl⟩, ?_⟩
  dsimp only
  rw [(minds.change holds.inside _).2]
  exact uses

/-- Recording what was found for the arguments so far. -/
theorem runFrom_finding {start : Session} {taken : PendingCall} (holds : place.Holds start taken)
    (found : Option Choice) (next : Act Value) :
    let fit := found.map fun choice =>
      (⟨choice.member, choice.arguments, taken.arguments.length⟩ : Selection)
    ∃ after, place.Holds after (taken.finding found) ∧ place.uses after = place.uses start ∧
      (do
        if fit.isSome then changeCall place.id fun call => { call with selection := fit }
        next : Act Value).runFrom start = next.runFrom after := by
  cases found with
  | none => exact ⟨start, holds, rfl, rfl⟩
  | some choice =>
      exact ⟨_, minds.holds_changing holds fun call =>
        { call with selection := some ⟨choice.member, choice.arguments, taken.arguments.length⟩ },
        (minds.change holds.inside _).2, rfl⟩

variable (rests : place.Rests session call)

include rests

theorem holds_locked : place.Holds (session.changing place.id fun call => { call with locked := true })
    { call with locked := true } :=
  minds.holds_changing rests.holds _

theorem uses_locked :
    place.uses (session.changing place.id fun call => { call with locked := true }) =
      place.uses session :=
  (minds.change rests.holds.inside _).2

/-- Giving an argument to a call that has its outcome. -/
theorem serves_accept_of_resolved (resolved : call.phase = .resolved) {argument : Value}
    (known : argument ∈ place.arguments) :
    Served engine place session call (.accept argument)
      ((engine.accept place.id argument).runFrom session) call := by
  have locks := minds.holds_locked rests
  have sound := rests.sound.lock true
  have refuses : Heeds place 0 Set.univ (do
      let path ← engine.callPath { call with locked := true } none
      throw (.alreadyResolved path (← engine.display argument)) : Act Value) :=
    (minds.callPath sound none).before fun _ _ =>
      (minds.display known).before fun _ _ => heeds_throw _
  obtain ⟨still, bounded, -⟩ := refuses _ _ locks rfl
  rw [minds.uses_locked rests] at bounded
  have ended : (call.phase == .resolved) = true := beq_iff_eq.mpr resolved
  refine minds.served_of_locked ?_ (.keeps resolved fun asked => ?_) still sound ?_
    (Nat.add_le_add_right bounded _)
  · rw [runFrom_bind_of_ok (runFrom_callAt_of_record locks.record)]
    exact congrArg (fun work => runFrom work _) (if_pos ended)
  · rcases asked with asked | asked <;> cases asked
  · rw [← rests.unlocked]

/-- A call that is given an argument looks for a member in a session that has it recorded. -/
theorem holds_seeking (argument : Value) :
    place.Holds (session.seeking place.id argument) { call.taking argument with locked := true } ∧
      place.uses (session.seeking place.id argument) = place.uses session :=
  ⟨minds.holds_changing rests.holds fun call => { call.taking argument with locked := true },
    (minds.change rests.holds.inside _).2⟩

/-- Giving an argument to a call that has no outcome yet goes on with the search for a member. -/
theorem runFrom_accept (unresolved : call.phase ≠ .resolved) (argument : Value) :
    let taken : PendingCall := { call.taking argument with locked := true }
    ∃ work, engine.accept place.id argument = whileLocked place.id work ∧
      work.runFrom (session.changing place.id fun call => { call with locked := true }) =
        (do
          let found ← engine.selectionOf taken
          if found.isSome then
            changeCall place.id fun call => { call with selection := found }
          if taken.arguments.length < (← candidatesOf taken).maxArity then return .pending place.id
          else engine.settle place.id : Act Value).runFrom (session.seeking place.id argument) := by
  have waits : ¬ (call.phase == .resolved) = true := fun same => unresolved (beq_iff_eq.mp same)
  have same : (session.changing place.id fun call => { call with locked := true }).changing place.id
      (fun _ => { call.taking argument with locked := true }) = session.seeking place.id argument := by
    rw [Session.changing_changing]
    exact Session.changing_congr rests.holds.record rfl
  refine ⟨_, rfl, ?_⟩
  rw [runFrom_bind_of_ok (runFrom_callAt_of_record (minds.holds_locked rests).record), ← same]
  refine (congrArg (fun work => runFrom work _) (if_neg waits)).trans ?_
  exact runFrom_bind_of_ok (runFrom_changeCall _ _ _) _

/-- Giving an argument to a call that has no outcome yet. -/
theorem serves_accept_of_unresolved (unresolved : call.phase ≠ .resolved) {argument : Value}
    (known : argument ∈ place.arguments) :
    ∃ next, Served engine place session call (.accept argument)
      ((engine.accept place.id argument).runFrom session) next := by
  let taken : PendingCall := { call.taking argument with locked := true }
  have sound : place.Sound taken := (rests.sound.taking unresolved known).lock true
  obtain ⟨seeks, same⟩ := minds.holds_seeking rests argument
  -- The call is locked while it seeks a member, and no search finds it unlocked.
  obtain ⟨work, works, run⟩ := minds.runFrom_accept rests unresolved argument
  have frees : { taken with locked := false } = call.taking argument := by
    change { call.taking argument with locked := false } = _
    rw [← rests.unlocked]
    rfl
  have fresh : call.spent = 0 := if_neg unresolved
  obtain ⟨still, bounded, -⟩ := minds.choose sound.arguments _ _ seeks rfl
  obtain ⟨members, -⟩ := engine.choose_spec place.index place.call.onlyPublic place.call.returns
    taken.arguments (session.seeking place.id argument)
  rw [works]
  rw [runFrom_bind, minds.runFrom_selectionOf sound seeks.inside] at run
  rw [same] at bounded
  rcases search : (engine.choose place.index place.call.onlyPublic place.call.returns
    taken.arguments 0).runFrom (session.seeking place.id argument) with ⟨fault | found, after⟩
  all_goals
    rw [search] at run still bounded members
    dsimp only at run still bounded members
  -- A search that breaks off leaves the argument taken and the call without an outcome.
  · refine ⟨_, minds.served_of_locked run (.breaks unresolved (congrArg Prod.fst search)) still sound
      frees ?_⟩
    rw [fresh]
    exact Nat.le_trans bounded (Nat.le_add_right _ _)
  · obtain ⟨last, finds, unchanged, goesOn⟩ := minds.runFrom_finding still found (do
      if taken.arguments.length < (← candidatesOf taken).maxArity then return .pending place.id
      else engine.settle place.id)
    have finding : place.Sound (taken.finding found) :=
      sound.finding fun choice same => members choice (congrArg Except.ok same)
    have run := run.trans goesOn
    rw [runFrom_bind_of_ok (minds.runFrom_candidatesOf sound finds.inside)] at run
    have count : taken.arguments.length = call.arguments.length + 1 := List.length_append
    have search := congrArg Prod.fst search
    -- Whether the call waits or is made is decided once the finding is recorded.
    by_cases room : call.arguments.length + 1 < place.index.maxArity
    · rw [count, if_pos room] at run
      refine ⟨_, minds.served_of_locked run (.takes unresolved search room) finds finding ?_ ?_⟩
      · exact congrArg (fun call => call.finding found) frees
      · rw [fresh, runFrom_pure]
        dsimp only
        omega
    · obtain ⟨made, ends, settles, kept, limit, given⟩ := minds.settle finds finding rfl nofun
      rw [count, if_neg room, settles] at run
      refine ⟨_, minds.served_of_locked run (.completes unresolved search (Nat.le_of_not_lt room))
        kept (finding.keeping given) ?_ ?_⟩
      · exact (PendingCall.keeping_unlocked _ _).trans
          (congrArg (fun call => (call.finding found).keeping made) frees)
      · rw [fresh, PendingCall.spent_keeping]
        dsimp only
        omega

/-- Asking a call for its outcome, or for what comes of it. -/
theorem serves_settle {request : Request} (asked : request = .resolve ∨ request = .text)
    (next : Value → Act Value)
    (follows : ∀ result, result ∈ place.results ∨ result = .unset →
      Heeds place 0 Set.univ (next result))
    (tells : ∀ result session, request.Tells engine (.ok result) ((next result).runFrom session).1)
    (fails : ∀ fault, request.Tells engine (.error fault) (.error fault)) :
    ∃ last, Served engine place session call request
      ((whileLocked place.id (engine.settle place.id >>= next)).runFrom session) last := by
  have locks := minds.holds_locked rests
  have sound := rests.sound.lock true
  have same := minds.uses_locked rests
  have frees : { call with locked := false } = call := by
    rw [← rests.unlocked]
  -- A call with an outcome answers it again; any other is made, and what comes next only looks on.
  by_cases resolved : call.phase = .resolved
  · have settles := engine.settle_of_resolved locks.record resolved
    refine ⟨call, ?_⟩
    rcases kept : call.kept with fault | result
    · have run := runFrom_bind_of_error (settles.trans (congrArg (·, _) kept)) next
      refine minds.served_of_locked run (.keeps resolved fun _ => ?_) locks sound frees ?_
      · exact kept.symm ▸ fails fault
      · exact Nat.le_of_eq (congrArg (· + _) same)
    · have run := runFrom_bind_of_ok (settles.trans (congrArg (·, _) kept)) next
      have reached : result ∈ place.results ∨ result = .unset := by
        unfold PendingCall.kept at kept
        split at kept
        · cases kept
        · exact Except.ok.inj kept ▸ rests.sound.result
      obtain ⟨still, bounded, -⟩ := follows result reached _ _ locks rfl
      refine minds.served_of_locked run (.keeps resolved fun _ => ?_) still sound frees ?_
      · exact kept.symm ▸ tells result _
      · rw [same] at bounded
        exact Nat.add_le_add_right bounded _
  · obtain ⟨made, after, settles, still, limit, given⟩ := minds.settle locks sound rfl resolved
    have fresh : call.spent = 0 := if_neg resolved
    have freed : { ({ call with locked := true } : PendingCall).keeping made with locked := false } =
        call.keeping made :=
      (PendingCall.keeping_unlocked _ _).trans (congrArg (fun call => call.keeping made) frees)
    refine ⟨call.keeping made, ?_⟩
    have keeping : place.Sound (({ call with locked := true } : PendingCall).keeping made) :=
      sound.keeping given
    rw [same] at limit
    rcases made with fault | result
    · have run := runFrom_bind_of_error settles next
      refine minds.served_of_locked run (.makes resolved asked (fails fault)) still keeping freed ?_
      rw [fresh, PendingCall.spent_keeping]
      exact limit
    · have run := runFrom_bind_of_ok settles next
      obtain ⟨last, bounded, -⟩ := follows result (.inl (given result rfl)) _ _ still rfl
      refine minds.served_of_locked run (.makes resolved asked (tells result _)) last keeping freed ?_
      rw [fresh, PendingCall.spent_keeping]
      omega

/-- Whatever a call is asked, it takes a turn. -/
theorem serves (request : Request) (known : request.Known place) :
    ∃ next, Served engine place session call request
      ((request.work engine place.id).runFrom session) next := by
  cases request with
  | accept argument =>
      by_cases resolved : call.phase = .resolved
      · exact ⟨call, minds.serves_accept_of_resolved rests resolved known⟩
      · exact minds.serves_accept_of_unresolved rests resolved known
  | resolve =>
      have serves := minds.serves_settle rests (.inl rfl) pure
        (fun _ _ => heeds_pure trivial) (fun _ _ => rfl) (fun _ => rfl)
      rw [bind_pure] at serves
      exact serves
  | text =>
      have serves := minds.serves_settle rests (.inr rfl)
        (fun result => do return .text (← engine.text result))
        (fun _ reached => (minds.text reached).before fun _ _ => heeds_pure trivial)
        (fun _ session => ⟨session, rfl⟩) (fun _ => rfl)
      rw [runFrom_text rests.holds rests.unlocked]
      exact serves
  | lockedText =>
      have locks := minds.holds_locked rests
      have sound := rests.sound.lock true
      have texts := runFrom_whileLocked_map place.id (engine.callText place.id) Value.text session
      let path : Act String := do
        return "locked:" ++ (← engine.callPath { call with locked := true } none)
      have paths : Heeds place 0 Set.univ path :=
        (minds.callPath sound none).before fun _ _ => heeds_pure trivial
      have looks : Heeds place 0 Set.univ (do return .text (← path) : Act Value) :=
        paths.before fun _ _ => heeds_pure trivial
      obtain ⟨still, bounded, -⟩ := looks _ _ locks rfl
      rw [minds.uses_locked rests] at bounded
      refine ⟨call, ?_⟩
      change Served engine place session call .lockedText (runFrom (do
        return .text (← whileLocked place.id (engine.callText place.id))) session) call
      rw [texts]
      refine minds.served_of_locked ?_ .looks still sound ?_ (Nat.add_le_add_right bounded _)
      · rw [runFrom_bind, runFrom_callText_locked locks rfl, ← runFrom_bind]
      · rw [← rests.unlocked]

end Minds

end Engine

end MemberDispatch
