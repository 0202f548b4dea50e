import MemberDispatch.Proofs.Host.Stages

/-!
# Answers to property steps

What a handler answers to a property step tracks greedy evaluation. A handler that looks members up
starts a pending call, which is made at once if its member takes no arguments; the handler of pending
calls goes on with the call. A call that is made uses its member and hands the arguments behind the
member's own on to the result, which the engine is assumed to do as it should for that many steps.
-/

namespace MemberDispatch

open Act

variable {setting : Setting} {tame : Prop} {engine : Engine} {session : Session}
  {calls : Array PendingCall} {hosts : Array Host} {id : ℕ} {call : PendingCall} {index : Index}

section Runs

theorem runFrom_callAt (there : calls[id]? = some call) (session : Session) (hosts : Array Host) :
    (callAt id).runFrom (session.amid calls hosts) = (.ok call, session.amid calls hosts) := by
  have found : (session.amid calls hosts).calls[id]? = some call := there
  simp only [callAt, callAt?, runFrom_bind, runFrom_get, runFrom_pure, found]

theorem runFrom_changeCall (id : ℕ) (change : PendingCall → PendingCall) (session : Session) :
    (changeCall id change).runFrom session =
      (.ok (), session.amid (session.calls.modify id change) session.hosts) :=
  rfl

theorem runFrom_whileLocked {α : Type} (id : ℕ) (work : Act α) (session : Session) :
    (Engine.whileLocked id work).runFrom session =
      let lock (locked : Bool) (session : Session) : Session :=
        session.amid (session.calls.modify id fun call => { call with locked }) session.hosts
      let made := work.runFrom (lock true session)
      (made.1, lock false made.2) := by
  simp only [Engine.whileLocked, runFrom_bind, runFrom_changeCall, runFrom_attempt]
  rcases work.runFrom _ with ⟨fault | result, after⟩ <;> rfl

end Runs

section Seeking

theorem Engine.selectionOf_eq_seek (engine : Engine) (fixed : call.index = .fixed index) :
    engine.selectionOf call = engine.seek (call.search index) := by
  simp only [selectionOf, seek, candidatesOf, fixed, pure_bind]
  rfl

theorem Engine.Follows.seek (follows : engine.Follows setting) {search : Engine.Search}
    (sound : search.Sound setting) (inside : session.lasting ∈ setting.sessions) :
    RunsAs (engine.seek search) (setting.core.seek search) session :=
  (follows.choose inside sound.index _ _ sound.arguments).map _

/-- A search that is renewed stays sound, and fails only with a fault that escapes. -/
theorem Engine.Search.Sound.seek (closed : setting.Closed) {search : Engine.Search}
    (sound : search.Sound setting) (inside : session.lasting ∈ setting.sessions) :
    ((setting.core.seek search).runFrom session).2.lasting ∈ setting.sessions ∧
      (∀ found, ((setting.core.seek search).runFrom session).1 = .ok found →
        ({ search with selection := found <|> search.selection } : Search).Sound setting) ∧
      ∀ fault, ((setting.core.seek search).runFrom session).1 = .error fault →
        fault.escapes = true := by
  obtain ⟨still, values⟩ :=
    closed.choose inside sound.index search.onlyPublic search.returns sound.arguments
  obtain ⟨members, escapes⟩ := setting.core.choose_spec search.index search.onlyPublic
    search.returns search.arguments session
  unfold Engine.seek
  rw [runFrom_bind]
  rcases run : (setting.core.choose search.index search.onlyPublic search.returns
    search.arguments 0).runFrom session with ⟨cause | found, after⟩
  all_goals rw [run] at still values members escapes
  · refine ⟨still, fun _ ok => (nomatch ok), fun fault failed => ?_⟩
    cases failed
    exact escapes cause rfl
  · refine ⟨still, fun selection ok => ?_, fun _ failed => (nomatch failed)⟩
    cases ok
    refine ⟨sound.target, sound.index, sound.arguments, fun fit chosen => ?_, fun fit chosen => ?_⟩
    · cases found with
      | none => exact sound.knows fit chosen
      | some choice =>
          cases chosen
          exact ⟨members choice rfl, values choice rfl⟩
    · cases found with
      | none => exact sound.within fit chosen
      | some choice =>
          cases chosen
          exact Nat.le_refl _

/-- Looking for a member tracks renewing a search if what comes then tracks resuming it. -/
theorem Engine.Follows.tracks_seek (follows : engine.Follows setting) (closed : setting.Closed)
    {search : Search} (sound : search.Sound setting) (inside : session.lasting ∈ setting.sessions)
    {value : Value} {bound : ℕ} {next : Option Selection → Act Value}
    (goesOn : ∀ found after, after.lasting ∈ setting.sessions →
      ({ search with selection := found <|> search.selection } : Search).Sound setting →
        setting.Tracks tame calls value bound
          (fun rest => (setting.core.resume setting.adaptors
            { search with selection := found <|> search.selection } rest).runFrom after)
          ((next found).runFrom (after.amid calls hosts))) :
    setting.Tracks tame calls value bound
      (fun rest => (do
        let search ← setting.core.renew search
        setting.core.resume setting.adaptors search rest).runFrom session)
      ((engine.seek search >>= next).runFrom (session.amid calls hosts)) := by
  have seeking := follows.seek sound inside calls hosts
  obtain ⟨within, renewed, escapes⟩ := sound.seek closed inside
  simp only [renew, bind_assoc, pure_bind]
  rcases run : (setting.core.seek search).runFrom session with ⟨cause | found, after⟩
  all_goals rw [run] at seeking within renewed escapes
  · have other : cause.kind ≠ .adaptorState := Fault.ne_adaptorState (escapes cause rfl)
    rw [runFrom_bind_of_error seeking]
    exact .failed (fails_amid other after calls hosts) within fun rest =>
      runFrom_bind_of_error run _
  · rw [runFrom_bind_of_ok seeking]
    exact (goesOn found after within (renewed found rfl)).congr fun rest => runFrom_bind_of_ok run _

end Seeking

section Making

/-- Applying the rest of the arguments is applying property steps, with a count of those used. -/
theorem Engine.runFrom_applyRest (engine : Engine) (host used : ℕ) (value : Value)
    (arguments : List Value) (session : Session) :
    ∃ reached, (engine.applyRest host used value arguments).runFrom session =
      let made := (engine.stepAll host value arguments).runFrom session
      (.ok (made.1.mapError fun fault => (fault, reached)), made.2) := by
  induction arguments generalizing used value session with
  | nil => exact ⟨used, rfl⟩
  | cons argument arguments ih =>
      simp only [applyRest, stepAll, runFrom_bind, runFrom_attempt]
      rcases (engine.step host value argument none).runFrom session with ⟨fault | next, after⟩
      · exact ⟨used + 1, rfl⟩
      · exact ih (used + 1) next after

theorem Engine.runFrom_runSelection {fit : Selection} {start after : Session} {result : Value}
    (used : (engine.use fit.member call.target fit.arguments).runFrom start = (.ok result, after)) :
    ∃ reached, (engine.runSelection call fit).runFrom start =
      let made := (engine.stepAll call.host result (call.arguments.drop fit.consumed)).runFrom after
      (.ok (made.1.mapError fun fault => (fault, reached)), made.2) := by
  obtain ⟨reached, rest⟩ := engine.runFrom_applyRest call.host fit.consumed result
    (call.arguments.drop fit.consumed) after
  refine ⟨reached, ?_⟩
  rw [← rest]
  simp only [runSelection, runFrom_bind, runFrom_attempt, used]

theorem Engine.runFrom_perform {fit : Selection} (chosen : call.selection = some fit)
    {start after : Session} {result : Value}
    (run : (engine.runSelection call fit).runFrom start = (.ok (.ok result), after)) :
    (engine.perform call).runFrom start = (.ok result, after) := by
  unfold perform
  rw [runFrom_bind_of_ok (runFrom_classOf _ _), chosen]
  dsimp only
  rw [runFrom_bind_of_ok run]
  rfl

variable (follows : engine.Follows setting) (closed : setting.Closed)
  (tames : tame → engine.Tame setting)

include follows closed tames

/-- Making a call tracks the completion of its search. -/
theorem Engine.tracks_perform (simulates : engine.Simulates setting tame call.arguments.length)
    (host : call.host = setting.host) (sound : (call.search index).Sound setting)
    (inside : session.lasting ∈ setting.sessions)
    (serving : Serving setting.core.hierarchy setting.adaptors setting.host hosts) :
    setting.Tracks tame calls .unset call.arguments.length
      (fun rest => (setting.core.complete setting.adaptors call.target call.selection
        (call.arguments ++ rest)).runFrom session)
      ((engine.perform call).runFrom (session.amid calls hosts)) := by
  -- Without a chosen member the search fails before anything runs, and so does the call.
  rcases chosen : call.selection with _ | fit
  · refine .failed ?_ inside fun rest => rfl
    refine (complains_perform tames sound.target sound.arguments chosen _).imp fun quiet => ?_
    exact ⟨⟨quiet, inside⟩, rfl⟩
  have target : call.target ∈ setting.targets := sound.target
  have knows := sound.knows fit chosen
  have uses := follows.use inside sound.index knows target calls hosts
  obtain ⟨still, given⟩ := closed.use inside sound.index knows target
  rcases used : (setting.core.use fit.member call.target fit.arguments).runFrom session with
    ⟨fault | result, after⟩
  all_goals rw [used] at uses still given
  · have run : (engine.runSelection call fit).runFrom (session.amid calls hosts) =
        (.ok (.error (fault, fit.consumed)), after.amid calls hosts) := by
      simp only [runSelection, runFrom_bind, runFrom_attempt, uses, runFrom_pure]
    refine .failed ?_ still fun rest => (?_ : _ = (Except.error fault, after))
    · refine (fails_perform tames target sound.arguments chosen run).imp fun quiet => ?_
      exact ⟨⟨quiet, still⟩, rfl⟩
    · exact runFrom_bind_of_error used _
  · obtain ⟨known, other⟩ := given result rfl
    -- What the chosen member left of the arguments are steps on its result. They are no more than the
    -- arguments, for which the simulation is given.
    let behind := call.arguments.drop fit.consumed
    have short : 0 + behind.length ≤ call.arguments.length := by
      simp only [behind, List.length_drop]
      omega
    have steps : ∀ argument ∈ behind, argument ∈ setting.steps :=
      fun argument mem => sound.arguments argument (List.mem_of_mem_drop mem)
    have start : setting.Reaches after calls hosts result
        (setting.core.greedy setting.adaptors result) 0 :=
      ⟨.plain known other, still, serving⟩
    have tracks := simulates behind start steps short
    obtain ⟨reached, run⟩ := Engine.runFrom_runSelection uses
    rw [host] at run
    dsimp only at run
    have taken : fit.consumed ≤ call.arguments.length := sound.within fit chosen
    have expected (rest : List Value) :
        (setting.core.complete setting.adaptors call.target (some fit)
          (call.arguments ++ rest)).runFrom session =
            (setting.core.greedy setting.adaptors result (behind ++ rest)).runFrom after := by
      simp only [complete, behind, runFrom_bind_of_ok used]
      rw [List.drop_append_of_le_length taken]
    generalize (engine.stepAll setting.host result behind).runFrom (after.amid calls hosts) = made
      at tracks run
    cases tracks with
    | reached reaches bounded spares same =>
        rw [runFrom_perform chosen run]
        refine .reached reaches (Nat.le_trans bounded short) ?_ fun rest => ?_
        · exact fun id call there _ => spares id call there (Setting.ne_pending other id)
        · exact (expected rest).trans (same rest)
    | @failed _ cause last fails within same =>
        obtain ⟨fault, failed, harmless⟩ := fails
        rw [failed] at run
        refine .failed ?_ within fun rest => (expected rest).trans (same rest)
        refine (fails_perform tames target sound.arguments chosen run).imp fun quiet => ?_
        obtain ⟨-, kept⟩ := harmless quiet
        exact ⟨⟨quiet, kept.symm ▸ within⟩, kept⟩

end Making

section Settling

theorem Engine.runFrom_settle_of_ok (there : calls[id]? = some call)
    (unresolved : call.phase ≠ .resolved) {result : Value} {last : Session}
    {others : Array PendingCall} {armed : Array Host}
    (performed : (engine.perform { call with phase := .resolved }).runFrom
      (session.amid (calls.modify id fun call => { call with phase := .resolved }) hosts) =
        (.ok result, last.amid others armed))
    (still : others[id]? = some { call with phase := .resolved }) (faultless : call.fault = none) :
    (engine.settle id).runFrom (session.amid calls hosts) =
      (.ok result, last.amid (others.modify id fun call => { call with result }) armed) := by
  have kept : (others.modify id fun call => { call with result })[id]? =
      some { call with phase := .resolved, result } := by
    rw [Array.getElem?_modify, if_pos rfl, still]
    rfl
  have waits : (call.phase != .resolved) = true := bne_iff_ne.mpr unresolved
  simp only [settle, runFrom_bind, runFrom_callAt there, waits, if_true, runFrom_changeCall,
    runFrom_attempt, Session.amid_amid, Session.amid_calls, Session.amid_hosts, performed,
    runFrom_callAt kept]
  rw [faultless]
  rfl

theorem Engine.fails_settle (there : calls[id]? = some call) (unresolved : call.phase ≠ .resolved)
    {start : Session}
    (failed : Fails tame start ((engine.perform { call with phase := .resolved }).runFrom
      (session.amid (calls.modify id fun call => { call with phase := .resolved }) hosts))) :
    Fails tame start ((engine.settle id).runFrom (session.amid calls hosts)) := by
  have waits : (call.phase != .resolved) = true := bne_iff_ne.mpr unresolved
  obtain ⟨fault, failed, harmless⟩ := failed
  rcases performed : (engine.perform { call with phase := .resolved }).runFrom
      (session.amid (calls.modify id fun call => { call with phase := .resolved }) hosts) with
    ⟨cause | result, after⟩
  all_goals rw [performed] at failed harmless
  · cases failed
    simp only [settle, runFrom_bind, runFrom_callAt there, waits, if_true, runFrom_changeCall,
      runFrom_attempt, Session.amid_amid, Session.amid_calls, Session.amid_hosts, performed]
    rcases fault with issue | issue | ⟨path, argument⟩ | fault | ⟨kind, detail⟩
    case property =>
      simp only [runFrom_bind, runFrom_changeCall, callAt, callAt?, runFrom_get, runFrom_pure,
        Session.amid_calls, Array.getElem?_modify, if_true]
      rcases after.calls[id]? with _ | kept
      · exact ⟨_, rfl, fun quiet => ⟨fun same => (nomatch same), (harmless quiet).2⟩⟩
      · exact ⟨_, rfl, harmless⟩
    all_goals exact ⟨_, rfl, harmless⟩
  · cases failed

variable (follows : engine.Follows setting) (closed : setting.Closed)
  (tames : tame → engine.Tame setting)

include follows closed tames

variable (call) in
/-- Settling a call that has no outcome yet tracks the completion of its search. -/
theorem Engine.tracks_settle (simulates : engine.Simulates setting tame call.arguments.length)
    (there : calls[id]? = some call) (collects : call.Collects setting.host index)
    (sound : (call.search index).Sound setting) (inside : session.lasting ∈ setting.sessions)
    (serving : Serving setting.core.hierarchy setting.adaptors setting.host hosts) :
    setting.Tracks tame calls (.pending id) call.arguments.length
      (fun rest => (setting.core.complete setting.adaptors call.target call.selection
        (call.arguments ++ rest)).runFrom session)
      ((engine.settle id).runFrom (session.amid calls hosts)) := by
  let resolved : PendingCall := { call with phase := .resolved }
  let resolving := calls.modify id fun call => { call with phase := .resolved }
  have marked : resolving[id]? = some resolved := by
    rw [Array.getElem?_modify, if_pos rfl, there]
    rfl
  have tracks : setting.Tracks tame resolving .unset call.arguments.length _
      ((engine.perform resolved).runFrom (session.amid resolving hosts)) :=
    tracks_perform follows closed tames simulates collects.host sound inside serving
  generalize performed : (engine.perform resolved).runFrom (session.amid resolving hosts) = made
    at tracks
  cases tracks with
  | reached reaches bounded spares same =>
      obtain ⟨still, other⟩ := spares id resolved marked nofun
      rw [runFrom_settle_of_ok there collects.unresolved performed still collects.faultless]
      refine .reached ?_ bounded ?_ same
      · exact ⟨reaches.stage.elsewhere other _, reaches.inside, reaches.serving⟩
      · exact (((Spares.refl _ _).change _).trans (spares.of_unset _)).change _
  | failed fails within same =>
      exact .failed (fails_settle there collects.unresolved (performed ▸ fails)) within same

omit follows closed tames in
/-- Work on a locked call tracks what it tracks with the call locked and unlocked again. -/
theorem Engine.tracks_whileLocked {work : Act Value} {bound : ℕ}
    {expected : List Value → Except Fault Value × Session}
    (tracks : setting.Tracks tame (calls.modify id fun call => { call with locked := true })
      (.pending id) bound expected (work.runFrom
        (session.amid (calls.modify id fun call => { call with locked := true }) hosts))) :
    setting.Tracks tame calls (.pending id) bound expected
      ((whileLocked id work).runFrom (session.amid calls hosts)) := by
  rw [runFrom_whileLocked]
  dsimp only [Session.amid_amid, Session.amid_calls, Session.amid_hosts]
  generalize work.runFrom (session.amid _ hosts) = made at tracks
  cases tracks with
  | reached reaches bounded spares same =>
      dsimp only [Session.amid_amid, Session.amid_calls, Session.amid_hosts]
      refine .reached ?_ bounded ?_ same
      · exact ⟨reaches.stage.lock id false, reaches.inside, reaches.serving⟩
      · exact (((Spares.refl _ _).change _).trans spares).change _
  | failed fails inside same =>
      obtain ⟨fault, failed, harmless⟩ := fails
      exact .failed ⟨fault, failed, harmless⟩ inside same

variable (call) in
/-- Resolving a call that collects arguments tracks the completion of its search. -/
theorem Engine.tracks_resolve (simulates : engine.Simulates setting tame call.arguments.length)
    (there : calls[id]? = some call) (collects : call.Collects setting.host index)
    (sound : (call.search index).Sound setting) (inside : session.lasting ∈ setting.sessions)
    (serving : Serving setting.core.hierarchy setting.adaptors setting.host hosts) :
    setting.Tracks tame calls (.pending id) call.arguments.length
      (fun rest => (setting.core.complete setting.adaptors call.target call.selection
        (call.arguments ++ rest)).runFrom session)
      ((engine.resolve id).runFrom (session.amid calls hosts)) := by
  let locked : PendingCall := { call with locked := true }
  have marked : (calls.modify id fun call => { call with locked := true })[id]? = some locked := by
    rw [Array.getElem?_modify, if_pos rfl, there]
    rfl
  have still : locked.Collects setting.host index :=
    ⟨collects.host, collects.index, collects.unresolved, collects.faultless⟩
  exact tracks_whileLocked
    (tracks_settle locked follows closed tames simulates marked still sound inside serving)

end Settling

section Accepting

theorem exists_locked {host : ℕ} (there : calls[id]? = some call)
    (collects : call.Collects host index) :
    ∃ locked : PendingCall,
      (calls.modify id fun call => { call with locked := true })[id]? = some locked ∧
        locked.Collects host index ∧ locked.search index = call.search index := by
  refine ⟨{ call with locked := true }, ?_, ?_, rfl⟩
  · rw [Array.getElem?_modify, if_pos rfl, there]
    rfl
  · exact ⟨collects.host, collects.index, collects.unresolved, collects.faultless⟩

/-- A member that was found takes the place of the one found before. -/
theorem exists_chosen (there : calls[id]? = some call) (found : Option Selection)
    (next : Act Value) (session : Session) (hosts : Array Host) :
    ∃ after, after[id]? = some { call with selection := found <|> call.selection } ∧
      Spares calls (.pending id) after (.pending id) ∧
        (if found.isSome then do
            changeCall id fun call => { call with selection := found }
            next
          else next).runFrom (session.amid calls hosts) = next.runFrom (session.amid after hosts) := by
  cases found with
  | none => exact ⟨calls, there, Spares.refl _ _, rfl⟩
  | some fit =>
      refine ⟨calls.modify id fun call => { call with selection := some fit }, ?_,
        (Spares.refl _ _).change _, rfl⟩
      rw [Array.getElem?_modify, if_pos rfl, there]
      rfl

variable (follows : engine.Follows setting) (closed : setting.Closed)
  (tames : tame → engine.Tame setting)

include follows closed tames

/-- Looking for a member anew, a call goes on to collect if any member could take more, and is settled
otherwise. -/
theorem Engine.tracks_renew (simulates : engine.Simulates setting tame call.arguments.length)
    (there : calls[id]? = some call) (collects : call.Collects setting.host index)
    (sound : (call.search index).Sound setting) (armed : Armed setting.host hosts)
    (inside : session.lasting ∈ setting.sessions)
    (serving : Serving setting.core.hierarchy setting.adaptors setting.host hosts) :
    setting.Tracks tame calls (.pending id) (call.arguments.length + 1)
      (fun rest => (do
        let search ← setting.core.renew (call.search index)
        setting.core.resume setting.adaptors search rest).runFrom session)
      ((do
        let found ← engine.seek (call.search index)
        let next : Act Value :=
          if call.arguments.length < index.maxArity then return .pending id else engine.settle id
        if found.isSome then do
          changeCall id fun call => { call with selection := found }
          next
        else next).runFrom (session.amid calls hosts)) := by
  refine follows.tracks_seek closed sound inside fun found after within fullSound => ?_
  obtain ⟨others, chosen, spares, goesOn⟩ := exists_chosen there found
    (if call.arguments.length < index.maxArity then return .pending id else engine.settle id)
    after hosts
  let full : PendingCall := { call with selection := found <|> call.selection }
  have still : full.Collects setting.host index :=
    ⟨collects.host, collects.index, collects.unresolved, collects.faultless⟩
  dsimp only
  rw [goesOn]
  split
  · rename_i more
    have stage : setting.Stage after others hosts (.pending id)
        (setting.core.resume setting.adaptors (full.search index)) (full.arguments.length + 1) :=
      .waiting chosen still fullSound more armed
    exact .reached ⟨stage, within, serving⟩ (Nat.le_refl _) spares fun rest => rfl
  · rename_i enough
    have settles := tracks_settle full follows closed tames simulates chosen still fullSound
      within serving
    refine (settles.behind spares (Nat.le_succ _)).congr fun rest => ?_
    exact congrArg (runFrom · after) (resume_of_full enough rest)

/-- Taking a further argument tracks going on with the search of the call. -/
theorem Engine.tracks_accept (simulates : engine.Simulates setting tame (call.arguments.length + 1))
    (there : calls[id]? = some call) (collects : call.Collects setting.host index)
    (sound : (call.search index).Sound setting) (room : call.arguments.length < index.maxArity)
    (armed : Armed setting.host hosts) (inside : session.lasting ∈ setting.sessions)
    (serving : Serving setting.core.hierarchy setting.adaptors setting.host hosts) {prop : Value}
    (step : prop ∈ setting.steps) :
    setting.Tracks tame calls (.pending id) (call.arguments.length + 2)
      (fun rest => (setting.core.resume setting.adaptors (call.search index)
        (prop :: rest)).runFrom session)
      ((engine.accept id prop).runFrom (session.amid calls hosts)) := by
  obtain ⟨locked, marked, still, same⟩ := exists_locked there collects
  have sameArguments : locked.arguments = call.arguments := congrArg Search.arguments same
  rw [← same] at sound ⊢
  rw [← sameArguments] at room simulates ⊢
  have waits : (locked.phase == .resolved) = false := beq_eq_false_iff_ne.mpr still.unresolved
  refine tracks_whileLocked ?_
  generalize (calls.modify id fun call => { call with locked := true }) = locking at marked ⊢
  -- Behind the lock the call has one more argument, and its search goes on from there.
  let fed : PendingCall :=
    { locked with arguments := locked.arguments ++ [prop], phase := .accumulating }
  have taken : (locking.modify id fun _ => fed)[id]? = some fed := by
    rw [Array.getElem?_modify, if_pos rfl, marked]
    rfl
  have count : fed.arguments.length = locked.arguments.length + 1 := List.length_append
  have fedStill : fed.Collects setting.host index := ⟨still.host, still.index, nofun, still.faultless⟩
  have fedSound : (fed.search index).Sound setting := sound.feed step
  have renews := tracks_renew follows closed tames (count ▸ simulates) taken fedStill fedSound armed
    inside serving
  have enough : fed.arguments.length + 1 ≤ locked.arguments.length + 2 := by omega
  have fixed : fed.index = .fixed index := still.index
  have candidates : candidatesOf fed = pure index := by
    simp only [candidatesOf, fixed]
  have seeks := engine.selectionOf_eq_seek fixed
  simp only [fed] at candidates seeks
  simp only [runFrom_bind (callAt _), runFrom_callAt marked, waits, Bool.false_eq_true, if_false,
    runFrom_bind (changeCall _ _), runFrom_changeCall, Session.amid_amid, Session.amid_calls,
    Session.amid_hosts, candidates, pure_bind, seeks]
  refine (renews.behind ((Spares.refl _ _).change _) enough).congr fun rest => ?_
  exact congrArg (runFrom · session) (resume_of_room room prop rest)

end Accepting

end MemberDispatch
