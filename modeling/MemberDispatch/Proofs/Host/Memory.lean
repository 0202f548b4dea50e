import MemberDispatch.Machine
import MemberDispatch.Proofs.Host.Setting

/-!
# What hosts remember

A host remembers which handler answers to a class. These answers never show: work on two sessions
that differ in what their hosts remember at most comes to the same in both. Of a property step and
of what pending calls do this is shown for any engine whose other operations are of that kind, and by
induction on the level for the machines of a world. Which handler a host answers with is told from the
registrations alone.
-/

namespace MemberDispatch

/-- The host without the answers that it remembers. -/
def Host.forgetting (host : Host) : Host :=
  { host with handlers := { entries := host.handlers.entries } }

namespace Session

/-- The session without the answers that its hosts remember. -/
def forgetting (session : Session) : Session :=
  { session with hosts := session.hosts.map Host.forgetting }

/-- That the hosts of a session remember what their handlers answer. -/
def Remembers (hierarchy : Hierarchy) (session : Session) : Prop :=
  ∀ (id : ℕ) (host : Host), session.hosts[id]? = some host →
    host.handlers.Remembers hierarchy.linearization

/-- That two sessions differ in what their hosts remember at most, which is true of both. -/
structure Alike (hierarchy : Hierarchy) (left right : Session) : Prop where
  same : left.forgetting = right.forgetting
  left : left.Remembers hierarchy
  right : right.Remembers hierarchy

variable {hierarchy : Hierarchy} {left right : Session}

theorem remembers_forgetting (session : Session) : session.forgetting.Remembers hierarchy := by
  intro id host found cls value mem
  simp only [forgetting, Array.getElem?_map, Option.map_eq_some_iff] at found
  rcases found with ⟨served, -, rfl⟩
  cases mem

theorem Alike.eq_amid (alike : left.Alike hierarchy right) :
    left = right.amid right.calls left.hosts := by
  have same := alike.same
  cases left
  cases right
  simp only [forgetting, Session.mk.injEq] at same
  simp only [amid, Session.mk.injEq]
  tauto

theorem Alike.hosts (alike : left.Alike hierarchy right) :
    left.hosts.map Host.forgetting = right.hosts.map Host.forgetting :=
  congrArg Session.hosts alike.same

theorem Alike.host (alike : left.Alike hierarchy right) (id : ℕ) :
    (left.hosts[id]?).map Host.forgetting = (right.hosts[id]?).map Host.forgetting := by
  rw [← Array.getElem?_map, alike.hosts, Array.getElem?_map]

theorem Alike.symm (alike : left.Alike hierarchy right) : right.Alike hierarchy left :=
  ⟨alike.same.symm, alike.right, alike.left⟩

theorem Alike.trans {other : Session} (alike : left.Alike hierarchy right)
    (further : right.Alike hierarchy other) : left.Alike hierarchy other :=
  ⟨alike.same.trans further.same, alike.left, further.right⟩

theorem Remembers.modify {session : Session} (remembers : session.Remembers hierarchy)
    (id : ℕ) {change : Host → Host}
    (keeps : ∀ host, host.handlers.Remembers hierarchy.linearization →
      (change host).handlers.Remembers hierarchy.linearization) :
    Remembers hierarchy { session with hosts := session.hosts.modify id change } := by
  intro other host found
  simp only [Array.getElem?_modify] at found
  split at found
  · rcases Option.map_eq_some_iff.mp found with ⟨old, there, rfl⟩
    exact keeps old (remembers other old there)
  · exact remembers other host found

/-- Remembering an answer changes no more than what is remembered. -/
theorem Remembers.answer {session : Session} (remembers : session.Remembers hierarchy) {id : ℕ}
    {served : Host} (found : session.hosts[id]? = some served) (cls : ClassId) :
    Alike hierarchy session
      { session with
        hosts := session.hosts.modify id fun host =>
          { host with
            handlers := (served.handlers.lookup hierarchy.linearization cls).2 } } := by
  rcases DispatchMap.lookup_eq_rule (remembers id served found) cls with ⟨-, entries, still⟩
  refine ⟨?_, remembers, remembers.modify id fun _ _ => still⟩
  simp only [forgetting]
  congr 1
  refine Array.ext_getElem? fun other => ?_
  simp only [Array.getElem?_map, Array.getElem?_modify]
  split
  · rename_i here
    rw [← here, found]
    simp only [Option.map_some, Host.forgetting, entries]
  · rfl

end Session

namespace Act

variable {α β : Type}

/-- That two runs come to the same, in sessions that are alike. -/
def Agree (hierarchy : Hierarchy) (left right : Except Fault α × Session) : Prop :=
  left.1 = right.1 ∧ left.2.Alike hierarchy right.2

/-- That work comes to the same whatever the hosts remember. -/
def Unmindful (hierarchy : Hierarchy) (work : Act α) : Prop :=
  ∀ left right : Session, left.Alike hierarchy right →
    Agree hierarchy (work.runFrom left) (work.runFrom right)

variable {hierarchy : Hierarchy}

theorem Agree.bind {work others : Act α} {next onward : α → Act β} {left right : Session}
    (first : Agree hierarchy (work.runFrom left) (others.runFrom right))
    (second : ∀ result left right, left.Alike hierarchy right →
      Agree hierarchy ((next result).runFrom left) ((onward result).runFrom right)) :
    Agree hierarchy ((work >>= next).runFrom left) ((others >>= onward).runFrom right) := by
  rcases first with ⟨same, alike⟩
  rw [runFrom_bind, runFrom_bind]
  generalize work.runFrom left = made at same alike
  generalize others.runFrom right = other at same alike
  rcases made with ⟨_ | _, after⟩
  all_goals rcases other with ⟨_ | _, behind⟩
  all_goals cases same
  · exact ⟨rfl, alike⟩
  · exact second _ after behind alike

section Closure

theorem unmindful_pure (result : α) : Unmindful hierarchy (pure result : Act α) :=
  fun _ _ alike => ⟨rfl, alike⟩

theorem unmindful_throw (fault : Fault) : Unmindful hierarchy (throw fault : Act α) :=
  fun _ _ alike => ⟨rfl, alike⟩

theorem Unmindful.bind {work : Act α} {next : α → Act β} (first : Unmindful hierarchy work)
    (second : ∀ result, Unmindful hierarchy (next result)) :
    Unmindful hierarchy (work >>= next) :=
  fun left right alike => (first left right alike).bind second

theorem Unmindful.attempt {work : Act α} (unmindful : Unmindful hierarchy work) :
    Unmindful hierarchy (attempt work) := by
  intro left right alike
  rcases unmindful left right alike with ⟨same, alike⟩
  exact ⟨congrArg Except.ok same, alike⟩

theorem unmindful_read {read : Session → α}
    (elsewhere : ∀ session, read session.forgetting = read session) :
    Unmindful hierarchy (get >>= fun session => pure (read session) : Act α) := by
  intro left right alike
  refine ⟨congrArg Except.ok ?_, alike⟩
  rw [← elsewhere left, alike.same, elsewhere right]

/-- Changing a session, but nothing that hosts remember other than to make them forget. -/
theorem unmindful_modify {change : Session → Session}
    (elsewhere : ∀ session, (change session).forgetting = change session.forgetting)
    (keeps : ∀ session, session.Remembers hierarchy → (change session).Remembers hierarchy) :
    Unmindful hierarchy (modify change : Act Unit) := by
  intro left right alike
  refine ⟨rfl, ?_, keeps left alike.left, keeps right alike.right⟩
  change (change left).forgetting = (change right).forgetting
  rw [elsewhere, elsewhere, alike.same]

theorem Discreet.unmindful {work : Act α} (discreet : Discreet work) : Unmindful hierarchy work := by
  intro left right alike
  have run := discreet right right.calls left.hosts
  rw [← alike.eq_amid] at run
  rcases discreet.keeps right with ⟨calls, hosts⟩
  rw [run]
  refine ⟨rfl, ?_, alike.left, fun id host found => ?_⟩
  · simp only [Session.forgetting, Session.amid, alike.hosts, calls, hosts]
  · exact alike.right id host (hosts ▸ found)

theorem Unmindful.mapM {step : α → Act β} (each : ∀ item, Unmindful hierarchy (step item))
    (items : List α) : Unmindful hierarchy (items.mapM step) := by
  induction items with
  | nil => exact unmindful_pure _
  | cons item items ih =>
      rw [List.mapM_cons]
      exact (each item).bind fun _ => ih.bind fun _ => unmindful_pure _

end Closure

/-- Work that does not see what hosts remember is a habit. -/
def Habit.unmindful (hierarchy : Hierarchy) : Habit where
  Of := Unmindful hierarchy
  pure := unmindful_pure
  throw := unmindful_throw
  bind := Unmindful.bind
  attempt := Unmindful.attempt
  look _ := unmindful_read fun _ => rfl

section Parts

theorem unmindful_report (event : Event) : Unmindful hierarchy (report event) :=
  unmindful_modify (fun _ => rfl) fun _ remembers => remembers

theorem unmindful_callAt (id : ℕ) : Unmindful hierarchy (callAt id) := by
  have read : Unmindful hierarchy (callAt? id) := unmindful_read fun _ => rfl
  refine read.bind fun call => ?_
  rcases call with _ | call
  · exact unmindful_throw _
  · exact unmindful_pure _

/-- What came of a call is read off the call. -/
theorem unmindful_settled (id : ℕ) : Unmindful hierarchy (do
    let call ← callAt id
    match call.fault with
    | some fault => throw fault
    | none => return call.result) := by
  refine (unmindful_callAt id).bind fun call => ?_
  split
  · exact unmindful_throw _
  · exact unmindful_pure _

theorem unmindful_changeCall (id : ℕ) (change : PendingCall → PendingCall) :
    Unmindful hierarchy (changeCall id change) :=
  unmindful_modify (fun _ => rfl) fun _ remembers => remembers

theorem unmindful_addCall (call : PendingCall) : Unmindful hierarchy (addCall call) := by
  have count : Unmindful hierarchy (get >>= fun session => pure session.calls.size : Act ℕ) :=
    unmindful_read fun _ => rfl
  have add : Unmindful hierarchy
      (modify fun session => { session with calls := session.calls.push call } : Act Unit) :=
    unmindful_modify (fun _ => rfl) fun _ remembers => remembers
  exact count.bind fun id => add.bind fun _ => unmindful_pure id

theorem unmindful_makeList (items : List Value) : Unmindful hierarchy (makeList items) := by
  have count : Unmindful hierarchy (get >>= fun session => pure session.objects.size : Act ℕ) :=
    unmindful_read fun _ => rfl
  have add (object : Object) : Unmindful hierarchy
      (modify fun session => { session with objects := session.objects.push object } : Act Unit) :=
    unmindful_modify (fun _ => rfl) fun _ remembers => remembers
  exact count.bind fun address => (add _).bind fun _ => unmindful_pure (Value.object address)

theorem unmindful_candidatesOf (call : PendingCall) : Unmindful hierarchy (candidatesOf call) := by
  unfold candidatesOf
  split
  · exact unmindful_pure _
  · exact unmindful_read fun _ => rfl

theorem Unmindful.whileLocked {work : Act α} (unmindful : Unmindful hierarchy work) (id : ℕ) :
    Unmindful hierarchy (Engine.whileLocked id work) := by
  unfold Engine.whileLocked
  refine (unmindful_changeCall id _).bind fun _ => ?_
  refine unmindful.attempt.bind fun outcome => ?_
  refine (unmindful_changeCall id _).bind fun _ => ?_
  rcases outcome with fault | result
  · exact unmindful_throw _
  · exact unmindful_pure _

/-- What the handlers of a host are and what they answer does not depend on what it remembers. -/
theorem Agree.hostAt {id : ℕ} {left right : Session} (alike : left.Alike hierarchy right)
    {next : Host → Act α}
    (each : ∀ served other : Host, left.hosts[id]? = some served → right.hosts[id]? = some other →
      served.handlers.entries = other.handlers.entries →
        Agree hierarchy ((next served).runFrom left) ((next other).runFrom right)) :
    Agree hierarchy ((hostAt id >>= next).runFrom left) ((hostAt id >>= next).runFrom right) := by
  have same := alike.host id
  simp only [Act.hostAt, runFrom_bind, runFrom_get]
  rcases found : left.hosts[id]? with _ | served
  all_goals rcases there : right.hosts[id]? with _ | other
  all_goals rw [found, there] at same
  · exact ⟨rfl, alike⟩
  · cases same
  · cases same
  · have entries := congrArg (fun host => host.handlers.entries) (Option.some.inj same)
    exact each served other found there entries

theorem unmindful_ensureHandler (host : ℕ) (cls : ClassId) (handler : Handler) :
    Unmindful hierarchy (ensureHandler host cls handler) := by
  intro left right alike
  refine Agree.hostAt alike fun served other _ _ entries => ?_
  have contains : served.handlers.contains cls = other.handlers.contains cls := by
    rw [DispatchMap.contains, DispatchMap.contains, entries]
  rw [contains]
  split
  · exact ⟨rfl, alike⟩
  · have register : Unmindful hierarchy (registerHandler host cls handler) := by
      refine unmindful_modify (fun session => ?_) fun session remembers => ?_
      · simp only [Session.forgetting]
        congr 1
        refine Array.ext_getElem? fun id => ?_
        simp only [Array.getElem?_map, Array.getElem?_modify]
        split
        · rcases session.hosts[id]? with _ | found <;> rfl
        · rfl
      · exact remembers.modify host fun _ _ => DispatchMap.remembers_register _ _
    exact register left right alike

theorem unmindful_handlerFor (host : ℕ) (cls : ClassId) :
    Unmindful hierarchy (handlerFor hierarchy host cls) := by
  intro left right alike
  refine Agree.hostAt alike fun served other found there entries => ?_
  have answer := (DispatchMap.lookup_eq_rule (alike.left host served found) cls).1
  have same := (DispatchMap.lookup_eq_rule (alike.right host other there) cls).1
  have rule : served.handlers.rule hierarchy.linearization cls =
      other.handlers.rule hierarchy.linearization cls := by
    rw [DispatchMap.rule, DispatchMap.rule, entries]
  -- Both hosts may remember one answer more now, which leaves the sessions alike.
  have after := ((alike.left.answer found cls).symm.trans alike).trans (alike.right.answer there cls)
  simp only [runFrom_bind, runFrom_modify, answer, same, rule]
  rcases other.handlers.rule hierarchy.linearization cls with _ | handler
  · exact ⟨rfl, after⟩
  · exact ⟨rfl, after⟩

end Parts

end Act

open Act

/-- That the operations of an engine do not see what hosts remember. -/
structure Engine.Unmindful (engine : Engine) : Prop where
  keeps : engine.Keeps (Habit.unmindful engine.hierarchy)
  step (host : ℕ) (target argument : Value) (name : Option String) :
    Act.Unmindful engine.hierarchy (engine.step host target argument name)

namespace Engine.Unmindful

variable {engine : Engine} (unmindful : engine.Unmindful)

include unmindful

section Descriptions

theorem renderArgument (value : Value) :
    Act.Unmindful engine.hierarchy (engine.renderArgument value) := by
  unfold Engine.renderArgument
  refine ((Habit.unmindful _).classOf value).bind fun cls left right alike => ?_
  have formatters := congrArg Session.formatters alike.same
  change left.formatters = right.formatters at formatters
  simp only [runFrom_bind, runFrom_get, runFrom_set, formatters]
  rcases (right.formatters.lookup engine.hierarchy.linearization cls) with ⟨formatter, formatters⟩
  -- What formatters remember is no part of a host, and the same in both sessions.
  have same := congrArg (fun session : Session => { session with formatters }) alike.same
  have after : Session.Alike engine.hierarchy { left with formatters } { right with formatters } :=
    ⟨same, alike.left, alike.right⟩
  suffices Act.Unmindful engine.hierarchy _ from this _ _ after
  rcases formatter with _ | formatter
  · exact unmindful_throw _
  cases formatter with
  | fixed text => exact unmindful_pure _
  | quoted =>
      refine ((Habit.unmindful _).contentOf value).bind fun content => ?_
      split
      · exact unmindful_pure _
      · exact (unmindful.keeps.text _).bind fun _ => unmindful_pure _
  | described => exact (unmindful.keeps.text _).bind fun _ => unmindful_pure _

theorem callPath (call : PendingCall) (count : Option ℤ) :
    Act.Unmindful engine.hierarchy (engine.callPath call count) := by
  refine (Unmindful.mapM unmindful.renderArgument _).bind fun _ => ?_
  exact unmindful_pure _

theorem failure (failure : Failure) (target : Value) (path reason : String)
    (origin : Option Fault) :
    Act.Unmindful engine.hierarchy (engine.failure failure target path reason origin) :=
  (unmindful.keeps.display target).bind fun _ =>
    ((Habit.unmindful _).classOf target).bind fun _ => unmindful_pure _

end Descriptions

section Calls

theorem selectionOf (call : PendingCall) :
    Act.Unmindful engine.hierarchy (engine.selectionOf call) :=
  (unmindful_candidatesOf call).bind fun index =>
    (unmindful.keeps.choose index call.onlyPublic call.returns call.arguments 0).bind fun _ =>
      unmindful_pure _

theorem startCall (call : PendingCall) : Act.Unmindful engine.hierarchy (engine.startCall call) :=
  (unmindful.selectionOf call).bind fun _ => unmindful_addCall _

theorem applyRest (host used : ℕ) (result : Value) (arguments : List Value) :
    Act.Unmindful engine.hierarchy (engine.applyRest host used result arguments) := by
  induction arguments generalizing used result with
  | nil => exact unmindful_pure _
  | cons argument arguments ih =>
      unfold Engine.applyRest
      refine (unmindful.step host result argument none).attempt.bind fun made => ?_
      rcases made with fault | next
      · exact unmindful_pure _
      · exact ih (used + 1) next

theorem runSelection (call : PendingCall) (selection : Selection) :
    Act.Unmindful engine.hierarchy (engine.runSelection call selection) := by
  have used : Act.Unmindful engine.hierarchy
      (engine.use selection.member call.target selection.arguments) :=
    unmindful.keeps.use selection.member call.target selection.arguments
  unfold Engine.runSelection
  refine used.attempt.bind fun made => ?_
  rcases made with fault | result
  · exact unmindful_pure _
  · exact unmindful.applyRest _ _ _ _

theorem perform (call : PendingCall) : Act.Unmindful engine.hierarchy (engine.perform call) := by
  unfold Engine.perform
  refine ((Habit.unmindful _).classOf call.target).bind fun cls => ?_
  dsimp only
  split
  · refine (unmindful.callPath call none).bind fun path => (unmindful_report _).bind fun _ => ?_
    refine (unmindful.callPath call none).bind fun path => ?_
    exact (unmindful.failure _ _ _ _ _).bind fun _ => unmindful_throw _
  · refine (unmindful.runSelection call _).bind fun made => ?_
    split
    · exact unmindful_pure _
    · split
      · exact unmindful_throw _
      · refine (unmindful.callPath call _).bind fun path => (unmindful_report _).bind fun _ => ?_
        exact (unmindful.failure _ _ _ _ _).bind fun _ => unmindful_throw _

theorem settle (id : ℕ) : Act.Unmindful engine.hierarchy (engine.settle id) := by
  unfold Engine.settle
  refine (unmindful_callAt id).bind fun call => ?_
  split
  · refine (unmindful_changeCall id _).bind fun _ => ?_
    refine (unmindful.perform _).attempt.bind fun made => ?_
    split
    · exact (unmindful_changeCall id _).bind fun _ => unmindful_settled id
    · exact (unmindful_changeCall id _).bind fun _ => unmindful_settled id
    · exact unmindful_throw _
  · exact unmindful_settled id

theorem resolve (id : ℕ) : Act.Unmindful engine.hierarchy (engine.resolve id) :=
  (unmindful.settle id).whileLocked id

theorem accept (id : ℕ) (argument : Value) :
    Act.Unmindful engine.hierarchy (engine.accept id argument) := by
  refine Unmindful.whileLocked ?_ id
  refine (unmindful_callAt id).bind fun call => ?_
  split
  · refine (unmindful.callPath call none).bind fun path => ?_
    exact (unmindful.keeps.display argument).bind fun _ => unmindful_throw _
  · let taken : PendingCall :=
      { call with arguments := call.arguments ++ [argument], phase := .accumulating }
    have counted : Act.Unmindful engine.hierarchy (do
        if taken.arguments.length < (← candidatesOf taken).maxArity then return .pending id
        else engine.settle id) := by
      refine (unmindful_candidatesOf taken).bind fun index => ?_
      split
      · exact unmindful_pure _
      · exact unmindful.settle id
    refine (unmindful_changeCall id _).bind fun _ => ?_
    refine (unmindful.selectionOf taken).bind fun found => ?_
    split
    · exact (unmindful_changeCall id _).bind fun _ => counted
    · exact counted

end Calls

section Steps

theorem adapt (adaptor : Adaptor) (host : ℕ) (target : Value) (name : String) :
    Act.Unmindful engine.hierarchy (engine.adapt adaptor host target name) := by
  unfold Engine.adapt
  refine ((Habit.unmindful _).classOf target).bind fun cls => ?_
  refine (discreet_resolveIndex engine adaptor cls name).unmindful.bind fun index => ?_
  split
  · refine (unmindful_report _).bind fun _ => ?_
    exact (unmindful.failure _ _ _ _ _).bind fun _ => unmindful_throw _
  · refine (unmindful.startCall _).bind fun id => ?_
    split
    · exact unmindful.resolve id
    · exact (unmindful_ensureHandler host _ _).bind fun _ => unmindful_pure _

theorem handle (handler : Handler) (host : ℕ) (target prop : Value) (name : String) :
    Act.Unmindful engine.hierarchy (engine.handle handler host target prop name) := by
  unfold Engine.handle
  split
  · exact unmindful.adapt _ host target name
  · exact unmindful_makeList _
  · split
    · exact unmindful.accept _ prop
    · exact ((Habit.unmindful _).classOf target).bind fun _ => unmindful_throw _

/-- What a property step comes to does not depend on what hosts remember. -/
theorem stepWith (host : ℕ) (target prop : Value) (name : Option String) :
    Act.Unmindful engine.hierarchy (engine.stepWith host target prop name) := by
  unfold Engine.stepWith
  refine ((Habit.unmindful _).classOf target).bind fun cls => ?_
  refine (unmindful_handlerFor host cls).bind fun handler => ?_
  cases name with
  | some name => exact unmindful.handle handler host target prop name
  | none =>
      exact (unmindful.keeps.text prop).bind fun name =>
        unmindful.handle handler host target prop name

end Steps

end Engine.Unmindful

/-- The steps of a machine are those of the machine below, so with operations that do not see what hosts
remember they do not see it either. -/
theorem unmindful_machine {world : World} {level : ℕ}
    (keeps : ∀ below ≤ level, (machine world below).Keeps (Habit.unmindful world.hierarchy)) :
    (machine world level).Unmindful := by
  induction level with
  | zero => exact ⟨keeps 0 (Nat.le_refl 0), fun _ _ _ _ => unmindful_throw _⟩
  | succ level ih =>
      have below := ih fun other deeper => keeps other (Nat.le_succ_of_le deeper)
      have same : (machine world level).hierarchy = world.hierarchy := by
        cases level <;> rfl
      refine ⟨keeps (level + 1) (Nat.le_refl _), fun host target argument name => ?_⟩
      have stepped := below.stepWith host target argument name
      rw [same] at stepped
      exact stepped

/-- A host whose handlers were registered and looked up in any order answers with the handler that was
registered last for the nearest ancestor, and complains of a class without one. -/
theorem Act.runFrom_handlerFor_serveAll {hierarchy : Hierarchy} {session : Session} {id : ℕ}
    {host : Host} {requests : List (DispatchMap.Request Handler)}
    (there : session.hosts[id]? = some host)
    (served : host.handlers = DispatchMap.serveAll hierarchy.linearization requests)
    (cls : ClassId) :
    ((handlerFor hierarchy id cls).runFrom session).1 =
      match (hierarchy.linearization cls).findSome? (DispatchMap.latest requests) with
      | some handler => .ok handler
      | none => .error (.raised .keyError (.missing cls.display)) := by
  have answer := DispatchMap.lookup_serveAll hierarchy.linearization requests cls
  rw [← served] at answer
  simp only [handlerFor, hostAt, runFrom_bind, runFrom_get, there, runFrom_pure, runFrom_modify,
    answer]
  rcases (hierarchy.linearization cls).findSome? (DispatchMap.latest requests) with _ | handler
  · rfl
  · rfl

/-- The handlers that a host starts with are registered one after the other. -/
example (hierarchy : Hierarchy) (registry : ℕ) :
    let number := Handler.adaptor (.number (some registry))
    (Host.standard registry).handlers = DispatchMap.serveAll hierarchy.linearization
      [.register .object (.adaptor (.object (some registry))), .register (.builtin .number) number,
        .register (.builtin .int) number, .register (.builtin .float) number,
        .register (.builtin .decimal) number,
        .register (.builtin .text) (.adaptor (.text (some registry)))] :=
  rfl

end MemberDispatch
