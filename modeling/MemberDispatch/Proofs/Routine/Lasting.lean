import MemberDispatch.Machine
import MemberDispatch.Proofs.Class.Dispatch
import MemberDispatch.Proofs.Host.Chains
import MemberDispatch.Proofs.Routine.Calling
import MemberDispatch.Proofs.Routine.Operators
import MemberDispatch.Proofs.Routine.Upkeep

/-!
# What lasts through a session

Members, property steps, pending calls and descriptions, at every level of the machine, leave alone how
values of each class show in paths, and which class an object is of. Objects come and what they hold
changes, formatters are remembered, pending calls go on, handlers are found and registries fill, but
none of this touches the formatters that are registered.
-/

namespace MemberDispatch

/-- What lasts from one session to another: the registered formatters, the truth of those that are
remembered, and the objects with their classes. -/
structure Session.Lasts (world : World) (before after : Session) : Prop where
  entries : after.formatters.entries = before.formatters.entries
  remembers : before.formatters.Remembers world.linearization →
    after.formatters.Remembers world.linearization
  objects : before.objects.size ≤ after.objects.size
  classes : ∀ address < before.objects.size,
    (Value.object address).classOf after.objects = (Value.object address).classOf before.objects

namespace Session.Lasts

variable {world : World} {before between after : Session}

theorem refl (session : Session) : session.Lasts world session :=
  ⟨rfl, id, Nat.le_refl _, fun _ _ => rfl⟩

theorem trans (first : before.Lasts world between) (second : between.Lasts world after) :
    before.Lasts world after where
  entries := second.entries.trans first.entries
  remembers remembers := second.remembers (first.remembers remembers)
  objects := Nat.le_trans first.objects second.objects
  classes address present :=
    (second.classes address (Nat.lt_of_lt_of_le present first.objects)).trans
      (first.classes address present)

/-- A value that is no object, or is one of the session, keeps its class. -/
theorem classOf_eq (lasts : before.Lasts world after) {value : Value}
    (present : ∀ address, value = .object address → address < before.objects.size) :
    value.classOf after.objects = value.classOf before.objects := by
  cases value with
  | object address => exact lasts.classes address (present address rfl)
  | _ => rfl

/-- Other parts of a session may change. -/
theorem of_same (objects : after.objects = before.objects)
    (formatters : after.formatters = before.formatters) : before.Lasts world after where
  entries := by rw [formatters]
  remembers := by
    rw [formatters]
    exact id
  objects := Nat.le_of_eq (congrArg Array.size objects).symm
  classes _ _ := by rw [objects]

end Session.Lasts

namespace Act

variable {α β : Type} {world : World}

/-- Work through which these things last. -/
def Preserves (world : World) (work : Act α) : Prop :=
  ∀ session : Session, session.Lasts world (work.runFrom session).2

theorem Preserves.bind {work : Act α} {next : α → Act β} (first : Preserves world work)
    (second : ∀ result, Preserves world (next result)) : Preserves world (work >>= next) := by
  intro session
  have here := first session
  rw [runFrom_bind]
  rcases run : work.runFrom session with ⟨fault | result, after⟩
  · rw [run] at here
    exact here
  · rw [run] at here
    exact here.trans (second result after)

/-- Work through which these things last is a routine. -/
def Routine.lasting (world : World) : Act.Routine where
  Of := Preserves world
  pure _ := Session.Lasts.refl
  throw _ := Session.Lasts.refl
  bind := Preserves.bind
  attempt kept := kept
  look _ := Session.Lasts.refl
  get := Session.Lasts.refl
  allocate {object} _ session := by
    refine ⟨rfl, id, (Array.size_push object).symm ▸ Nat.le_succ _, fun address present => ?_⟩
    change Value.classOf (session.objects.push object) _ = _
    simp only [Value.classOf, Array.getElem?_push, if_neg (Nat.ne_of_lt present)]
  changeObject address {change} same session := by
    refine ⟨rfl, id, Nat.le_of_eq Array.size_modify.symm, fun other _ => ?_⟩
    exact (Value.object other).classOf_modify session.objects address same

variable (world) in
/-- Work on other parts of a session than objects and formatters. -/
theorem preserves_modify_aside {change : Session → Session}
    (same : ∀ session, (change session).objects = session.objects ∧
      (change session).formatters = session.formatters) :
    Preserves world (modify change : Act Unit) :=
  fun session => .of_same (same session).1 (same session).2

theorem preserves_report (event : Event) : Preserves world (report event) :=
  preserves_modify_aside world fun _ => ⟨rfl, rfl⟩

theorem preserves_changeCall (id : ℕ) (change : PendingCall → PendingCall) :
    Preserves world (changeCall id change) :=
  preserves_modify_aside world fun _ => ⟨rfl, rfl⟩

theorem preserves_callAt (id : ℕ) : Preserves world (callAt id) := by
  have look : Preserves world (callAt? id) := fun session => .refl session
  refine look.bind ?_
  intro found
  cases found with
  | none => exact (Routine.lasting world).throw _
  | some call => exact (Routine.lasting world).pure _

theorem preserves_candidatesOf (call : PendingCall) : Preserves world (candidatesOf call) := by
  unfold Act.candidatesOf
  split
  · exact (Routine.lasting world).pure _
  · exact Session.Lasts.refl

theorem preserves_onRegistry (id : ℕ) (work : RegistryM α) : Preserves world (onRegistry id work) := by
  intro session
  simp only [onRegistry, runFrom_bind, runFrom_get]
  cases session.registries[id]? with
  | none => exact .refl _
  | some registry =>
      rcases run : work.runOn registry with ⟨issue | result, changed, events⟩
      all_goals
        simp only [run, runFrom_bind, runFrom_set]
        exact .of_same rfl rfl

theorem preserves_addRegistry (work : RegistryM Unit) : Preserves world (addRegistry work) := by
  intro session
  simp only [addRegistry, runFrom_bind, runFrom_get]
  rcases work.runOn {} with ⟨issue | result, changed, events⟩
  · exact .of_same rfl rfl
  · exact .of_same rfl rfl

theorem preserves_sharedRegistry (world declared : World) :
    Preserves world (sharedRegistry declared) := by
  unfold sharedRegistry
  apply Preserves.bind (Routine.lasting world).get
  intro session
  split
  · exact (Routine.lasting world).pure _
  · apply Preserves.bind (preserves_addRegistry _)
    intro id
    apply Preserves.bind
    · exact preserves_modify_aside world fun _ => ⟨rfl, rfl⟩
    · exact fun _ => (Routine.lasting world).pure _

theorem preserves_hostAt (id : ℕ) : Preserves world (hostAt id) := by
  apply Preserves.bind (Routine.lasting world).get
  intro session
  split
  · exact (Routine.lasting world).pure _
  · exact (Routine.lasting world).throw _

theorem preserves_ensureHandler (host : ℕ) (cls : ClassId) (handler : Handler) :
    Preserves world (ensureHandler host cls handler) := by
  unfold ensureHandler
  apply Preserves.bind (preserves_hostAt host)
  intro found
  split
  · exact (Routine.lasting world).pure _
  · exact preserves_modify_aside world fun _ => ⟨rfl, rfl⟩

theorem preserves_handlerFor (hierarchy : Hierarchy) (host : ℕ) (cls : ClassId) :
    Preserves world (handlerFor hierarchy host cls) := by
  unfold handlerFor
  apply Preserves.bind (preserves_hostAt host)
  intro found
  apply Preserves.bind
  · exact preserves_modify_aside world fun _ => ⟨rfl, rfl⟩
  · intro remembered
    split
    · exact (Routine.lasting world).pure _
    · exact (Routine.lasting world).throw _

theorem Preserves.whileDisplaying {work : Act α} (preserves : Preserves world work) (address : ℕ) :
    Preserves world (whileDisplaying address work) := by
  unfold Act.whileDisplaying
  refine Preserves.bind ?_ fun _ => ?_
  · exact preserves_modify_aside world fun _ => ⟨rfl, rfl⟩
  refine Preserves.bind ((Routine.lasting world).attempt preserves) fun outcome => ?_
  refine Preserves.bind ?_ fun _ => ?_
  · exact preserves_modify_aside world fun _ => ⟨rfl, rfl⟩
  cases outcome with
  | error fault => exact (Routine.lasting world).throw _
  | ok result => exact (Routine.lasting world).pure _

theorem Preserves.whileLocked {work : Act α} (preserves : Preserves world work) (id : ℕ) :
    Preserves world (Engine.whileLocked id work) := by
  refine (preserves_changeCall id _).bind fun _ => ?_
  refine Preserves.bind ((Routine.lasting world).attempt preserves) fun outcome => ?_
  refine (preserves_changeCall id _).bind fun _ => ?_
  cases outcome with
  | error fault => exact (Routine.lasting world).throw _
  | ok result => exact (Routine.lasting world).pure _

end Act

/-- Looking up changes no entry. -/
theorem DispatchMap.entries_lookup {α : Type} (linearization : ClassId → List ClassId)
    (map : DispatchMap α) (cls : ClassId) : (map.lookup linearization cls).2.entries = map.entries := by
  unfold lookup
  split
  · rfl
  · split
    · rfl
    · rfl

open Act

namespace Engine

/-- How a value of a class shows by a formatter. -/
def shownBy (engine : Engine) (cls : ClassId) (value : Value) : Option Formatter → Act String
  | none => throw (.raised .keyError (.missing cls.display))
  | some (.fixed text) => return text
  | some .quoted => do
      match ← contentOf value with
      | .text text => return Text.enclosed text
      | other => return Text.enclosed (← engine.text other)
  | some .described => do
      return "\x7b" ++ cls.name ++ ":" ++ Text.enclosed (← engine.text value) ++ "\x7d"

/-- An argument shows by the formatter of its class, which is remembered. -/
theorem runFrom_renderArgument (engine : Engine) (value : Value) (session : Session) :
    let cls := value.classOf session.objects
    let found := session.formatters.lookup engine.hierarchy.linearization cls
    (engine.renderArgument value).runFrom session =
      (engine.shownBy cls value found.1).runFrom { session with formatters := found.2 } := by
  dsimp only
  unfold renderArgument
  rw [runFrom_bind_of_ok (runFrom_classOf value session), runFrom_bind_of_ok (runFrom_get session)]
  rcases session.formatters.lookup engine.hierarchy.linearization (value.classOf session.objects) with
    ⟨_ | _ | _ | text, formatters⟩
  all_goals rfl

end Engine

/-- That these things last through all operations of an engine. -/
structure Engine.Lasting (engine : Engine) : Prop where
  keeps : engine.Keeps (Routine.lasting engine.world).toHabit
  step (host : ℕ) (value argument : Value) (name : Option String) :
    Preserves engine.world (engine.step host value argument name)

namespace Engine.Lasting

variable {engine : Engine} (lasting : engine.Lasting)

include lasting

section Descriptions

omit lasting in
/-- A session in which the formatter of a class was looked up. -/
theorem lasts_lookup (engine : Engine) (session : Session) (cls : ClassId) :
    session.Lasts engine.world
      { session with
        formatters := (session.formatters.lookup engine.hierarchy.linearization cls).2 } where
  entries := DispatchMap.entries_lookup _ _ _
  remembers remembers := (DispatchMap.lookup_eq_rule remembers cls).2.2
  objects := Nat.le_refl _
  classes _ _ := rfl

theorem shownBy (cls : ClassId) (value : Value) (formatter : Option Formatter) :
    Preserves engine.world (engine.shownBy cls value formatter) := by
  have texts (value : Value) (write : String → String) :
      Preserves engine.world (do return write (← engine.text value)) :=
    Preserves.bind (lasting.keeps.text value) fun _ => (Routine.lasting _).pure _
  unfold Engine.shownBy
  split
  · exact (Routine.lasting _).throw _
  · exact (Routine.lasting _).pure _
  · apply Preserves.bind ((Routine.lasting engine.world).contentOf value)
    intro content
    split
    · exact (Routine.lasting _).pure _
    · exact texts _ _
  · exact texts _ _

theorem renderArgument (value : Value) : Preserves engine.world (engine.renderArgument value) := by
  intro session
  rw [runFrom_renderArgument]
  exact (lasts_lookup engine session _).trans (lasting.shownBy _ _ _ _)

theorem renderPath (name : String) (arguments : List Value) :
    Preserves engine.world (engine.renderPath name arguments) := by
  apply Preserves.bind
  · exact (Routine.lasting _).mapM lasting.renderArgument arguments
  · intro texts
    exact (Routine.lasting _).pure _

theorem displayAll (values : List Value) : Preserves engine.world (engine.displayAll values) := by
  induction values with
  | nil => exact (Routine.lasting _).pure _
  | cons value values ih =>
      apply Preserves.bind (lasting.keeps.display value)
      intro first
      apply Preserves.bind ih
      intro others
      exact (Routine.lasting _).pure _

theorem displayContent (object : Object) :
    Preserves engine.world (engine.displayContent object) := by
  let routine := Routine.lasting engine.world
  have display := lasting.keeps.display
  unfold Engine.displayContent
  split
  · exact routine.bind (lasting.displayAll _) fun _ => routine.pure _
  · apply routine.bind
    · exact routine.mapM (fun entry =>
        routine.bind (display _) fun _ => routine.bind (display _) fun _ => routine.pure _) _
    · exact fun _ => routine.pure _
  · exact routine.ite (routine.pure _) (routine.bind (lasting.displayAll _) fun _ => routine.pure _)
  · exact routine.pure _
  · exact display _
  · apply routine.bind
    · exact routine.mapM (fun named => routine.bind (display _) fun _ => routine.pure _) _
    · exact fun _ => routine.pure _

theorem displayWith (value : Value) : Preserves engine.world (engine.displayWith value) := by
  let routine := Routine.lasting engine.world
  unfold Engine.displayWith
  split
  any_goals exact routine.pure _
  · exact routine.integerText _
  · exact routine.bind (routine.integerText _) fun _ =>
      routine.bind (routine.integerText _) fun _ => routine.pure _
  · apply routine.bind (lasting.displayAll _)
    intro texts
    split
    · exact routine.pure _
    · exact routine.pure _
  · exact routine.bind (lasting.displayAll _) fun _ => routine.pure _
  · apply routine.bind (routine.objectAt _)
    intro object
    apply routine.bind routine.get
    intro session
    split
    · exact routine.pure _
    · exact Preserves.whileDisplaying (lasting.displayContent object) _
  · apply routine.bind (routine.bind routine.get fun _ => routine.pure _)
    intro found
    cases found with
    | none => exact routine.pure _
    | some call =>
        apply routine.bind (lasting.renderPath _ _)
        intro path
        exact routine.bind (routine.classOf _) fun _ => routine.pure _
  · exact routine.bind (lasting.keeps.display _) fun _ => routine.pure _

theorem textWith (value : Value) : Preserves engine.world (engine.textWith value) := by
  let routine := Routine.lasting engine.world
  unfold Engine.textWith
  split
  · exact routine.pure _
  · exact routine.pure _
  · unfold Act.fractionText
    apply routine.bind (routine.integerText _)
    intro numerator
    exact routine.ite (routine.pure _) (routine.bind (routine.integerText _) fun _ => routine.pure _)
  · apply routine.bind (routine.objectAt _)
    intro object
    split
    · apply routine.bind (lasting.keeps.call _ _)
      intro answer
      split
      · exact routine.pure _
      · apply routine.bind (routine.contentOf _)
        intro content
        split
        · exact routine.pure _
        · exact routine.bind (routine.classOf _) fun _ => routine.throw _
    · split
      · exact lasting.keeps.text _
      · exact lasting.keeps.display _
  · exact lasting.keeps.display _

end Descriptions

section Calls

theorem selectionOf (call : PendingCall) : Preserves engine.world (engine.selectionOf call) := by
  apply Preserves.bind (preserves_candidatesOf call)
  intro index
  apply Preserves.bind (lasting.keeps.choose _ _ _ _ _)
  intro found
  exact (Routine.lasting _).pure _

theorem failure (failure : Failure) (target : Value) (path reason : String) (origin : Option Fault) :
    Preserves engine.world (engine.failure failure target path reason origin) := by
  apply Preserves.bind (lasting.keeps.display target)
  intro shown
  exact (Routine.lasting _).bind ((Routine.lasting _).classOf _) fun _ => (Routine.lasting _).pure _

theorem applyRest (host used : ℕ) (result : Value) (arguments : List Value) :
    Preserves engine.world (engine.applyRest host used result arguments) := by
  induction arguments generalizing used result with
  | nil => exact (Routine.lasting _).pure _
  | cons argument arguments ih =>
      apply Preserves.bind ((Routine.lasting _).attempt (lasting.step host result argument none))
      intro outcome
      cases outcome with
      | error fault => exact (Routine.lasting _).pure _
      | ok next => exact ih _ _

theorem runSelection (call : PendingCall) (selection : Selection) :
    Preserves engine.world (engine.runSelection call selection) := by
  apply Preserves.bind ((Routine.lasting _).attempt (lasting.keeps.use _ _ _))
  intro outcome
  cases outcome with
  | error fault => exact (Routine.lasting _).pure _
  | ok result => exact lasting.applyRest _ _ _ _

theorem perform (call : PendingCall) : Preserves engine.world (engine.perform call) := by
  let routine := Routine.lasting engine.world
  have path (count : Option ℤ) : Preserves engine.world (engine.callPath call count) :=
    lasting.renderPath _ _
  unfold Engine.perform
  apply routine.bind (routine.classOf _)
  intro cls
  split
  · apply routine.bind (path _)
    intro path'
    apply routine.bind (preserves_report _)
    intro reported
    apply routine.bind (path _)
    intro shown
    exact routine.bind (lasting.failure _ _ _ _ _) fun _ => routine.throw _
  · apply routine.bind (lasting.runSelection _ _)
    intro outcome
    split
    · exact routine.pure _
    · apply routine.ite (routine.throw _)
      apply routine.bind (path _)
      intro path
      apply routine.bind (preserves_report _)
      intro reported
      exact routine.bind (lasting.failure _ _ _ _ _) fun _ => routine.throw _

theorem settle (id : ℕ) : Preserves engine.world (engine.settle id) := by
  let routine := Routine.lasting engine.world
  have ends : routine.Of (outcomeAt id) := by
    apply routine.bind (preserves_callAt id)
    intro call
    cases call.fault with
    | some fault => exact routine.throw _
    | none => exact routine.pure _
  unfold Engine.settle
  apply routine.bind (preserves_callAt id)
  intro call
  split
  · apply routine.bind (preserves_changeCall id _)
    intro changed
    apply routine.bind (routine.attempt (lasting.perform _))
    intro outcome
    split
    · exact routine.bind (preserves_changeCall id _) fun _ => ends
    · exact routine.bind (preserves_changeCall id _) fun _ => ends
    · exact routine.bind (routine.throw _) fun _ => ends
  · exact ends

theorem accept (id : ℕ) (argument : Value) : Preserves engine.world (engine.accept id argument) := by
  let routine := Routine.lasting engine.world
  unfold Engine.accept
  apply Preserves.whileLocked
  apply routine.bind (preserves_callAt id)
  intro call
  apply routine.ite
  · apply routine.bind (lasting.renderPath _ _)
    intro path
    exact routine.bind (lasting.keeps.display _) fun _ => routine.throw _
  · have goesOn (call : PendingCall) (found : Option Selection) : routine.Of (do
        if call.arguments.length < (← Act.candidatesOf call).maxArity then return .pending id
        else engine.settle id) := by
      apply routine.bind (preserves_candidatesOf call)
      intro index
      exact routine.ite (routine.pure _) (lasting.settle id)
    apply routine.bind (preserves_changeCall id _)
    intro changed
    apply routine.bind (lasting.selectionOf _)
    intro found
    split
    · exact routine.bind (preserves_changeCall id _) fun _ => goesOn _ found
    · exact goesOn _ found

theorem callText (id : ℕ) : Preserves engine.world (engine.callText id) := by
  let routine := Routine.lasting engine.world
  unfold Engine.callText
  apply routine.bind (preserves_callAt id)
  intro call
  apply routine.ite
  · exact routine.bind (lasting.renderPath _ _) fun _ => routine.pure _
  · exact Preserves.whileLocked (routine.bind (lasting.settle id) lasting.keeps.text) id

theorem startCall (call : PendingCall) : Preserves engine.world (engine.startCall call) := by
  apply Preserves.bind (lasting.selectionOf call)
  intro selection
  unfold Act.addCall
  apply Preserves.bind (Routine.lasting _).get
  intro session
  apply Preserves.bind
  · exact preserves_modify_aside _ fun _ => ⟨rfl, rfl⟩
  · exact fun _ => (Routine.lasting _).pure _

end Calls

section Steps

omit lasting in
theorem resolveIndex (engine : Engine) (adaptor : Adaptor) (cls : ClassId) (name : String) :
    Preserves engine.world (engine.resolveIndex adaptor cls name) := by
  unfold Engine.resolveIndex
  apply Preserves.bind
  · unfold Engine.registryOf
    split
    · exact (Routine.lasting _).pure _
    · exact preserves_sharedRegistry _ _
  · intro registry
    apply Preserves.bind (preserves_onRegistry _ _)
    intro index
    exact (Routine.lasting _).ite (preserves_onRegistry _ _) ((Routine.lasting _).pure _)

theorem adapt (adaptor : Adaptor) (host : ℕ) (target : Value) (name : String) :
    Preserves engine.world (engine.adapt adaptor host target name) := by
  let routine := Routine.lasting engine.world
  apply routine.bind (routine.classOf target)
  intro cls
  apply routine.bind (resolveIndex engine adaptor cls name)
  intro index
  apply routine.ite
  · apply routine.bind (preserves_report _)
    intro reported
    exact routine.bind (lasting.failure _ _ _ _ _) fun _ => routine.throw _
  · apply routine.bind (lasting.startCall _)
    intro id
    apply routine.ite
    · exact Preserves.whileLocked (lasting.settle id) id
    · exact routine.bind (preserves_ensureHandler _ _ _) fun _ => routine.pure _

theorem handle (handler : Handler) (host : ℕ) (target prop : Value) (name : String) :
    Preserves engine.world (engine.handle handler host target prop name) := by
  unfold Engine.handle
  split
  · exact lasting.adapt _ _ _ _
  · exact (Routine.lasting _).makeList _
  · split
    · exact lasting.accept _ _
    · exact (Routine.lasting _).bind ((Routine.lasting _).classOf _) fun _ => (Routine.lasting _).throw _

theorem stepWith (host : ℕ) (target prop : Value) (name : Option String) :
    Preserves engine.world (engine.stepWith host target prop name) := by
  let routine := Routine.lasting engine.world
  unfold Engine.stepWith
  apply routine.bind (routine.classOf target)
  intro cls
  apply routine.bind (preserves_handlerFor _ _ _)
  intro handler
  cases name with
  | some name => exact routine.bind (routine.pure name) fun name => lasting.handle _ _ _ _ _
  | none => exact routine.bind (lasting.keeps.text prop) fun name => lasting.handle _ _ _ _ _

end Steps

end Engine.Lasting

/-- Through every level of the machine, formatters and the classes of objects last. -/
theorem lasting_machine (world : World) (level : ℕ) : (machine world level).Lasting := by
  induction level with
  | zero =>
      have complains {α : Type} (session : Session) :
          session.Lasts world ((throw tooDeep : Act α).runFrom session).2 := .refl session
      exact ⟨⟨fun _ _ => complains, fun _ => complains, fun _ => complains, fun _ _ => complains⟩,
        fun _ _ _ _ => complains⟩
  | succ level below =>
      have same : (machine world level).world = (machine world (level + 1)).world := by
        rw [world_machine, world_machine]
      have keeps : (machine world (level + 1)).Keeps
          (Routine.lasting (machine world level).world).toHabit := by
        refine ⟨below.keeps.callWith, fun value => ?_, below.displayWith, below.keeps.operateWith⟩
        have told := below.textWith value
        cases value
        case pending id => exact below.callText id
        all_goals exact told
      refine ⟨same ▸ keeps, fun host value argument name => same ▸ ?_⟩
      exact below.stepWith host value argument name

end MemberDispatch
