import MemberDispatch.Proofs.Host.Setting

/-!
# Complaints

A pending call that cannot be made or fails says so at length: it renders its path, reports it and
displays its target. Where rendering and displaying do no harm, the complaint changes nothing that
lasts, and it is never that the call has its outcome already. The complaint may itself fail; either
way work that comes to it fails.
-/

namespace MemberDispatch

/-- A fault that escapes is not about a call that has its outcome. -/
theorem Fault.ne_adaptorState {fault : Fault} (escapes : fault.escapes = true) :
    fault.kind ≠ .adaptorState := by
  intro same
  simp [Fault.escapes, same, FaultKind.isFatal, FaultKind.isExit] at escapes

/-- That a run came to a fault, over which, with a tame engine, nothing that lasts was changed. -/
def Fails {α : Type} (tame : Prop) (session : Session) (made : Except Fault α × Session) : Prop :=
  ∃ fault, made.1 = .error fault ∧
    (tame → fault.kind ≠ .adaptorState ∧ made.2.lasting = session.lasting)

theorem Fails.bind {α β : Type} {tame : Prop} {session start : Session} {work : Act α}
    (fails : Fails tame session (work.runFrom start)) (next : α → Act β) :
    Fails tame session ((work >>= next).runFrom start) := by
  obtain ⟨fault, failed, harmless⟩ := fails
  rw [Act.runFrom_bind]
  rcases run : work.runFrom start with ⟨cause | result, after⟩
  all_goals rw [run] at failed harmless
  · cases failed
    exact ⟨fault, rfl, harmless⟩
  · cases failed

theorem fails_amid {α : Type} {tame : Prop} {fault : Fault} (other : fault.kind ≠ .adaptorState)
    (session : Session) (calls : Array PendingCall) (hosts : Array Host) :
    Fails tame session (Except.error (α := α) fault, session.amid calls hosts) :=
  ⟨fault, rfl, fun _ => ⟨other, rfl⟩⟩

theorem Fails.imp {α : Type} {tame others : Prop} {session start : Session}
    {made : Except Fault α × Session} (fails : Fails tame session made)
    (weaker : others → tame ∧ session.lasting = start.lasting) : Fails others start made := by
  obtain ⟨fault, failed, harmless⟩ := fails
  refine ⟨fault, failed, fun quiet => ?_⟩
  obtain ⟨still, same⟩ := weaker quiet
  exact ⟨(harmless still).1, (harmless still).2.trans same⟩

namespace Act

section Registries

variable {α β : Type}

/-- That work never complains of a call that has its outcome. -/
def NeverLate (work : Act α) : Prop :=
  ∀ session fault, (work.runFrom session).1 = .error fault → fault.kind ≠ .adaptorState

theorem neverLate_pure (result : α) : NeverLate (pure result : Act α) :=
  fun _ _ failed => nomatch failed

theorem NeverLate.bind {work : Act α} {next : α → Act β} (first : NeverLate work)
    (second : ∀ result, NeverLate (next result)) : NeverLate (work >>= next) := by
  intro session fault failed
  rw [runFrom_bind] at failed
  rcases run : work.runFrom session with ⟨cause | result, after⟩
  all_goals rw [run] at failed
  · cases failed
    exact first session fault (congrArg Prod.fst run)
  · exact second result after fault failed

theorem neverLate_onRegistry (id : ℕ) (work : RegistryM α) : NeverLate (onRegistry id work) := by
  intro session fault failed
  simp only [onRegistry, runFrom_bind, runFrom_get] at failed
  rcases found : session.registries[id]? with _ | registry
  all_goals simp only [found, runFrom_bind, runFrom_set] at failed
  · cases failed
    rintro ⟨⟩
  · rcases made : RegistryM.runOn registry work with ⟨issue | result, after, events⟩
    all_goals
      simp only [made] at failed
      cases failed
    rintro ⟨⟩

theorem neverLate_sharedRegistry (world : World) : NeverLate (sharedRegistry world) := by
  intro session fault failed
  simp only [sharedRegistry, addRegistry, runFrom_bind, runFrom_get] at failed
  rcases found : session.shared with _ | id
  all_goals simp only [found, runFrom_bind, runFrom_get, runFrom_set] at failed
  · rcases made : RegistryM.runOn {} (Registry.prepare world) with ⟨issue | result, after, events⟩
    all_goals
      simp only [made] at failed
      cases failed
    rintro ⟨⟩
  · cases failed

theorem neverLate_resolveIndex (engine : Engine) (adaptor : Adaptor) (cls : ClassId)
    (name : String) : NeverLate (engine.resolveIndex adaptor cls name) := by
  unfold Engine.resolveIndex
  refine NeverLate.bind ?_ fun registry => ?_
  · unfold Engine.registryOf
    split
    · exact neverLate_pure _
    · exact neverLate_sharedRegistry _
  · refine (neverLate_onRegistry _ _).bind fun index => ?_
    dsimp only
    split
    · exact neverLate_onRegistry _ _
    · exact neverLate_pure _

end Registries

variable {α β : Type} (setting : Setting)

/-- That work changes nothing that lasts and never complains of a call that has its outcome. -/
def Harmless (work : Act α) : Prop :=
  ∀ session, session.lasting ∈ setting.sessions →
    (work.runFrom session).2.lasting = session.lasting ∧
      ∀ fault, (work.runFrom session).1 = .error fault → fault.kind ≠ .adaptorState

/-- That work always fails, and does no harm with a tame engine. -/
def Complains (tame : Prop) (work : Act α) : Prop :=
  ∀ session, Fails (tame ∧ session.lasting ∈ setting.sessions) session (work.runFrom session)

variable {setting} {tame : Prop}

theorem harmless_pure (result : α) : Harmless setting (pure result : Act α) :=
  fun _ _ => ⟨rfl, fun _ failed => nomatch failed⟩

theorem Harmless.bind {work : Act α} {next : α → Act β} (first : Harmless setting work)
    (second : ∀ result, Harmless setting (next result)) : Harmless setting (work >>= next) := by
  intro session inside
  obtain ⟨kept, other⟩ := first session inside
  rw [runFrom_bind]
  rcases run : work.runFrom session with ⟨fault | result, after⟩
  all_goals rw [run] at kept other
  · exact ⟨kept, fun _ failed => by cases failed; exact other fault rfl⟩
  · obtain ⟨still, others⟩ := second result after (kept.symm ▸ inside)
    exact ⟨still.trans kept, others⟩

theorem harmless_get : Harmless setting (get : Act Session) :=
  fun _ _ => ⟨rfl, fun _ failed => nomatch failed⟩

theorem harmless_report (event : Event) : Harmless setting (report event) :=
  fun _ _ => ⟨rfl, fun _ failed => nomatch failed⟩

theorem harmless_classOf (value : Value) : Harmless setting (classOf value) :=
  harmless_get.bind fun _ => harmless_pure _

theorem Harmless.mapM {step : α → Act β} {items : List α}
    (each : ∀ item ∈ items, Harmless setting (step item)) :
    Harmless setting (items.mapM step) := by
  induction items with
  | nil => exact harmless_pure _
  | cons item items ih =>
      rw [List.mapM_cons]
      exact (each item List.mem_cons_self).bind fun first =>
        (ih fun other mem => each other (List.mem_cons_of_mem _ mem)).bind fun others =>
          harmless_pure _

theorem complains_throw {fault : Fault} (other : fault.kind ≠ .adaptorState) :
    Complains setting tame (throw fault : Act α) :=
  fun _ => ⟨fault, rfl, fun _ => ⟨other, rfl⟩⟩

/-- Work that goes on to complain fails whether it gets there or not. -/
theorem Complains.behind {work : Act α} {next : α → Act β}
    (first : tame → Harmless setting work)
    (second : ∀ result, Complains setting tame (next result)) :
    Complains setting tame (work >>= next) := by
  intro session
  rw [runFrom_bind]
  rcases run : work.runFrom session with ⟨fault | result, after⟩
  · refine ⟨fault, rfl, fun ⟨quiet, inside⟩ => ?_⟩
    obtain ⟨kept, other⟩ := first quiet session inside
    rw [run] at kept other
    exact ⟨other fault rfl, kept⟩
  · obtain ⟨fault, failed, harmless⟩ := second result after
    refine ⟨fault, failed, fun ⟨quiet, inside⟩ => ?_⟩
    have kept := (first quiet session inside).1
    rw [run] at kept
    obtain ⟨other, still⟩ := harmless ⟨quiet, kept.symm ▸ inside⟩
    exact ⟨other, still.trans kept⟩

end Act

open Act

/-- That rendering the arguments of a path and displaying a target do no harm. -/
structure Engine.Tame (engine : Engine) (setting : Setting) : Prop where
  renderArgument {prop : Value} (step : prop ∈ setting.steps) :
    Harmless setting (engine.renderArgument prop)
  display {target : Value} (aimed : target ∈ setting.targets) :
    Harmless setting (engine.display target)

namespace Engine.Tame

variable {engine : Engine} {setting : Setting} (tame : engine.Tame setting)

include tame

theorem callPath {call : PendingCall}
    (steps : ∀ argument ∈ call.arguments, argument ∈ setting.steps) (count : Option ℤ) :
    Harmless setting (engine.callPath call count) := by
  refine Harmless.bind (Harmless.mapM fun argument mem => ?_) fun _ => harmless_pure _
  exact tame.renderArgument (steps argument (Slice.mem_of_mem_upTo mem))

theorem failure {target : Value} (aimed : target ∈ setting.targets) (failure : Failure)
    (path reason : String) (origin : Option Fault) :
    Harmless setting (engine.failure failure target path reason origin) :=
  (tame.display aimed).bind fun _ => (harmless_classOf target).bind fun _ => harmless_pure _

end Engine.Tame

section Failures

variable {engine : Engine} {setting : Setting} {tame : Prop}
  (tames : tame → engine.Tame setting)

include tames

/-- A property step that fails says where. -/
theorem complains_failure {α : Type} {target : Value} (aimed : target ∈ setting.targets)
    (failure : Failure) (path reason : String) (origin : Option Fault) :
    Complains setting tame
      (engine.failure failure target path reason origin >>= fun fault =>
        (throw (.property fault) : Act α)) := by
  refine Complains.behind (fun quiet => (tames quiet).failure aimed _ _ _ _) fun fault => ?_
  refine complains_throw fun same => ?_
  rcases fault with ⟨_ | _ | _, _⟩ <;> cases same

variable {call : PendingCall} (aimed : call.target ∈ setting.targets)
  (steps : ∀ argument ∈ call.arguments, argument ∈ setting.steps)

include aimed steps

/-- A call without a member is complained of. -/
theorem complains_perform (unfit : call.selection = none) :
    Complains setting tame (engine.perform call) := by
  unfold Engine.perform
  rw [unfit]
  refine Complains.behind (fun _ => harmless_classOf _) fun cls => ?_
  refine Complains.behind (fun quiet => (tames quiet).callPath steps _) fun path => ?_
  refine Complains.behind (fun _ => harmless_report _) fun _ => ?_
  refine Complains.behind (fun quiet => (tames quiet).callPath steps _) fun path => ?_
  exact complains_failure tames aimed _ _ _ _

/-- A fault of the member or of a step behind it is passed on if it escapes, and complained of as the
failure of the call otherwise. -/
theorem fails_perform {selection : Selection} (fit : call.selection = some selection)
    {start after : Session} {fault : Fault} {used : ℕ}
    (run : (engine.runSelection call selection).runFrom start = (.ok (.error (fault, used)), after)) :
    Fails (tame ∧ after.lasting ∈ setting.sessions) after ((engine.perform call).runFrom start) := by
  unfold Engine.perform
  rw [runFrom_bind_of_ok (runFrom_classOf _ _), fit]
  dsimp only
  rw [runFrom_bind_of_ok run]
  dsimp only
  split
  · rename_i escapes
    exact complains_throw (Fault.ne_adaptorState escapes) after
  · refine Complains.behind (fun quiet => (tames quiet).callPath steps _) (fun path => ?_) after
    refine Complains.behind (fun _ => harmless_report _) fun _ => ?_
    exact complains_failure tames aimed _ _ _ _

end Failures

end MemberDispatch
