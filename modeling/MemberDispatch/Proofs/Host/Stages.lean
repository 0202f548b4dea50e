import Mathlib.Data.List.Basic
import MemberDispatch.Proofs.Host.Complaints

/-!
# Stages of an evaluation

While property steps are applied, the value so far is plain or a pending call that collects
arguments. Either is a stage of greedy evaluation: what it makes of the steps to come is evaluating
the plain value or resuming the search of the call. A run of property steps tracks greedy evaluation
if it leads from stage to stage, and fails where that fails.
-/

namespace MemberDispatch

/-- What a pending call that chooses from an index knows. -/
def PendingCall.search (call : PendingCall) (index : Index) : Engine.Search :=
  ⟨call.target, index, call.onlyPublic, call.returns, call.arguments, call.selection⟩

/-- That a pending call of a host chooses from an index and has no outcome yet. -/
structure PendingCall.Collects (call : PendingCall) (host : ℕ) (index : Index) : Prop where
  host : call.host = host
  index : call.index = .fixed index
  unresolved : call.phase ≠ .resolved
  faultless : call.fault = none

/-- That what a search knows belongs to a setting. -/
structure Engine.Search.Sound (search : Engine.Search) (setting : Setting) : Prop where
  target : search.target ∈ setting.targets
  index : search.index ∈ setting.indexes
  arguments : ∀ argument ∈ search.arguments, argument ∈ setting.steps
  knows : ∀ fit, search.selection = some fit → setting.Knows search.index fit
  within : ∀ fit, search.selection = some fit → fit.consumed ≤ search.arguments.length

theorem Engine.Search.Sound.start {setting : Setting} {target : Value} {index : Index}
    (aimed : target ∈ setting.targets) (known : index ∈ setting.indexes) (onlyPublic : Bool)
    (returns : ClassId) :
    (⟨target, index, onlyPublic, returns, [], none⟩ : Engine.Search).Sound setting where
  target := aimed
  index := known
  arguments := List.forall_mem_nil _
  knows _ found := by cases found
  within _ found := by cases found

/-- A search goes on soundly with a step for its next argument. -/
theorem Engine.Search.Sound.feed {setting : Setting} {search : Engine.Search}
    (sound : search.Sound setting) {prop : Value} (step : prop ∈ setting.steps) :
    ({ search with arguments := search.arguments ++ [prop] } : Engine.Search).Sound setting where
  target := sound.target
  index := sound.index
  arguments argument mem := by
    rcases List.mem_append.mp mem with mem | mem
    · exact sound.arguments argument mem
    · exact List.mem_singleton.mp mem ▸ step
  knows := sound.knows
  within fit chosen := by
    rw [List.length_append]
    exact Nat.le_add_right_of_le (sound.within fit chosen)

/-- That calls are left as they are, but for the one that a value is, and do not come out either. -/
def Spares (calls : Array PendingCall) (value : Value) (after : Array PendingCall)
    (result : Value) : Prop :=
  ∀ id call, calls[id]? = some call → value ≠ .pending id →
    after[id]? = some call ∧ result ≠ .pending id

theorem Spares.refl (calls : Array PendingCall) (value : Value) : Spares calls value calls value :=
  fun _ _ there other => ⟨there, other⟩

theorem Spares.trans {calls between after : Array PendingCall} {value next result : Value}
    (first : Spares calls value between next) (second : Spares between next after result) :
    Spares calls value after result := by
  intro id call there other
  obtain ⟨still, different⟩ := first id call there other
  exact second id call still different

/-- Changing the call that a value is spares the others. -/
theorem Spares.change {calls after : Array PendingCall} {id : ℕ} {result : Value}
    (spares : Spares calls (.pending id) after result) (change : PendingCall → PendingCall) :
    Spares calls (.pending id) (after.modify id change) result := by
  intro own call there other
  obtain ⟨still, different⟩ := spares own call there other
  have elsewhere : id ≠ own := fun same => other (same ▸ rfl)
  rw [Array.getElem?_modify, if_neg elsewhere]
  exact ⟨still, different⟩

theorem Spares.push (calls : Array PendingCall) (value : Value) (call : PendingCall) :
    Spares calls value (calls.push call) (.pending calls.size) := by
  intro own kept there _
  have old : own < calls.size := (Array.getElem?_eq_some_iff.mp there).1
  refine ⟨?_, fun same => ?_⟩
  · rw [Array.getElem?_push, if_neg (Nat.ne_of_lt old)]
    exact there
  · cases same
    exact Nat.lt_irrefl _ old

theorem Spares.of_unset {calls after : Array PendingCall} {result : Value}
    (spares : Spares calls .unset after result) (value : Value) :
    Spares calls value after result :=
  fun id call there _ => spares id call there nofun

namespace Setting

variable (setting : Setting)

/-- A value that property steps have come to, with what greedy evaluation makes of the steps that
follow and how many steps the value holds. -/
inductive Stage (session : Session) (calls : Array PendingCall) (hosts : Array Host) :
    Value → (List Value → Act Value) → ℕ → Prop
  | plain {value : Value} (known : value ∈ setting.targets)
      (other : ¬ setting.core.hierarchy.OfCalls (value.classOf session.objects)) :
      Stage session calls hosts value (setting.core.greedy setting.adaptors value) 0
  | waiting {id : ℕ} {call : PendingCall} {index : Index} (there : calls[id]? = some call)
      (collects : call.Collects setting.host index) (sound : (call.search index).Sound setting)
      (room : call.arguments.length < index.maxArity) (armed : Armed setting.host hosts) :
      Stage session calls hosts (.pending id)
        (setting.core.resume setting.adaptors (call.search index)) (call.arguments.length + 1)

/-- A stage in a session of the setting, with a host that serves. -/
structure Reaches (session : Session) (calls : Array PendingCall) (hosts : Array Host)
    (value : Value) (onwards : List Value → Act Value) (held : ℕ) : Prop where
  stage : setting.Stage session calls hosts value onwards held
  inside : session.lasting ∈ setting.sessions
  serving : Serving setting.core.hierarchy setting.adaptors setting.host hosts

/-- That a run, from a value among calls, does what is expected whatever steps follow: it reaches a
stage, or fails. -/
inductive Tracks (tame : Prop) (calls : Array PendingCall) (value : Value) (bound : ℕ)
    (expected : List Value → Except Fault Value × Session) : Except Fault Value × Session → Prop
  | reached {result : Value} {session : Session} {after : Array PendingCall} {hosts : Array Host}
      {onwards : List Value → Act Value} {held : ℕ}
      (reaches : setting.Reaches session after hosts result onwards held) (bounded : held ≤ bound)
      (spares : Spares calls value after result)
      (same : ∀ rest, expected rest = (onwards rest).runFrom session) :
      Tracks tame calls value bound expected (.ok result, session.amid after hosts)
  | failed {made : Except Fault Value × Session} {fault : Fault} {session : Session}
      (fails : Fails tame session made) (inside : session.lasting ∈ setting.sessions)
      (same : ∀ rest, expected rest = (.error fault, session)) :
      Tracks tame calls value bound expected made

end Setting

/-- That an engine's property steps, as many as a bound allows with those held, track greedy
evaluation. -/
def Engine.Simulates (engine : Engine) (setting : Setting) (tame : Prop) (bound : ℕ) : Prop :=
  ∀ ⦃session calls hosts value onwards held⦄ (props : List Value),
    setting.Reaches session calls hosts value onwards held →
      (∀ prop ∈ props, prop ∈ setting.steps) → held + props.length ≤ bound →
        setting.Tracks tame calls value (held + props.length)
          (fun rest => (onwards (props ++ rest)).runFrom session)
          ((engine.stepAll setting.host value props).runFrom (session.amid calls hosts))

theorem Engine.Simulates.mono {engine : Engine} {setting : Setting} {tame : Prop} {bound less : ℕ}
    (simulates : engine.Simulates setting tame bound) (le : less ≤ bound) :
    engine.Simulates setting tame less :=
  fun _ _ _ _ _ _ props reaches steps short =>
    simulates props reaches steps (Nat.le_trans short le)

variable {setting : Setting} {session : Session} {calls : Array PendingCall} {hosts : Array Host}
  {value : Value} {onwards : List Value → Act Value} {held : ℕ}

namespace Setting

theorem Tracks.behind {tame : Prop} {between : Array PendingCall} {next : Value} {bound more : ℕ}
    {expected : List Value → Except Fault Value × Session} {made : Except Fault Value × Session}
    (tracks : setting.Tracks tame between next bound expected made)
    (first : Spares calls value between next) (le : bound ≤ more) :
    setting.Tracks tame calls value more expected made := by
  cases tracks with
  | reached reaches bounded spares same =>
      exact .reached reaches (Nat.le_trans bounded le) (first.trans spares) same
  | failed fails inside same => exact .failed fails inside same

theorem Tracks.congr {tame : Prop} {bound : ℕ}
    {expected others : List Value → Except Fault Value × Session}
    {made : Except Fault Value × Session}
    (tracks : setting.Tracks tame calls value bound expected made)
    (agree : ∀ rest, others rest = expected rest) :
    setting.Tracks tame calls value bound others made := by
  cases tracks with
  | reached reaches bounded spares same =>
      exact .reached reaches bounded spares fun rest => (agree rest).trans (same rest)
  | failed fails inside same => exact .failed fails inside fun rest => (agree rest).trans (same rest)

/-- A plain value is no pending call. -/
theorem ne_pending (other : ¬ setting.core.hierarchy.OfCalls (value.classOf session.objects))
    (id : ℕ) : value ≠ .pending id := by
  rintro rfl
  exact other List.mem_cons_self

theorem Stage.elsewhere (stage : setting.Stage session calls hosts value onwards held) {id : ℕ}
    (other : value ≠ .pending id) (change : PendingCall → PendingCall) :
    setting.Stage session (calls.modify id change) hosts value onwards held := by
  cases stage with
  | plain known apart => exact .plain known apart
  | @waiting own call index there collects sound room armed =>
      have different : id ≠ own := fun same => other (same ▸ rfl)
      refine .waiting ?_ collects sound room armed
      rw [Array.getElem?_modify, if_neg different]
      exact there

/-- Locking a call or unlocking it leaves a stage what it is. -/
theorem Stage.lock (stage : setting.Stage session calls hosts value onwards held) (id : ℕ)
    (locked : Bool) :
    setting.Stage session (calls.modify id fun call => { call with locked }) hosts value onwards
      held := by
  cases stage with
  | plain known apart => exact .plain known apart
  | @waiting own call index there collects sound room armed =>
      by_cases same : id = own
      · let changed : PendingCall := { call with locked }
        have found : (calls.modify id fun call => { call with locked })[own]? = some changed := by
          rw [Array.getElem?_modify, if_pos same, there]
          rfl
        obtain ⟨host, source, unresolved, faultless⟩ := collects
        have stage : setting.Stage session _ hosts (.pending own)
            (setting.core.resume setting.adaptors (changed.search index))
            (changed.arguments.length + 1) :=
          .waiting found ⟨host, source, unresolved, faultless⟩ sound room armed
        exact stage
      · refine .waiting ?_ collects sound room armed
        rw [Array.getElem?_modify, if_neg same]
        exact there

end Setting

end MemberDispatch
