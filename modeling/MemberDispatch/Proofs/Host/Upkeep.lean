import Mathlib.Data.Set.Insert
import MemberDispatch.Proofs.Host.Serving
import MemberDispatch.Proofs.Registry.Providers

/-!
# Sessions in order

A session is in order if its hosts answer values of every class with handlers of the built-in kinds,
its registries were worked on by their operations only, and its pending calls hold values and faults
that are known. Work upholds the order of sessions if it leaves one in order, and then gives results
and raises faults of some sets only. What upholds the order step by step does so as a whole.
-/

namespace MemberDispatch

/-- That a fault is one of those that the documentation names: a property step that found no member or
whose member failed, an argument for a call that has its outcome, and what handlers of ordinary faults
pass on. -/
def Fault.Documented (fault : Fault) : Prop :=
  fault.kind = .noMatch ∨ fault.kind = .invocation ∨ fault.kind = .adaptorState ∨
    fault.escapes = true

/-- The values that property steps come upon, among them pending calls and the value that a call without
an outcome answers, and the faults that may come up besides the documented ones. -/
structure Scope where
  values : Set Value
  faults : Set Fault
  unset : .unset ∈ values
  pending (id : ℕ) : .pending id ∈ values

/-- The faults that may come up. -/
def Scope.allowed (scope : Scope) : Set Fault :=
  { fault | fault.Documented ∨ fault ∈ scope.faults }

/-- That a pending call holds values and faults that are known. -/
structure PendingCall.Within (scope : Scope) (call : PendingCall) : Prop where
  target : call.target ∈ scope.values
  arguments : ∀ argument ∈ call.arguments, argument ∈ scope.values
  result : call.result ∈ scope.values
  fault : ∀ fault, call.fault = some fault → fault ∈ scope.allowed

/-- That a handler is of a built-in kind: it looks members up in a registry of its own, or it passes
arguments to pending calls. -/
def Handler.Builtin (hierarchy : Hierarchy) (cls : ClassId) (handler : Handler) : Prop :=
  match handler with
  | .adaptor looksUp => looksUp.registry.isSome = true
  | .echo _ => False
  | .arguments => hierarchy.OfCalls cls

/-- That a host answers values of every class with a handler of a built-in kind. -/
structure Host.Equipped (hierarchy : Hierarchy) (host : Host) : Prop where
  answers (cls : ClassId) : ∃ handler, host.handlers.rule hierarchy.linearization cls = some handler ∧
    handler.Builtin hierarchy cls
  remembers : host.handlers.Remembers hierarchy.linearization

/-- That a registry comes from a new one by operations on it. -/
def Registry.Reached (world : World) (registry : Registry) : Prop :=
  ∃ table operations, registry = Registry.after world { table } operations

/-- That a session is in order. -/
structure Session.InOrder (world : World) (scope : Scope) (session : Session) : Prop where
  hosts : ∀ {id : ℕ} {host : Host}, session.hosts[id]? = some host → host.Equipped world.hierarchy
  registries : ∀ {id : ℕ} {registry : Registry}, session.registries[id]? = some registry →
    registry.Reached world
  calls : ∀ {id : ℕ} {call : PendingCall}, session.calls[id]? = some call → call.Within scope
  /-- No value but pending calls is of a class of theirs. -/
  values : ∀ value ∈ scope.values, (∃ id, value = .pending id) ∨
    ¬ world.hierarchy.OfCalls (value.classOf session.objects)
  contents : ∀ value ∈ scope.values, value.content session.objects ∈ scope.values
  /-- Every value has a formatter. -/
  formats (cls : ClassId) : (session.formatters.rule world.hierarchy.linearization cls).isSome
  formatters : session.formatters.Remembers world.hierarchy.linearization

section Hosts

variable {hierarchy : Hierarchy} {host : Host}

theorem Host.equipped_standard (objects : ∀ cls, .object ∈ hierarchy.linearization cls)
    (registry : ℕ) : (Host.standard registry).Equipped hierarchy where
  answers cls := by
    rcases found : (Host.standard registry).handlers.rule hierarchy.linearization cls with _ | handler
    · have nothing := List.findSome?_eq_none_iff.mp found .object (objects cls)
      cases nothing
    · refine ⟨handler, rfl, ?_⟩
      obtain ⟨ancestor, -, present⟩ := List.exists_of_findSome?_eq_some found
      have mem := mem_of_lookup present
      simp only [Host.standard, List.mem_cons, Prod.mk.injEq, List.not_mem_nil, or_false] at mem
      rcases mem with ⟨-, rfl⟩ | ⟨-, rfl⟩ | ⟨-, rfl⟩ | ⟨-, rfl⟩ | ⟨-, rfl⟩ | ⟨-, rfl⟩ <;> rfl
  remembers _ _ mem := absurd mem List.not_mem_nil

theorem Host.Equipped.remember (equipped : host.Equipped hierarchy) (cls : ClassId) :
    ({ host with handlers :=
      (host.handlers.lookup hierarchy.linearization cls).2 } : Host).Equipped hierarchy := by
  obtain ⟨-, entries, remembers⟩ := DispatchMap.lookup_eq_rule equipped.remembers cls
  refine ⟨fun other => ?_, remembers⟩
  rw [DispatchMap.rule, entries]
  exact equipped.answers other

theorem Host.Equipped.register (equipped : host.Equipped hierarchy) :
    ({ host with handlers :=
      host.handlers.register (.builtin .pendingCall) .arguments } : Host).Equipped hierarchy where
  answers cls := by
    rcases host.handlers.rule_register_cases (.builtin .pendingCall) cls .arguments with
      same | ⟨below, registered⟩
    · rw [same]
      exact equipped.answers cls
    · exact ⟨.arguments, registered, below⟩
  remembers := DispatchMap.remembers_register _ _

end Hosts

/-- A registry that was reached finds the members of every name and is reached again. -/
theorem Registry.Reached.lookup {world : World} (declared : world.Declared) {registry : Registry}
    (reached : registry.Reached world) (cls : ClassId) (name : String) :
    (∃ index, (RegistryM.runOn registry (Registry.lookup world cls name)).1 = .ok index) ∧
      (RegistryM.runOn registry (Registry.lookup world cls name)).2.1.Reached world := by
  obtain ⟨table, operations, rfl⟩ := reached
  constructor
  · obtain ⟨view, found⟩ := viewOf_answers declared table operations cls
    rw [runOn_lookup, found]
    exact ⟨_, rfl⟩
  · refine ⟨table, operations ++ [.lookup cls name], ?_⟩
    rw [after, after, List.foldl_append]
    exact (congrArg RegistryRun.registry (runFrom_discard _ _)).symm

namespace Act

variable {α β : Type}

/-- That a run leaves the session in order and comes to a result or a fault of some sets. -/
structure Upheld (world : World) (scope : Scope) (results : Set α) (faults : Set Fault)
    (made : Except Fault α × Session) : Prop where
  order : made.2.InOrder world scope
  result : ∀ result, made.1 = .ok result → result ∈ results
  fault : ∀ fault, made.1 = .error fault → fault ∈ faults

/-- That work leaves sessions in order, with results and faults of some sets. -/
def Upholds (world : World) (scope : Scope) (results : Set α) (faults : Set Fault) (work : Act α) :
    Prop :=
  ∀ session : Session, session.InOrder world scope →
    Upheld world scope results faults (work.runFrom session)

variable {world : World} {scope : Scope} {results : Set α} {others : Set β} {faults more : Set Fault}

theorem upheld_ok {session : Session} {result : α} (order : session.InOrder world scope)
    (given : result ∈ results) : Upheld world scope results faults (.ok result, session) where
  order := order
  result := by
    rintro _ ⟨⟩
    exact given
  fault := by
    rintro _ ⟨⟩

theorem upheld_error {session : Session} {fault : Fault} (order : session.InOrder world scope)
    (raised : fault ∈ faults) : Upheld world scope results faults (.error fault, session) where
  order := order
  result := by
    rintro _ ⟨⟩
  fault := by
    rintro _ ⟨⟩
    exact raised

theorem upholds_pure {result : α} (given : result ∈ results) :
    Upholds world scope results faults (pure result : Act α) :=
  fun _ order => upheld_ok order given

theorem upholds_throw {fault : Fault} (raised : fault ∈ faults) :
    Upholds world scope results faults (throw fault : Act α) :=
  fun _ order => upheld_error order raised

theorem Upholds.bind {work : Act α} {next : α → Act β}
    (first : Upholds world scope results faults work)
    (second : ∀ result ∈ results, Upholds world scope others faults (next result)) :
    Upholds world scope others faults (work >>= next) := by
  intro session order
  obtain ⟨still, given, raised⟩ := first session order
  rw [runFrom_bind]
  rcases run : work.runFrom session with ⟨fault | result, after⟩
  all_goals rw [run] at still given raised
  · exact upheld_error still (raised fault rfl)
  · exact second result (given result rfl) after still

theorem Upholds.mono {work : Act α} {wider : Set α}
    (upholds : Upholds world scope results faults work)
    (given : results ⊆ wider) (raised : faults ⊆ more) : Upholds world scope wider more work := by
  intro session order
  obtain ⟨still, results, faults⟩ := upholds session order
  exact ⟨still, fun result made => given (results result made),
    fun fault made => raised (faults fault made)⟩

/-- An attempt raises nothing. -/
theorem Upholds.attempt {work : Act α} (upholds : Upholds world scope results faults work)
    (more : Set Fault) :
    Upholds world scope { made | (∀ result, made = .ok result → result ∈ results) ∧
      ∀ fault, made = .error fault → fault ∈ faults } more (attempt work) := by
  intro session order
  obtain ⟨still, given, raised⟩ := upholds session order
  exact upheld_ok still ⟨given, raised⟩

theorem Upholds.mapM {step : α → Act β} {items : List α}
    (each : ∀ item ∈ items, Upholds world scope Set.univ faults (step item)) :
    Upholds world scope Set.univ faults (items.mapM step) := by
  induction items with
  | nil => exact upholds_pure trivial
  | cons item items ih =>
      rw [List.mapM_cons]
      exact (each item List.mem_cons_self).bind fun first _ =>
        (ih fun other mem => each other (List.mem_cons_of_mem _ mem)).bind fun rest _ =>
          upholds_pure trivial

theorem upholds_modify {change : Session → Session}
    (keeps : ∀ session : Session, session.InOrder world scope → (change session).InOrder world scope) :
    Upholds world scope Set.univ faults (modify change : Act Unit) :=
  fun session order => upheld_ok (keeps session order) trivial

/-- Leaving sessions in order is a habit. -/
def Habit.upkeep (world : World) (scope : Scope) : Habit where
  Of := Upholds world scope Set.univ Set.univ
  pure _ := upholds_pure trivial
  throw _ := upholds_throw trivial
  bind first second := first.bind fun result _ => second result
  attempt kept := (kept.attempt Set.univ).mono (Set.subset_univ _) (Set.subset_univ _)
  look _ := fun _ order => upheld_ok order trivial

theorem documented_of_escapes {fault : Fault} (escapes : fault.escapes = true) :
    fault ∈ scope.allowed :=
  .inl (.inr (.inr (.inr escapes)))

section Parts

theorem upholds_classOf {value : Value} (known : value ∈ scope.values) :
    Upholds world scope { cls | (∃ id, value = .pending id) ∨ ¬ world.hierarchy.OfCalls cls } faults
      (classOf value) :=
  fun _ order => upheld_ok order (order.values value known)

theorem upholds_contentOf {value : Value} (known : value ∈ scope.values) :
    Upholds world scope scope.values faults (contentOf value) :=
  fun _ order => upheld_ok order (order.contents value known)

theorem upholds_report (event : Event) : Upholds world scope Set.univ faults (report event) :=
  upholds_modify fun _ order => ⟨order.1, order.2, order.3, order.4, order.5, order.6, order.7⟩

theorem upholds_callAt (id : ℕ) :
    Upholds world scope { call | call.Within scope } scope.allowed (callAt id) := by
  intro session order
  rcases found : session.calls[id]? with _ | call
  · have run : (callAt id).runFrom session =
        (.error (.say .system "no such pending call"), session) := by
      simp only [callAt, callAt?, runFrom_bind, runFrom_get, runFrom_pure, found]
      rfl
    rw [run]
    exact upheld_error order (documented_of_escapes rfl)
  · have run : (callAt id).runFrom session = (.ok call, session) := by
      simp only [callAt, callAt?, runFrom_bind, runFrom_get, runFrom_pure, found]
    rw [run]
    exact upheld_ok order (order.calls found)

theorem upholds_changeCall (id : ℕ) (change : PendingCall → PendingCall)
    (keeps : ∀ call : PendingCall, call.Within scope → (change call).Within scope) :
    Upholds world scope Set.univ faults (changeCall id change) := by
  refine upholds_modify fun session order =>
    ⟨order.1, order.2, fun {other call} found => ?_, order.4, order.5, order.6, order.7⟩
  simp only [Array.getElem?_modify] at found
  split at found
  · obtain ⟨old, there, rfl⟩ := Option.map_eq_some_iff.mp found
    exact keeps old (order.calls there)
  · exact order.calls found

theorem upholds_addCall {call : PendingCall} (within : call.Within scope) :
    Upholds world scope Set.univ faults (addCall call) := by
  intro session order
  refine upheld_ok ⟨order.1, order.2, fun {other found} there => ?_, order.4, order.5, order.6,
    order.7⟩ trivial
  change (session.calls.push call)[other]? = some found at there
  rw [Array.getElem?_push] at there
  split at there
  · exact Option.some.inj there ▸ within
  · exact order.calls there

theorem Upholds.whileLocked {work : Act α} {id : ℕ}
    (upholds : Upholds world scope results faults work) :
    Upholds world scope results faults (Engine.whileLocked id work) := by
  have lock (locked : Bool) :
      Upholds world scope Set.univ faults (changeCall id fun call => { call with locked }) :=
    upholds_changeCall id _ fun _ within => ⟨within.1, within.2, within.3, within.4⟩
  unfold Engine.whileLocked
  refine (lock true).bind fun _ _ => ?_
  refine (upholds.attempt faults).bind fun made parts => ?_
  refine (lock false).bind fun _ _ => ?_
  rcases made with fault | result
  · exact upholds_throw (parts.2 fault rfl)
  · exact upholds_pure (parts.1 result rfl)

/-- Changing a host in a way that leaves it equipped. -/
theorem upholds_changeHost (host : ℕ) (change : Host → Host)
    (keeps : ∀ host : Host, host.Equipped world.hierarchy → (change host).Equipped world.hierarchy) :
    Upholds world scope Set.univ faults
      (modify fun session => { session with hosts := session.hosts.modify host change } : Act Unit) := by
  refine upholds_modify fun session order =>
    ⟨fun {other served} found => ?_, order.2, order.3, order.4, order.5, order.6, order.7⟩
  simp only [Array.getElem?_modify] at found
  split at found
  · obtain ⟨old, there, rfl⟩ := Option.map_eq_some_iff.mp found
    exact keeps old (order.hosts there)
  · exact order.hosts found

theorem upholds_hostAt (host : ℕ) :
    Upholds world scope { served | served.Equipped world.hierarchy } scope.allowed (hostAt host) := by
  intro session order
  rcases found : session.hosts[host]? with _ | served
  · have run : (hostAt host).runFrom session = (.error (.say .system "no such host"), session) := by
      simp only [hostAt, runFrom_bind, runFrom_get, found]
      rfl
    rw [run]
    exact upheld_error order (documented_of_escapes rfl)
  · have run : (hostAt host).runFrom session = (.ok served, session) := by
      simp only [hostAt, runFrom_bind, runFrom_get, found, runFrom_pure]
    rw [run]
    exact upheld_ok order (order.hosts found)

/-- Work on a registry that gives a result on each that was reached and leads to such again fails only
without a registry. -/
theorem upholds_onRegistry {work : RegistryM α} (id : ℕ)
    (leads : ∀ registry : Registry, registry.Reached world →
      (∃ result ∈ results, (RegistryM.runOn registry work).1 = .ok result) ∧
        (RegistryM.runOn registry work).2.1.Reached world)
    (absent : .say .system "no such registry" ∈ faults) :
    Upholds world scope results faults (onRegistry id work) := by
  intro session order
  simp only [onRegistry, runFrom_bind, runFrom_get]
  rcases found : session.registries[id]? with _ | registry
  · exact upheld_error order absent
  · rcases leads registry (order.registries found) with ⟨⟨result, given, answered⟩, reached⟩
    rcases run : RegistryM.runOn registry work with ⟨outcome, next, events⟩
    rw [run] at answered reached
    obtain rfl : outcome = .ok result := answered
    simp only [run, runFrom_bind, runFrom_set, runFrom_pure]
    refine upheld_ok ⟨order.1, ?_, order.3, order.4, order.5, order.6, order.7⟩ given
    intro other registry here
    change (session.registries.set! _ next)[other]? = some registry at here
    rw [Array.set!_eq_setIfInBounds, Array.getElem?_setIfInBounds] at here
    split at here
    · split at here
      · exact Option.some.inj here ▸ reached
      · cases here
    · exact order.registries here

end Parts

end Act

end MemberDispatch
