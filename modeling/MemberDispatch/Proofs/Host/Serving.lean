import MemberDispatch.Host
import MemberDispatch.Proofs.Class.Dispatch
import MemberDispatch.Proofs.Session.Discretion

/-!
# Hosts at work

A host with the built-in handlers sends a step on any value but a pending call to a handler that
looks the member up, and a step on a pending call to the call. Answering a step only ever adds to
what it remembers, and the handler of pending calls, so which handler answers to which class stays.
-/

namespace MemberDispatch

/-- That values of a class are pending calls. -/
def Hierarchy.OfCalls (hierarchy : Hierarchy) (cls : ClassId) : Prop :=
  .builtin .pendingCall ∈ hierarchy.linearization cls

/-- That a host answers to values of every class but those of pending calls as given, and has no
other handler for pending calls than the one that passes them arguments. -/
structure Host.Serves (hierarchy : Hierarchy) (adaptors : ClassId → Option Adaptor) (host : Host) :
    Prop where
  others {cls : ClassId} (other : ¬ hierarchy.OfCalls cls) :
    host.handlers.rule hierarchy.linearization cls = (adaptors cls).map .adaptor
  own {handler : Handler}
    (found : host.handlers.entries.lookup (.builtin .pendingCall) = some handler) :
    handler = .arguments
  remembers : host.handlers.Remembers hierarchy.linearization

/-- The handler of a host for values of a class, if it looks members up. -/
def Host.adaptor? (hierarchy : Hierarchy) (host : Host) (cls : ClassId) : Option Adaptor :=
  match host.handlers.rule hierarchy.linearization cls with
  | some (.adaptor adaptor) => some adaptor
  | _ => none

/-- That the host of a number serves. -/
def Serving (hierarchy : Hierarchy) (adaptors : ClassId → Option Adaptor) (host : ℕ)
    (hosts : Array Host) : Prop :=
  ∃ served, hosts[host]? = some served ∧ served.Serves hierarchy adaptors

/-- That the host of a number has a handler for pending calls. -/
def Armed (host : ℕ) (hosts : Array Host) : Prop :=
  ∃ served, hosts[host]? = some served ∧ served.handlers.contains (.builtin .pendingCall) = true

variable {hierarchy : Hierarchy} {adaptors : ClassId → Option Adaptor} {served : Host}

section Handlers

theorem Host.serves_standard (hierarchy : Hierarchy) (registry : ℕ) :
    (Host.standard registry).Serves hierarchy ((Host.standard registry).adaptor? hierarchy) where
  others {cls} other := by
    rcases found : (Host.standard registry).handlers.rule hierarchy.linearization cls with _ | handler
    · simp [Host.adaptor?, found]
    · obtain ⟨ancestor, -, present⟩ := List.exists_of_findSome?_eq_some found
      have looksUp : ∃ adaptor, handler = .adaptor adaptor := by
        have mem := mem_of_lookup present
        simp only [Host.standard, List.mem_cons, Prod.mk.injEq, List.not_mem_nil, or_false] at mem
        rcases mem with ⟨-, rfl⟩ | ⟨-, rfl⟩ | ⟨-, rfl⟩ | ⟨-, rfl⟩ | ⟨-, rfl⟩ | ⟨-, rfl⟩ <;>
          exact ⟨_, rfl⟩
      obtain ⟨adaptor, rfl⟩ := looksUp
      simp [Host.adaptor?, found]
  own found := by
    have missing : (Host.standard registry).handlers.entries.lookup (.builtin .pendingCall) = none :=
      rfl
    rw [missing] at found
    cases found
  remembers _ _ mem := absurd mem List.not_mem_nil

/-- Remembering an answer changes nothing about the answers. -/
theorem Host.Serves.remember (serves : served.Serves hierarchy adaptors) (cls : ClassId) :
    ({ served with handlers :=
      (served.handlers.lookup hierarchy.linearization cls).2 } : Host).Serves hierarchy adaptors := by
  obtain ⟨-, entries, remembers⟩ := DispatchMap.lookup_eq_rule serves.remembers cls
  refine ⟨fun other => ?_, fun found => ?_, remembers⟩
  · rw [DispatchMap.rule, entries]
    exact serves.others other
  · rw [entries] at found
    exact serves.own found

theorem Host.Serves.register (serves : served.Serves hierarchy adaptors) :
    ({ served with handlers :=
      served.handlers.register (.builtin .pendingCall) .arguments } : Host).Serves hierarchy
        adaptors where
  others {cls} other := by
    rw [DispatchMap.rule_register_of_not_mem other]
    exact serves.others other
  own found := by
    simp only [DispatchMap.register, DispatchMap.lookup_put, if_true, Option.some.injEq] at found
    exact found.symm
  remembers := DispatchMap.remembers_register _ _

end Handlers

namespace Act

variable {host : ℕ} {hosts : Array Host}

theorem runFrom_hostAt (found : hosts[host]? = some served) (session : Session)
    (calls : Array PendingCall) :
    (hostAt host).runFrom (session.amid calls hosts) = (.ok served, session.amid calls hosts) := by
  have there : (session.amid calls hosts).hosts[host]? = some served := found
  simp only [hostAt, runFrom_bind, runFrom_get, there, runFrom_pure]

/-- Finding a handler gives the one of the nearest ancestor, and the host goes on serving. -/
theorem runFrom_handlerFor (found : hosts[host]? = some served)
    (serves : served.Serves hierarchy adaptors) (cls : ClassId) (session : Session)
    (calls : Array PendingCall) :
    ∃ after, Serving hierarchy adaptors host after ∧ (Armed host hosts → Armed host after) ∧
      (handlerFor hierarchy host cls).runFrom (session.amid calls hosts) =
        (match served.handlers.rule hierarchy.linearization cls with
          | some handler => .ok handler
          | none => .error (.raised .keyError (.missing cls.display)),
        session.amid calls after) := by
  obtain ⟨answer, entries, -⟩ := DispatchMap.lookup_eq_rule serves.remembers cls
  let handlers := (served.handlers.lookup hierarchy.linearization cls).2
  let remember (served : Host) : Host := { served with handlers }
  have there : (hosts.modify host remember)[host]? = some (remember served) := by
    simp [Array.getElem?_modify, found]
  refine ⟨hosts.modify host remember, ⟨_, there, serves.remember cls⟩, ?_, ?_⟩
  · rintro ⟨same, here, contains⟩
    obtain rfl : served = same := Option.some.inj (found.symm.trans here)
    refine ⟨_, there, ?_⟩
    rw [DispatchMap.contains] at contains ⊢
    change (handlers.entries.lookup _).isSome = true
    rw [entries]
    exact contains
  · simp only [handlerFor, runFrom_bind, runFrom_hostAt found, runFrom_modify, answer]
    rcases served.handlers.rule hierarchy.linearization cls with _ | handler <;> rfl

/-- Values of any class but those of pending calls go to the handler given for the class. -/
theorem runFrom_handlerFor_other (serving : Serving hierarchy adaptors host hosts) {cls : ClassId}
    (other : ¬ hierarchy.OfCalls cls) (session : Session) (calls : Array PendingCall) :
    ∃ after, Serving hierarchy adaptors host after ∧
      (handlerFor hierarchy host cls).runFrom (session.amid calls hosts) =
        (match adaptors cls with
          | some adaptor => .ok (.adaptor adaptor)
          | none => .error (.raised .keyError (.missing cls.display)),
        session.amid calls after) := by
  obtain ⟨served, found, serves⟩ := serving
  obtain ⟨after, still, -, run⟩ := runFrom_handlerFor found serves cls session calls
  refine ⟨after, still, ?_⟩
  rw [run, serves.others other]
  rcases adaptors cls with _ | adaptor <;> rfl

/-- Pending calls go to the handler that passes them arguments. -/
theorem runFrom_handlerFor_pendingCall {world : World}
    (serving : Serving world.hierarchy adaptors host hosts) (armed : Armed host hosts)
    (session : Session) (calls : Array PendingCall) :
    ∃ after, Serving world.hierarchy adaptors host after ∧ Armed host after ∧
      (handlerFor world.hierarchy host (.builtin .pendingCall)).runFrom
        (session.amid calls hosts) = (.ok .arguments, session.amid calls after) := by
  obtain ⟨served, found, serves⟩ := serving
  obtain ⟨after, still, kept, run⟩ := runFrom_handlerFor found serves (.builtin .pendingCall)
    session calls
  refine ⟨after, still, kept armed, ?_⟩
  obtain ⟨same, here, contains⟩ := armed
  obtain rfl : served = same := Option.some.inj (found.symm.trans here)
  obtain ⟨handler, own⟩ := Option.isSome_iff_exists.mp contains
  have rule : served.handlers.rule world.hierarchy.linearization (.builtin .pendingCall) =
      some .arguments := by
    have first : world.hierarchy.linearization (.builtin .pendingCall) =
        [.builtin .pendingCall, .object] := rfl
    rw [DispatchMap.rule, first, List.findSome?_cons, own, serves.own own]
  rw [run, rule]

/-- With a handler for pending calls ensured, the host goes on serving. -/
theorem runFrom_ensureHandler (serving : Serving hierarchy adaptors host hosts)
    (session : Session) (calls : Array PendingCall) :
    ∃ after, Serving hierarchy adaptors host after ∧ Armed host after ∧
      (ensureHandler host (.builtin .pendingCall) .arguments).runFrom (session.amid calls hosts) =
        (.ok (), session.amid calls after) := by
  obtain ⟨served, found, serves⟩ := serving
  have run := runFrom_hostAt found session calls
  rcases contains : served.handlers.contains (.builtin .pendingCall) with _ | _
  · let arm (served : Host) : Host :=
      { served with handlers := served.handlers.register (.builtin .pendingCall) .arguments }
    have there : (hosts.modify host arm)[host]? = some (arm served) := by
      simp [Array.getElem?_modify, found]
    refine ⟨hosts.modify host arm, ⟨_, there, serves.register⟩, ⟨_, there, ?_⟩, ?_⟩
    · simp only [arm, DispatchMap.contains, DispatchMap.register, DispatchMap.lookup_put, if_true,
        Option.isSome_some]
    · simp only [ensureHandler, runFrom_bind, run, contains]
      rfl
  · refine ⟨hosts, ⟨served, found, serves⟩, ⟨served, found, contains⟩, ?_⟩
    simp only [ensureHandler, runFrom_bind, run, contains]
    rfl

end Act

end MemberDispatch
