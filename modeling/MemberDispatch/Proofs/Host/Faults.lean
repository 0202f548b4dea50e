import MemberDispatch.Machine
import MemberDispatch.Proofs.Host.Setting
import MemberDispatch.Proofs.Host.Upkeep

/-!
# Which faults surface

Property steps, arguments for pending calls and requests for their outcomes fail with documented
faults, except over descriptions: the text that a step has for its name, and the texts and displays that
a complaint shows. A fault that one of these raises surfaces as it is. That a member or a conversion of
its arguments fails never surfaces otherwise than as documented.
-/

namespace MemberDispatch

open Act

/-- That the operations of an engine leave sessions in order, that its calls and steps give values that
are known, and that known values are described with faults that are known. -/
structure Engine.Tends (engine : Engine) (scope : Scope) : Prop where
  call (callable : Callable) (arguments : List Value) :
    Upholds engine.world scope scope.values Set.univ (engine.call callable arguments)
  operate (operator : Operator) (operands : List Value) :
    Upholds engine.world scope Set.univ Set.univ (engine.operate operator operands)
  text (value : Value) : Upholds engine.world scope Set.univ Set.univ (engine.text value)
  display (value : Value) : Upholds engine.world scope Set.univ Set.univ (engine.display value)
  step (host : ℕ) {target argument : Value} (aimed : target ∈ scope.values)
    (given : argument ∈ scope.values) :
    Upholds engine.world scope scope.values Set.univ (engine.step host target argument none)
  tells {value : Value} (known : value ∈ scope.values) :
    Upholds engine.world scope Set.univ scope.allowed (engine.text value)
  shows {value : Value} (known : value ∈ scope.values) :
    Upholds engine.world scope Set.univ scope.allowed (engine.display value)

section Hosts

variable {world : World} {scope : Scope} {faults : Set Fault}

namespace Act

/-- The handler for values of a class is of a built-in kind. -/
theorem upholds_handlerFor (host : ℕ) (cls : ClassId) :
    Upholds world scope { handler | handler.Builtin world.hierarchy cls } scope.allowed
      (handlerFor world.hierarchy host cls) := by
  unfold handlerFor
  refine (upholds_hostAt host).bind fun served equipped => ?_
  obtain ⟨found, -, -⟩ := DispatchMap.lookup_eq_rule (Host.Equipped.remembers equipped) cls
  obtain ⟨handler, rule, builtin⟩ := Host.Equipped.answers equipped cls
  have remembered := Host.Equipped.remember equipped cls
  dsimp only
  rw [found, rule]
  let remember (other : Host) : Host :=
    { other with
      handlers := (DispatchMap.lookup world.hierarchy.linearization served.handlers cls).2 }
  refine (upholds_changeHost host remember fun other _ =>
    ⟨remembered.answers, remembered.remembers⟩).bind fun _ _ => ?_
  exact upholds_pure builtin

theorem upholds_ensureHandler (host : ℕ) :
    Upholds world scope Set.univ scope.allowed
      (ensureHandler host (.builtin .pendingCall) .arguments) := by
  unfold ensureHandler
  refine (upholds_hostAt host).bind fun served _ => ?_
  split
  · exact upholds_pure trivial
  · exact upholds_changeHost host _ fun _ equipped => Host.Equipped.register equipped

/-- Looking up the members of a name fails only without a registry. -/
theorem upholds_lookup (declared : world.Declared) (registry : ℕ) (cls : ClassId) (name : String) :
    Upholds world scope Set.univ scope.allowed
      (onRegistry registry (Registry.lookup world cls name)) := by
  refine upholds_onRegistry registry ?_ (documented_of_escapes rfl)
  intro there reached
  rcases reached.lookup declared cls name with ⟨⟨index, answered⟩, again⟩
  exact ⟨⟨index, trivial, answered⟩, again⟩

/-- A handler with a registry of its own finds the members of a name unless the registry is gone. -/
theorem upholds_resolveIndex {engine : Engine} (declared : engine.world.Declared) {adaptor : Adaptor}
    (owned : adaptor.registry.isSome = true) (cls : ClassId) (name : String) :
    Upholds engine.world scope Set.univ scope.allowed (engine.resolveIndex adaptor cls name) := by
  obtain ⟨registry, given⟩ := Option.isSome_iff_exists.mp owned
  have registryOf : Upholds engine.world scope Set.univ scope.allowed (engine.registryOf adaptor) := by
    rw [Engine.registryOf, given]
    exact upholds_pure trivial
  unfold Engine.resolveIndex
  refine registryOf.bind fun registry _ => ?_
  refine (upholds_lookup declared registry cls _).bind fun index _ => ?_
  dsimp only
  split
  · exact upholds_lookup declared registry cls _
  · exact upholds_pure trivial

theorem upholds_candidatesOf (call : PendingCall) :
    Upholds world scope Set.univ faults (candidatesOf call) := by
  unfold candidatesOf
  split
  · exact upholds_pure trivial
  · exact fun _ order => upheld_ok order trivial

/-- What is kept of the outcome of the call of a number. -/
def outcomeAt (id : ℕ) : Act Value := do
  let call ← callAt id
  match call.fault with
  | some fault => throw fault
  | none => return call.result

theorem upholds_outcomeAt (id : ℕ) :
    Upholds world scope scope.values scope.allowed (outcomeAt id) := by
  refine (upholds_callAt id).bind fun call within => ?_
  split
  · rename_i fault raised
    exact upholds_throw (PendingCall.Within.fault within fault raised)
  · exact upholds_pure (PendingCall.Within.result within)

end Act

end Hosts

namespace Engine.Tends

variable {engine : Engine} {scope : Scope} (tends : engine.Tends scope)

include tends

theorem keeps : engine.Keeps (Habit.upkeep engine.world scope) where
  call callable arguments :=
    (tends.call callable arguments).mono (Set.subset_univ _) (Set.subset_univ _)
  text := tends.text
  display := tends.display
  operate := tends.operate

section Descriptions

/-- An argument shows by the formatter of its class, which is there. -/
theorem renderArgument {value : Value} (known : value ∈ scope.values) :
    Upholds engine.world scope Set.univ scope.allowed (engine.renderArgument value) := by
  unfold Engine.renderArgument
  refine (upholds_classOf known).bind fun cls _ => ?_
  intro session order
  obtain ⟨found, entries, remembers⟩ := DispatchMap.lookup_eq_rule order.formatters cls
  obtain ⟨formatter, rule⟩ := Option.isSome_iff_exists.mp (order.formats cls)
  rw [rule] at found
  let next : Session :=
    { session with
      formatters := (session.formatters.lookup engine.hierarchy.linearization cls).2 }
  have still : next.InOrder engine.world scope := by
    refine ⟨order.1, order.2, order.3, order.4, order.5, fun other => ?_, remembers⟩
    rw [DispatchMap.rule]
    change ((_ : List ClassId).findSome? fun ancestor => List.lookup ancestor
      (session.formatters.lookup engine.world.hierarchy.linearization cls).2.entries).isSome = true
    rw [entries]
    exact order.formats other
  simp only [runFrom_bind, runFrom_get, runFrom_set, found]
  suffices Upholds engine.world scope Set.univ scope.allowed _ from this next still
  cases formatter with
  | fixed text => exact upholds_pure trivial
  | quoted =>
      refine (upholds_contentOf known).bind fun content known => ?_
      split
      · exact upholds_pure trivial
      · exact (tends.tells known).bind fun _ _ => upholds_pure trivial
  | described => exact (tends.tells known).bind fun _ _ => upholds_pure trivial

theorem callPath {call : PendingCall} (within : call.Within scope) (count : Option ℤ) :
    Upholds engine.world scope Set.univ scope.allowed (engine.callPath call count) := by
  refine Upholds.bind (Upholds.mapM fun argument mem => ?_) fun _ _ => upholds_pure trivial
  exact tends.renderArgument (within.arguments argument (Slice.mem_of_mem_upTo mem))

/-- The complaint that a property step failed. -/
theorem complain {α : Type} {results : Set α} {target : Value} (aimed : target ∈ scope.values)
    (failure : Failure) (named : failure = .noMatch ∨ failure = .invocation)
    (path reason : String) (origin : Option Fault) :
    Upholds engine.world scope results scope.allowed
      (engine.failure failure target path reason origin >>= fun fault =>
        (throw (.property fault) : Act α)) := by
  have made : Upholds engine.world scope { fault | fault.failure = failure } scope.allowed
      (engine.failure failure target path reason origin) :=
    (tends.shows aimed).bind fun shown _ =>
      (upholds_classOf aimed).bind fun cls _ => upholds_pure rfl
  refine made.bind fun fault same => upholds_throw (.inl ?_)
  change fault.failure.kind = .noMatch ∨ fault.failure.kind = .invocation ∨ _
  rw [show fault.failure = failure from same]
  rcases named with rfl | rfl
  · exact .inl rfl
  · exact .inr (.inl rfl)

end Descriptions

section Calls

variable {call : PendingCall} (within : call.Within scope)

/-- The search for a member fails only with faults that no candidate's failure is. -/
theorem selectionOf (call : PendingCall) :
    Upholds engine.world scope Set.univ scope.allowed (engine.selectionOf call) := by
  refine (upholds_candidatesOf call).bind fun index _ => ?_
  have chosen : Upholds engine.world scope Set.univ scope.allowed
      (engine.choose index call.onlyPublic call.returns call.arguments 0) := by
    intro session order
    have kept := tends.keeps.choose index call.onlyPublic call.returns call.arguments 0 session order
    exact ⟨kept.order, kept.result, fun fault failed =>
      documented_of_escapes ((engine.choose_spec _ _ _ _ session).2 fault failed)⟩
  exact chosen.bind fun found _ => upholds_pure trivial

theorem startCall (within : call.Within scope) :
    Upholds engine.world scope Set.univ scope.allowed (engine.startCall call) :=
  (tends.selectionOf call).bind fun _ _ =>
    upholds_addCall ⟨within.target, within.arguments, within.result, within.fault⟩

/-- A fault of a step behind the member is an outcome, not a failure. -/
theorem applyRest (host used : ℕ) {result : Value} {arguments : List Value}
    (known : result ∈ scope.values) (given : ∀ argument ∈ arguments, argument ∈ scope.values) :
    Upholds engine.world scope { made | ∀ value, made = .ok value → value ∈ scope.values }
      scope.allowed (engine.applyRest host used result arguments) := by
  induction arguments generalizing used result with
  | nil => exact upholds_pure fun _ same => Except.ok.inj same ▸ known
  | cons argument arguments ih =>
      unfold Engine.applyRest
      refine ((tends.step host known (given argument List.mem_cons_self)).attempt _).bind
        fun made parts => ?_
      rcases made with fault | next
      · exact upholds_pure (by rintro _ ⟨⟩)
      · exact ih (used + 1) (parts.1 next rfl) fun other mem => given other (List.mem_cons_of_mem _ mem)

theorem runSelection (within : call.Within scope) (selection : Selection) :
    Upholds engine.world scope { made | ∀ value, made = .ok value → value ∈ scope.values }
      scope.allowed (engine.runSelection call selection) := by
  have used : Upholds engine.world scope scope.values Set.univ
      (engine.use selection.member call.target selection.arguments) := by
    unfold Engine.use
    split
    · exact upholds_throw trivial
    all_goals exact tends.call _ _
  unfold Engine.runSelection
  refine (used.attempt _).bind fun made parts => ?_
  rcases made with fault | result
  · exact upholds_pure (by rintro _ ⟨⟩)
  · exact tends.applyRest _ _ (parts.1 result rfl) fun argument mem =>
      within.arguments argument (List.mem_of_mem_drop mem)

/-- A call without a member is complained of, and so is the failure of its member unless it escapes. -/
theorem perform (within : call.Within scope) :
    Upholds engine.world scope scope.values scope.allowed (engine.perform call) := by
  unfold Engine.perform
  refine (upholds_classOf within.target).bind fun cls _ => ?_
  dsimp only
  split
  · refine (tends.callPath within _).bind fun path _ => (upholds_report _).bind fun _ _ => ?_
    refine (tends.callPath within _).bind fun path _ => ?_
    exact tends.complain within.target .noMatch (.inl rfl) _ _ _
  · refine (tends.runSelection within _).bind fun made known => ?_
    split
    · exact upholds_pure (known _ rfl)
    · split
      · rename_i escapes
        exact upholds_throw (documented_of_escapes escapes)
      · refine (tends.callPath within _).bind fun path _ => (upholds_report _).bind fun _ _ => ?_
        exact tends.complain within.target .invocation (.inr rfl) _ _ _

/-- What is kept of an outcome is as known as the outcome is. -/
theorem settle (id : ℕ) :
    Upholds engine.world scope scope.values scope.allowed (engine.settle id) := by
  have begun {call : PendingCall} (within : call.Within scope) :
      ({ call with phase := .resolved } : PendingCall).Within scope :=
    ⟨within.target, within.arguments, within.result, within.fault⟩
  unfold Engine.settle
  refine (upholds_callAt id).bind fun call within => ?_
  split
  · refine (upholds_changeCall id (fun call => { call with phase := .resolved })
      fun _ => begun).bind fun _ _ => ?_
    refine ((tends.perform (begun within)).attempt _).bind fun made parts => ?_
    split
    · rename_i result
      refine (upholds_changeCall id (fun call => { call with result }) fun _ within => ?_).bind
        fun _ _ => upholds_outcomeAt id
      exact ⟨within.target, within.arguments, parts.1 result rfl, within.fault⟩
    · rename_i fault
      refine (upholds_changeCall id (fun call => { call with fault := some (.property fault) })
        fun _ within => ?_).bind fun _ _ => upholds_outcomeAt id
      exact ⟨within.target, within.arguments, within.result,
        fun _ same => Option.some.inj same ▸ parts.2 _ rfl⟩
    · exact upholds_throw (parts.2 _ rfl)
  · exact upholds_outcomeAt id

theorem resolve (id : ℕ) :
    Upholds engine.world scope scope.values scope.allowed (engine.resolve id) :=
  (tends.settle id).whileLocked

theorem accept (id : ℕ) {argument : Value} (given : argument ∈ scope.values) :
    Upholds engine.world scope scope.values scope.allowed (engine.accept id argument) := by
  refine Upholds.whileLocked ?_
  refine (upholds_callAt id).bind fun call within => ?_
  split
  · refine (tends.callPath within _).bind fun path _ => (tends.shows given).bind fun shown _ => ?_
    exact upholds_throw (.inl (.inr (.inr (.inl rfl))))
  · let taken : PendingCall :=
      { call with arguments := call.arguments ++ [argument], phase := .accumulating }
    have known : taken.Within scope := by
      refine ⟨within.1, fun other mem => ?_, within.3, within.4⟩
      rcases List.mem_append.mp mem with mem | mem
      · exact within.2 other mem
      · exact List.mem_singleton.mp mem ▸ given
    have counted : Upholds engine.world scope scope.values scope.allowed (do
        if taken.arguments.length < (← candidatesOf taken).maxArity then return .pending id
        else engine.settle id) := by
      refine (upholds_candidatesOf taken).bind fun index _ => ?_
      split
      · exact upholds_pure (scope.pending id)
      · exact tends.settle id
    refine (upholds_changeCall id (fun _ => taken) fun _ _ => known).bind fun _ _ => ?_
    refine (tends.selectionOf taken).bind fun found _ => ?_
    split
    · refine (upholds_changeCall id (fun call => { call with selection := found })
        fun _ within => ?_).bind fun _ _ => counted
      exact ⟨within.target, within.arguments, within.result, within.fault⟩
    · exact counted

end Calls

section Steps

variable (declared : engine.world.Declared)

include declared

theorem adapt {adaptor : Adaptor} (owned : adaptor.registry.isSome = true) (host : ℕ) {target : Value}
    (aimed : target ∈ scope.values) (name : String) :
    Upholds engine.world scope scope.values scope.allowed
      (engine.adapt adaptor host target name) := by
  unfold Engine.adapt
  refine (upholds_classOf aimed).bind fun cls _ => ?_
  refine (upholds_resolveIndex declared owned cls name).bind fun index _ => ?_
  split
  · refine (upholds_report _).bind fun _ _ => ?_
    exact tends.complain aimed .noMatch (.inl rfl) _ _ _
  · have fresh : PendingCall.Within scope
        { host, target, name, index := .fixed index, onlyPublic := adaptor.onlyPublic,
          returns := adaptor.returns } :=
      ⟨aimed, fun _ none => absurd none List.not_mem_nil, scope.unset, by rintro _ ⟨⟩⟩
    refine (tends.startCall fresh).bind fun id _ => ?_
    split
    · exact tends.resolve id
    · exact (upholds_ensureHandler host).bind fun _ _ => upholds_pure (scope.pending id)

/-- A property step fails with a documented fault or with one of a description. -/
theorem stepWith (host : ℕ) {target prop : Value} (aimed : target ∈ scope.values)
    (given : prop ∈ scope.values) (name : Option String) :
    Upholds engine.world scope scope.values scope.allowed
      (engine.stepWith host target prop name) := by
  unfold Engine.stepWith
  refine (upholds_classOf aimed).bind fun cls other => ?_
  refine (upholds_handlerFor host cls).bind fun handler builtin => ?_
  have handled (name : String) : Upholds engine.world scope scope.values scope.allowed
      (engine.handle handler host target prop name) := by
    cases handler with
    | adaptor adaptor => exact tends.adapt declared builtin host aimed name
    | echo tag => exact absurd builtin id
    | arguments =>
        -- A host has this handler for classes of pending calls only, and no other value is of these.
        obtain ⟨id, rfl⟩ := other.resolve_right (not_not_intro builtin)
        exact tends.accept id given
  cases name with
  | some name => exact handled name
  | none => exact (tends.tells given).bind fun name _ => handled name

end Steps

end Engine.Tends

/-- What callers ask for: a property of a value through a host, or the next argument or the outcome of
a pending call. -/
inductive Access
  | property (host : ℕ) (target prop : Value) (name : Option String)
  | accept (id : ℕ) (argument : Value)
  | resolve (id : ℕ)

namespace Access

/-- The access as work over an engine. -/
def work (engine : Engine) : Access → Act Value
  | property host target prop name => engine.stepWith host target prop name
  | accept id argument => engine.accept id argument
  | resolve id => engine.resolve id

/-- That the values of an access are known. -/
def Known (scope : Scope) : Access → Prop
  | property _ target prop _ => target ∈ scope.values ∧ prop ∈ scope.values
  | accept _ argument => argument ∈ scope.values
  | resolve _ => True

end Access

namespace Engine

variable {engine : Engine} {scope : Scope}

/-- The session after accesses one after the other. -/
def accessAll (engine : Engine) (accesses : List Access) (session : Session) : Session :=
  accesses.foldl (fun session access => ((access.work engine).runFrom session).2) session

theorem Tends.access (tends : engine.Tends scope) (declared : engine.world.Declared) {access : Access}
    (known : access.Known scope) :
    Upholds engine.world scope scope.values scope.allowed (access.work engine) := by
  cases access with
  | property host target prop name => exact tends.stepWith declared host known.1 known.2 name
  | accept id argument => exact tends.accept id known
  | resolve id => exact tends.resolve id

/-- Accesses leave a session in order. -/
theorem Tends.accessAll (tends : engine.Tends scope) (declared : engine.world.Declared)
    {session : Session} (order : session.InOrder engine.world scope) (accesses : List Access)
    (known : ∀ access ∈ accesses, access.Known scope) :
    (engine.accessAll accesses session).InOrder engine.world scope := by
  induction accesses generalizing session with
  | nil => exact order
  | cons access accesses ih =>
      exact ih (tends.access declared (known access List.mem_cons_self) session order).order
        fun other mem => known other (List.mem_cons_of_mem _ mem)

section Examples

/-- An engine whose calls divide by zero, and which describes texts alone. -/
def failing : Engine :=
  { machine {} 0 with
    call := fun _ _ => throw (.say .zeroDivision "division by zero")
    text := fun value => match value with
      | .text text => return text
      | _ => throw tooDeep
    display := fun value => match value with
      | .text text => return Text.quoted text
      | _ => throw tooDeep }

/-- Texts, which have no description that fails. -/
def texts : Scope where
  values := { value | value = .unset ∨ (∃ id, value = .pending id) ∨ ∃ text, value = .text text }
  faults := ∅
  unset := .inl rfl
  pending id := .inr (.inl ⟨id, rfl⟩)

/-- A session with one host over a new registry. -/
def hosting : Session where
  hosts := #[.standard 0]
  registries := #[{}]

theorem inOrder_hosting : hosting.InOrder {} texts := by
  have objects (cls : ClassId) : .object ∈ ({} : World).hierarchy.linearization cls := by
    cases cls with
    | builtin kind => cases kind <;> decide
    | declared name => exact List.mem_cons_of_mem _ List.mem_cons_self
  refine ⟨fun {id host} found => ?_, fun {id registry} found => ?_, fun found => ?_, ?_, ?_,
    fun cls => ?_, fun _ _ mem => absurd mem List.not_mem_nil⟩
  · obtain rfl : host = .standard 0 := by simpa [hosting] using Array.mem_of_getElem? found
    exact Host.equipped_standard objects 0
  · obtain rfl : registry = {} := by simpa [hosting] using Array.mem_of_getElem? found
    exact ⟨{}, [], rfl⟩
  · cases found
  · rintro value (rfl | ⟨id, rfl⟩ | ⟨text, rfl⟩)
    · exact .inr (by decide : .builtin .pendingCall ∉ ({} : World).hierarchy.linearization .object)
    · exact .inl ⟨id, rfl⟩
    · exact .inr
        (by decide : .builtin .pendingCall ∉ ({} : World).hierarchy.linearization (.builtin .text))
  · rintro value (rfl | ⟨id, rfl⟩ | ⟨text, rfl⟩)
    · exact texts.unset
    · exact texts.pending id
    · exact .inr (.inr ⟨text, rfl⟩)
  · rw [Option.isSome_iff_ne_none]
    intro none
    cases List.findSome?_eq_none_iff.mp none .object (objects cls)

theorem tends_failing : failing.Tends texts := by
  have tells (value : Value) : Upholds {} texts Set.univ texts.allowed (failing.text value) := by
    cases value
    case text text => exact upholds_pure trivial
    all_goals exact upholds_throw (documented_of_escapes rfl)
  have shows (value : Value) : Upholds {} texts Set.univ texts.allowed (failing.display value) := by
    cases value
    case text text => exact upholds_pure trivial
    all_goals exact upholds_throw (documented_of_escapes rfl)
  exact
    { call := fun _ _ => upholds_throw trivial
      operate := fun _ _ => upholds_throw trivial
      text := fun value => (tells value).mono (Set.subset_univ _) (Set.subset_univ _)
      display := fun value => (shows value).mono (Set.subset_univ _) (Set.subset_univ _)
      step := fun _ _ _ _ _ => upholds_throw trivial
      tells := fun _ => tells _
      shows := fun _ => shows _ }

/-- The kind of the fault that an access comes to, if it fails. -/
def faultKind? (engine : Engine) (access : Access) (session : Session) : Option FaultKind :=
  match ((access.work engine).runFrom session).1 with
  | .ok _ => none
  | .error fault => some fault.kind

theorem exists_fault_of_kind {engine : Engine} {access : Access} {session : Session}
    {kind : FaultKind} (same : engine.faultKind? access session = some kind) :
    ∃ fault, ((access.work engine).runFrom session).1 = .error fault ∧ fault.kind = kind := by
  unfold faultKind? at same
  split at same
  · cases same
  · exact ⟨_, ‹_›, Option.some.inj same⟩

end Examples

end Engine

end MemberDispatch
