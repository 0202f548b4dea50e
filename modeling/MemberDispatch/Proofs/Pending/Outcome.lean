import MemberDispatch.Proofs.Pending.Course

/-!
# Outcomes of pending calls

The request that makes a call comes to some outcome, which it answers or of which it answers the text.
Every later request for the outcome answers what is kept of it: a value, and the failure of a property
step, as they are, and nothing of any other fault, in the place of which there is a value that stands
for no outcome.
-/

namespace MemberDispatch

namespace Engine

variable {engine : Engine} {place : Workplace} {session : Session} {call next : PendingCall}
  {request : Request} {told : Except Fault Value}

theorem serveAll_append (id : ℕ) (requests more : List Request) (session : Session) :
    engine.serveAll id (requests ++ more) session =
      engine.serveAll id more (engine.serveAll id requests session) :=
  List.foldl_append

/-- A turn that makes a call keeps what can be kept of the outcome that it answers. -/
theorem Turn.kept (turn : Turn engine place session call request told next)
    (sound : place.Sound call) (unresolved : call.phase ≠ .resolved)
    (resolved : next.phase = .resolved) :
    ∃ made, request.Tells engine made told ∧ next.kept = keepable made := by
  obtain ⟨unset, faultless⟩ := sound.fresh unresolved
  cases turn with
  | keeps ended => exact absurd ended unresolved
  | looks => exact absurd resolved unresolved
  | @makes _ made _ _ _ tells => exact ⟨made, tells, PendingCall.kept_keeping unset faultless made⟩
  | takes => cases resolved
  | @completes argument found _ _ _ _ =>
      have finding : ((call.taking argument).finding found).result = .unset ∧
          ((call.taking argument).finding found).fault = none := ⟨unset, faultless⟩
      exact ⟨told, rfl, PendingCall.kept_keeping finding.1 finding.2 told⟩
  | breaks => cases resolved

section Runs

variable (minds : engine.Minds place)

include minds

/-- Whatever requests were served, nobody is at work on the call. -/
theorem Minds.rests_serveAll (rests : place.Rests session call) (requests : List Request)
    (known : ∀ request ∈ requests, request.Known place) :
    ∃ last, place.Rests (engine.serveAll place.id requests session) last := by
  induction requests generalizing session call with
  | nil => exact ⟨call, rests⟩
  | cons request requests ih =>
      obtain ⟨next, serves⟩ := minds.serves rests request (known request List.mem_cons_self)
      exact ih serves.rests fun other mem => known other (List.mem_cons_of_mem _ mem)

/-- A call that has its outcome answers it. -/
theorem Minds.resolve_of_resolved (rests : place.Rests session call)
    (resolved : call.phase = .resolved) :
    ((engine.resolve place.id).runFrom session).1 = call.kept := by
  obtain ⟨next, serves⟩ := minds.serves rests .resolve trivial
  generalize outcome : ((Request.resolve.work engine place.id).runFrom session).1 = told
  have turn := serves.turn
  rw [outcome] at turn
  change ((Request.resolve.work engine place.id).runFrom session).1 = _
  rw [outcome]
  cases turn with
  | keeps _ tells => exact tells (.inl rfl)
  | makes unresolved => exact absurd resolved unresolved

/-- What becomes of the outcome of a pending call. The request that makes the call answers the outcome
or its text, and every later request for the outcome answers what is kept of it. -/
theorem resolve_after_made (request : Request) {before start : Session} (blank : place.call.Blank)
    (inside : before ∈ place.sessions ∧ start ∈ place.sessions)
    (begins : (engine.startCall place.call).runFrom before = (.ok place.id, start))
    {earlier later : List Request}
    (known : ∀ other ∈ earlier ++ request :: later, other.Known place)
    (waits : (engine.serveAll place.id earlier start).calls[place.id]? = some call)
    (unresolved : call.phase ≠ .resolved)
    (made : (engine.serveAll place.id (earlier ++ [request]) start).calls[place.id]? = some next)
    (resolved : next.phase = .resolved) :
    ∃ outcome, request.Tells engine outcome
        ((request.work engine place.id).runFrom (engine.serveAll place.id earlier start)).1 ∧
      ((engine.resolve place.id).runFrom
        (engine.serveAll place.id (earlier ++ request :: later) start)).1 = keepable outcome := by
  obtain ⟨first, -, rests, -⟩ := Progress.startCall minds blank inside begins
  obtain ⟨last, rests⟩ := minds.rests_serveAll rests earlier fun other mem =>
    known other (List.mem_append_left _ mem)
  obtain rfl : call = last := Option.some.inj (waits.symm.trans rests.holds.record)
  obtain ⟨after, serves⟩ := minds.serves rests request
    (known request (List.mem_append_right _ List.mem_cons_self))
  have record := serves.rests.holds.record
  rw [← serveAll_concat] at record
  obtain rfl : next = after := Option.some.inj (made.symm.trans record)
  obtain ⟨outcome, tells, kept⟩ := serves.turn.kept rests.sound unresolved resolved
  obtain ⟨still, -⟩ := minds.serveAll_of_resolved serves.rests resolved later fun other mem =>
    known other (List.mem_append_right _ (List.mem_cons_of_mem _ mem))
  refine ⟨outcome, tells, ?_⟩
  have same : engine.serveAll place.id (earlier ++ request :: later) start =
      engine.serveAll place.id later
        ((request.work engine place.id).runFrom (engine.serveAll place.id earlier start)).2 :=
    serveAll_append _ _ _ _
  rw [same, minds.resolve_of_resolved still resolved, kept]

end Runs

/-- A member that runs out of memory. -/
abbrev exhausted : Body :=
  .raise "MemoryError" "gone"

/-- Asked again and for its text in between, the call answers no outcome. -/
theorem resolve_after_exhausted :
    let engine := machine {} 1
    let place := telling exhausted
    let requests : List Request := [.lockedText, .resolve, .text]
    engine.Minds place ∧ place.call.Blank ∧
      ({} ∈ place.sessions ∧ tellingSession exhausted ∈ place.sessions) ∧
      (engine.startCall place.call).runFrom {} = (.ok 0, tellingSession exhausted) ∧
      (∀ request ∈ requests, request.Known place) ∧
      ∃ outcome, Request.resolve.Tells engine outcome ((engine.resolve 0).runFrom
          (engine.serveAll 0 [.lockedText] (tellingSession exhausted))).1 ∧
        ((engine.resolve 0).runFrom
          (engine.serveAll 0 requests (tellingSession exhausted))).1 = keepable outcome := by
  have minds : (machine {} 1).Minds (telling exhausted) :=
    minds_telling fun converted session call holds _ =>
      ⟨holds, Nat.le_succ _, fun _ same => nomatch same⟩
  have known : ∀ request ∈ [Request.lockedText] ++ .resolve :: [.text],
      request.Known (telling exhausted) := by
    intro request mem
    simp only [List.cons_append, List.nil_append, List.mem_cons, List.not_mem_nil, or_false] at mem
    rcases mem with rfl | rfl | rfl <;> trivial
  refine ⟨minds, blank_telling, inside_telling, startCall_telling, known, ?_⟩
  exact resolve_after_made minds .resolve blank_telling inside_telling startCall_telling known rfl
    nofun rfl rfl

/-- The call raised, and gives a value when it is asked again. -/
theorem resolve_forgets_fatal_fault :
    let engine := World.engine {}
    let made := (engine.resolve 0).runFrom (tellingSession exhausted)
    made.1 = .error (.say .memory "gone") ∧ ((engine.resolve 0).runFrom made.2).1 = .ok .unset :=
  ⟨rfl, rfl⟩

end Engine

end MemberDispatch
