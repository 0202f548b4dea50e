import MemberDispatch.Proofs.Pending.Blame

/-!
# Searches that break off

The search for a member that an argument starts may break off, over a coercion that runs out of memory
or asks the interpreter to stop. Nothing is undone then: the argument stays taken, as one for which no
member was found. The member found before stays, and what comes next works with all arguments.
-/

namespace MemberDispatch

/-- The arguments that the member of a call does not take are one more once the call took one more. -/
theorem PendingCall.Fits.drop_taking {call : PendingCall} (fits : call.Fits) (argument : Value)
    {fit : Selection} (chosen : call.selection = some fit) :
    (call.taking argument).arguments.drop fit.consumed =
      call.arguments.drop fit.consumed ++ [argument] := by
  obtain ⟨counted, within⟩ := fits fit chosen
  exact List.drop_append_of_le_length (counted ▸ within)

namespace Engine

open Act

variable {engine : Engine} {place : Workplace} {session : Session} {call next : PendingCall}

/-- An argument over which a call fails without having its outcome was taken, and the search for a
member broke off. -/
theorem Turn.eq_taking_of_error {argument : Value} {fault : Fault}
    (turn : Turn engine place session call (.accept argument) (.error fault) next)
    (waits : next.phase ≠ .resolved) :
    next = call.taking argument ∧
      ((engine.choose place.index place.call.onlyPublic place.call.returns
        (call.arguments ++ [argument]) 0).runFrom (session.seeking place.id argument)).1 =
          .error fault := by
  cases turn with
  | keeps resolved => exact absurd resolved waits
  | makes _ asked => rcases asked with asked | asked <;> cases asked
  | completes => exact absurd (PendingCall.phase_keeping _ _) waits
  | breaks _ search => exact ⟨rfl, search⟩

section Runs

variable (minds : engine.Minds place) {before start : Session} (blank : place.call.Blank)
  (inside : before ∈ place.sessions ∧ start ∈ place.sessions)
  (begins : (engine.startCall place.call).runFrom before = (.ok place.id, start))

include minds blank inside begins

/-- What an argument leaves over which a call fails without having its outcome. The search for a member
among all arguments failed, with a fault that escapes. The argument stays taken and everything else in the
record is as it was, the member found before included. Asked for its outcome next, the call is made with
that member, and the argument becomes a property step like the others that the member does not take; another
argument is searched with behind it. -/
theorem taking_of_failed_accept {earlier : List Request} {argument : Value}
    (known : ∀ other ∈ earlier ++ [.accept argument], other.Known place)
    (waits : (engine.serveAll place.id earlier start).calls[place.id]? = some call)
    (unresolved : call.phase ≠ .resolved) {fault : Fault} {after : Session}
    (fails : (engine.accept place.id argument).runFrom (engine.serveAll place.id earlier start) =
      (.error fault, after))
    (record : after.calls[place.id]? = some next) (still : next.phase ≠ .resolved) :
    next = { call with arguments := call.arguments ++ [argument], phase := .accumulating } ∧
    (((engine.choose place.index place.call.onlyPublic place.call.returns
      (call.arguments ++ [argument]) 0).runFrom
        ((engine.serveAll place.id earlier start).seeking place.id argument)).1 = .error fault ∧
      fault.escapes = true) ∧
    (∃ begun outcome ended,
      Makes engine place .resolve ((engine.resolve place.id).runFrom after)
        { next with locked := true, phase := .resolved } begun outcome ended) ∧
    (∀ fit, next.selection = some fit →
      next.arguments.drop fit.consumed = call.arguments.drop fit.consumed ++ [argument]) ∧
    ∀ other ∈ place.arguments, ∃ last, Served engine place after next (.accept other)
      ((engine.accept place.id other).runFrom after) last := by
  have served := fun other mem => known other (List.mem_append_left _ mem)
  have taken : argument ∈ place.arguments := known _ (List.mem_append_right _ List.mem_cons_self)
  obtain ⟨rests, sought⟩ := Sought.of_startCall minds blank inside begins served waits unresolved
  obtain ⟨last, serves⟩ := minds.serves rests (.accept argument) taken
  have run : (Request.work engine place.id (.accept argument)).runFrom
      (engine.serveAll place.id earlier start) = (.error fault, after) := fails
  rw [run] at serves
  obtain rfl : next = last := Option.some.inj (record.symm.trans serves.rests.holds.record)
  -- Of all turns only one that breaks off fails and leaves the call without an outcome.
  obtain ⟨rfl, search⟩ := serves.turn.eq_taking_of_error still
  refine ⟨rfl, ⟨search, ?_⟩, ?_, fun fit => sought.fits.drop_taking argument, fun other mem => ?_⟩
  · obtain ⟨-, escapes⟩ := engine.choose_spec place.index place.call.onlyPublic place.call.returns
      (call.arguments ++ [argument]) ((engine.serveAll place.id earlier start).seeking place.id argument)
    exact escapes fault search
  · have run := congrArg
      (runFrom · (after.changing place.id fun call => { call with locked := true }))
      (bind_pure (engine.settle place.id)).symm
    exact minds.makes_of_settle .resolve (minds.holds_locked serves.rests) (serves.rests.sound.lock true)
      rfl still pure (fun _ _ => rfl) (fun _ => rfl) run
  · exact minds.serves serves.rests (.accept other) mem

end Runs

section Breaking

/-- What heeds the lock of a call heeds that of any other one at the same workplace. -/
theorem heeds_elsewhere {α : Type} {limit : ℕ} {results : Set α} {work : Act α}
    (heeds : Heeds place limit results work) (call : PendingCall) (index : Index) :
    Heeds { place with call, index } limit results work := by
  intro session record holds locked
  obtain ⟨still, bounded, given⟩ := heeds session record ⟨holds.inside, holds.record⟩ locked
  exact ⟨⟨still.inside, still.record⟩, bounded, given⟩

/-- A member that takes a whole number, and runs out of memory over anything else. -/
def breaker : Member :=
  { teller .echo with
    converters := [⟨0, .cls (.builtin .int), some (.body (.raise "MemoryError" "full"))⟩] }

/-- A call of either member. -/
def breaking : Workplace :=
  let index : Index := ⟨"tell", [teller .echo, breaker]⟩
  { telling .echo with call := { (telling .echo).call with index := .fixed index }, index }

theorem choose_breaking {arguments : List Value} (known : ∀ argument ∈ arguments, argument = .text "x")
    (session : Session) :
    (((machine {} 1).choose breaking.index true .object arguments 0).runFrom session).2 = session := by
  match arguments, known with
  | [], _ => rfl
  | [argument], known =>
      obtain rfl := known argument (.head _)
      rfl
  | _ :: _ :: _, _ => rfl

theorem minds_breaking : (machine {} 1).Minds breaking := by
  have minds : (machine {} 1).Minds (telling .echo) :=
    minds_telling fun converted session call holds _ => ⟨⟨holds.inside, holds.record⟩,
      Nat.le_of_eq (Array.size_push _), fun _ same => ⟨_, (Except.ok.inj same).symm⟩⟩
  refine ⟨minds.change, minds.report, fun _ => rfl, fun {arguments} known session call holds _ => ?_,
    fun {member} known converted session call holds _ => ?_, fun reached known => ?_, fun known => ?_, ?_,
    fun known => ?_, fun reached => ?_⟩
  · have same := choose_breaking known session
    exact ⟨same.symm ▸ holds, Nat.le_of_eq (congrArg breaking.uses same), fun _ _ => trivial⟩
  · rcases known with _ | ⟨_, _ | ⟨_, none⟩⟩
    · exact ⟨⟨holds.inside, holds.record⟩, Nat.le_of_eq (Array.size_push _),
        fun _ same => ⟨_, (Except.ok.inj same).symm⟩⟩
    · exact ⟨⟨holds.inside, holds.record⟩, Nat.le_of_eq (Array.size_push _),
        fun _ same => ⟨_, (Except.ok.inj same).symm⟩⟩
    · cases none
  · exact heeds_elsewhere (minds.step reached known) _ _
  · exact heeds_elsewhere (minds.renderArgument known) _ _
  · exact heeds_elsewhere minds.displayTarget _ _
  · exact heeds_elsewhere (minds.display known) _ _
  · exact heeds_elsewhere (minds.text reached) _ _

/-- A session with the call, which found the member without arguments. -/
def breakingSession : Session where
  calls := #[{ breaking.call with selection := some ⟨teller .echo, [], 0⟩ }]

/-- The coercion runs out of memory over the argument. The call keeps its member, which is used once the call
is asked for its outcome, and the argument, with which the next search starts. -/
theorem taking_of_breaking :
    let engine := machine {} 1
    let accepted := (engine.accept 0 (.text "x")).runFrom (engine.serveAll 0 [.lockedText] breakingSession)
    engine.Minds breaking ∧ breaking.call.Blank ∧
      ({} ∈ breaking.sessions ∧ breakingSession ∈ breaking.sessions) ∧
      (engine.startCall breaking.call).runFrom {} = (.ok 0, breakingSession) ∧
      (∀ other ∈ [.lockedText, .accept (.text "x")], Request.Known breaking other) ∧
      accepted.1 = .error (.say .memory "full") ∧
      ∃ next, accepted.2.calls[0]? = some next ∧ next.phase = .accumulating ∧
        next.arguments = [.text "x"] ∧ next.selection = some ⟨teller .echo, [], 0⟩ ∧
        (∃ begun outcome ended, Makes engine breaking .resolve ((engine.resolve 0).runFrom accepted.2)
          { next with locked := true, phase := .resolved } begun outcome ended) ∧
        ∃ last, Served engine breaking accepted.2 next (.accept (.text "x"))
          ((engine.accept 0 (.text "x")).runFrom accepted.2) last := by
  have inside : {} ∈ breaking.sessions ∧ breakingSession ∈ breaking.sessions :=
    @inside_telling .echo
  have blank : breaking.call.Blank := ⟨rfl, rfl, rfl, rfl, rfl, rfl⟩
  have begins : ((machine {} 1).startCall breaking.call).runFrom {} = (.ok 0, breakingSession) := rfl
  have known : ∀ other ∈ [Request.lockedText] ++ [.accept (.text "x")], Request.Known breaking other := by
    intro other mem
    simp only [List.cons_append, List.nil_append, List.mem_cons, List.not_mem_nil, or_false] at mem
    rcases mem with rfl | rfl
    · trivial
    · exact rfl
  obtain ⟨-, -, makes, -, serves⟩ := taking_of_failed_accept minds_breaking blank inside begins known rfl
    nofun rfl rfl nofun
  exact ⟨minds_breaking, blank, inside, begins, known, rfl, _, rfl, rfl, rfl, rfl, makes, serves _ rfl⟩

/-- The call was as it was started, and has taken the argument although the coercion ran out of memory. -/
theorem accept_keeps_argument_of_failure :
    let engine := World.engine {}
    let accepted := (engine.accept 0 (.text "x")).runFrom breakingSession
    accepted.1 = .error (.say .memory "full") ∧ (Fault.say .memory "full").isFatal = true ∧
      (breakingSession.calls[0]?.map fun call => (call.phase, call.arguments)) = some (.seeded, []) ∧
      (accepted.2.calls[0]?.map fun call => (call.phase, call.arguments)) =
        some (.accumulating, [.text "x"]) :=
  ⟨rfl, rfl, rfl, rfl⟩

end Breaking

end Engine

end MemberDispatch
