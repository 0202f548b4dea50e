import Mathlib.Data.List.Induction
import MemberDispatch.Machine
import MemberDispatch.Proofs.Class.Dispatch
import MemberDispatch.Proofs.Index.FirstFit
import MemberDispatch.Proofs.Pending.Requests

/-!
# The course of a pending call

A pending call is seeded, accumulates arguments and is resolved, by the first request for its outcome
or its text or by as many arguments as any member takes. Up to then it keeps the member that was found
for the largest number of its first arguments, each search being made over these arguments as they
were given. From then on its record is as it is: its member is not used again and arguments are
refused.
-/

namespace MemberDispatch

namespace Engine

open Act

variable (engine : Engine) (place : Workplace)

/-- The session once requests were served, which those that fail are too. -/
def serveAll (id : ℕ) (requests : List Request) (session : Session) : Session :=
  requests.foldl (fun session request => ((request.work engine id).runFrom session).2) session

/-- The sessions in which a call looks for members while requests are served. -/
def searches (id : ℕ) : List Request → Session → List Session
  | [], _ => []
  | request :: requests, session =>
      let others := searches id requests ((request.work engine id).runFrom session).2
      match request with
      | .accept argument => session.seeking id argument :: others
      | _ => others

/-- What was found for the first arguments, each number of them looked for in its own session. -/
def foundIn (sessions : List Session) (arguments : List Value) (count : ℕ) : Option Choice :=
  match sessions[count]? with
  | none => none
  | some session =>
      match ((engine.choose place.index place.call.onlyPublic place.call.returns
        (arguments.take count) 0).runFrom session).1 with
      | .ok found => found
      | .error _ => none

variable {engine place}

theorem serveAll_concat (id : ℕ) (requests : List Request) (request : Request) (session : Session) :
    engine.serveAll id (requests ++ [request]) session =
      ((request.work engine id).runFrom (engine.serveAll id requests session)).2 := by
  simp only [serveAll, List.foldl_append, List.foldl_cons, List.foldl_nil]

theorem searches_append (id : ℕ) (requests more : List Request) (session : Session) :
    engine.searches id (requests ++ more) session =
      engine.searches id requests session ++
        engine.searches id more (engine.serveAll id requests session) := by
  induction requests generalizing session with
  | nil => rfl
  | cons request requests ih =>
      cases request with
      | accept argument => exact congrArg (_ :: ·) (ih _)
      | _ => exact ih _

theorem length_searches (id : ℕ) (requests : List Request) (session : Session) :
    (engine.searches id requests session).length = requests.countP Request.isAccept := by
  induction requests generalizing session with
  | nil => rfl
  | cons request requests ih =>
      cases request with
      | accept argument =>
          rw [List.countP_cons_of_pos rfl]
          exact congrArg (· + 1) (ih _)
      | resolve | text | lockedText =>
          rw [List.countP_cons_of_neg (by decide)]
          exact ih _

/-- More sessions and more arguments change nothing of what was found before. -/
theorem foundIn_append {sessions : List Session} {arguments : List Value} {count : ℕ}
    (searched : count < sessions.length) (given : count ≤ arguments.length)
    (others : List Session) (more : List Value) :
    engine.foundIn place (sessions ++ others) (arguments ++ more) count =
      engine.foundIn place sessions arguments count := by
  unfold foundIn
  rw [List.getElem?_append_left searched, List.take_append_of_le_length given]

/-- What a search came to. One that fails finds nothing. -/
def foundBy : Except Fault (Option Choice) → Option Choice
  | .ok found => found
  | .error _ => none

/-- What was found for one more argument, in a session of its own. -/
theorem foundIn_concat {sessions : List Session} {arguments : List Value} {argument : Value}
    {session : Session} (counted : sessions.length = arguments.length + 1) :
    engine.foundIn place (sessions ++ [session]) (arguments ++ [argument]) (arguments.length + 1) =
      foundBy ((engine.choose place.index place.call.onlyPublic place.call.returns
        (arguments ++ [argument]) 0).runFrom session).1 := by
  have length : (arguments ++ [argument]).length = arguments.length + 1 := List.length_append
  unfold foundIn
  rw [← counted, List.getElem?_concat_length, counted, ← length, List.take_length]
  rfl

/-- What is found for one more argument takes the place of what was found before. -/
theorem latest_concat {sessions : List Session} {arguments : List Value}
    {selection : Option Selection}
    (latest : Latest (engine.foundIn place sessions arguments) arguments.length selection)
    (counted : sessions.length = arguments.length + 1) (session : Session) (argument : Value) :
    Latest (engine.foundIn place (sessions ++ [session]) (arguments ++ [argument]))
      (arguments ++ [argument]).length
      (((engine.foundIn place (sessions ++ [session]) (arguments ++ [argument])
        (arguments.length + 1)).map fun choice =>
          ⟨choice.member, choice.arguments, (arguments ++ [argument]).length⟩) <|> selection) := by
  have before : Latest (engine.foundIn place (sessions ++ [session]) (arguments ++ [argument]))
      arguments.length selection := by
    refine latest.congr fun count le => (foundIn_append ?_ le _ _).symm
    omega
  have length : (arguments ++ [argument]).length = arguments.length + 1 := List.length_append
  rw [length]
  exact before.succ

/-- How far a call is once requests were served: whether it is made, which arguments it has taken and
which member was found for them, each search in a session of its own. -/
structure Progress (engine : Engine) (place : Workplace) (sessions : List Session)
    (requests : List Request) (call : PendingCall) : Prop where
  resolved : call.phase = .resolved ↔ Request.Concluded (max 1 place.index.maxArity) requests
  seeded : call.phase = .seeded ↔ call.phase ≠ .resolved ∧ call.arguments = []
  arguments : call.arguments = Request.taken (max 1 place.index.maxArity) requests
  selection :
    Latest (engine.foundIn place sessions call.arguments) call.arguments.length call.selection

/-- That searches for members answer, whatever the arguments. -/
def Answers (engine : Engine) (place : Workplace) : Prop :=
  ∀ {arguments : List Value}, (∀ argument ∈ arguments, argument ∈ place.arguments) →
    Succeeds place
      (engine.choose place.index place.call.onlyPublic place.call.returns arguments 0)

namespace Progress

variable {sessions : List Session} {requests : List Request} {call : PendingCall}
  (progress : Progress engine place sessions requests call)

include progress

/-- Sessions that come later change nothing of what was found. -/
theorem selection_append (searched : call.arguments.length < sessions.length)
    (others : List Session) :
    Latest (engine.foundIn place (sessions ++ others) call.arguments) call.arguments.length
      call.selection := by
  refine progress.selection.congr fun count le => ?_
  have same : engine.foundIn place (sessions ++ others) (call.arguments ++ []) count =
      engine.foundIn place sessions call.arguments count :=
    foundIn_append (Nat.lt_of_le_of_lt le searched) le others []
  rw [List.append_nil] at same
  exact same.symm

/-- A call that has its outcome stays as it is. -/
theorem keep (resolved : call.phase = .resolved)
    (searched : call.arguments.length < sessions.length) (request : Request)
    (others : List Session) :
    Progress engine place (sessions ++ others) (requests ++ [request]) call where
  resolved := ⟨fun _ => (progress.resolved.mp resolved).append _, fun _ => resolved⟩
  seeded := progress.seeded
  arguments := progress.arguments.trans
    (Request.taken_append_of_concluded (progress.resolved.mp resolved) _).symm
  selection := progress.selection_append searched others

/-- A look at a call leaves it as it is. -/
theorem look : Progress engine place sessions (requests ++ [.lockedText]) call where
  resolved := progress.resolved.trans Request.concluded_concat_lockedText.symm
  seeded := progress.seeded
  arguments := progress.arguments.trans (Request.taken_concat rfl _ _).symm
  selection := progress.selection

/-- A call that is asked for its outcome or its text is made with what it has. -/
theorem make {request : Request} (asked : request = .resolve ∨ request = .text)
    (made : Except Fault Value) :
    Progress engine place sessions (requests ++ [request]) (call.keeping made) := by
  have concluded : Request.Concluded (max 1 place.index.maxArity) (requests ++ [request]) := by
    rcases asked with rfl | rfl
    · exact .inl (List.mem_append_right _ List.mem_cons_self)
    · exact .inr (.inl (List.mem_append_right _ List.mem_cons_self))
  have other : request.isAccept = false := by rcases asked with rfl | rfl <;> rfl
  have resolved := call.phase_keeping made
  refine ⟨⟨fun _ => concluded, fun _ => resolved⟩, ?_, ?_, ?_⟩
  · rw [resolved]
    exact ⟨nofun, fun seeded => absurd rfl seeded.1⟩
  · rw [PendingCall.arguments_keeping, Request.taken_concat other]
    exact progress.arguments
  · rw [PendingCall.arguments_keeping, PendingCall.selection_keeping]
    exact progress.selection

/-- What a call that takes an argument has then. -/
theorem take (unresolved : call.phase ≠ .resolved) {argument : Value} {found : Option Choice}
    {session : Session} (counted : sessions.length = call.arguments.length + 1)
    (search : ((engine.choose place.index place.call.onlyPublic place.call.returns
      (call.arguments ++ [argument]) 0).runFrom session).1 = .ok found) :
    let next := (call.taking argument).finding found
    next.arguments =
        Request.taken (max 1 place.index.maxArity) (requests ++ [.accept argument]) ∧
      Latest (engine.foundIn place (sessions ++ [session]) next.arguments) next.arguments.length
        next.selection ∧
      (Request.Concluded (max 1 place.index.maxArity) (requests ++ [.accept argument]) ↔
        place.index.maxArity ≤ call.arguments.length + 1) := by
  have collects : ¬ Request.Concluded (max 1 place.index.maxArity) requests :=
    fun concluded => unresolved (progress.resolved.mpr concluded)
  refine ⟨?_, ?_, ?_⟩
  · rw [Request.taken_concat_accept collects, ← progress.arguments]
    rfl
  · have latest := latest_concat progress.selection counted session argument
    rw [foundIn_concat counted, search] at latest
    exact latest
  · rw [Request.concluded_concat_accept collects, ← progress.arguments]
    omega

end Progress

section Runs

variable {session start : Session} {sessions : List Session} {requests : List Request}
  {call next : PendingCall} {request : Request} {made : Except Fault Value × Session}
  (minds : engine.Minds place) (answers : engine.Answers place)

include minds answers

/-- Serving one more request takes a call one turn further. -/
theorem Progress.serve (progress : Progress engine place sessions requests call)
    (rests : place.Rests session call)
    (counted : sessions.length = requests.countP Request.isAccept + 1)
    (known : request.Known place)
    (serves : Served engine place session call request made next) :
    Progress engine place (sessions ++ engine.searches place.id [request] session)
      (requests ++ [request]) next := by
  have few := Request.length_taken_le (max 1 place.index.maxArity) requests
  rw [← progress.arguments] at few
  have waits (unresolved : call.phase ≠ .resolved) :
      sessions.length = call.arguments.length + 1 := by
    rw [progress.arguments, Request.length_taken, counted]
    exact fun concluded => unresolved (progress.resolved.mpr concluded)
  have turn := serves.turn
  generalize made.1 = told at turn
  -- A call is made either because it was asked for, or because its arguments are complete; in all other
  -- turns it waits as it did.
  cases turn with
  | keeps resolved => exact progress.keep resolved (by omega) _ _
  | looks =>
      change Progress engine place (sessions ++ []) _ _
      rw [List.append_nil]
      exact progress.look
  | makes unresolved asked =>
      have none : engine.searches place.id [request] session = [] := by
        rcases asked with rfl | rfl <;> rfl
      rw [none, List.append_nil]
      exact progress.make asked _
  | @takes argument found unresolved search room =>
      obtain ⟨given, latest, concluded⟩ := progress.take unresolved (waits unresolved) search
      refine ⟨⟨nofun, fun ended => ?_⟩, ⟨nofun, fun seeded => ?_⟩, given, latest⟩
      · exact absurd (concluded.mp ended) (Nat.not_le.mpr room)
      · exact absurd seeded.2 (List.append_ne_nil_of_right_ne_nil _ (List.cons_ne_nil _ _))
  | @completes argument found outcome unresolved search full =>
      obtain ⟨given, latest, concluded⟩ := progress.take unresolved (waits unresolved) search
      have resolved := ((call.taking argument).finding found).phase_keeping told
      refine ⟨⟨fun _ => concluded.mpr full, fun _ => resolved⟩, ?_, ?_, ?_⟩
      · rw [resolved]
        exact ⟨nofun, fun seeded => absurd rfl seeded.1⟩
      · rw [PendingCall.arguments_keeping]
        exact given
      · rw [PendingCall.arguments_keeping, PendingCall.selection_keeping]
        exact latest
  | @breaks argument fault unresolved search =>
      obtain ⟨seeks, -⟩ := minds.holds_seeking rests argument
      have sound := rests.sound.taking unresolved known
      obtain ⟨found, answer⟩ := answers sound.arguments _ _ seeks rfl
      cases search.symm.trans answer

/-- Whatever requests a call serves, it takes its course. -/
theorem Progress.serveAll (first : Session) (progress : Progress engine place [first] [] call)
    (rests : place.Rests start call) (requests : List Request)
    (known : ∀ request ∈ requests, request.Known place) :
    ∃ last, Progress engine place (first :: engine.searches place.id requests start) requests last ∧
      place.Rests (engine.serveAll place.id requests start) last ∧
        place.uses (engine.serveAll place.id requests start) + call.spent ≤
          place.uses start + last.spent := by
  induction requests using List.reverseRecOn with
  | nil => exact ⟨call, progress, rests, Nat.le_refl _⟩
  | append_singleton requests request ih =>
      obtain ⟨between, progress, rests, uses⟩ :=
        ih fun request mem => known request (List.mem_append_left _ mem)
      have known := known request (List.mem_append_right _ List.mem_cons_self)
      obtain ⟨next, serves⟩ := minds.serves rests request known
      have counted : (first :: engine.searches place.id requests start).length =
          requests.countP Request.isAccept + 1 :=
        congrArg (· + 1) (length_searches _ _ _)
      refine ⟨next, ?_, ?_, ?_⟩
      · rw [searches_append]
        exact progress.serve minds answers rests counted known serves
      · rw [serveAll_concat]
        exact serves.rests
      · have step := serves.uses
        rw [serveAll_concat]
        omega

end Runs

/-- A call that has its outcome stays as it is whatever it is asked. -/
theorem Minds.serveAll_of_resolved {session : Session} {call : PendingCall}
    (minds : engine.Minds place) (rests : place.Rests session call)
    (resolved : call.phase = .resolved) (requests : List Request)
    (known : ∀ request ∈ requests, request.Known place) :
    place.Rests (engine.serveAll place.id requests session) call ∧
      place.uses (engine.serveAll place.id requests session) ≤ place.uses session := by
  induction requests generalizing session with
  | nil => exact ⟨rests, Nat.le_refl _⟩
  | cons request requests ih =>
      obtain ⟨next, serves⟩ := minds.serves rests request (known request List.mem_cons_self)
      obtain rfl := serves.turn.eq_of_resolved resolved
      obtain ⟨still, spent⟩ :=
        ih serves.rests fun other mem => known other (List.mem_cons_of_mem _ mem)
      have uses := serves.uses
      exact ⟨still, Nat.le_trans spent (by omega)⟩

/-- The path of a call can be rendered if its arguments can. -/
theorem Minds.succeeds_callPath {call : PendingCall} (minds : engine.Minds place)
    (renders : ∀ {argument : Value}, argument ∈ place.arguments →
      Succeeds place (engine.renderArgument argument))
    (sound : place.Sound call) (count : Option ℤ) : Succeeds place (engine.callPath call count) := by
  refine Succeeds.bind (Succeeds.mapM fun argument mem => ?_) (Heeds.mapM fun argument mem => ?_)
    fun _ => succeeds_pure _
  all_goals have known := sound.arguments argument (Slice.mem_of_mem_upTo mem)
  · exact ⟨renders known, minds.renderArgument known⟩
  · exact minds.renderArgument known

/-- That arguments can be described: rendered for a path, and displayed. -/
structure Describes (engine : Engine) (place : Workplace) : Prop where
  renderArgument {argument : Value} (known : argument ∈ place.arguments) :
    Succeeds place (engine.renderArgument argument)
  display {argument : Value} (known : argument ∈ place.arguments) :
    Succeeds place (engine.display argument)

section Describing

variable {session : Session} {call : PendingCall} (minds : engine.Minds place)
  (describes : engine.Describes place)

include minds describes

theorem Describes.callPath (sound : place.Sound call) : Succeeds place (engine.callPath call none) :=
  minds.succeeds_callPath describes.renderArgument sound none

/-- A call that has its outcome refuses arguments. -/
theorem Describes.accept_of_resolved (rests : place.Rests session call)
    (resolved : call.phase = .resolved) {argument : Value} (known : argument ∈ place.arguments) :
    ∃ path shown, ((engine.accept place.id argument).runFrom session).1 =
      .error (.alreadyResolved path shown) := by
  have locks := minds.holds_locked rests
  have sound := rests.sound.lock true
  obtain ⟨path, after, renders, still⟩ :=
    (describes.callPath minds sound).run (minds.callPath sound none) locks rfl
  obtain ⟨shown, last, displays, -⟩ :=
    (describes.display known).run (minds.display known) still rfl
  have ended : (call.phase == .resolved) = true := beq_iff_eq.mpr resolved
  unfold accept
  rw [runFrom_whileLocked_changing]
  dsimp only
  rw [runFrom_bind_of_ok (runFrom_callAt_of_record locks.record)]
  dsimp only
  rw [if_pos ended, runFrom_bind_of_ok renders, runFrom_bind_of_ok displays]
  exact ⟨path, shown, rfl⟩

/-- The text of a call that someone is at work on is its path. -/
theorem Describes.lockedText (rests : place.Rests session call) :
    ∃ path, ((Request.lockedText.work engine place.id).runFrom session).1 =
        .ok (.text ("locked:" ++ path)) ∧
      ((engine.callPath call none).runFrom
        (session.changing place.id fun call => { call with locked := true })).1 = .ok path := by
  have locks := minds.holds_locked rests
  have sound := rests.sound.lock true
  obtain ⟨path, after, renders, -⟩ :=
    (describes.callPath minds sound).run (minds.callPath sound none) locks rfl
  refine ⟨path, ?_, congrArg Prod.fst renders⟩
  unfold Request.work
  dsimp only
  rw [runFrom_whileLocked_map place.id (engine.callText place.id) Value.text,
    runFrom_whileLocked_changing]
  dsimp only
  rw [runFrom_bind, runFrom_callText_locked locks rfl, runFrom_bind_of_ok renders]
  rfl

end Describing

/-- What was found for no arguments is how far a call is before it serves any request. -/
theorem Progress.start {before : Session} {found : Option Choice} (blank : place.call.Blank)
    (search : ((engine.choose place.index place.call.onlyPublic place.call.returns
      place.call.arguments 0).runFrom before).1 = .ok found) :
    Progress engine place [before] [] (place.call.finding found) := by
  have unresolved := blank.unresolved
  have collects : ¬ Request.Concluded (max 1 place.index.maxArity) [] := by
    simp [Request.Concluded]
  have first : engine.foundIn place [before] [] 0 = found := by
    rw [blank.arguments] at search
    simp only [foundIn, List.getElem?_cons_zero, List.take_nil, search]
  have latest : Latest (engine.foundIn place [before] []) 0 _ := Latest.zero
  rw [first] at latest
  refine ⟨?_, ?_, ?_, ?_⟩
  · exact ⟨fun ended => absurd ended unresolved, fun concluded => absurd concluded collects⟩
  · exact ⟨fun _ => ⟨unresolved, blank.arguments⟩, fun _ => blank.phase⟩
  · rw [Request.taken_nil]
    exact blank.arguments
  · rw [blank.finding]
    dsimp only
    rw [blank.arguments]
    exact latest

section Starting

variable {before start : Session} (minds : engine.Minds place) (blank : place.call.Blank)
  (inside : before ∈ place.sessions ∧ start ∈ place.sessions)
  (begins : (engine.startCall place.call).runFrom before = (.ok place.id, start))

include minds blank inside begins

/-- A call that was started has no arguments and the member that takes none, if there is one. -/
theorem Progress.startCall :
    ∃ call, Progress engine place [before] [] call ∧ place.Rests start call ∧ call.spent = 0 := by
  have sound : place.Sound place.call :=
    ⟨rfl, rfl, rfl, rfl, rfl, rfl, by simp [blank.arguments], by simp [blank.selection],
      .inr blank.result, fun _ => ⟨blank.result, blank.fault⟩⟩
  obtain ⟨members, -⟩ := engine.choose_spec place.index place.call.onlyPublic place.call.returns
    place.call.arguments before
  unfold Engine.startCall at begins
  rw [runFrom_bind, minds.runFrom_selectionOf sound inside.1] at begins
  rcases search : (engine.choose place.index place.call.onlyPublic place.call.returns
    place.call.arguments 0).runFrom before with ⟨fault | found, after⟩
  all_goals rw [search] at begins members
  · cases begins
  · obtain ⟨made, rfl⟩ := Prod.mk.inj begins
    have id : after.calls.size = place.id := Except.ok.inj made
    have record : (after.calls.push { place.call with
        selection := found.map fun choice =>
          ⟨choice.member, choice.arguments, place.call.arguments.length⟩ })[place.id]? =
        some (place.call.finding found) := by
      rw [← id, Array.getElem?_push_size, blank.finding]
    refine ⟨place.call.finding found, Progress.start blank (congrArg Prod.fst search),
      ⟨⟨inside.2, record⟩, ?_, blank.unlocked⟩, if_neg blank.unresolved⟩
    exact sound.finding fun choice same => members choice (congrArg Except.ok same)

variable (answers : engine.Answers place) (describes : engine.Describes place)

include answers describes

end Starting

section Telling

/-- A member that takes no arguments. -/
def teller (body : Body) : Member where
  name := "tell"
  converters := []
  returns := .object
  role := .method (.tagged "str.tell" body)

/-- A call of the member on a text, where objects that are made count as uses. -/
def telling (body : Body) : Workplace where
  id := 0
  call :=
    { host := 0, target := .text "a", name := "tell", index := .fixed ⟨"tell", [teller body]⟩ }
  index := ⟨"tell", [teller body]⟩
  sessions := { session |
    session.formatters.rule (World.linearization {}) (.builtin .text) = some .quoted ∧
      session.formatters.Remembers (World.linearization {}) }
  arguments := {.text "x"}
  results := { result | ∃ address, result = .object address }
  uses session := session.objects.size

variable {body : Body}

theorem choose_teller (engine : Engine) (arguments : List Value) (session : Session) :
    (engine.choose ⟨"tell", [teller body]⟩ true .object arguments 0).runFrom session =
      (.ok (if arguments = [] then some ⟨teller body, []⟩ else none), session) := by
  cases arguments with
  | nil => rfl
  | cons argument arguments => rfl

theorem renderArgument_telling {session : Session} (inside : session ∈ (telling body).sessions) :
    ∃ text after, ((machine {} 1).renderArgument (.text "x")).runFrom session = (.ok text, after) ∧
      after.calls = session.calls ∧ after.objects = session.objects ∧
        after ∈ (telling body).sessions := by
  obtain ⟨quoted, remembers⟩ := inside
  obtain ⟨answer, entries, still⟩ := DispatchMap.lookup_eq_rule remembers (.builtin .text)
  rcases looked : session.formatters.lookup (World.linearization {}) (.builtin .text) with
    ⟨formatter, formatters⟩
  rw [looked] at answer entries still
  dsimp only at answer entries still
  obtain rfl : formatter = some .quoted := answer.trans quoted
  let after : Session := { session with formatters }
  have same : formatters.rule (World.linearization {}) (.builtin .text) = some .quoted := by
    rw [← quoted]
    unfold DispatchMap.rule
    rw [entries]
  refine ⟨Text.enclosed "x", after, ?_, rfl, rfl, same, still⟩
  unfold Engine.renderArgument
  rw [runFrom_bind_of_ok (runFrom_classOf _ _), runFrom_bind_of_ok (runFrom_get _)]
  have cls : Value.classOf session.objects (.text "x") = .builtin .text := rfl
  have world : (machine {} 1).hierarchy.linearization = World.linearization {} := rfl
  rw [cls, world, looked]
  rfl

theorem text_telling {value : Value} (reached : value ∈ (telling body).results ∨ value = .unset) :
    Heeds (telling body) 0 Set.univ ((machine {} 1).text value) := by
  have deep : Heeds (telling body) 0 (Set.univ : Set String) (throw tooDeep) := heeds_throw _
  have never : Heeds (telling body) 0 (∅ : Set Value) (throw tooDeep) := heeds_throw _
  rcases reached with ⟨address, rfl⟩ | rfl
  · change Heeds (telling body) 0 Set.univ ((machine {} 0).textWith (.object address))
    have objectAt : Heeds (telling body) 0 Set.univ (Act.objectAt address) :=
      fun _ _ holds _ => ⟨holds, Nat.le_refl _, fun _ _ => trivial⟩
    unfold Engine.textWith
    refine objectAt.before fun object _ => ?_
    split
    · exact never.before fun _ none => none.elim
    · split
      · exact deep
      · exact deep
  · exact deep

theorem step_telling (address : ℕ) :
    Heeds (telling body) 0 (telling body).results
      ((machine {} 1).step 0 (.object address) (.text "x") none) := by
  change Heeds (telling body) 0 (telling body).results
    ((machine {} 0).stepWith 0 (.object address) (.text "x") none)
  unfold Engine.stepWith
  refine (heeds_classOf _).before fun cls _ => ?_
  have never : Heeds (telling body) 0 (∅ : Set String) (throw tooDeep) := heeds_throw _
  suffices finds : Heeds (telling body) 0 Set.univ (handlerFor (machine {} 0).hierarchy 0 cls) from
    finds.before fun handler _ => never.before fun _ none => none.elim
  intro session call holds _
  simp only [handlerFor, hostAt, runFrom_bind, runFrom_get]
  rcases session.hosts[0]? with _ | host
  · exact ⟨holds, Nat.le_refl _, fun _ _ => trivial⟩
  · simp only [runFrom_pure, runFrom_modify]
    split
    · exact ⟨⟨holds.inside, holds.record⟩, Nat.le_refl _, fun _ _ => trivial⟩
    · exact ⟨⟨holds.inside, holds.record⟩, Nat.le_refl _, fun _ _ => trivial⟩

theorem minds_telling
    (use : ∀ converted, Heeds (telling body) 1 (telling body).results
      ((machine {} 1).use (teller body) (.text "a") converted)) :
    (machine {} 1).Minds (telling body) where
  change inside _ := ⟨inside, rfl⟩
  report inside _ := ⟨inside, rfl⟩
  candidates _ := rfl
  choose {arguments} _ := fun session call holds _ => by
    change Leaves (telling body) 0 Set.univ session call
      (((machine {} 1).choose ⟨"tell", [teller body]⟩ true .object arguments 0).runFrom session)
    rw [choose_teller]
    exact ⟨holds, Nat.le_refl _, fun _ _ => trivial⟩
  use {member} known converted := by
    obtain rfl : member = teller body := List.mem_singleton.mp known
    exact use converted
  step reached known := by
    obtain ⟨address, rfl⟩ := reached
    obtain rfl := known
    exact step_telling address
  renderArgument known := by
    obtain rfl := known
    intro session call holds _
    obtain ⟨text, after, run, calls, objects, inside⟩ := renderArgument_telling holds.inside
    rw [run]
    refine ⟨⟨inside, ?_⟩, Nat.le_of_eq (congrArg Array.size objects), fun _ _ => trivial⟩
    rw [calls]
    exact holds.record
  displayTarget := fun _ _ holds _ => ⟨holds, Nat.le_refl _, fun _ _ => trivial⟩
  display known := by
    obtain rfl := known
    exact fun _ _ holds _ => ⟨holds, Nat.le_refl _, fun _ _ => trivial⟩
  text := text_telling

theorem answers_telling : (machine {} 1).Answers (telling body) := by
  intro arguments _ session call _ _
  change ∃ found, (((machine {} 1).choose ⟨"tell", [teller body]⟩ true .object arguments 0).runFrom
    session).1 = .ok found
  rw [choose_teller]
  exact ⟨_, rfl⟩

theorem describes_telling : (machine {} 1).Describes (telling body) where
  renderArgument known := by
    obtain rfl := known
    intro session call holds _
    obtain ⟨text, after, run, -⟩ := renderArgument_telling holds.inside
    exact ⟨text, congrArg Prod.fst run⟩
  display known := by
    obtain rfl := known
    exact fun _ _ _ _ => ⟨_, rfl⟩

def tellingSession (body : Body) : Session where
  calls := #[{ (telling body).call with selection := some ⟨teller body, [], 0⟩ }]

theorem blank_telling : (telling body).call.Blank :=
  ⟨rfl, rfl, rfl, rfl, rfl, rfl⟩

theorem inside_telling :
    {} ∈ (telling body).sessions ∧ tellingSession body ∈ (telling body).sessions :=
  ⟨⟨rfl, fun _ _ mem => absurd mem List.not_mem_nil⟩,
    ⟨rfl, fun _ _ mem => absurd mem List.not_mem_nil⟩⟩

theorem startCall_telling :
    ((machine {} 1).startCall (telling body).call).runFrom {} = (.ok 0, tellingSession body) :=
  rfl

end Telling

end Engine

end MemberDispatch
