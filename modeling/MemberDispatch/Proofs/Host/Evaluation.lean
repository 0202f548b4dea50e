import MemberDispatch.Proofs.Host.Answers
import MemberDispatch.Proofs.Host.Nesting
import MemberDispatch.Proofs.Host.Uses

/-!
# Evaluation

Applying property steps and forcing the pending call that they may come to gives what greedy
evaluation gives, and fails where it fails.
-/

namespace MemberDispatch

open Act

variable {setting : Setting} {tame : Prop} {engine : Engine} {session : Session}
  {calls : Array PendingCall} {hosts : Array Host} {value prop : Value}

namespace Engine

section Steps

variable (follows : engine.Follows setting) (closed : setting.Closed)
  (tames : tame → engine.Tame setting)

include follows closed tames

/-- A new call without arguments starts a search, and is made at once if no member takes any. -/
theorem tracks_startCall (simulates : engine.Simulates setting tame 0) {call : PendingCall}
    {index : Index} (blank : call.arguments = []) (unchosen : call.selection = none)
    (collects : call.Collects setting.host index) (sound : (call.search index).Sound setting)
    (inside : session.lasting ∈ setting.sessions)
    (serving : Serving setting.core.hierarchy setting.adaptors setting.host hosts) :
    setting.Tracks tame calls value 1
      (fun rest => (do
        let search ← setting.core.renew (call.search index)
        setting.core.resume setting.adaptors search rest).runFrom session)
      ((do
        let id ← engine.startCall call
        if index.maxArity == 0 then engine.resolve id
        else do
          ensureHandler setting.host (.builtin .pendingCall) .arguments
          return .pending id).runFrom (session.amid calls hosts)) := by
  simp only [startCall, engine.selectionOf_eq_seek collects.index, bind_assoc]
  refine follows.tracks_seek closed sound inside fun found after within fullSound => ?_
  let full : PendingCall := { call with selection := found <|> call.selection }
  have still : full.Collects setting.host index :=
    ⟨collects.host, collects.index, collects.unresolved, collects.faultless⟩
  have there : (calls.push full)[calls.size]? = some full := Array.getElem?_push_size
  have spares := Spares.push calls value full
  have added : (addCall { call with selection := found }).runFrom (after.amid calls hosts) =
      (.ok calls.size, after.amid (calls.push full) hosts) := by
    have same : full = { call with selection := found } := by
      simp only [full, unchosen]
      cases found <;> rfl
    rw [same]
    rfl
  -- The call gets the next number, so no call that was there is changed.
  rw [runFrom_bind_of_ok added]
  have nothing : full.arguments = [] := blank
  split
  · rename_i at_once
    have resolves := tracks_resolve full follows closed tames (nothing ▸ simulates) there still
      fullSound within serving
    refine (resolves.behind spares (by rw [nothing]; exact Nat.zero_le 1)).congr fun rest => ?_
    have enough : ¬ full.arguments.length < index.maxArity := by
      rw [beq_iff_eq.mp at_once]
      exact Nat.not_lt_zero _
    exact congrArg (runFrom · after) (resume_of_full enough rest)
  · rename_i later
    obtain ⟨armed, serves, arms, run⟩ := runFrom_ensureHandler serving after (calls.push full)
    have more : full.arguments.length < index.maxArity := by
      rw [nothing]
      exact Nat.pos_of_ne_zero fun none_taken => later (beq_iff_eq.mpr none_taken)
    -- The call itself is the next stage: what it has sought so far is where the search goes on.
    have stage : setting.Stage after (calls.push full) armed (.pending calls.size)
        (setting.core.resume setting.adaptors (full.search index)) (full.arguments.length + 1) :=
      .waiting there still fullSound more arms
    rw [runFrom_bind_of_ok run]
    refine .reached ⟨stage, within, serves⟩ ?_ spares fun rest => rfl
    rw [nothing]
    exact Nat.le_refl 1

/-- A handler that looks members up starts a call on the member of a step, or complains of it. -/
theorem tracks_adapt (simulates : engine.Simulates setting tame 0)
    (known : value ∈ setting.targets) (step : prop ∈ setting.steps)
    (inside : session.lasting ∈ setting.sessions)
    (serving : Serving setting.core.hierarchy setting.adaptors setting.host hosts)
    {adaptor : Adaptor} {name : String}
    (answers : setting.adaptors (value.classOf session.objects) = some adaptor)
    (named : (setting.core.text prop).runFrom session = (.ok name, session)) :
    setting.Tracks tame calls value 1
      (fun rest =>
        (setting.core.greedy setting.adaptors value (prop :: rest)).runFrom session)
      ((engine.adapt adaptor setting.host value name).runFrom (session.amid calls hosts)) := by
  have resolves := follows.resolveIndex adaptor (value.classOf session.objects) name session calls
    hosts
  obtain ⟨still, indexes⟩ := closed.resolveIndex inside known answers step named
  have expected := runFrom_greedy_cons named answers
  unfold adapt
  rw [runFrom_bind_of_ok (runFrom_classOf _ _), Session.amid_objects]
  rcases run : (setting.core.resolveIndex adaptor (value.classOf session.objects) name).runFrom
    session with ⟨cause | index, after⟩
  all_goals rw [run] at resolves still indexes
  · have other := neverLate_resolveIndex setting.core adaptor _ name session cause
      (congrArg Prod.fst run)
    rw [runFrom_bind_of_error resolves]
    exact .failed (fails_amid other after calls hosts) still fun rest =>
      (expected rest).trans (runFrom_bind_of_error run _)
  · have started (rest : List Value) := (expected rest).trans (runFrom_bind_of_ok run _)
    rw [runFrom_bind_of_ok resolves]
    dsimp only at still started ⊢
    split
    · rename_i empty
      simp only [empty, if_true] at started
      have complains : Complains setting tame (do
          Act.report (.unknownMember (Text.quoted name) (value.classOf session.objects).name)
          throw (.property (← engine.failure .noMatch value name "unknown member" none)) :
          Act Value) :=
        Complains.behind (fun _ => harmless_report _) fun _ => complains_failure tames known _ _ _ _
      refine .failed ((complains _).imp fun quiet => ?_) still started
      exact ⟨⟨quiet, still⟩, rfl⟩
    · rename_i filled
      simp only [filled, Bool.false_eq_true, if_false] at started
      let blank : PendingCall :=
        { host := setting.host, target := value, name, index := .fixed index,
          onlyPublic := adaptor.onlyPublic, returns := adaptor.returns }
      have sound : (blank.search index).Sound setting :=
        .start known (indexes index rfl) _ _
      have unresolved : Phase.seeded ≠ .resolved := nofun
      have collects : blank.Collects setting.host index := ⟨rfl, rfl, unresolved, rfl⟩
      exact Setting.Tracks.congr
        (tracks_startCall follows closed tames simulates rfl rfl collects sound still serving) started

/-- A property step leads from one stage to the next. -/
theorem tracks_stepWith {onwards : List Value → Act Value} {held : ℕ}
    (simulates : engine.Simulates setting tame held)
    (reaches : setting.Reaches session calls hosts value onwards held)
    (step : prop ∈ setting.steps) :
    setting.Tracks tame calls value (held + 1)
      (fun rest => (onwards (prop :: rest)).runFrom session)
      ((engine.stepWith setting.host value prop none).runFrom (session.amid calls hosts)) := by
  obtain ⟨stage, inside, serving⟩ := reaches
  obtain ⟨name, named⟩ := closed.text inside step
  have worded (hosts : Array Host) : (engine.text prop).runFrom (session.amid calls hosts) =
      (.ok name, session.amid calls hosts) := by
    rw [follows.text inside step, named]
  have sameHierarchy : engine.hierarchy = setting.core.hierarchy :=
    congrArg World.hierarchy follows.world
  unfold stepWith
  rw [runFrom_bind_of_ok (runFrom_classOf _ _), Session.amid_objects, sameHierarchy]
  cases stage with
  | plain known other =>
      obtain ⟨after, serves, run⟩ := runFrom_handlerFor_other serving other session calls
      rcases answers : setting.adaptors (value.classOf session.objects) with _ | adaptor
      all_goals rw [answers] at run
      · rw [runFrom_bind_of_error run]
        exact .failed (fails_amid (by exact nofun) session calls after) inside
          (runFrom_greedy_cons_of_none named answers)
      · rw [runFrom_bind_of_ok run]
        dsimp only
        rw [runFrom_bind_of_ok (worded after)]
        exact tracks_adapt follows closed tames simulates known step inside serves answers named
  | waiting there collects sound room armed =>
      obtain ⟨after, serves, arms, run⟩ :=
        runFrom_handlerFor_pendingCall serving armed session calls
      rw [Value.classOf, runFrom_bind_of_ok run]
      dsimp only
      rw [runFrom_bind_of_ok (worded after)]
      exact tracks_accept follows closed tames simulates there collects sound room arms inside
        serves step

end Steps

section Runs

variable {onwards : List Value → Act Value} {held bound : ℕ} {props : List Value}

theorem tracks_nil (reaches : setting.Reaches session calls hosts value onwards held) :
    setting.Tracks tame calls value held (fun rest => (onwards rest).runFrom session)
      ((engine.stepAll setting.host value []).runFrom (session.amid calls hosts)) :=
  .reached reaches (Nat.le_refl _) (Spares.refl _ _) fun _ => rfl

/-- Where single steps lead from stage to stage, so do several. -/
theorem simulates_of_step
    (single : ∀ {session calls hosts value onwards held prop}, held ≤ bound →
      setting.Reaches session calls hosts value onwards held → prop ∈ setting.steps →
        setting.Tracks tame calls value (held + 1)
          (fun rest => (onwards (prop :: rest)).runFrom session)
          ((engine.step setting.host value prop none).runFrom (session.amid calls hosts))) :
    engine.Simulates setting tame (bound + 1) := by
  intro session calls hosts value onwards held props reaches steps short
  induction props generalizing session calls hosts value onwards held with
  | nil => exact tracks_nil reaches
  | cons prop props ih =>
      rw [List.length_cons] at short ⊢
      have tracks := single (by omega) reaches (steps prop List.mem_cons_self)
      unfold stepAll
      generalize run : (engine.step setting.host value prop none).runFrom
        (session.amid calls hosts) = made at tracks
      cases tracks with
      | reached next bounded spares same =>
          have others := ih next (fun other mem => steps other (List.mem_cons_of_mem _ mem))
            (by omega)
          rw [runFrom_bind_of_ok run]
          exact (others.behind spares (by omega)).congr fun rest => same (props ++ rest)
      | failed fails inside same =>
          exact .failed (Fails.bind (run ▸ fails) _) inside fun rest => same (props ++ rest)

end Runs

section Outcomes

variable {onwards : List Value → Act Value} {held bound : ℕ}

/-- That a run ends as expected: with the same result, in a session that differs in pending calls and
hosts alone, or in a failure. -/
def EndsAs (tame : Prop) (expected made : Except Fault Value × Session) : Prop :=
  match expected with
  | (.ok result, session) => ∃ calls hosts, made = (.ok result, session.amid calls hosts)
  | (.error _, session) => Fails tame session made

theorem outcomeOf_of_ne_pending (other : ∀ id, value ≠ .pending id) (fuel : ℕ) :
    engine.outcomeOf fuel value = pure value := by
  cases fuel with
  | zero => rfl
  | succ fuel => cases value with
    | pending id => exact absurd rfl (other id)
    | _ => rfl

/-- Every call among others, with its arguments, counts towards how many can follow one another. -/
theorem le_callBound {id : ℕ} {call : PendingCall} (there : calls[id]? = some call) :
    call.arguments.length + 1 ≤ callBound calls := by
  have le_foldl (numbers : List ℕ) (start : ℕ) : start ≤ numbers.foldl (· + ·) start ∧
      ∀ number ∈ numbers, number ≤ numbers.foldl (· + ·) start := by
    induction numbers generalizing start with
    | nil => exact ⟨Nat.le_refl _, fun _ mem => (nomatch mem)⟩
    | cons first numbers ih =>
        obtain ⟨more, each⟩ := ih (start + first)
        rw [List.foldl_cons]
        refine ⟨by omega, fun number mem => ?_⟩
        rcases List.mem_cons.mp mem with rfl | mem
        · omega
        · exact each number mem
  obtain ⟨within, rfl⟩ := Array.getElem?_eq_some_iff.mp there
  refine (le_foldl _ 0).2 _ (List.mem_map.mpr ⟨calls[id], ?_, rfl⟩)
  exact Array.getElem_mem_toList within

variable (follows : engine.Follows setting) (closed : setting.Closed)
  (tames : tame → engine.Tame setting)

include follows closed tames

/-- Every call that is forced gives a value that holds fewer steps, so the bound is never met. -/
theorem endsAs_outcomeOf (simulates : engine.Simulates setting tame bound) {fuel : ℕ}
    (reaches : setting.Reaches session calls hosts value onwards held) (short : held ≤ bound)
    (enough : held ≤ fuel) :
    EndsAs tame ((onwards []).runFrom session)
      ((engine.outcomeOf fuel value).runFrom (session.amid calls hosts)) := by
  induction fuel generalizing session calls hosts value onwards held with
  | zero =>
      obtain ⟨stage, inside, serving⟩ := reaches
      cases stage with
      | plain known other =>
          rw [greedy_nil]
          exact ⟨calls, hosts, rfl⟩
      | waiting => exact absurd enough (Nat.not_succ_le_zero _)
  | succ fuel ih =>
      obtain ⟨stage, inside, serving⟩ := reaches
      cases stage with
      | plain known other =>
          rw [greedy_nil, outcomeOf_of_ne_pending (Setting.ne_pending other)]
          exact ⟨calls, hosts, rfl⟩
      | @waiting id call index there collects sound room armed =>
          -- Forcing a call is completing its search with nothing behind it.
          have tracks := tracks_resolve call follows closed tames (simulates.mono (by omega)) there
            collects sound inside serving
          have forced : (setting.core.resume setting.adaptors (call.search index) []).runFrom
              session = (setting.core.complete setting.adaptors call.target call.selection
                (call.arguments ++ [])).runFrom session := by
            rw [resume, List.append_nil]
            rfl
          rw [forced]
          unfold outcomeOf
          generalize run : (engine.resolve id).runFrom (session.amid calls hosts) = made at tracks
          cases tracks with
          | reached next bounded spares same =>
              rw [same [], runFrom_bind_of_ok run]
              exact ih next (by omega) (by omega)
          | failed fails within same =>
              rw [same []]
              exact Fails.bind (run ▸ fails) _

end Outcomes

end Engine

section Towers

variable {engines : ℕ → Engine} (tower : IsTower engines)
  (follows : ∀ level, (engines level).Follows setting) (closed : setting.Closed)
  (tames : ∀ level, tame → (engines level).Tame setting)

include tower follows closed tames

/-- By induction on the level: a call that is made applies fewer steps than it took to come to it,
on an engine of the level below. -/
theorem simulates_tower (level : ℕ) : (engines level).Simulates setting tame level := by
  induction level with
  | zero =>
      intro session calls hosts value onwards held props reaches steps short
      obtain rfl : props = [] := List.eq_nil_of_length_eq_zero (by omega)
      exact Engine.tracks_nil reaches
  | succ level ih =>
      refine Engine.simulates_of_step fun short reaches step => ?_
      rw [tower level]
      exact Engine.tracks_stepWith (follows level) closed (tames level) (ih.mono short) reaches step

/-- Evaluating on an engine with a level for every step gives what greedy evaluation gives. -/
theorem endsAs_evaluate {props : List Value} {level : ℕ}
    (reaches : setting.Reaches session calls hosts value
      (setting.core.greedy setting.adaptors value) 0)
    (steps : ∀ prop ∈ props, prop ∈ setting.steps) (deep : props.length ≤ level) :
    Engine.EndsAs tame ((setting.core.greedy setting.adaptors value props).runFrom session)
      (((engines level).evaluate setting.host value props).runFrom
        (session.amid calls hosts)) := by
  have simulates := simulates_tower tower follows closed tames level
  have tracks := simulates props reaches steps (by omega)
  unfold Engine.evaluate
  generalize run : ((engines level).stepAll setting.host value props).runFrom
    (session.amid calls hosts) = made at tracks
  cases tracks with
  | @reached result last after armed onwards held reached bounded spares same =>
      have expected := same []
      rw [List.append_nil] at expected
      have enough : held ≤ Engine.callBound after := by
        cases reached.stage with
        | plain => exact Nat.zero_le _
        | waiting there => exact Engine.le_callBound there
      rw [expected, runFrom_bind_of_ok run, runFrom_bind_of_ok (runFrom_get _)]
      exact Engine.endsAs_outcomeOf (follows level) closed (tames level) simulates reached
        (by omega) enough
  | failed fails within same =>
      have expected := same []
      rw [List.append_nil] at expected
      rw [expected]
      exact Fails.bind (run ▸ fails) _

end Towers

namespace Engine

/-- In a setting that nothing leads out of, evaluating a value that is no pending call, on an engine
with a level for every step, ends as greedy evaluation does: with the same result and the same work
done, or in a failure, which is never that a call has its outcome already. Members are used at most
once for each step. -/
theorem evaluate_endsAs_greedy {engines : ℕ → Engine} (tower : IsTower engines)
    {setting : Setting} (follows : ∀ level, (engines level).Follows setting)
    (closed : setting.Closed) {session : Session} (inside : session.lasting ∈ setting.sessions)
    (serving : Serving setting.core.hierarchy setting.adaptors setting.host session.hosts)
    {value : Value} (aimed : value ∈ setting.targets)
    (other : ¬ setting.core.hierarchy.OfCalls (value.classOf session.objects))
    {props : List Value} (steps : ∀ prop ∈ props, prop ∈ setting.steps) {level : ℕ}
    (deep : props.length ≤ level) :
    let expected := (setting.core.greedy setting.adaptors value props).runFrom session
    EndsAs (∀ level, (engines level).Tame setting) expected
        (((engines level).evaluate setting.host value props).runFrom session) ∧
      ∀ count, setting.Counts count →
        count expected.2.lasting ≤ count session.lasting + props.length := by
  refine ⟨?_, fun count counts => ?_⟩
  · exact endsAs_evaluate tower follows closed (fun level quiet => quiet level)
      ⟨.plain aimed other, inside, serving⟩ steps deep
  · exact Setting.frugal_greedy closed counts _ props inside aimed other steps (Nat.le_refl _)

/-- Nothing more is asked of an engine whose operations are discreet, with texts that can be had
without a consequence and members that give no pending calls. -/
theorem Discreet.endsAs_evaluate {engine : Engine} (discreet : engine.Discreet)
    (text : ∀ prop session, ∃ name, (engine.text prop).runFrom session = (.ok name, session))
    (call : ∀ callable arguments session result after,
      (engine.call callable arguments).runFrom session = (.ok result, after) →
        ¬ engine.hierarchy.OfCalls (result.classOf after.objects))
    {adaptors : ClassId → Option Adaptor} {host : ℕ} {session : Session}
    (serving : Serving engine.hierarchy adaptors host session.hosts) {value : Value}
    (other : ¬ engine.hierarchy.OfCalls (value.classOf session.objects)) (props : List Value) :
    EndsAs (∀ depth, (engine.nested depth).Tame (.everywhere engine adaptors host))
      ((engine.greedy adaptors value props).runFrom session)
      (((engine.nested props.length).evaluate host value props).runFrom session) := by
  have reaches : (Setting.everywhere engine adaptors host).Reaches session session.calls
      session.hosts value (engine.greedy adaptors value) 0 :=
    ⟨.plain trivial other, trivial, serving⟩
  exact MemberDispatch.endsAs_evaluate (isTower_nested engine) (discreet.follows adaptors host)
    (closed_everywhere adaptors host text call) (fun level quiet => quiet level) reaches
    (fun _ _ => trivial) (Nat.le_refl _)

section Answering

/-- A class of values that answer a step with themselves, whatever step they take for an argument. -/
def answerer : World :=
  World.addClass {} { name := "K" }

def answer : Member where
  name := "same"
  converters := [⟨0, .cls .object, none⟩]
  returns := .object
  role := .method (.tagged "K.same" (.argument 0))

def answers : Index :=
  ⟨"same", [answer]⟩

/-- A registry that remembers the view of the class. -/
def answeringRegistry : Registry where
  views := [(.declared "K", { cls := .declared "K", indexes := [("same", answers)] })]

def answeringSession : Session where
  objects := #[{ cls := .declared "K" }]
  hosts := #[.standard 0]
  registries := #[answeringRegistry]

/-- Steps of that name on the value. -/
def answeringSetting : Setting where
  core := machine answerer 2
  adaptors := (Host.standard 0).adaptor? answerer.hierarchy
  host := 0
  sessions := {answeringSession.lasting}
  targets := {.object 0}
  steps := {.text "same"}
  converted := {.text "same"}
  indexes := {answers}

theorem resolveIndex_answers {session : Session}
    (registries : session.registries = answeringSession.registries) :
    (answeringSetting.core.resolveIndex (.object (some 0)) (.declared "K") "same").runFrom session =
      (.ok answers, session) := by
  have there : session.registries[0]? = some answeringRegistry := by
    rw [registries]
    rfl
  have looked : RegistryM.runOn answeringRegistry
      (Registry.lookup answerer (.declared "K") "same") = (.ok answers, answeringRegistry, []) :=
    rfl
  have own : (Adaptor.object (some 0)).memberName "same" = "same" := rfl
  have first : (answeringSetting.core.registryOf (.object (some 0))).runFrom session =
      (.ok 0, session) := rfl
  have world : answeringSetting.core.world = answerer := rfl
  unfold resolveIndex
  dsimp only
  rw [own, world, runFrom_bind_of_ok first, runFrom_bind_of_ok (runFrom_onRegistry there looked)]
  rfl

section Choosing

variable (answering : engine.world = answerer) (session : Session)

include answering

theorem convertFor_answer :
    (engine.convertFor? answer [.text "same"] 0).runFrom session =
      (.ok (some [.text "same"]), session) := by
  have isText : answerer.hierarchy.isSubclass (.builtin .text) .object = true := by decide
  have suits : (engine.isOfKey .object (.text "same")).runFrom session = (.ok true, session) := by
    change (Act.isInstance engine.world.hierarchy _ _).runFrom session = _
    rw [answering, Act.isInstance, runFrom_bind_of_ok (runFrom_classOf _ _), runFrom_pure]
    exact congrArg (fun suits => (Except.ok suits, session)) isText
  have converts : (engine.convert ⟨0, .object, none⟩ (.text "same")).runFrom session =
      (.ok (.text "same"), session) := by
    unfold Engine.convert
    dsimp only
    rw [runFrom_bind_of_ok suits]
    rfl
  have all : (engine.convertAll answer.converters [.text "same"]).runFrom session =
      (.ok [.text "same"], session) := by
    rw [answer, Engine.convertAll, runFrom_bind_of_ok converts]
    rfl
  change (ifSuccessful (engine.convertAll answer.converters [.text "same"] >>= _)).runFrom session = _
  rw [ifSuccessful, runFrom_bind, runFrom_attempt, runFrom_bind_of_ok all]
  rfl

theorem choose_answers (onlyPublic : Bool) (returns : ClassId) {arguments : List Value}
    (steps : ∀ argument ∈ arguments, argument ∈ answeringSetting.steps) :
    (engine.choose answers onlyPublic returns arguments 0).runFrom session =
      (.ok (if arguments.length = 1 ∧ answer.produces answerer.hierarchy returns then
        some ⟨answer, [.text "same"]⟩ else none), session) := by
  rcases arguments with _ | ⟨first, _ | ⟨second, others⟩⟩
  · rfl
  · obtain rfl : first = .text "same" := steps first List.mem_cons_self
    have produces : answer.produces engine.hierarchy returns =
        answer.produces answerer.hierarchy returns := by rw [hierarchy, answering]
    change (engine.chooseAmong onlyPublic returns [.text "same"] 0 [answer]).runFrom session = _
    have accessible : answer.isAccessible onlyPublic = true := rfl
    rw [chooseAmong, produces, accessible]
    rcases answer.produces answerer.hierarchy returns with _ | _
    · rfl
    · simp only [Bool.and_self, if_true]
      rw [runFrom_bind_of_ok (convertFor_answer answering session)]
      rfl
  · rfl

end Choosing

section Levels

variable {level : ℕ} (deep : 2 ≤ level) (session : Session)

include deep

theorem use_answers {fit : Selection} (knows : answeringSetting.Knows answers fit) :
    ((machine answerer level).use fit.member (.object 0) fit.arguments).runFrom session =
      (.ok (.object 0), session) := by
  obtain ⟨below, rfl⟩ := Nat.exists_eq_add_of_le' deep
  have same : fit.member = answer := List.mem_singleton.mp knows.member
  rw [same]
  rfl

theorem text_answers :
    ((machine answerer level).text (.text "same")).runFrom session = (.ok "same", session) := by
  obtain ⟨below, rfl⟩ := Nat.exists_eq_add_of_le' deep
  have worded : ((machine answerer (below + 1)).textWith (.text "same")).runFrom session =
      (.ok "same", session) := rfl
  exact worded

theorem world_answers : (machine answerer level).world = answerer := by
  obtain ⟨below, rfl⟩ := Nat.exists_eq_add_of_le' deep
  rfl

end Levels

theorem follows_answeringSetting (level : ℕ) :
    (machine answerer (2 + level)).Follows answeringSetting := by
  have deep : 2 ≤ 2 + level := Nat.le_add_right 2 level
  have core : answeringSetting.core = machine answerer 2 := rfl
  refine ⟨?_, ?_, ?_, ?_⟩
  · rw [world_answers deep, core, world_answers (Nat.le_refl 2)]
  · intro session _ prop step calls hosts
    obtain rfl : prop = .text "same" := step
    rw [text_answers deep, core, text_answers (Nat.le_refl 2)]
  · intro session _ index known onlyPublic returns arguments steps calls hosts
    obtain rfl : index = answers := known
    rw [choose_answers (world_answers deep) _ _ _ steps, core,
      choose_answers (world_answers (Nat.le_refl 2)) _ _ _ steps]
  · intro session _ index known fit knows target aimed calls hosts
    obtain rfl : index = answers := known
    obtain rfl : target = .object 0 := aimed
    rw [use_answers deep _ knows, core, use_answers (Nat.le_refl 2) _ knows]

theorem not_ofCalls_answerer : ¬ answeringSetting.core.hierarchy.OfCalls
    ((Value.object 0).classOf answeringSession.objects) := by
  change ClassId.builtin .pendingCall ∉ [ClassId.declared "K", .object]
  decide

theorem closed_answeringSetting : answeringSetting.Closed where
  text {session} _ prop step := by
    obtain rfl : prop = .text "same" := step
    exact ⟨"same", text_answers (Nat.le_refl 2) session⟩
  resolveIndex {session} inside target aimed adaptor answering prop step name named := by
    obtain rfl : target = .object 0 := aimed
    obtain rfl : prop = .text "same" := step
    have lasting : session.lasting = answeringSession.lasting := inside
    have objects : session.objects = answeringSession.objects :=
      congrArg (fun session => session.objects) lasting
    obtain rfl : "same" = name :=
      Except.ok.inj (Prod.mk.inj ((text_answers (Nat.le_refl 2) session).symm.trans named)).1
    rw [objects] at answering ⊢
    obtain rfl : Adaptor.object (some 0) = adaptor := Option.some.inj answering
    have resolved : (answeringSetting.core.resolveIndex (.object (some 0))
        (Value.classOf answeringSession.objects (.object 0)) "same").runFrom session =
          (.ok answers, session) :=
      resolveIndex_answers (congrArg (fun session => session.registries) lasting)
    dsimp only
    rw [resolved]
    exact ⟨inside, fun index given => (Except.ok.inj given).symm⟩
  choose {session} inside index known onlyPublic returns arguments steps := by
    obtain rfl : index = answers := known
    have core : answeringSetting.core = machine answerer 2 := rfl
    dsimp only
    rw [core, choose_answers (world_answers (Nat.le_refl 2)) _ _ _ steps]
    refine ⟨inside, fun choice chosen argument mem => ?_⟩
    split at chosen
    all_goals cases chosen
    exact List.mem_singleton.mp mem
  use {session} inside index known fit knows target aimed := by
    obtain rfl : index = answers := known
    obtain rfl : target = .object 0 := aimed
    have lasting : session.lasting = answeringSession.lasting := inside
    have objects : session.objects = answeringSession.objects :=
      congrArg (fun session => session.objects) lasting
    have used : (answeringSetting.core.use fit.member (.object 0) fit.arguments).runFrom session =
        (.ok (.object 0), session) := use_answers (Nat.le_refl 2) session knows
    dsimp only
    rw [used, objects]
    refine ⟨inside, fun result given => ?_⟩
    obtain rfl : Value.object 0 = result := Except.ok.inj given
    exact ⟨rfl, not_ofCalls_answerer⟩

theorem serving_answeringSetting :
    Serving answeringSetting.core.hierarchy answeringSetting.adaptors 0 answeringSession.hosts :=
  ⟨.standard 0, rfl, Host.serves_standard answerer.hierarchy 0⟩

/-- Three steps of the name: the call that the first one starts takes the second, and the third one
starts another call on what it answers. -/
theorem evaluate_endsAs_greedy_of_answers :
    let props : List Value := [.text "same", .text "same", .text "same"]
    let engines := fun level => machine answerer (2 + level)
    answeringSetting.Closed ∧ (∀ level, (engines level).Follows answeringSetting) ∧
      EndsAs (∀ level, (engines level).Tame answeringSetting)
        ((answeringSetting.core.greedy answeringSetting.adaptors (.object 0) props).runFrom
          answeringSession)
        (((engines 3).evaluate 0 (.object 0) props).runFrom answeringSession) := by
  refine ⟨closed_answeringSetting, follows_answeringSetting, ?_⟩
  have steps : ∀ prop ∈ [Value.text "same", .text "same", .text "same"],
      prop ∈ answeringSetting.steps := by
    intro prop mem
    simp only [List.mem_cons, List.not_mem_nil, or_false, or_self] at mem
    exact mem
  exact (evaluate_endsAs_greedy (isTower_machine answerer 2) follows_answeringSetting
    closed_answeringSetting rfl serving_answeringSetting rfl not_ofCalls_answerer steps
    (Nat.le_refl 3)).1

/-- A field of the class. -/
def held : Member where
  name := "held"
  converters := []
  returns := .object
  role := .field (.attribute "held")

/-- A registry that remembers the view of the class with the field. -/
def holdingRegistry : Registry where
  views :=
    [(.declared "K", { cls := .declared "K", indexes := [("held", ⟨"held", [held]⟩)] })]

/-- A pending call with an outcome. -/
def settledCall : PendingCall where
  host := 0
  target := .none
  name := "settled"
  index := .fixed .none
  phase := .resolved
  result := .int 5

/-- A session with a value of the class whose field holds a pending call with an outcome. -/
def holdingSession : Session where
  objects := #[{ cls := .declared "K", attributes := [("held", .pending 0)] }]
  calls := #[settledCall]
  hosts := #[.standard 0]
  registries := #[holdingRegistry]

/-- A member that gives a pending call is where evaluating and greedy evaluation part: the call is
the last value, but evaluating goes on to its outcome. -/
theorem evaluate_forces_held_call :
    let adaptors := (Host.standard 0).adaptor? answerer.hierarchy
    (((machine answerer 3).greedy adaptors (.object 0) [.text "held"]).runFrom holdingSession).1 =
        .ok (.pending 0) ∧
      (((machine answerer 3).evaluate 0 (.object 0) [.text "held"]).runFrom holdingSession).1 =
        .ok (.int 5) := by
  refine ⟨?_, ?_⟩
  · rw [greedy_cons]
    simp only [complete, List.drop_nil, greedy_nil]
    rfl
  · rfl

end Answering

end Engine

end MemberDispatch
