import Mathlib.Logic.Relation
import MemberDispatch.Proofs.Pending.Watching

/-!
# Looking at pending calls

The display of a pending call and its path show its arguments, and so ask for displays and texts of other
values, which ask for more. Only two things that can be asked for do more than look: the text of a call
that has no outcome yet and that nobody is at work on, which makes the call, and the text of an object
whose class tells it by a method that does more than look. What comes across neither only looks, and
calls no more than such methods on the way.
-/

namespace MemberDispatch

/-- What is asked about values. -/
inductive Inquiry
  | display (value : Value)
  | text (value : Value)
  /-- How a value shows as the argument of a call. -/
  | argument (value : Value)
  /-- How the name of a member and arguments show. -/
  | path (name : String) (arguments : List Value)

namespace Inquiry

def work (engine : Engine) : Inquiry → Act String
  | display value => engine.display value
  | text value => engine.text value
  | argument value => engine.renderArgument value
  | path name arguments => engine.renderPath name arguments

end Inquiry

/-- The values that the display of an object shows. -/
def Object.parts (object : Object) : List Value :=
  match object.content with
  | .plain => object.attributes.map (·.2)
  | .list items | .set items => items
  | .dict entries => entries.flatMap fun (key, value) => [key, value]
  | .byteArray _ => []
  | .scalar value => [value]

/-- That the class of an object does not tell its text by a method. -/
def Object.Silent (world : World) (object : Object) : Prop :=
  ∀ owner function, world.entryAlong? object.cls "__str__" ≠ some (owner, .method function)

/-- What an inquiry in a session asks for next, and in which session. -/
inductive Asks (world : World) : Session × Inquiry → Session × Inquiry → Prop
  | item {session : Session} {items : List Value} {item : Value} (mem : item ∈ items) :
      Asks world (session, .display (.tuple items)) (session, .display item)
  | frozenItem {session : Session} {items : List Value} {item : Value} (mem : item ∈ items) :
      Asks world (session, .display (.frozenSet items)) (session, .display item)
  | receiver {session : Session} {receiver : Value} {function : FunctionDecl} :
      Asks world (session, .display (.method receiver function)) (session, .display receiver)
  | part {session : Session} {address : ℕ} {part : Value}
      (outside : address ∉ session.displaying)
      (mem : part ∈ ((session.objects[address]?).getD default).parts) :
      Asks world (session, .display (.object address))
        (session.displayingToo address, .display part)
  | argument {session : Session} {id : ℕ} {call : PendingCall} {argument : Value}
      (there : session.calls[id]? = some call) (mem : argument ∈ call.arguments) :
      Asks world (session, .display (.pending id)) (session, .argument argument)
  /-- Values without a text of their own have their display for a text. -/
  | shown {session : Session} {value : Value} (settled : ∀ id, value ≠ .pending id)
      (composed : ∀ address, value = .object address →
        ((session.objects[address]?).getD default).Silent world ∧
          ∀ content, ((session.objects[address]?).getD default).content ≠ .scalar content) :
      Asks world (session, .text value) (session, .display value)
  | scalar {session : Session} {address : ℕ} {content : Value}
      (silent : ((session.objects[address]?).getD default).Silent world)
      (derived : ((session.objects[address]?).getD default).content = .scalar content) :
      Asks world (session, .text (.object address)) (session, .text content)
  /-- The text of a call that someone is at work on is its path. -/
  | locked {session : Session} {id : ℕ} {call : PendingCall} {argument : Value}
      (there : session.calls[id]? = some call) (locked : call.locked = true)
      (mem : argument ∈ call.arguments) :
      Asks world (session, .text (.pending id)) (session, .argument argument)
  /-- The text of a call that has an outcome is that of the outcome. -/
  | outcome {session : Session} {id : ℕ} {call : PendingCall}
      (there : session.calls[id]? = some call) (unlocked : call.locked = false)
      (resolved : call.phase = .resolved) (succeeded : call.fault = none) :
      Asks world (session, .text (.pending id)) (session.locking id, .text call.result)
  | quoted {session : Session} {value : Value}
      (quoted : session.formatter? world.hierarchy (value.classOf session.objects) = some .quoted)
      (other : ∀ text, value.content session.objects ≠ .text text) :
      Asks world (session, .argument value) (session, .text (value.content session.objects))
  | described {session : Session} {value : Value}
      (described :
        session.formatter? world.hierarchy (value.classOf session.objects) = some .described) :
      Asks world (session, .argument value) (session, .text value)
  | step {session : Session} {name : String} {arguments : List Value} {argument : Value}
      (mem : argument ∈ arguments) :
      Asks world (session, .path name arguments) (session, .argument argument)

/-- That the method by which a class tells the text of a value only looks, at every level. -/
def World.Hushes (world : World) (session : Session) (function : FunctionDecl) (value : Value) :
    Prop :=
  ∀ level, Act.OnlyLook world.hierarchy session
    ((machine world level).call (.plain function) [value])
    ((machine world level).call (.plain function) [value])

/-- That answering an inquiry does more than look: it makes a pending call, or runs a method that does. -/
inductive Stirs (world : World) : Session × Inquiry → Prop
  | call {session : Session} {id : ℕ} {call : PendingCall}
      (there : session.calls[id]? = some call) (unlocked : call.locked = false)
      (unresolved : call.phase ≠ .resolved) : Stirs world (session, .text (.pending id))
  | method {session : Session} {address : ℕ} {owner : ClassId} {function : FunctionDecl}
      (own : world.entryAlong? ((session.objects[address]?).getD default).cls "__str__" =
        some (owner, .method function))
      (loud : ¬ world.Hushes session function (.object address)) :
      Stirs world (session, .text (.object address))

/-- That nothing that an inquiry asks for, and nothing that this asks for in turn, does more than
look. -/
def Calm (world : World) (session : Session) (inquiry : Inquiry) : Prop :=
  ∀ state, Relation.ReflTransGen (Asks world) (session, inquiry) state → ¬ Stirs world state

namespace Calm

variable {world : World} {session later : Session} {inquiry next : Inquiry}

theorem not_stirs (calm : Calm world session inquiry) : ¬ Stirs world (session, inquiry) :=
  calm _ .refl

theorem asked (calm : Calm world session inquiry)
    (asks : Asks world (session, inquiry) (later, next)) : Calm world later next :=
  fun state reaches => calm state (reaches.head asks)

/-- What does not stir and asks for nothing that does is calm. -/
theorem of_asks (still : ¬ Stirs world (session, inquiry))
    (each : ∀ later next, Asks world (session, inquiry) (later, next) → Calm world later next) :
    Calm world session inquiry := by
  intro state reaches
  rcases reaches.cases_head with rfl | ⟨⟨later, next⟩, asks, behind⟩
  · exact still
  · exact each later next asks state behind

end Calm

/-- That someone is at work on every pending call of a session or it has an outcome. -/
def Session.Settled (session : Session) : Prop :=
  ∀ (id : ℕ) (call : PendingCall), session.calls[id]? = some call →
    call.locked = true ∨ call.phase = .resolved

theorem Session.Settled.locking {session : Session} (settled : session.Settled) (id : ℕ) :
    (session.locking id).Settled := by
  intro other call there
  simp only [Session.locking, Session.changing, Session.amid, Array.getElem?_modify] at there
  split at there
  · obtain ⟨before, -, rfl⟩ := Option.map_eq_some_iff.mp there
    exact .inl rfl
  · exact settled other call there

theorem Asks.settled {world : World} {state later : Session × Inquiry} (asks : Asks world state later)
    (settled : state.1.Settled) : later.1.Settled := by
  cases asks with
  | outcome => exact settled.locking _
  | part => exact fun id call there => settled id call there
  | _ => exact settled

/-- Where no call is left to be made and classes tell texts by methods that only look, if by methods at
all, one can look at everything. -/
theorem Calm.of_settled {world : World} {session : Session} (settled : session.Settled)
    (silent : ∀ cls owner function, world.entryAlong? cls "__str__" = some (owner, .method function) →
      ∀ session value, world.Hushes session function value)
    (inquiry : Inquiry) : Calm world session inquiry := by
  intro state reaches
  have still : state.1.Settled := by
    induction reaches with
    | refl => exact settled
    | tail _ asks ih => exact asks.settled ih
  intro stirs
  cases stirs with
  | call there unlocked unresolved =>
      rcases still _ _ there with locked | resolved
      · rw [unlocked] at locked
        cases locked
      · exact unresolved resolved
  | method own loud => exact loud (silent _ _ _ own _ _)

open Act

namespace Engine

/-- That two engines of a world look at values in the same way. -/
structure LookAlike (world : World) (left right : Engine) : Prop where
  leftWorld : left.world = world
  rightWorld : right.world = world
  display {session : Session} {value : Value} (calm : Calm world session (.display value)) :
    OnlyLook world.hierarchy session (left.display value) (right.display value)
  text {session : Session} {value : Value} (calm : Calm world session (.text value)) :
    OnlyLook world.hierarchy session (left.text value) (right.text value)
  call {session : Session} {value : Value} {cls owner : ClassId} {function : FunctionDecl}
    (own : world.entryAlong? cls "__str__" = some (owner, .method function))
    (hushes : world.Hushes session function value) :
    OnlyLook world.hierarchy session (left.call (.plain function) [value])
      (right.call (.plain function) [value])

namespace LookAlike

variable {world : World} {left right : Engine} (alike : LookAlike world left right)
  {session : Session} {value : Value}

include alike

theorem shownBy (calm : Calm world session (.argument value)) :
    let cls := value.classOf session.objects
    OnlyLook world.hierarchy session
      (left.shownBy cls value (session.formatter? world.hierarchy cls))
      (right.shownBy cls value (session.formatter? world.hierarchy cls)) := by
  intro cls
  rcases found : session.formatter? world.hierarchy cls with _ | _ | _ | text
  · exact .throw _
  · exact (alike.text (calm.asked (.described found))).bind fun _ => .pure _
  · refine .contentOf value ?_
    split
    · exact .pure _
    · rename_i other
      exact (alike.text (calm.asked (.quoted found other))).bind fun _ => .pure _
  · exact .pure _

theorem renderArgument (calm : Calm world session (.argument value)) :
    OnlyLook world.hierarchy session (left.renderArgument value) (right.renderArgument value) := by
  intro other same
  have cls : value.classOf other.objects = value.classOf session.objects := by rw [same.objects]
  have rest := alike.shownBy calm _ (same.trans (.lookup other (value.classOf session.objects)))
  rw [← same.formatter] at rest
  rw [runFrom_renderArgument, runFrom_renderArgument, Engine.hierarchy, Engine.hierarchy,
    alike.leftWorld, alike.rightWorld, cls]
  exact rest

theorem renderPath {name : String} {arguments : List Value}
    (each : ∀ argument ∈ arguments, Calm world session (.argument argument)) :
    OnlyLook world.hierarchy session (left.renderPath name arguments)
      (right.renderPath name arguments) :=
  (OnlyLook.mapM fun argument mem => alike.renderArgument (each argument mem)).bind fun _ => .pure _

theorem displayAll {values : List Value}
    (each : ∀ value ∈ values, Calm world session (.display value)) :
    OnlyLook world.hierarchy session (left.displayAll values) (right.displayAll values) := by
  induction values with
  | nil => exact .pure _
  | cons value values ih =>
      obtain ⟨first, others⟩ := List.forall_mem_cons.mp each
      exact (alike.display first).bind fun _ => (ih others).bind fun _ => .pure _

theorem displayContent {object : Object}
    (each : ∀ part ∈ object.parts, Calm world session (.display part)) :
    OnlyLook world.hierarchy session (left.displayContent object) (right.displayContent object) := by
  unfold Engine.displayContent
  unfold Object.parts at each
  split
  · rename_i items content
    rw [content] at each
    exact (alike.displayAll each).bind fun _ => .pure _
  · rename_i entries content
    rw [content] at each
    refine OnlyLook.bind (.mapM fun entry mem => ?_) fun _ => .pure _
    have both (part : Value) (among : part ∈ [entry.1, entry.2]) :
        Calm world session (.display part) :=
      each part (List.mem_flatMap.mpr ⟨entry, mem, among⟩)
    exact (alike.display (both entry.1 (by simp))).bind fun _ =>
      (alike.display (both entry.2 (by simp))).bind fun _ => .pure _
  · rename_i items content
    rw [content] at each
    split
    · exact .pure _
    · exact (alike.displayAll each).bind fun _ => .pure _
  · exact .pure _
  · rename_i content held
    rw [held] at each
    exact alike.display (each content (List.mem_singleton.mpr rfl))
  · rename_i content
    rw [content] at each
    refine OnlyLook.bind (.mapM fun named mem => ?_) fun _ => .pure _
    have part : named.2 ∈ object.attributes.map (·.2) :=
      List.mem_map.mpr ⟨named, List.mem_mergeSort.mp mem, rfl⟩
    exact (alike.display (each _ part)).bind fun _ => .pure _

theorem displayCall {call : PendingCall}
    (each : ∀ argument ∈ call.arguments, Calm world session (.argument argument)) :
    OnlyLook world.hierarchy session (left.displayCall call) (right.displayCall call) :=
  (alike.renderPath each).bind fun _ => .classOf _ (.pure _)

omit alike in
theorem integerText (number : ℤ) :
    OnlyLook world.hierarchy session (Act.integerText number) (Act.integerText number) := by
  unfold Act.integerText
  split
  · exact .pure _
  · exact .throw _

theorem displayWith (calm : Calm world session (.display value)) :
    OnlyLook world.hierarchy session (left.displayWith value) (right.displayWith value) := by
  unfold Engine.displayWith
  split
  any_goals exact .pure _
  · exact integerText _
  · exact (integerText _).bind fun _ => (integerText _).bind fun _ => .pure _
  · refine (alike.displayAll fun item mem => calm.asked (.item mem)).bind fun texts => ?_
    split <;> exact .pure _
  · refine (alike.displayAll fun item mem => calm.asked (.frozenItem mem)).bind fun _ => .pure _
  · rename_i address
    refine .objectAt address ?_
    intro other same
    rw [runFrom_bind_of_ok (runFrom_get other), runFrom_bind_of_ok (runFrom_get other),
      same.displaying]
    split
    · exact ⟨_, _, same, rfl, rfl⟩
    · rename_i outside
      refine OnlyLook.whileDisplaying (alike.displayContent fun part mem => ?_) other same
      exact calm.asked (.part (by simpa using outside) mem)
  · rename_i id
    refine .callAt? id ?_
    rcases there : session.calls[id]? with _ | call
    · exact .pure _
    · exact alike.displayCall fun argument mem => calm.asked (.argument there mem)
  · exact (alike.display (calm.asked .receiver)).bind fun _ => .pure _

theorem textWith (settled : ∀ id, value ≠ .pending id) (calm : Calm world session (.text value)) :
    OnlyLook world.hierarchy session (left.textWith value) (right.textWith value) := by
  unfold Engine.textWith
  split
  · exact .pure _
  · exact .pure _
  · unfold Act.fractionText
    refine (integerText _).bind fun _ => ?_
    split
    · exact .pure _
    · exact (integerText _).bind fun _ => .pure _
  · rename_i address
    refine .objectAt address ?_
    rw [alike.leftWorld, alike.rightWorld]
    split
    · rename_i owner function own
      have hushes : world.Hushes session function (.object address) := by
        by_contra loud
        exact calm.not_stirs (.method own loud)
      refine (alike.call own hushes).bind fun answer => ?_
      split
      · exact .pure _
      · refine .contentOf _ ?_
        split
        · exact .pure _
        · exact .classOf _ (.throw _)
    · rename_i silent
      split
      · rename_i content derived
        exact alike.text (calm.asked (.scalar silent derived))
      · rename_i composed
        refine alike.display (calm.asked (.shown settled ?_))
        rintro _ ⟨⟩
        exact ⟨silent, composed⟩
  · rename_i value _ _ _ other
    refine alike.display (calm.asked (.shown settled ?_))
    intro address same
    exact absurd same (other address)

/-- A call that has its outcome gives it again. -/
theorem text_settle {id : ℕ} {call : PendingCall} (there : session.calls[id]? = some call)
    (unlocked : call.locked = false) (calm : Calm world session (.text (.pending id))) :
    OnlyLook world.hierarchy (session.locking id) (left.settle id >>= left.text)
      (right.settle id >>= right.text) := by
  have resolved : call.phase = .resolved := by
    by_contra unresolved
    exact calm.not_stirs (.call there unlocked unresolved)
  intro other same
  have record : other.calls[id]? = some { call with locked := true } := by
    rw [same.calls, Session.locking]
    simp [Session.changing, Session.amid, Array.getElem?_modify, there]
  have gives (engine : Engine) := engine.settle_of_resolved record resolved
  rcases failed : call.fault with _ | fault
  · have kept : ({ call with locked := true } : PendingCall).kept = .ok call.result := by
      simp [PendingCall.kept, failed]
    rw [runFrom_bind_of_ok ((gives left).trans (by rw [kept])),
      runFrom_bind_of_ok ((gives right).trans (by rw [kept]))]
    exact alike.text (calm.asked (.outcome there unlocked resolved failed)) other same
  · have kept : ({ call with locked := true } : PendingCall).kept = .error fault := by
      simp [PendingCall.kept, failed]
    exact ⟨_, other, same, runFrom_bind_of_error ((gives left).trans (by rw [kept])) _,
      runFrom_bind_of_error ((gives right).trans (by rw [kept])) _⟩

theorem callText {id : ℕ} (calm : Calm world session (.text (.pending id))) :
    OnlyLook world.hierarchy session (left.callText id) (right.callText id) := by
  unfold Engine.callText
  refine .callAt id fun call there => ?_
  split
  · rename_i locked
    refine OnlyLook.bind (alike.renderPath fun argument mem => ?_) fun _ => .pure _
    exact calm.asked (.locked there locked (Slice.mem_of_mem_upTo mem))
  · rename_i free
    have unlocked : call.locked = false := Bool.eq_false_iff.mpr free
    exact .whileLocked there unlocked (alike.text_settle there unlocked calm)

end LookAlike

/-- That the methods by which classes tell texts run as on the machine of a level. -/
def Tells (world : World) (level : ℕ) (call : Callable → List Value → Act Value) : Prop :=
  ∀ {cls owner : ClassId} {function : FunctionDecl},
    world.entryAlong? cls "__str__" = some (owner, .method function) →
      ∀ value, call (.plain function) [value] = (machine world level).call (.plain function) [value]

/-- That an engine describes values as the machine of a level does, and runs methods by which classes
tell texts as that does, whatever else it calls and whatever its other operations do. -/
inductive Resembles (world : World) : ℕ → Engine → Prop
  | bottom {call : Callable → List Value → Act Value} (tells : Tells world 0 call)
      (operate : Operator → List Value → Act Value)
      (step : ℕ → Value → Value → Option String → Act Value) :
      Resembles world 0
        { world, call, operate, step
          text := fun _ => throw tooDeep
          display := fun _ => throw tooDeep }
  | above {level : ℕ} {below : Engine} (resembles : Resembles world level below)
      {call : Callable → List Value → Act Value} (tells : Tells world (level + 1) call)
      (operate : Operator → List Value → Act Value)
      (step : ℕ → Value → Value → Option String → Act Value) :
      Resembles world (level + 1)
        { world, call, operate, step
          text := fun value => match value with
            | .pending id => below.callText id
            | value => below.textWith value
          display := fun value => below.displayWith value }

theorem resembles_machine (world : World) (level : ℕ) : Resembles world level (machine world level) := by
  induction level with
  | zero => exact .bottom (fun _ _ => rfl) _ _
  | succ level ih => exact .above ih (fun _ _ => rfl) _ _

theorem Tells.onlyLook {world : World} {level : ℕ}
    {call other : Callable → List Value → Act Value} (tells : Tells world level call)
    (alike : Tells world level other) {session : Session} {value : Value} {cls owner : ClassId}
    {function : FunctionDecl}
    (own : world.entryAlong? cls "__str__" = some (owner, .method function))
    (hushes : world.Hushes session function value) :
    OnlyLook world.hierarchy session (call (.plain function) [value])
      (other (.plain function) [value]) := by
  rw [tells own, alike own]
  exact hushes level

theorem Resembles.lookAlike {world : World} {level : ℕ} {left right : Engine}
    (first : Resembles world level left) (second : Resembles world level right) :
    LookAlike world left right := by
  induction first generalizing right with
  | bottom tells =>
      cases second with
      | bottom alike =>
          exact ⟨rfl, rfl, fun _ => .throw _, fun _ => .throw _, tells.onlyLook alike⟩
  | above _ tells _ _ ih =>
      cases second with
      | above resembles alike =>
          have below := ih resembles
          refine ⟨rfl, rfl, fun calm => below.displayWith calm, fun {session value} calm => ?_,
            tells.onlyLook alike⟩
          cases value
          case pending id => exact below.callText calm
          all_goals
            refine below.textWith ?_ calm
            simp

theorem LookAlike.work {world : World} {left right : Engine} (alike : LookAlike world left right)
    {session : Session} {inquiry : Inquiry} (calm : Calm world session inquiry) :
    OnlyLook world.hierarchy session (inquiry.work left) (inquiry.work right) := by
  cases inquiry with
  | display value => exact alike.display calm
  | text value => exact alike.text calm
  | argument value => exact alike.renderArgument calm
  | path name arguments => exact alike.renderPath fun argument mem => calm.asked (.step mem)

section Holding

/-- A class with a method that takes two arguments and one that always gives the same number. -/
def holding : World :=
  World.addClass {}
    { name := "K"
      entries :=
        [("f", .method
          { qualifiedName := "K.f"
            parameters := some
              [{ name := "self" }, { name := "a", type := .cls .object },
                { name := "b", type := .cls .object }]
            code := .body .echo }),
        ("g", .method
          { qualifiedName := "K.g"
            parameters := some
              [{ name := "self" }, { name := "a", type := .cls .object, default := some .none }]
            code := .body (.constant (.int 7)) })] }

/-- A session with a call of each method, of which the first was given an argument: the other call, or a
list with it. -/
def parkedSession (argument : Value) : Session :=
  holding.engine.accessAll
    [.property 0 (.object 0) (.text "f") none, .property 0 (.object 0) (.text "g") none,
      .accept 0 argument]
    { objects := #[{ cls := .declared "K" },
        { cls := .builtin .list, content := .list [.pending 1] }]
      hosts := #[.standard 0]
      registries := #[{ table := .standard }] }

/-- How far the second call is. -/
def secondPhase (session : Session) : Option Phase :=
  (session.calls[1]?).map PendingCall.phase

/-- A session in which the first call was given a list with the second one, which is not made yet. -/
def waitingSession : Session where
  objects := #[{ cls := .declared "K" },
    { cls := .builtin .list, content := .list [.pending 1] }]
  calls := #[
    { host := 0, target := .object 0, name := "f", index := .fixed ⟨"f", []⟩
      arguments := [.object 1], phase := .accumulating },
    { host := 0, target := .object 0, name := "g", index := .fixed ⟨"g", []⟩ }]

/-- The engine of a level that refuses to call anything. -/
def refusing (world : World) : ℕ → Engine
  | 0 =>
      { world
        call := fun _ _ => throw (.say .system "refused")
        operate := fun _ _ => throw (.say .system "refused")
        step := fun _ _ _ _ => throw (.say .system "refused")
        text := fun _ => throw tooDeep
        display := fun _ => throw tooDeep }
  | level + 1 =>
      { world
        call := fun _ _ => throw (.say .system "refused")
        operate := fun _ _ => throw (.say .system "refused")
        step := fun _ _ _ _ => throw (.say .system "refused")
        text := fun value => match value with
          | .pending id => (refusing world level).callText id
          | value => (refusing world level).textWith value
        display := fun value => (refusing world level).displayWith value }

/-- No class of that world tells its texts by a method. -/
theorem entryAlong_holding (cls : ClassId) : holding.entryAlong? cls "__str__" = none := by
  cases cls with
  | builtin kind =>
      cases kind
      all_goals rfl
  | declared name =>
      by_cases own : name = "K"
      · subst own
        rfl
      · have absent : holding.class? name = none := by
          simp [holding, World.class?, World.addClass, Ne.symm own]
        have entries : holding.entries (.declared name) = [] := by simp [World.entries, absent]
        rw [World.entryAlong?, World.linearization, absent, List.findSome?_cons, entries]
        rfl

theorem resembles_refusing (level : ℕ) : Resembles holding level (refusing holding level) := by
  have tells (level : ℕ) {call : Callable → List Value → Act Value} : Tells holding level call := by
    intro cls owner function own
    rw [entryAlong_holding] at own
    cases own
  induction level with
  | zero => exact .bottom (tells 0) _ _
  | succ level ih => exact .above ih (tells (level + 1)) _ _

/-- The list shows with the display of the second call, which has no arguments. -/
theorem calm_waiting : Calm holding waitingSession (.display (.pending 0)) := by
  have second (session : Session) (calls : session.calls = waitingSession.calls) :
      Calm holding session (.display (.pending 1)) := by
    refine .of_asks nofun fun later next asks => ?_
    cases asks with
    | argument there mem =>
        rw [calls] at there
        cases there
        cases mem
  have list : Calm holding waitingSession (.display (.object 1)) := by
    refine .of_asks nofun fun later next asks => ?_
    cases asks with
    | part outside mem =>
        obtain rfl := List.mem_singleton.mp mem
        exact second _ rfl
  have text : Calm holding waitingSession (.text (.object 1)) := by
    refine .of_asks ?_ fun later next asks => ?_
    · intro stirs
      cases stirs with
      | method own loud => cases own
    · cases asks with
      | shown => exact list
      | scalar silent derived => cases derived
  have argument : Calm holding waitingSession (.argument (.object 1)) := by
    refine .of_asks nofun fun later next asks => ?_
    cases asks with
    | quoted quoted => cases quoted
    | described => exact text
  refine .of_asks nofun fun later next asks => ?_
  cases asks with
  | argument there mem =>
      cases there
      obtain rfl := List.mem_singleton.mp mem
      exact argument

/-- How the first call shows. -/
def waitingText : String :=
  "ArgsAdaptor(K.f.\x7blist:\"[ArgsAdaptor(K.g, seeded)]\"\x7d, accumulating)"

end Holding

end Engine

end MemberDispatch
