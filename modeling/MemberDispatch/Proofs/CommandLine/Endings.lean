import MemberDispatch.Proofs.CommandLine.Making
import MemberDispatch.Proofs.CommandLine.Order
import MemberDispatch.Proofs.Host.Descriptions
import MemberDispatch.Proofs.Registry.Configuring
import MemberDispatch.Proofs.Routine.Naming

/-!
# How commands end

A command over the shared registry ends in an answer with its status, or in a fault that nothing on its
way handles. Besides the faults by which the interpreter gives up, those are told apart here by where
they come from: a literal with a collection for a key, a chain of steps whose complaints or names cannot
be described, a result that cannot be displayed, a name of a class that is relative to no module, and
what the things that were named do when their attributes are read.
-/

namespace MemberDispatch

/-- The name of the class whose members are listed. -/
def Arguments.typeName (said : Arguments) : String :=
  (said.value? "type").getD ""

/-- The text of the literal that property steps are applied to. -/
def Arguments.literal (said : Arguments) : String :=
  (said.value? "literal").getD ""

def Arguments.steps (said : Arguments) : List Value :=
  (said.valuesOf "props").map .text

def Command.config? : Command → Option String
  | .members said | .eval said => said.value? "config"
  | .nothing => none

/-- Whether arguments are accepted as a command without a configuration. -/
def Command.acceptsPlain (arguments : List String) : Bool :=
  match Command.read arguments with
  | .ok command => command.config?.isNone
  | .error _ => false

theorem Command.exists_of_acceptsPlain {arguments : List String}
    (accepts : Command.acceptsPlain arguments = true) :
    ∃ command, Command.read arguments = .ok command ∧ command.config? = none := by
  unfold acceptsPlain at accepts
  cases accepted : Command.read arguments with
  | error outcome =>
      rw [accepted] at accepts
      cases accepts
  | ok command =>
      rw [accepted] at accepts
      exact ⟨command, rfl, Option.isNone_iff_eq_none.mp accepts⟩

namespace Engine

/-- How commands are answered. The status is zero where what was asked for is shown, and one where there
is help or a complaint instead. -/
inductive Replies (engine : Engine) : Command → Outcome → Prop
  | help : Replies engine .nothing { status := 1, output := Usage.program.help }
  | listing {said : Arguments} {cls : ClassId} {before after : Session} {output : String}
      (named : (engine.resolveName (.text said.typeName)).runFrom before =
        (.ok (.value (.cls cls)), after))
      (filled : output.isEmpty = false) : Replies engine (.members said) { status := 0, output }
  | result {said : Arguments} {host : ℕ} {value result : Value} {before between after : Session}
      {text : String}
      (evaluated : (engine.evaluate host value said.steps).runFrom before = (.ok result, between))
      (displayed : (engine.display result).runFrom between = (.ok text, after)) :
      Replies engine (.eval said) { status := 0, output := text ++ "\n" }
  | refused {command : Command} {message : String} (asks : command ≠ .nothing) :
      Replies engine command (complaint message)

/-- The faults by which a command is left without an answer. Those of evaluating come from descriptions
with faults of some set. -/
inductive Unanswered (engine : Engine) (faults : Set Fault) : Command → Fault → Prop
  | literal {said : Arguments} {term : Term} {kind : BuiltinClass}
      (read : Literal.read? said.literal = some term) (unfit : term.unfit? = some kind) :
      Unanswered engine faults (.eval said) (.unhashable kind)
  | evaluating {said : Arguments} {fault : Fault} (raised : fault ∈ faults)
      (foreign : fault.kind.isOwn = false) : Unanswered engine faults (.eval said) fault
  | printing {said : Arguments} {host : ℕ} {value result : Value}
      {before between after : Session} {fault : Fault}
      (evaluated : (engine.evaluate host value said.steps).runFrom before = (.ok result, between))
      (displayed : (engine.display result).runFrom between = (.error fault, after))
      (raised : fault ∈ (Scope.everything faults).allowed) :
      Unanswered engine faults (.eval said) fault
  | relative {said : Arguments} {asked : String}
      (asks : asked = said.typeName ∨ asked = (splitName said.typeName).1)
      (starts : asked.startsWith "." = true) :
      Unanswered engine faults (.members said)
        (.typeError ("the 'package' argument is required to perform a relative import for " ++
          Text.quoted asked))
  | naming {said : Arguments} {fault : Fault} (foils : engine.Foils (.text said.typeName) fault) :
      Unanswered engine faults (.members said) fault
  | leaving {command : Command} {fault : Fault} (exits : fault.kind.isExit = true) :
      Unanswered engine faults command fault

/-- That a command ends in an answer, or with the interpreter, or in a fault that leaves it without an
answer. -/
def Ends (engine : Engine) (faults : Set Fault) (command : Command) : Except Fault Outcome → Prop
  | .ok outcome => engine.Replies command outcome
  | .error fault => fault.isFatal = true ∨ engine.Unanswered faults command fault

variable {engine : Engine} {faults : Set Fault} {command : Command} {said : Arguments}
  {session : Session}

theorem ends_of_escapes {fault : Fault} (escapes : fault.escapes = true) :
    engine.Ends faults command (.error fault) := by
  rcases (Bool.or_eq_true _ _).mp escapes with fatal | exits
  · exact Or.inl fatal
  · exact Or.inr (.leaving exits)

/-- The shared registry is there once it was asked for. -/
theorem present_of_sharedRegistry {world : World} {id : ℕ} {after : Session}
    (shares : ∀ id, session.shared = some id → id < session.registries.size)
    (run : (Act.sharedRegistry world).runFrom session = (.ok id, after)) :
    id < after.registries.size := by
  simp only [Act.sharedRegistry, Act.runFrom_bind, Act.runFrom_get] at run
  cases shared : session.shared with
  | some known =>
      simp only [shared, Act.runFrom_pure] at run
      cases run
      exact shares id shared
  | none =>
      simp only [shared] at run
      rcases Act.addRegistry_ends (Registry.prepare world) session with
        ⟨between, added, present⟩ | ⟨issue, between, -, refused⟩
      · rw [Act.runFrom_bind_of_ok added] at run
        cases run
        exact present
      · rw [Act.runFrom_bind_of_error refused] at run
        cases run

/-- Over the shared registry, a command ends as its own work does, unless there is a complaint about
the registry. -/
theorem ends_withRegistry {folder : Folder} {work : ℕ → Act Outcome}
    (plain : said.value? "config" = none) (asks : command ≠ .nothing)
    (order : session.InOrder engine.world (.everything faults))
    (shares : ∀ id, session.shared = some id → id < session.registries.size)
    (rest : ∀ registry after, Session.InOrder engine.world (.everything faults) after →
      registry < after.registries.size →
        engine.Ends faults command ((work registry).runFrom after).1) :
    engine.Ends faults command ((engine.withRegistry folder said work).runFrom session).1 := by
  have upheld := Act.upholds_sharedRegistry session order
  simp only [withRegistry, registryFor, plain, Act.runFrom_bind, Act.runFrom_attempt]
  rcases run : (Act.sharedRegistry engine.world).runFrom session with ⟨fault | registry, after⟩
  · rw [run] at upheld
    rcases upheld.fault fault rfl with ⟨issue, rfl⟩
    exact .refused asks
  · rw [run] at upheld
    exact rest registry after upheld.order (present_of_sharedRegistry shares run)

section Members

/-- A name that is a text leads to nothing over a complaint, or because it is relative, or because of the
things that it names. -/
theorem unanswered_of_misconfigured {fault : Fault}
    (misconfigured : engine.Misconfigured (.text said.typeName) fault) :
    (∃ issue, fault = .configuration issue) ∨
      engine.Unanswered faults (.members said) fault := by
  cases misconfigured with
  | complaint issue => exact Or.inl ⟨issue, rfl⟩
  | scalar found => cases found
  | tooLong within => cases within
  | relative within asks starts =>
      cases within
      exact Or.inr (.relative asks starts)
  | badKey made => cases made
  | foiled foils => exact Or.inr (.naming foils)

/-- Listing members ends in an answer, or in a fault over the name of the class. -/
theorem ends_listMembers (ordinary : engine.world.Ordinary)
    (keeps : engine.Keeps (Act.Routine.upkeep ordinary faults).toHabit) {registry : ℕ}
    (order : session.InOrder engine.world (.everything faults))
    (present : registry < session.registries.size) :
    engine.Ends faults (.members said) ((engine.listMembers registry said).runFrom session).1 := by
  have asks : Command.members said ≠ .nothing := nofun
  have tended : (engine.resolveName (.text said.typeName)).Tends registry
      (engine.Misconfigured (.text said.typeName)) (engine.Reached (.text said.typeName)) :=
    tends_resolveName .whole
  have tended := tended session (.inr present)
  have upheld := keeps.resolveName said.typeName session order
  simp only [listMembers, Act.runFrom_bind, Act.runFrom_attempt]
  rw [← Arguments.typeName]
  -- A name stands for a class, for something else or for nothing; only a class is listed.
  rcases run : (engine.resolveName (.text said.typeName)).runFrom session with ⟨fault | thing, after⟩
  · rw [run] at tended
    rcases unanswered_of_misconfigured (tended.fault fault rfl) with ⟨issue, rfl⟩ | unanswered
    · exact .refused asks
    · cases fault
      case configuration issue => exact .refused asks
      all_goals exact Or.inr unanswered
  · rw [run] at upheld
    cases thing with
    | descriptor kind => exact .refused asks
    | value value =>
        cases value
        case cls cls =>
          have views := Act.upholds_viewOf ordinary.declared registry cls after upheld.order
          have listed (output : String) (last : Session) :
              engine.Ends faults (.members said) (Act.runFrom
                (if output.isEmpty = true then pure (complaint ("no members found on " ++ cls.name))
                else pure { status := 0, output }) last).1 := by
            split
            · exact Replies.refused asks
            · rename_i filled
              exact Replies.listing run (Bool.not_eq_true _ ▸ filled)
          simp only [Act.runFrom_bind]
          rcases viewed : (Act.onRegistry registry (Registry.viewOf engine.world cls)).runFrom after
            with ⟨fault | view, last⟩
          · rw [viewed] at views
            exact ends_of_escapes (views.fault fault rfl)
          · exact listed _ last
        all_goals exact .refused asks

end Members

section Evaluation

/-- A fault of evaluating that is allowed is complained of, or leaves the command without an answer. -/
theorem ends_of_allowed {fault : Fault} (allowed : fault ∈ (Scope.everything faults).allowed)
    (foreign : fault.kind.isOwn = false) : engine.Ends faults (.eval said) (.error fault) := by
  rcases allowed with (missing | failed | late | escapes) | raised
  · rw [missing] at foreign
    cases foreign
  · rw [failed] at foreign
    cases foreign
  · rw [late] at foreign
    cases foreign
  · exact ends_of_escapes escapes
  · exact Or.inr (.evaluating raised foreign)

/-- The value of a literal is made unless a collection in it stands in the place of a key. Text that is
no literal stands for itself. -/
theorem unfit_of_makeLiteral {fault : Fault} {after : Session}
    (run : (engine.makeLiteral ((Literal.read? said.literal).getD (.text said.literal))).runFrom
      session = (.error fault, after)) :
    ∃ term kind, Literal.read? said.literal = some term ∧ term.unfit? = some kind ∧
      fault = .unhashable kind := by
  cases read : Literal.read? said.literal with
  | none =>
      rw [read] at run
      cases run
  | some term =>
      rw [read, Option.getD_some] at run
      have makes := engine.makes_makeLiteral (Literal.plain_of_read read) session
      cases unfit : term.unfit? with
      | none =>
          rw [unfit] at makes
          rcases makes with ⟨value, last, made, -, -⟩
          rw [run] at made
          cases made
      | some kind =>
          rw [unfit] at makes
          rcases makes with ⟨last, failed, -⟩
          rw [run] at failed
          cases failed
          exact ⟨term, kind, rfl, unfit, rfl⟩

/-- Evaluating ends in an answer, or in a fault over the literal, or in one of a description. -/
theorem ends_evaluateLiteral (ordinary : engine.world.Ordinary)
    (attends : engine.Attends (.everything faults)) {registry : ℕ}
    (order : session.InOrder engine.world (.everything faults)) :
    engine.Ends faults (.eval said)
      ((engine.evaluateLiteral registry said).runFrom session).1 := by
  have asks : Command.eval said ≠ .nothing := nofun
  have known (value : Value) : value ∈ (Scope.everything faults).values := trivial
  simp only [evaluateLiteral, Act.runFrom_bind, Act.runFrom_attempt]
  rw [← Arguments.literal, ← Arguments.steps]
  -- Making the literal, taking the steps and displaying the result each end the command or hand over an
  -- orderly session.
  have makes := (Act.Routine.upkeep ordinary faults).makeLiteral engine
    ((Literal.read? said.literal).getD (.text said.literal)) session order
  rcases made : (engine.makeLiteral ((Literal.read? said.literal).getD
    (.text said.literal))).runFrom session with ⟨fault | value, after⟩
  · rcases unfit_of_makeLiteral made with ⟨term, kind, read, unfit, rfl⟩
    exact Or.inr (.literal read unfit)
  · rw [made] at makes
    have serves := Act.upholds_addHost ordinary registry after makes.order
    rcases served : (Act.addHost registry).runFrom after with ⟨fault | host, between⟩
    · cases served
    · rw [served] at serves
      have evaluates : Act.Upholds engine.world (.everything faults) Set.univ
          (Scope.everything faults).allowed (engine.evaluate host value said.steps) :=
        attends.evaluate host (known value) fun step _ => known step
      have evaluates := evaluates between serves.order
      rcases evaluated : (engine.evaluate host value said.steps).runFrom between with
        ⟨fault | result, last⟩
      · rw [evaluated] at evaluates
        simp only [served, evaluated]
        split
        · exact Replies.refused asks
        · rename_i foreign
          exact ends_of_allowed (evaluates.fault fault rfl) (Bool.not_eq_true _ ▸ foreign)
      · simp only [served, evaluated, Act.runFrom_bind]
        rw [evaluated] at evaluates
        have displays := attends.toTends.shows (known result) last evaluates.order
        rcases displayed : (engine.display result).runFrom last with ⟨fault | text, final⟩
        · rw [displayed] at displays
          exact Or.inr (.printing evaluated displayed (displays.fault fault rfl))
        · exact Replies.result evaluated displayed

end Evaluation

/-- A command without a configuration ends in an answer, or in a fault that leaves it without one. -/
theorem ends_runCommandLine (ordinary : engine.world.Ordinary)
    (attends : engine.Attends (.everything faults)) (folder : Folder) {arguments : List String}
    (accepted : Command.read arguments = .ok command) (plain : command.config? = none)
    (order : session.InOrder engine.world (.everything faults))
    (shares : ∀ id, session.shared = some id → id < session.registries.size) :
    engine.Ends faults command ((engine.runCommandLine folder arguments).runFrom session).1 := by
  simp only [runCommandLine, accepted]
  cases command with
  | nothing => exact Replies.help
  | members said =>
      refine ends_withRegistry plain nofun order shares ?_
      intro registry after still present
      exact ends_listMembers ordinary attends.toTends.keeps still present
  | eval said =>
      refine ends_withRegistry plain nofun order shares ?_
      intro registry after still _
      exact ends_evaluateLiteral ordinary attends still

section Examples

/-- That accepted arguments without a configuration end in a fault of a kind over which the interpreter
does not give up. -/
def LeavesUnanswered (engine : Engine) (arguments : List String) (kind : FaultKind) : Prop :=
  ∃ command fault, Command.read arguments = .ok command ∧ command.config? = none ∧
    ((engine.runCommandLine {} arguments).runFrom {}).1 = .error fault ∧ fault.kind = kind ∧
      fault.isFatal = false

/-- The kind of the fault that arguments lead to, if they lead to one. -/
def endingKind? (engine : Engine) (arguments : List String) : Option FaultKind :=
  match ((engine.runCommandLine {} arguments).runFrom {}).1 with
  | .ok _ => none
  | .error fault => some fault.kind

theorem leavesUnanswered_of_endingKind {arguments : List String} {kind : FaultKind}
    (accepts : Command.acceptsPlain arguments = true)
    (ends : engine.endingKind? arguments = some kind) (minor : kind.isFatal = false) :
    engine.LeavesUnanswered arguments kind := by
  rcases Command.exists_of_acceptsPlain accepts with ⟨command, accepted, plain⟩
  unfold endingKind? at ends
  split at ends
  · cases ends
  · rename_i fault raised
    cases ends
    exact ⟨command, fault, accepted, plain, raised, rfl, minor⟩

end Examples

end Engine

end MemberDispatch
