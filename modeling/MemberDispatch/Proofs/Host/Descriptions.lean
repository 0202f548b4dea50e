import MemberDispatch.Proofs.Host.Chains
import MemberDispatch.Proofs.Routine.Calling
import MemberDispatch.Proofs.Routine.Upkeep

/-!
# Descriptions

The displays and texts of values fail over whole numbers with more digits than are written, and over what
the methods by which classes tell their texts do. Apart from the documented faults, which pending calls
answer, nothing else comes of describing a value. As an engine of a level works by the one below, each
level leaves sessions in order and describes values with such faults only.
-/

namespace MemberDispatch

open Act

/-- The faults that describing values of a world may come to besides the documented ones. -/
inductive World.Description (world : World) : Fault → Prop
  | digits : Description world (.valueError IntegerTextIssue.tooLongToWrite.message)
  /-- What the method of a class raises. -/
  | raised {cls owner : ClassId} {function : FunctionDecl} {level : ℕ} {value : Value} {fault : Fault}
      {before after : Session}
      (own : world.entryAlong? cls "__str__" = some (owner, .method function))
      (run : ((machine world level).call (.plain function) [value]).runFrom before =
        (.error fault, after)) : Description world fault
  /-- The method of a class answers a value that is no text. -/
  | answered {cls owner : ClassId} {function : FunctionDecl} (answer : ClassId)
      (own : world.entryAlong? cls "__str__" = some (owner, .method function)) :
      Description world
        (.typeError ("__str__ returned non-string (type " ++ answer.operandName ++ ")"))

def World.descriptions (world : World) : Set Fault :=
  { fault | world.Description fault }

/-- Where no class tells its text, only numbers cannot be described. -/
theorem World.digits_of_description {world : World} {fault : Fault}
    (none : ∀ cls owner function, world.entryAlong? cls "__str__" ≠ some (owner, .method function))
    (description : world.Description fault) :
    fault = .valueError IntegerTextIssue.tooLongToWrite.message := by
  cases description with
  | digits => rfl
  | raised own run => exact absurd own (none _ _ _)
  | answered answer own => exact absurd own (none _ _ _)

theorem World.entryAlong_start (cls : ClassId) : ({} : World).entryAlong? cls "__str__" = none := by
  cases cls with
  | builtin kind =>
      cases kind
      all_goals rfl
  | declared name => rfl

/-- In the world that everything begins with, only numbers cannot be described. -/
theorem World.digits_of_description_start {fault : Fault} (description : World.Description {} fault) :
    fault = .valueError IntegerTextIssue.tooLongToWrite.message := by
  refine World.digits_of_description ?_ description
  intro cls owner function own
  rw [World.entryAlong_start] at own
  cases own

namespace Act

section Describing

variable {α β : Type} {world : World}

/-- That work leaves sessions in order and fails in the ways that describing values does. -/
def Depicts (world : World) (work : Act α) : Prop :=
  Upholds world (.everything world.descriptions) Set.univ
    (Scope.everything world.descriptions).allowed work

namespace Depicts

theorem pure (result : α) : Depicts world (Pure.pure result : Act α) :=
  upholds_pure trivial

theorem bind {work : Act α} {next : α → Act β} (first : Depicts world work)
    (second : ∀ result, Depicts world (next result)) : Depicts world (work >>= next) :=
  Upholds.bind first fun result _ => second result

theorem ofUpholds {results : Set α} {work : Act α}
    (upholds : Upholds world (.everything world.descriptions) results
      (Scope.everything world.descriptions).allowed work) : Depicts world work :=
  upholds.mono (Set.subset_univ _) fun _ raised => raised

theorem classOf (value : Value) : Depicts world (Act.classOf value) :=
  ofUpholds (upholds_classOf trivial)

theorem contentOf (value : Value) : Depicts world (Act.contentOf value) :=
  ofUpholds (upholds_contentOf trivial)

theorem get : Depicts world (MonadState.get : Act Session) :=
  fun _ order => upheld_ok order trivial

theorem objectAt (address : ℕ) : Depicts world (Act.objectAt address) :=
  get.bind fun _ => pure _

theorem mapM {work : α → Act β} (each : ∀ item, Depicts world (work item)) (items : List α) :
    Depicts world (items.mapM work) :=
  Upholds.mapM fun item _ => each item

theorem integerText (number : ℤ) : Depicts world (Act.integerText number) := by
  unfold Act.integerText writeInteger
  split
  · exact pure _
  · rename_i issue refused
    split at refused
    · cases refused
      exact upholds_throw (Or.inr .digits)
    · cases refused

theorem fractionText (ratio : Rat) : Depicts world (Act.fractionText ratio) := by
  unfold Act.fractionText
  refine (integerText _).bind ?_
  intro numerator
  split
  · exact pure _
  · exact (integerText _).bind fun _ => pure _

theorem whileDisplaying {work : Act α} (address : ℕ) (depicts : Depicts world work) :
    Depicts world (Act.whileDisplaying address work) := by
  have displaying (change : List ℕ → List ℕ) : Depicts world
      (modify fun session => { session with displaying := change session.displaying } : Act Unit) :=
    upholds_modify fun _ order => ⟨order.1, order.2, order.3, order.4, order.5, order.6, order.7⟩
  unfold Act.whileDisplaying
  refine (displaying fun shown => address :: shown).bind fun _ => ?_
  refine Upholds.bind (Upholds.attempt depicts _) ?_
  intro made parts
  refine Upholds.bind (displaying fun shown => shown.erase address) fun _ _ => ?_
  rcases made with fault | result
  · exact upholds_throw (parts.2 fault rfl)
  · exact pure result

end Depicts

end Describing

end Act

namespace Engine.Tends

variable {engine : Engine} (tends : engine.Tends (.everything engine.world.descriptions))

include tends

section Displays

theorem displays (value : Value) : Depicts engine.world (engine.display value) :=
  tends.shows trivial

theorem texts (value : Value) : Depicts engine.world (engine.text value) :=
  tends.tells trivial

theorem displayAll (values : List Value) : Depicts engine.world (engine.displayAll values) := by
  induction values with
  | nil => exact .pure _
  | cons value values ih =>
      unfold Engine.displayAll
      exact (tends.displays value).bind fun _ => ih.bind fun _ => .pure _

theorem displayContent (object : Object) :
    Depicts engine.world (engine.displayContent object) := by
  have each (entry : Value × Value) : Depicts engine.world (do
      let key ← engine.display entry.1
      let value ← engine.display entry.2
      return key ++ ": " ++ value) :=
    (tends.displays _).bind fun _ => (tends.displays _).bind fun _ => .pure _
  unfold Engine.displayContent
  split
  · exact (tends.displayAll _).bind fun _ => .pure _
  · exact (Depicts.mapM each _).bind fun _ => .pure _
  · split
    · exact .pure _
    · exact (tends.displayAll _).bind fun _ => .pure _
  · exact .pure _
  · exact tends.displays _
  · refine Depicts.bind (Depicts.mapM (fun named => ?_) _) fun _ => .pure _
    exact (tends.displays _).bind fun _ => .pure _

/-- Arguments of pending calls show by formatters, and each class has one. -/
theorem displayCall (call : PendingCall) : Depicts engine.world (engine.displayCall call) := by
  unfold Engine.displayCall Engine.renderPath
  refine Depicts.bind ?_ fun path => (Depicts.classOf _).bind fun _ => .pure _
  exact (Depicts.mapM (fun _ => tends.renderArgument trivial) _).bind fun _ => .pure _

theorem displayWith (value : Value) : Depicts engine.world (engine.displayWith value) := by
  unfold Engine.displayWith
  split
  any_goals exact .pure _
  · exact .integerText _
  · exact (Depicts.integerText _).bind fun _ => (Depicts.integerText _).bind fun _ => .pure _
  · refine (tends.displayAll _).bind ?_
    intro texts
    split
    · exact .pure _
    · exact .pure _
  · exact (tends.displayAll _).bind fun _ => .pure _
  · refine (Depicts.objectAt _).bind fun object => Depicts.get.bind ?_
    intro session
    split
    · exact .pure _
    · exact .whileDisplaying _ (tends.displayContent _)
  · refine Depicts.bind (Depicts.get.bind fun _ => .pure _) ?_
    intro found
    cases found with
    | none => exact .pure _
    | some call => exact tends.displayCall call
  · exact (tends.displays _).bind fun _ => .pure _

end Displays

section Texts

/-- The text of a pending call is that of its outcome. -/
theorem callText (id : ℕ) : Depicts engine.world (engine.callText id) := by
  unfold Engine.callText
  refine Upholds.bind (upholds_callAt id) ?_
  intro call within
  split
  · exact Depicts.bind (tends.callPath within none) fun _ => .pure _
  · exact Upholds.whileLocked ((tends.settle id).bind fun result _ => tends.texts result)

theorem textWith
    (methods : ∀ {cls owner function}, engine.world.entryAlong? cls "__str__" =
      some (owner, .method function) →
        ∀ value, Depicts engine.world (engine.call (.plain function) [value]))
    (value : Value) : Depicts engine.world (engine.textWith value) := by
  unfold Engine.textWith
  split
  · exact .pure _
  · exact .pure _
  · exact .fractionText _
  · refine (Depicts.objectAt _).bind ?_
    intro object
    split
    · rename_i own
      refine (methods own _).bind ?_
      intro answer
      split
      · exact .pure _
      · refine (Depicts.contentOf _).bind ?_
        intro content
        split
        · exact .pure _
        · refine (Depicts.classOf _).bind ?_
          intro cls
          exact upholds_throw (Or.inr (.answered cls own))
    · split
      · exact tends.texts _
      · exact tends.displays _
  · exact tends.displays _

end Texts

end Engine.Tends

section Levels

variable {world : World}

/-- At the bottom there is only one complaint, which handlers of ordinary faults pass on. -/
theorem tends_bottom (scope : Scope) : (machine world 0).Tends scope where
  call _ _ := upholds_throw trivial
  operate _ _ := upholds_throw trivial
  text _ := upholds_throw trivial
  display _ := upholds_throw trivial
  step _ _ _ _ _ := upholds_throw trivial
  tells _ := upholds_throw (documented_of_escapes rfl)
  shows _ := upholds_throw (documented_of_escapes rfl)

section Step

variable {level : ℕ} (below : (machine world level).Tends (.everything world.descriptions))

include below

/-- What a method by which a class tells its text raises is one of the faults of descriptions. -/
theorem depicts_method {cls owner : ClassId} {function : FunctionDecl}
    (own : world.entryAlong? cls "__str__" = some (owner, .method function)) (value : Value) :
    Depicts world ((machine world level).call (.plain function) [value]) := by
  intro session order
  have called := below.call (.plain function) [value]
  rw [world_machine] at called
  refine ⟨(called session order).order, fun _ _ => trivial, ?_⟩
  intro fault failed
  exact Or.inr (.raised own (Prod.ext failed rfl))

theorem tends_own :
    (machine world level).Tends (.everything (machine world level).world.descriptions) := by
  rw [world_machine]
  exact below

theorem depicts_display (value : Value) :
    Depicts world ((machine world (level + 1)).display value) := by
  have shown := (tends_own below).displayWith value
  rw [world_machine] at shown
  exact shown

theorem depicts_text (value : Value) : Depicts world ((machine world (level + 1)).text value) := by
  have methods {cls owner : ClassId} {function : FunctionDecl}
      (own : (machine world level).world.entryAlong? cls "__str__" =
        some (owner, .method function)) (value : Value) :
      Depicts (machine world level).world
        ((machine world level).call (.plain function) [value]) := by
    rw [world_machine] at own ⊢
    exact depicts_method below own value
  have told := (tends_own below).textWith methods value
  rw [world_machine] at told
  cases value
  case pending id =>
    have outcome := (tends_own below).callText id
    rw [world_machine] at outcome
    exact outcome
  all_goals exact told

/-- A level tends if the level below does, as its operations are those of the engine below. -/
theorem tends_above (ordinary : world.Ordinary) :
    (machine world (level + 1)).Tends (.everything world.descriptions) := by
  have keeps : (machine world level).Keeps
      (Routine.upkeep ordinary world.descriptions).toHabit := by
    have kept := below.keeps
    rw [world_machine] at kept
    exact kept
  have declared : (machine world level).world.Declared := by
    rw [world_machine]
    exact ordinary.declared
  have texts := depicts_text below
  have displays := depicts_display below
  exact
    { call := fun callable arguments => keeps.callWith callable arguments
      operate := fun operator operands => keeps.operateWith operator operands
      text := fun value => (texts value).mono (Set.subset_univ _) (Set.subset_univ _)
      display := fun value => (displays value).mono (Set.subset_univ _) (Set.subset_univ _)
      step := fun host target argument aimed given => by
        have stepped := below.stepWith declared host aimed given none
        rw [world_machine] at stepped
        exact stepped.mono subset_rfl (Set.subset_univ _)
      tells := fun _ => texts _
      shows := fun _ => displays _ }

end Step

/-- Every level leaves sessions in order and describes values with the faults of descriptions. -/
theorem tends_machine (ordinary : world.Ordinary) (level : ℕ) :
    (machine world level).Tends (.everything world.descriptions) := by
  induction level with
  | zero => exact tends_bottom _
  | succ level below => exact tends_above below ordinary

/-- The engine of a session leaves it in order, and its steps fail as they should or as descriptions do. -/
theorem attends_engine (ordinary : world.Ordinary) :
    world.engine.Attends (.everything world.descriptions) :=
  Engine.attends_machine ordinary.declared (tends_machine ordinary _) (tends_machine ordinary _)

end Levels

end MemberDispatch
