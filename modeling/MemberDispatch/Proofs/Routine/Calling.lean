import MemberDispatch.Calling
import MemberDispatch.Proofs.Routine.Collections

/-!
# Routines of calls

Whatever is called, a declared function, a function of a module or a provider, a member of a built-in
class or a class itself, keeps to every routine that the operations of the engine keep to.
-/

namespace MemberDispatch

namespace Act.Routine

variable (routine : Act.Routine)

section Functions

theorem characterOf (number : ℤ) : routine.Of (Engine.characterOf number) :=
  routine.ite (routine.throw _) (routine.pure _)

theorem numberOfCharacter (value : Value) : routine.Of (Engine.numberOfCharacter value) := by
  unfold Engine.numberOfCharacter
  refine routine.bind (routine.contentOf value) ?_
  intro content
  split
  · split
    · exact routine.pure _
    · exact routine.throw _
  · exact routine.pure _
  · exact routine.bind (routine.className _) fun _ => routine.throw _

theorem mathematicalFunction (name : String) (arguments : List Value) :
    routine.Of (Engine.mathematicalFunction name arguments) := by
  have real {α : Type} (value : Value) (work : Float → Act α)
      (each : ∀ number, routine.Of (work number)) :
      routine.Of (Engine.realOf value >>= work) :=
    routine.bind (routine.realOf value) each
  have whole (work : ℤ → Act Value) (each : ∀ number, routine.Of (work number)) :
      routine.Of (Argument.integer (Argument.atOrNone arguments 0) >>= work) :=
    routine.bind (routine.integer _) each
  unfold Engine.mathematicalFunction
  dsimp only
  split
  · exact routine.bind (routine.ceilingOf _) fun _ => routine.pure _
  · exact routine.bind (routine.floorOf _) fun _ => routine.pure _
  · exact routine.bind (routine.roundedBy _ _ _ _) fun _ => routine.pure _
  · exact real _ _ fun _ => routine.pure _
  · exact real _ _ fun _ => routine.pure _
  · exact real _ _ fun _ => routine.pure _
  · exact routine.logarithmOf _ _
  · exact routine.logarithmOf _ _
  · exact whole _ fun _ => routine.ite (routine.throw _) (routine.pure _)
  · exact whole _ fun _ => routine.ite (routine.throw _) (routine.pure _)
  · exact real _ _ fun _ => real _ _ fun _ => routine.pure _
  · exact real _ _ fun _ => real _ _ fun _ => routine.pure _
  · exact real _ _ fun _ => real _ _ fun _ =>
      routine.bind (routine.ofReal _) fun _ => routine.pure _
  · exact real _ _ fun _ => real _ _ fun _ =>
      routine.bind (routine.ofReal _) fun _ => routine.pure _
  · split
    · refine real _ _ fun number => routine.ite (routine.throw _) ?_
      exact routine.bind (routine.ofReal _) fun _ => routine.pure _
    · exact routine.throw _

theorem paragraph (value : Value) (member : String) : routine.Of (Engine.paragraph value member) := by
  unfold Engine.paragraph
  refine routine.bind (routine.contentOf value) ?_
  intro content
  split
  · exact routine.pure _
  · exact routine.bind (routine.classOf _) fun _ => routine.throw _

/-- Binding arguments makes the values of defaults at most. -/
theorem bindArguments (function : FunctionDecl) (arguments : List Value) :
    routine.Of (function.bind arguments) := by
  unfold FunctionDecl.bind
  refine routine.ite (routine.throw _) (routine.ite (routine.throw _) (routine.ite (routine.throw _) ?_))
  exact routine.bind (routine.mapM (fun _ => routine.make _) _) fun _ => routine.pure _

end Functions

section Bodies

theorem setAttributeOf (value : Value) (name : String) (content : Value) :
    routine.Of (Engine.setAttributeOf value name content) := by
  unfold Engine.setAttributeOf
  split
  · exact routine.setAttribute _ _ _
  · exact routine.bind (routine.classOf _) fun _ => routine.throw _

theorem bodyArgument (arguments : List Value) (position : ℕ) :
    routine.Of (Engine.bodyArgument arguments position) := by
  unfold Engine.bodyArgument
  split
  · exact routine.pure _
  · exact routine.throw _

theorem storeArguments (target : Value) (names : List String) (arguments : List Value) :
    routine.Of (Engine.storeArguments target names arguments) := by
  induction names generalizing arguments with
  | nil => exact routine.pure _
  | cons name names ih =>
      cases arguments with
      | nil => exact routine.pure _
      | cons argument arguments =>
          exact routine.bind (routine.setAttributeOf _ _ _) fun _ => ih _

end Bodies

section Numbers

variable (engine : Engine)

theorem wholeNumberOf (value : Value) : routine.Of (engine.builtinOf .int [value]) := by
  unfold Engine.builtinOf
  refine routine.bind (routine.contentOf value) ?_
  intro content
  split
  · split
    · exact routine.pure _
    · exact routine.bind (routine.ofReal _) fun _ => routine.pure _
  · split
    · exact routine.pure _
    · exact routine.unbounded _
  · exact routine.pure _
  · exact routine.bind (routine.writtenInteger _ _) fun _ => routine.pure _
  · refine routine.bind (routine.bytes value) ?_
    intro bytes
    split
    · exact routine.pure _
    · exact routine.bind (routine.integerOfBytes _ _) fun _ => routine.pure _
    · exact routine.bind (routine.className _) fun _ => routine.throw _

theorem decimalOf (value : Value) : routine.Of (engine.builtinOf .decimal [value]) := by
  unfold Engine.builtinOf
  refine routine.bind (routine.contentOf value) ?_
  intro content
  split
  · exact routine.pure _
  · exact routine.pure _
  · split
    · exact routine.pure _
    · exact routine.throw _
  · split
    · exact routine.pure _
    · exact routine.bind (routine.classOf _) fun _ => routine.throw _

end Numbers

end Act.Routine

namespace Engine.Keeps

variable {routine : Act.Routine} {engine : Engine} (keeps : engine.Keeps routine.toHabit)

include keeps

section Functions

theorem generalFunction (name : String) (arguments : List Value) :
    routine.Of (engine.generalFunction name arguments) := by
  unfold Engine.generalFunction
  dsimp only
  split
  · exact keeps.operate _ _
  · exact keeps.operate _ _
  · exact routine.bind (keeps.display _) fun _ => routine.pure _
  · exact routine.pure _
  · exact routine.bind (routine.integer _) fun _ => routine.pure _
  · exact routine.bind (routine.integer _) fun _ => routine.pure _
  · exact routine.bind (routine.integer _) fun _ => routine.pure _
  · exact routine.bind (routine.integer _) fun _ => routine.characterOf _
  · exact routine.numberOfCharacter _
  · exact routine.bind (keeps.itemsOf _) fun _ =>
      routine.bind (routine.allM keeps.isTrue _) fun _ => routine.pure _
  · exact routine.bind (keeps.itemsOf _) fun _ =>
      routine.bind (routine.anyM keeps.isTrue _) fun _ => routine.pure _
  · exact routine.bind (keeps.itemsOf _) fun _ =>
      routine.bind (keeps.sorted _) fun _ => routine.makeList _
  · exact routine.bind (keeps.itemsOf _) fun _ => routine.foldlM (keeps.combine _) _ _
  · exact keeps.combine _ _ _
  · exact routine.bind (keeps.combine _ _ _) fun _ =>
      routine.bind (keeps.combine _ _ _) fun _ => routine.pure _
  · exact routine.throw _

theorem lineWidth (value : Value) : routine.Of (engine.lineWidth value) := by
  unfold Engine.lineWidth
  refine routine.bind (keeps.compares _ _ _) fun small => routine.ite ?_ ?_
  · exact routine.bind (keeps.display _) fun _ => routine.throw _
  · exact routine.bind (routine.integer _) fun _ => routine.pure _

theorem indented (start predicate : Value) (line : List Char) :
    routine.Of (engine.indented start predicate line) := by
  unfold Engine.indented
  extract_lets shown rest
  have goes_on (selected : Bool) : routine.Of (rest selected) :=
    routine.ite (keeps.combine _ _ _) (routine.pure _)
  split
  · exact routine.bind (routine.pure _) goes_on
  · split
    · exact routine.bind (keeps.call _ _) fun _ => routine.bind (keeps.isTrue _) goes_on
    · exact routine.bind (routine.className _) fun _ => routine.bind (routine.throw _) goes_on

theorem paragraphFunction (name : String) (arguments : List Value) :
    routine.Of (engine.paragraphFunction name arguments) := by
  have wide (member : String) (work : List Char → ℕ → Act Value)
      (each : ∀ text width, routine.Of (work text width)) : routine.Of (do
        let text ← paragraph (Argument.atOrNone arguments 0) member
        work text (← engine.lineWidth (Argument.atOrNone arguments 1))) :=
    routine.bind (routine.paragraph _ _) fun _ => routine.bind (keeps.lineWidth _) fun _ => each _ _
  unfold Engine.paragraphFunction
  dsimp only
  split
  · exact wide _ _ fun _ _ => routine.makeList _
  · exact wide _ _ fun _ _ => routine.pure _
  · refine routine.bind (routine.paragraph _ _) ?_
    intro text
    refine routine.bind (keeps.lineWidth _) ?_
    intro width
    split
    · exact routine.pure _
    · exact routine.throw _
  · refine routine.bind (routine.contentOf _) ?_
    intro content
    split
    · exact routine.pure _
    · exact routine.bind (routine.className _) fun _ => routine.throw _
  · refine routine.bind (routine.paragraph _ _) ?_
    intro text
    refine routine.bind (routine.mapM (keeps.indented _ _) _) ?_
    intro lines
    exact routine.bind (routine.mapM (fun _ => routine.textArgument _ _) _) fun _ => routine.pure _

theorem moduleFunction (moduleName name : String) (arguments : List Value) :
    routine.Of (engine.moduleFunction moduleName name arguments) := by
  unfold Engine.moduleFunction
  split
  · exact keeps.generalFunction _ _
  · exact routine.mathematicalFunction _ _
  · exact keeps.paragraphFunction _ _

theorem libraryFunction (owner : BuiltinClass) (name : String) (arguments : List Value) :
    routine.Of (engine.libraryFunction owner name arguments) := by
  unfold Engine.libraryFunction
  split
  · exact keeps.collectionFunction _ _
  · exact keeps.textFunction _ _
  · exact keeps.numericFunction _ _

end Functions

section Bodies

theorem madeAttributes (arguments : List Value) (sources : List (String × AttributeSource)) :
    routine.Of (engine.madeAttributes arguments sources) := by
  induction sources with
  | nil => exact routine.pure _
  | cons source sources ih =>
      rcases source with ⟨name, source⟩
      unfold Engine.madeAttributes
      extract_lets rest converted
      have ends (value : Value) : routine.Of (rest value) :=
        routine.bind ih fun _ => routine.pure _
      have goes_on (made : Value × Option CoercionName) : routine.Of (converted made) := by
        rcases made with ⟨value, conversion⟩
        cases conversion with
        | none => exact routine.bind (routine.pure _) ends
        | some conversion => exact routine.bind (keeps.coerce _ _) ends
      split
      · exact routine.bind (routine.bodyArgument _ _) fun _ => routine.bind (routine.pure _) goes_on
      · exact routine.bind (routine.make _) fun _ => routine.bind (routine.pure _) goes_on

theorem runBody (name : String) (body : Body) (arguments : List Value) :
    routine.Of (engine.runBody name body arguments) := by
  unfold Engine.runBody
  split
  · exact routine.makeList _
  · exact routine.make _
  · exact routine.bodyArgument _ _
  · exact routine.bind (routine.bodyArgument _ _) fun _ => keeps.attributeOf _ _
  · refine routine.bind (routine.bodyArgument _ _) ?_
    intro target
    refine routine.bind (keeps.attributeOf _ _) fun old => routine.bind (keeps.operate _ _) ?_
    intro new
    exact routine.bind (routine.setAttributeOf _ _ _) fun _ => routine.pure _
  · exact routine.bind (keeps.madeAttributes _ _) fun _ => routine.makeDeclared rfl
  · exact routine.bind (routine.bodyArgument _ _) fun _ => keeps.coerce _ _
  · exact routine.throw _
  · exact routine.pure _
  · exact routine.bind (routine.make _) fun _ => routine.bind (keeps.text _) fun _ => routine.pure _
  · refine routine.bind (routine.bodyArgument _ _) ?_
    intro target
    exact routine.bind (routine.storeArguments _ _ _) fun _ => routine.pure _

theorem fractionOf (value : Value) : routine.Of (engine.fractionOf value) := by
  unfold Engine.fractionOf
  refine routine.bind (routine.contentOf value) ?_
  intro content
  split
  · split
    · exact routine.pure _
    · exact routine.throw _
    · exact routine.bind (routine.integerText _) fun _ => routine.throw _
  · exact keeps.fractionOfFloat _
  · exact keeps.fractionOfDecimal _
  · split
    · exact routine.pure _
    · exact routine.throw _

theorem realNumberOf (value : Value) : routine.Of (engine.builtinOf .float [value]) := by
  have real : routine.Of (realOf value >>= fun number => pure (.float number) : Act Value) :=
    routine.bind (routine.realOf value) fun _ => routine.pure _
  unfold Engine.builtinOf
  refine routine.bind (routine.contentOf value) ?_
  intro content
  split
  any_goals exact real
  · exact routine.bind (routine.realText _) fun _ => routine.pure _
  · exact routine.pure _
  · refine routine.bind (routine.bytes value) ?_
    intro bytes
    split
    · refine routine.bind (keeps.display _) fun _ => ?_
      exact routine.bind (routine.realOfBytes _ _) fun _ => routine.pure _
    · exact routine.bind (routine.className _) fun _ => routine.throw _

theorem builtinOf (kind : BuiltinClass) (arguments : List Value) :
    routine.Of (engine.builtinOf kind arguments) := by
  have listed (value : Value) (work : List Value → Act Value)
      (each : ∀ items, routine.Of (work items)) : routine.Of (do
        let items ← engine.itemsOf value
        engine.announced value
        work items) :=
    routine.bind (keeps.itemsOf _) fun _ => routine.bind (keeps.announced _) fun _ => each _
  have distinct (value : Value) (work : List Value → Act Value)
      (each : ∀ items, routine.Of (work items)) : routine.Of (do
        work (← engine.distinctKeys (← engine.itemsOf value))) :=
    routine.bind (keeps.itemsOf _) fun _ => routine.bind (routine.distinctKeys engine _) each
  fun_cases Engine.builtinOf engine kind arguments
  any_goals exact routine.pure _
  · exact routine.wholeNumberOf engine _
  · exact keeps.realNumberOf _
  · exact routine.bind (keeps.isTrue _) fun _ => routine.pure _
  · exact keeps.spoken _
  · exact routine.makeList _
  · exact listed _ _ fun _ => routine.makeList _
  · exact listed _ _ fun _ => routine.pure _
  · exact routine.makeSet _
  · exact distinct _ _ fun _ => routine.makeSet _
  · exact distinct _ _ fun _ => routine.pure _
  · exact routine.decimalOf engine _
  · exact keeps.fractionOf _
  · exact routine.bind (routine.classOf _) fun _ => routine.pure _
  · exact routine.throw _

theorem construct (cls : ClassId) (arguments : List Value) :
    routine.Of (engine.construct cls arguments) := by
  unfold Engine.construct
  split
  · exact keeps.builtinOf _ _
  · extract_lets initializer? rest
    have goes_on (content : Content) : routine.Of (rest content) := by
      clear_value initializer?
      refine routine.bind (routine.makeDeclared rfl) ?_
      intro made
      cases initializer? with
      | none => exact routine.pure _
      | some function => exact routine.bind (keeps.call _ _) fun _ => routine.pure _
    split
    · exact routine.ite (routine.bind (routine.throw _) goes_on) (routine.bind (routine.pure _) goes_on)
    · refine routine.bind (keeps.builtinOf _ _) ?_
      intro made
      split
      · refine routine.bind (routine.objectAt _) ?_
        intro object
        exact routine.bind (routine.pure _) goes_on
      · exact routine.bind (routine.pure _) goes_on

theorem callFunction (function : FunctionDecl) (arguments : List Value) :
    routine.Of (engine.callFunction function arguments) := by
  unfold Engine.callFunction
  split
  · exact routine.bind (routine.bindArguments _ _) fun _ => keeps.runBody _ _ _
  · exact keeps.intrinsicFunction _ _ _
  · exact routine.bind (routine.bindArguments _ _) fun _ => keeps.libraryFunction _ _ _
  · extract_lets rest
    have goes_on (arguments : List Value) : routine.Of (rest arguments) := keeps.moduleFunction _ _ _
    split
    · exact routine.bind (routine.bindArguments _ _) goes_on
    · exact routine.bind (routine.pure _) goes_on

/-- Whatever is called keeps to a routine. -/
theorem callWith (callable : Callable) (arguments : List Value) :
    routine.Of (engine.callWith callable arguments) := by
  unfold Engine.callWith
  split
  · exact keeps.callFunction _ _
  · split
    · exact keeps.callFunction _ _
    · exact keeps.callFunction _ _
  · exact keeps.operate _ _
  · split
    · exact keeps.attributeOf _ _
    · exact routine.throw _
  · exact keeps.construct _ _
  · exact keeps.runBody _ _ _

end Bodies

end Engine.Keeps

end MemberDispatch
