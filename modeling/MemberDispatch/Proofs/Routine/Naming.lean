import MemberDispatch.CommandLine
import MemberDispatch.Proofs.Routine.Operators

/-!
# Routines of names and literals

Finding what a name stands for and making the value of a literal keep to every routine that the
operations of the engine keep to.
-/

namespace MemberDispatch

namespace Act.Routine

variable (routine : Act.Routine) (engine : Engine)

section Names

theorem classAttribute (cls : ClassId) (name : String) :
    routine.Of (engine.classAttribute? cls name) := by
  unfold Engine.classAttribute?
  split
  any_goals exact routine.pure _
  split
  · exact routine.pure _
  · split
    any_goals exact routine.pure _
    · split
      all_goals exact routine.pure _
    · exact routine.bind (routine.make _) fun _ => routine.pure _

theorem moduleAttribute (module : ModuleDecl) (name : String) :
    routine.Of (Engine.moduleAttribute? module name) := by
  have entry (entry : ModuleEntry) : routine.Of (Engine.moduleEntry entry) := by
    cases entry with
    | function name function => exact routine.pure _
    | cls id => exact routine.pure _
    | value term => exact routine.make term
  unfold Engine.moduleAttribute?
  split
  · exact routine.bind (entry _) fun _ => routine.pure _
  · exact routine.pure _
  · exact routine.bind (routine.makeList _) fun _ => routine.pure _
  · exact routine.pure _

theorem importModule (name : String) : routine.Of (engine.importModule? name) := by
  unfold Engine.importModule?
  exact routine.ite (routine.throw _) (routine.pure _)

end Names

section Literals

mutual

theorem makeLiteral : ∀ term : Term, routine.Of (engine.makeLiteral term)
  | .list items => by
      unfold Engine.makeLiteral
      exact routine.bind (makeLiterals items) fun _ => routine.makeList _
  | .tuple items => by
      unfold Engine.makeLiteral
      exact routine.bind (makeLiterals items) fun _ => routine.pure _
  | .set items => by
      unfold Engine.makeLiteral
      exact routine.bind (makeLiteralKeys [] items) fun _ => routine.makeSet _
  | .dict entries => by
      unfold Engine.makeLiteral
      exact routine.bind (makeLiteralEntries [] entries) fun _ => routine.makeDict _
  | .none | .bool _ | .int _ | .float _ | .complex _ _ | .decimal _ | .fraction _ | .text _
  | .bytes _ | .byteArray _ | .frozenSet _ | .fresh _ _ | .derived _ _ | .cls _ | .moduleNamed _
  | .reference _ | .pending _ => routine.make _

theorem makeLiterals : ∀ items : List Term, routine.Of (engine.makeLiterals items)
  | [] => routine.pure _
  | item :: items => by
      unfold Engine.makeLiterals
      exact routine.bind (makeLiteral item) fun _ =>
        routine.bind (makeLiterals items) fun _ => routine.pure _

theorem makeLiteralKeys (made : List Value) :
    ∀ items : List Term, routine.Of (engine.makeLiteralKeys made items)
  | [] => routine.pure _
  | item :: items => by
      unfold Engine.makeLiteralKeys
      refine routine.bind (makeLiteral item) ?_
      intro key
      refine routine.bind (routine.requireKey engine key) fun _ => ?_
      refine routine.bind (routine.hasKey engine key made) ?_
      intro present
      exact makeLiteralKeys _ items

theorem makeLiteralEntries (made : List (Value × Value)) :
    ∀ entries : List (Term × Term), routine.Of (engine.makeLiteralEntries made entries)
  | [] => routine.pure _
  | (key, value) :: entries => by
      unfold Engine.makeLiteralEntries
      refine routine.bind (makeLiteral key) ?_
      intro key
      refine routine.bind (makeLiteral value) ?_
      intro value
      refine routine.bind (routine.requireKey engine key) fun _ => ?_
      exact routine.bind (routine.updateEntries engine made key value) fun _ =>
        makeLiteralEntries _ entries

end

end Literals

end Act.Routine

namespace Engine.Keeps

variable {routine : Act.Routine} {engine : Engine} (keeps : engine.Keeps routine.toHabit)

include keeps

theorem attributeOfNamed (thing : NamedThing) (name : String) :
    routine.Of (engine.attributeOfNamed? thing name) := by
  unfold Engine.attributeOfNamed?
  split
  · exact routine.pure _
  · split
    · exact routine.moduleAttribute _ name
    · exact routine.pure _
  · exact routine.classAttribute engine _ name
  · exact routine.pure _
  · refine routine.bind (routine.attempt (keeps.attributeOf _ name)) ?_
    intro outcome
    split
    · exact routine.pure _
    · exact routine.ite (routine.pure _) (routine.throw _)

theorem attributePath (name : String) (thing : NamedThing) (parts : List String) :
    routine.Of (engine.attributePath name thing parts) := by
  induction parts generalizing thing with
  | nil => exact routine.pure _
  | cons part parts ih =>
      unfold Engine.attributePath
      refine routine.bind (keeps.attributeOfNamed thing part) ?_
      intro found
      split
      · exact ih _
      · exact routine.throw _

/-- Finding what the name that a text says stands for keeps to a routine. -/
theorem resolveName (name : String) : routine.Of (engine.resolveName (.text name)) := by
  have text : routine.Of (Engine.nameText (.text name)) :=
    routine.ite (routine.throw _) (routine.pure _)
  unfold Engine.resolveName
  refine routine.bind text ?_
  intro name
  extract_lets placing
  have placed (whole : Option ModuleDecl) : routine.Of (placing whole) := by
    cases whole with
    | some module => exact routine.pure _
    | none =>
        refine routine.complainOr ?_
        intro done
        refine routine.bind (routine.importModule engine _) ?_
        intro found
        cases found with
        | none => exact routine.throw _
        | some module => exact keeps.attributePath _ _ _
  split
  · exact routine.bind (routine.pure _) placed
  · exact routine.bind (routine.importModule engine _) placed

end Engine.Keeps

end MemberDispatch
