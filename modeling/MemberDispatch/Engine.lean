import MemberDispatch.Session

/-!
# Engines

The operations that need each other: calling something may need the text of a value, the text of a
pending call is that of its result, and finding that result calls something. Each of them is
defined over an engine that supplies them all, and `Machine` closes the circle. What is proved of
an operation over every engine holds of it in every session.
-/

namespace MemberDispatch

/-- The operations that the others build on. -/
structure Engine where
  world : World
  /-- Calls something with arguments. -/
  call : Callable → List Value → Act Value
  /-- The text of a value. -/
  text : Value → Act String
  /-- The display of a value. -/
  display : Value → Act String
  /-- Applies an operator to its operands. -/
  operate : Operator → List Value → Act Value
  /-- Applies a property step to a value through a host. A name may be given for the step. -/
  step : Nat → Value → Value → Option String → Act Value

namespace Engine

/-- The hierarchy of the classes of the engine's world. -/
abbrev hierarchy (engine : Engine) : Hierarchy :=
  engine.world.hierarchy

/-- Whether a value counts as true: empty collections, zeros and the value that stands for no value
do not. -/
def isTrue (engine : Engine) (value : Value) : Act Bool := do
  match ← Act.contentOf value with
  | .none => return false
  | .bool value => return value
  | .int value => return value != 0
  | .float value => return value != 0.0
  | .decimal value => return !value.isZero
  | .fraction value => return value.num != 0
  | .text value => return !value.isEmpty
  | .bytes value => return !value.isEmpty
  | .tuple items => return !items.isEmpty
  | .frozenSet items => return !items.isEmpty
  | .object address =>
      match (← Act.objectAt address).content with
      | .list items => return !items.isEmpty
      | .dict entries => return !entries.isEmpty
      | .set items => return !items.isEmpty
      | .byteArray bytes => return !bytes.isEmpty
      | _ =>
          if engine.world.hasMember (← Act.classOf value) "__len__" then
            match ← engine.operate .length [value] with
            | .int length => return length != 0
            | _ => return true
          else return true
  | _ => return true

def compares (engine : Engine) (comparison : Comparison) (left right : Value) : Act Bool := do
  engine.isTrue (← engine.operate (.compare comparison) [left, right])

def displayAll (engine : Engine) : List Value → Act (List String)
  | [] => return []
  | value :: values => do
      let first ← engine.display value
      let others ← engine.displayAll values
      return first :: others

end Engine

end MemberDispatch
