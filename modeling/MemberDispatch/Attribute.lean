import MemberDispatch.Engine
import MemberDispatch.Term

/-!
# Attributes

Reading an attribute of a value. A property of the class comes first, then the attributes of the
object itself, then the other entries of the classes in the order of the linearization.
-/

namespace MemberDispatch

/-- The first entry under a name among the classes of a linearization, with the class that has
it. -/
def World.entryAlong? (world : World) (cls : ClassId) (name : String) : Option (ClassId × Entry) :=
  (world.linearization cls).findSome? fun ancestor =>
    ((world.entries ancestor).lookup name).map fun entry => (ancestor, entry)

namespace Act

/-- The complaint over an attribute that a value does not have. -/
def noAttribute {α : Type} (cls : ClassId) (name : String) : Act α :=
  throw (.say .attributeError
    ("'" ++ cls.operandName ++ "' object has no attribute '" ++ name ++ "'"))

mutual

def make : Term → Act Value
  | .none => return .none
  | .bool value => return .bool value
  | .int value => return .int value
  | .float value => return .float value
  | .complex real imaginary => return .complex real imaginary
  | .decimal value => return .decimal value
  | .fraction value => return .fraction value
  | .text value => return .text value
  | .bytes value => return .bytes value
  | .byteArray value => makeByteArray value
  | .list items => do makeList (← makeAll items)
  | .tuple items => do return .tuple (← makeAll items)
  | .set items => do makeSet (← makeAll items)
  | .frozenSet items => do makeFrozenSet (← makeAll items)
  | .dict entries => do makeDict (← makeEntries entries)
  | .fresh className attributes => do
      allocate { cls := .declared className, attributes := ← makeAttributes attributes }
  | .derived className content => do
      let value ← make content
      let content ← match value with
        | .object address => pure (← objectAt address).content
        | value => pure (.scalar value)
      allocate { cls := .declared className, content }
  | .cls id => return .cls id
  | .moduleNamed name => return .moduleNamed name
  | .reference name => do
      match (← get).references.lookup name with
      | some value => return value
      | Option.none => throw (.raised .keyError (.message name))
  | .pending name => do
      match (← get).kept.lookup name with
      | some id => return .pending id
      | Option.none => throw (.say .noSuchId name)

def makeAll : List Term → Act (List Value)
  | [] => return []
  | term :: terms => do
      let first ← make term
      let others ← makeAll terms
      return first :: others

def makeEntries : List (Term × Term) → Act (List (Value × Value))
  | [] => return []
  | (key, value) :: entries => do
      let key ← make key
      let value ← make value
      let others ← makeEntries entries
      return (key, value) :: others

def makeAttributes : List (String × Term) → Act (List (String × Value))
  | [] => return []
  | (name, value) :: attributes => do
      let value ← make value
      let others ← makeAttributes attributes
      return (name, value) :: others

end

/-- The attributes of a value that it has itself. -/
def attributesOf (value : Value) : Act (List (String × Value)) := do
  match value with
  | .object address => return (← objectAt address).attributes
  | _ => return []

end Act

namespace Engine

/-- The attribute of a value that a class lays out: the parts of a number. -/
def part? (value : Value) (name : String) : Option Value :=
  match value, name with
  | .bool value, "real" => some (.int (if value then 1 else 0))
  | .bool _, "imag" => some (.int 0)
  | .bool value, "numerator" => some (.int (if value then 1 else 0))
  | .bool _, "denominator" => some (.int 1)
  | .int value, "real" => some (.int value)
  | .int _, "imag" => some (.int 0)
  | .int value, "numerator" => some (.int value)
  | .int _, "denominator" => some (.int 1)
  | .float value, "real" => some (.float value)
  | .float _, "imag" => some (.float 0.0)
  | .decimal value, "real" => some (.decimal value)
  | .decimal _, "imag" => some (.decimal (.finite false 0 0))
  | .fraction value, "real" => some (.fraction value)
  | .fraction _, "imag" => some (.int 0)
  | .fraction value, "numerator" => some (.int value.num)
  | .fraction value, "denominator" => some (.int value.den)
  | .fraction value, "_numerator" => some (.int value.num)
  | .fraction value, "_denominator" => some (.int value.den)
  | _, _ => none

def attributeOf (engine : Engine) (value : Value) (name : String) : Act Value := do
  let cls ← Act.classOf value
  let own := (← Act.attributesOf value).lookup name
  match engine.world.entryAlong? cls name with
  | none => match own with
    | some found => return found
    | none => Act.noAttribute cls name
  | some (_, entry) => match entry with
    -- A property goes before what the value has itself; everything else comes behind it.
    | .property (some getter) => match getter.code with
      | .body _ => engine.call (.plain getter) [value]
      | _ => match part? (← Act.contentOf value) name with
        | some found => return found
        | none => Act.noAttribute cls name
    | .property none =>
        throw (.say .attributeError
          ("property '" ++ name ++ "' of '" ++ cls.name ++ "' object has no getter"))
    | .slot => match own, part? (← Act.contentOf value) name with
      | some found, _ => return found
      | none, some found => return found
      | none, none => Act.noAttribute cls name
    | entry => match own with
      | some found => return found
      | none => match entry with
        | .method function => return .method value function
        | .staticMethod function => return .callable (.plain function)
        | .classMethod function => return .callable (.bound cls function)
        | .value term => Act.make term
        | _ => Act.noAttribute cls name

def callMember (engine : Engine) (value : Value) (name : String) (arguments : List Value) :
    Act Value := do
  match ← engine.attributeOf value name with
  | .method target function => engine.call (.plain function) (target :: arguments)
  | .callable callable => engine.call callable arguments
  | .cls cls => engine.call (.construct cls) arguments
  | other =>
      Act.typeError ("'" ++ (← Act.classOf other).operandName ++ "' object is not callable")

end Engine

end MemberDispatch
