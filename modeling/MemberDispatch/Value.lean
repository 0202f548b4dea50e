import MemberDispatch.Callable
import MemberDispatch.Number.Decimal.Arithmetic

/-!
# Values and objects

A value that cannot change is held directly. Everything that can change or has an identity, such
as a list or an instance of a declared class, is an object that a value refers to by its address.
A pending call is referred to by its number.
-/

namespace MemberDispatch

/-- A value. -/
inductive Value
  | none
  | bool (value : Bool)
  | int (value : Int)
  | float (value : Float)
  | complex (real imaginary : Float)
  | decimal (value : Decimal)
  | fraction (value : Rat)
  | text (value : String)
  | bytes (value : List UInt8)
  | tuple (items : List Value)
  | frozenSet (items : List Value)
  | object (address : Nat)
  | pending (id : Nat)
  | cls (id : ClassId)
  | moduleNamed (name : String)
  | callable (callable : Callable)
  /-- A function together with the value it is a member of. -/
  | method (receiver : Value) (function : FunctionDecl)
  /-- The answer of an operator to operands that it does not know. -/
  | notImplemented
  /-- The result of a call that ended without one. -/
  | unset
  deriving Inhabited

/-- What an object holds besides its attributes. -/
inductive Content
  | plain
  | list (items : List Value)
  | dict (entries : List (Value × Value))
  | set (items : List Value)
  | byteArray (bytes : List UInt8)
  /-- The value of an instance of a class that derives from the class of an unchanging value. -/
  | scalar (value : Value)

/-- An object: its class, its content and its attributes in the order in which they were set. -/
structure Object where
  cls : ClassId
  content : Content := .plain
  attributes : List (String × Value) := []

instance : Inhabited Object := ⟨{ cls := .object }⟩

namespace Value

/-- The class of a value, given that of every object. -/
def classOf (objects : Array Object) : Value → ClassId
  | .none => .builtin .noneType
  | .bool _ => .builtin .bool
  | .int _ => .builtin .int
  | .float _ => .builtin .float
  | .complex _ _ => .builtin .complex
  | .decimal _ => .builtin .decimal
  | .fraction _ => .builtin .fraction
  | .text _ => .builtin .text
  | .bytes _ => .builtin .bytes
  | .tuple _ => .builtin .tuple
  | .frozenSet _ => .builtin .frozenSet
  | .object address => match objects[address]? with
    | some found => found.cls
    | Option.none => .object
  | .pending _ => .builtin .pendingCall
  | .cls _ => .builtin .type
  | .moduleNamed _ => .builtin .moduleType
  | .callable function => function.classOf
  | .method _ _ => .builtin .boundMethod
  | .notImplemented => .builtin .notImplementedType
  | .unset => .object

/-- What a value is made of: that of an instance of a class deriving from a built-in one, and the
value itself otherwise. -/
def content (objects : Array Object) : Value → Value
  | .object address => match objects[address]? with
    | some { content := .scalar value, .. } => value
    | _ => .object address
  | value => value

/-- The number of places that a set keeps for so many items: a power of two that leaves enough of
them free. -/
def placesFor (count : Nat) : Nat :=
  if count ≤ 4 then 8 else if count ≤ 18 then 32 else if count ≤ 76 then 128 else 512

/-- The place that a set prefers for a whole number of less than 61 bits. Minus one shares its place
with minus two. -/
def placeAmong (places : Nat) : Value → Option Nat
  | .int number =>
      if number.natAbs < twoTo 60 then
        some (Int.emod (if number == -1 then -2 else number) places).toNat
      else Option.none
  | _ => Option.none

/-- The items of a set in the order in which they are gone through: whole numbers that all prefer
different places in the order of these, and any other items as they were put in. -/
def inSetOrder (items : List Value) : List Value :=
  let places := placesFor items.length
  match items.mapM fun item => (placeAmong places item).map fun place => (place, item) with
  | Option.none => items
  | some placed =>
      if (placed.map (·.1)).eraseDups.length == placed.length then
        (placed.mergeSort fun left right => left.1 ≤ right.1).map (·.2)
      else items

/-- Whether two values are one and the same. -/
def identical : Value → Value → Bool
  | .none, .none => true
  | .bool left, .bool right => left == right
  | .int left, .int right => left == right
  | .text left, .text right => left == right
  | .object left, .object right => left == right
  | .pending left, .pending right => left == right
  | .cls left, .cls right => left == right
  | .moduleNamed left, .moduleNamed right => left == right
  | .notImplemented, .notImplemented => true
  | .unset, .unset => true
  | _, _ => false

end Value

end MemberDispatch
