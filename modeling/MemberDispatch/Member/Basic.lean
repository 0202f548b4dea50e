import MemberDispatch.Converter.Table
import MemberDispatch.Member.ValueIndex

/-!
# Members

A member is one way to use a value under a name: a field, a method, or a function that receives
the value in one of its parameters. Members of one name are told apart and ordered by their
converters only: first by how many arguments they take, then by the ranks of the converters.
-/

namespace MemberDispatch

/-- A function that stands by itself, or a constructor. -/
structure StaticFunction where
  callable : Callable
  /-- Which parameter receives the value when the function is used as a member of values. -/
  receivers : ValueIndex
  /-- The name under which the function shows. -/
  qualifiedName : String
  isConstructor : Bool := false

/-- What using a member does. -/
inductive Role
  /-- Nothing is there to be run. -/
  | abstract
  | field (getter : Callable)
  | method (callable : Callable)
  | static (function : StaticFunction)
  /-- A function that receives the value at a position among its parameters. -/
  | injected (function : StaticFunction) (valueIndex : Nat)

/-- One way to use a value under a name. -/
structure Member where
  name : String
  /-- One converter per argument that the caller supplies. -/
  converters : List Converter
  /-- The class of what the member produces. -/
  returns : ClassId
  isPublic : Bool := true
  role : Role

/-- Whether two underscores stand on both sides of a name. -/
def isProtocolName (name : String) : Bool :=
  name.length > 4 && name.startsWith "__" && name.endsWith "__"

/-- Whether a name is visible without asking for private members. -/
def isPublicName (name : String) : Bool :=
  isProtocolName name || !name.startsWith "_"

namespace Role

def kind : Role → String
  | .abstract => "member"
  | .field _ => "field"
  | .method _ => "method"
  | .static function => if function.isConstructor then "constructor" else "static"
  | .injected _ _ => "function"

end Role

namespace Member

/-- The number of arguments that the caller supplies. -/
def arity (member : Member) : Nat :=
  member.converters.length

def ranks (member : Member) : List Nat :=
  member.converters.map Converter.rank

/-- What members are ordered by: the number of arguments, then the ranks of the converters. -/
def sortKey (member : Member) : Nat × List Nat :=
  (member.arity, member.ranks)

/-- Whether the ranks of one member come before those of another in lexicographic order. -/
def ranksBefore : List Nat → List Nat → Bool
  | _, [] => false
  | [], _ :: _ => true
  | left :: lefts, right :: rights =>
      if left == right then ranksBefore lefts rights else left < right

/-- Whether one member comes strictly before another. -/
def before (left right : Member) : Bool :=
  left.arity < right.arity || (left.arity == right.arity && ranksBefore left.ranks right.ranks)

/-- Whether two members take the same arguments. Such members count as equal. -/
def sameArguments (left right : Member) : Bool :=
  left.ranks == right.ranks

/-- Whether the member is no member of values by itself, or a function that receives them. -/
def isStatic (member : Member) : Bool :=
  match member.role with
  | .static _ | .injected _ _ => true
  | _ => false

def isAccessible (onlyPublic : Bool) (member : Member) : Bool :=
  member.isPublic || !onlyPublic

/-- Whether everything the member produces is of a class. -/
def produces (hierarchy : Hierarchy) (required : ClassId) (member : Member) : Bool :=
  required == .object || hierarchy.isSubclass member.returns required

def kind (member : Member) : String :=
  member.role.kind

/-- The position of the value among the parameters, for a function that receives it. -/
def valueIndex? (member : Member) : Option Nat :=
  match member.role with
  | .injected _ position => some position
  | _ => none

/-- The name, the targets of the converters and the class produced. -/
def signature (member : Member) : String :=
  member.name ++ "(" ++ ", ".intercalate (member.converters.map fun converter =>
    converter.target.name) ++ ") -> " ++ member.returns.name

def display (member : Member) : String :=
  match member.role with
  | .abstract => "MemberInvoker(" ++ member.signature ++ ")"
  | .field _ => "FieldInvoker(" ++ member.signature ++ ")"
  | .method _ => "MethodInvoker(" ++ member.signature ++ ")"
  | .static function =>
      "StaticInvoker(" ++ function.qualifiedName ++ ": " ++ member.signature ++ ")"
  | .injected function position =>
      "ValueInjectedInvoker(" ++ function.qualifiedName ++ ": " ++ member.signature ++
        ", value_index=" ++ toString position ++ ")"

/-- The member with the value received at a position. Its other parameters are the caller's. -/
def inject (member : Member) (function : StaticFunction) (position : Nat) : Member :=
  { member with
    converters := member.converters.eraseIdx position
    role := .injected function position }

/-- The member as a member of values of a class, if one of its parameters receives them. Only
functions that stand by themselves can become members in this way. -/
def forValue (hierarchy : Hierarchy) (cls : ClassId) (member : Member) :
    Except AmbiguousValue (Option Member) :=
  match member.role with
  | .static function => (function.receivers.rule hierarchy cls).map fun position =>
      position.map fun position => member.inject function position
  | _ => .ok none

end Member

end MemberDispatch
