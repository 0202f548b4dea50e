/-!
# Operators

The operators that a class can define as members, by the names of those members. An operator is
exposed only with the number of arguments it takes besides its first operand.
-/

namespace MemberDispatch

/-- The comparisons. -/
inductive Comparison
  | eq | ne | lt | le | gt | ge
  deriving DecidableEq, Repr

/-- The operators on two values that compute a third. -/
inductive BinaryOperator
  | add | sub | mul | trueDiv | floorDiv | mod | pow | and | or | xor | shiftLeft | shiftRight
  deriving DecidableEq, Repr

/-- The operators. -/
inductive Operator
  | compare (comparison : Comparison)
  | binary (operator : BinaryOperator)
  | contains | item | negative | positive | invert | magnitude | length
  deriving DecidableEq, Repr

namespace Comparison

/-- The comparison that holds of swapped operands exactly where this one holds. -/
def mirrored : Comparison → Comparison
  | .eq => .eq
  | .ne => .ne
  | .lt => .gt
  | .le => .ge
  | .gt => .lt
  | .ge => .le

def sign : Comparison → String
  | .eq => "=="
  | .ne => "!="
  | .lt => "<"
  | .le => "<="
  | .gt => ">"
  | .ge => ">="

/-- The name of the member that defines the comparison. -/
def memberName : Comparison → String
  | .eq => "__eq__"
  | .ne => "__ne__"
  | .lt => "__lt__"
  | .le => "__le__"
  | .gt => "__gt__"
  | .ge => "__ge__"

/-- Whether the comparison holds of values in that order. -/
def holds (comparison : Comparison) (order : Ordering) : Bool :=
  match comparison with
  | .eq => order == .eq
  | .ne => order != .eq
  | .lt => order == .lt
  | .le => order != .gt
  | .gt => order == .gt
  | .ge => order != .lt

end Comparison

namespace BinaryOperator

/-- The name that follows the underscores in the names of the operator's members. -/
def stem : BinaryOperator → String
  | .add => "add"
  | .sub => "sub"
  | .mul => "mul"
  | .trueDiv => "truediv"
  | .floorDiv => "floordiv"
  | .mod => "mod"
  | .pow => "pow"
  | .and => "and"
  | .or => "or"
  | .xor => "xor"
  | .shiftLeft => "lshift"
  | .shiftRight => "rshift"

/-- The name of the member that defines the operator. -/
def memberName (operator : BinaryOperator) : String :=
  "__" ++ operator.stem ++ "__"

/-- The name of the member that defines the operator for a second operand. -/
def reflectedName (operator : BinaryOperator) : String :=
  "__r" ++ operator.stem ++ "__"

def sign : BinaryOperator → String
  | .add => "+"
  | .sub => "-"
  | .mul => "*"
  | .trueDiv => "/"
  | .floorDiv => "//"
  | .mod => "%"
  | .pow => "** or pow()"
  | .and => "&"
  | .or => "|"
  | .xor => "^"
  | .shiftLeft => "<<"
  | .shiftRight => ">>"

/-- Whether the operator works on the bits of whole numbers. -/
def isBitwise : BinaryOperator → Bool
  | .and | .or | .xor | .shiftLeft | .shiftRight => true
  | _ => false

end BinaryOperator

namespace Operator

def all : List Operator :=
  [.compare .eq, .compare .ne, .compare .lt, .compare .le, .compare .gt, .compare .ge,
    .binary .add, .binary .sub, .binary .mul, .binary .trueDiv, .binary .floorDiv, .binary .mod,
    .binary .pow, .binary .and, .binary .or, .binary .xor, .binary .shiftLeft,
    .binary .shiftRight, .contains, .item, .negative, .positive, .invert, .magnitude, .length]

/-- The name of the member that defines the operator. -/
def memberName : Operator → String
  | .compare comparison => comparison.memberName
  | .binary operator => operator.memberName
  | .contains => "__contains__"
  | .item => "__getitem__"
  | .negative => "__neg__"
  | .positive => "__pos__"
  | .invert => "__invert__"
  | .magnitude => "__abs__"
  | .length => "__len__"

/-- The number of arguments besides the first operand. -/
def arity : Operator → Nat
  | .compare _ | .binary _ | .contains | .item => 1
  | _ => 0

def ofMemberName? (name : String) : Option Operator :=
  all.find? fun operator => operator.memberName == name

end Operator

end MemberDispatch
