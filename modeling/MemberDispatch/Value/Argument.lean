import MemberDispatch.Value.Operate

/-!
# Arguments of operations

What an operation of a built-in class takes its arguments for. A value of another class is refused
in the words of the operation.
-/

namespace MemberDispatch

namespace Argument

/-- The argument at a position, or nothing where it was left out. -/
def at? (arguments : List Value) (position : Nat) : Option Value :=
  arguments[position]?

/-- The argument at a position, or the value that stands for no value. -/
def atOrNone (arguments : List Value) (position : Nat) : Value :=
  (at? arguments position).getD .none

def className (value : Value) : Act String := do
  return (← Act.classOf value).operandName

/-- The text that a value is made of, or a complaint about its class. -/
def text (value : Value) (complaint : String → String) : Act String := do
  match ← Act.contentOf value with
  | .text text => return text
  | _ => Act.typeError (complaint (← className value))

/-- The whole number that a value is made of. -/
def integer (value : Value) : Act Int := do
  match (← Act.contentOf value).int? with
  | some number => return number
  | none =>
      Act.typeError ("'" ++ (← className value) ++ "' object cannot be interpreted as an integer")

/-- The whole number that an argument is made of, or a given one where the argument was left
out. -/
def integerOr (default : Int) (value : Option Value) : Act Int :=
  match value with
  | none => return default
  | some value => integer value

/-- The whole number that a value is made of, where there is a value. -/
def integer? (value : Value) : Act (Option Int) := do
  match value with
  | .none => return none
  | value => return some (← integer value)

/-- A whole number that is small enough to be a length or a position. -/
def size (value : Value) : Act Int := do
  let number ← integer value
  if number ≥ twoTo 63 || number < -(twoTo 63) then
    throw (.say .overflow "Python int too large to convert to C ssize_t")
  else return number

/-- A length to which something is to be filled up. -/
def width (value : Value) : Act Int := do
  let number ← size value
  Act.requireRoom number.toNat
  return number

/-- A whole number of 32 bits, or a given one where the argument was left out. -/
def smallOr (default : Int) (value : Option Value) : Act Int := do
  match value with
  | none => return default
  | some value =>
      let number ← integer value
      if number ≥ twoTo 31 || number < -(twoTo 31) then
        throw (.say .overflow "Python int too large to convert to C int")
      else return number

/-- A length or position, or a given one where the argument was left out. -/
def sizeOr (default : Int) (value : Option Value) : Act Int :=
  match value with
  | none => return default
  | some value => size value

/-- The bytes that a value is made of, or a complaint about its class. -/
def bytes (value : Value) : Act (List UInt8) := do
  match ← Engine.bytes? value with
  | some bytes => return bytes
  | none =>
      Act.typeError ("a bytes-like object is required, not '" ++ (← className value) ++ "'")

end Argument

end MemberDispatch
