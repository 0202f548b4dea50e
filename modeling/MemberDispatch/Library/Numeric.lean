import MemberDispatch.Library.Provider
import MemberDispatch.Number.IntegerFunctions
import MemberDispatch.Value.Range

/-!
# Functions of numbers

The functions that the providers of arithmetic offer. They work with the operators of their
arguments, so that an instance of a class with operators of its own keeps them; whole numbers go
straight to the functions of whole numbers.
-/

namespace MemberDispatch

/-- The result of a function of whole numbers. -/
def Act.ofInteger (result : IntegerFunctions.Result) : Act Value := do
  match result with
  | .ok number => return .int number
  | .error .divisionByZero => Act.zeroDivision "integer division or modulo by zero"
  | .error .moduloByZero => Act.zeroDivision "integer modulo by zero"
  | .error .negativeShift => Act.valueError "negative shift count"
  | .error (.outside width number) =>
      throw (.say .overflow (width.name ++ " overflow: " ++ (← Act.integerText number)))

/-- The result of a function of floating-point numbers. -/
def Act.ofReal {α : Type} (result : Except RealIssue α) : Act α :=
  match result with
  | .ok result => return result
  | .error .domain => Act.valueError "math domain error"
  | .error .range => throw (.say .overflow "math range error")
  | .error .notANumberToInteger => Act.valueError "cannot convert float NaN to integer"
  | .error .infinityToInteger => throw (.say .overflow "cannot convert float infinity to integer")

/-- The complaint over a decimal number that is not finite where a whole one is needed. -/
def Act.unbounded {α : Type} (number : Decimal) : Act α :=
  if number.isNaN then Act.valueError "cannot convert NaN to integer"
  else throw (.say .overflow "cannot convert Infinity to integer")

namespace Engine

/-- The floating-point number that a function of such numbers works with. -/
def realOf (value : Value) : Act Float := do
  match ← Act.contentOf value with
  | .decimal number =>
      if number.isSignaling then Act.valueError "cannot convert signaling NaN to float"
      else return (readFloat? number.text).getD Binary64.notANumber
  | content => match ← Arithmetic.toFloat? content with
    | some number => return number
    | none => Act.typeError ("must be real number, not " ++ (← Act.classOf value).operandName)

/-- An operator between two values. -/
def combine (engine : Engine) (operator : BinaryOperator) (left right : Value) : Act Value :=
  engine.operate (.binary operator) [left, right]

/-- The quotient with its fraction dropped, by the operators of the values. -/
def quotientOf (engine : Engine) (left right : Value) : Act Value := do
  let quotient ← engine.combine .floorDiv left right
  if ← engine.compares .lt quotient (.int 0) then
    let product ← engine.combine .mul quotient right
    if ← engine.compares .ne product left then engine.combine .add quotient (.int 1)
    else return quotient
  else return quotient

/-- One, zero or minus one, by the sign of a value. -/
def signOf (engine : Engine) (value : Value) : Act Value := do
  let positive ← engine.compares .gt value (.int 0)
  let negative ← engine.compares .lt value (.int 0)
  return .int ((if positive then 1 else 0) - (if negative then 1 else 0))

/-- A whole number shifted to the right as an unsigned one, in the narrower of 32 and 64 bits that
holds it. Only the last bits of the count matter. -/
def shiftedUnsigned (engine : Engine) (value count : Value) : Act Value := do
  let width := if ← engine.inRange .int32 value then Width.int32 else Width.int64
  let number ← engine.narrowed width value
  let masked ← engine.combine .and number (.int (twoTo width.bits.toNat - 1))
  engine.combine .shiftRight masked (← engine.combine .and count (.int (width.bits - 1)))

/-- One of two values, the second if it compares as given to the first. -/
def pick (engine : Engine) (comparison : Comparison) (left right : Value) : Act Value := do
  return if ← engine.compares comparison right left then right else left

/-- The functions of whole numbers. -/
def integerFunction? (name : String) : List Int → Option IntegerFunctions.Result
  | [left, right] => match name with
    | "div" => some (IntegerFunctions.divide left right)
    | "mod" => some (IntegerFunctions.remainder left right)
    | "floor_div" => some (IntegerFunctions.floorDivide left right)
    | "floor_mod" => some (IntegerFunctions.floorRemainder left right)
    | "shift_right" => some (IntegerFunctions.shiftRight left right)
    | "shift_right_unsigned" => some (IntegerFunctions.shiftRightUnsigned left right)
    | "add_exact" => some (IntegerFunctions.narrow .int64 (left + right))
    | "subtract_exact" => some (IntegerFunctions.narrow .int64 (left - right))
    | "multiply_exact" => some (IntegerFunctions.narrow .int64 (left * right))
    | _ => none
  | [number] => match name with
    | "to_byte_exact" => some (IntegerFunctions.narrow .int8 number)
    | "to_short_exact" => some (IntegerFunctions.narrow .int16 number)
    | "to_int_exact" => some (IntegerFunctions.narrow .int32 number)
    | "negate_exact" => some (IntegerFunctions.narrow .int64 (-number))
    | "increment_exact" => some (IntegerFunctions.narrow .int64 (number + 1))
    | "decrement_exact" => some (IntegerFunctions.narrow .int64 (number - 1))
    | _ => none
  | _ => none

/-- The whole numbers that values are, if all are plain ones. -/
def plainIntegers? (values : List Value) : Option (List Int) :=
  values.mapM fun
    | .int number => some number
    | _ => none

/-- The functions of two numbers, by the operators of the values. -/
def binaryFunction (engine : Engine) (name : String) (left right : Value) : Act Value := do
  match name with
  | "add" | "add_float" | "add_decimal" => engine.combine .add left right
  | "sub" | "sub_float" | "subtract_float" | "sub_decimal" | "subtract_decimal" =>
      engine.combine .sub left right
  | "mul" | "mul_float" | "mul_decimal" => engine.combine .mul left right
  | "div" => engine.quotientOf left right
  | "div_float" | "divide_float" | "div_decimal" | "divide_decimal" =>
      engine.combine .trueDiv left right
  | "mod" => do
      let quotient ← engine.quotientOf left right
      engine.combine .sub left (← engine.combine .mul right quotient)
  | "mod_float" =>
      let result ← Act.ofReal (RealFunctions.fmod (← realOf left) (← realOf right))
      return .float result
  | "mod_decimal" | "floor_mod" => engine.combine .mod left right
  | "compare" | "compare_float" => engine.signOf (← engine.combine .sub left right)
  | "compare_decimal" => do
      engine.call (.construct (.builtin .int)) [← engine.callMember left "compare" [right]]
  | "and_" => engine.combine .and left right
  | "or_" => engine.combine .or left right
  | "xor_" => engine.combine .xor left right
  | "and_not" => do engine.combine .and left (← engine.operate .invert [right])
  | "shift_left" => engine.combine .shiftLeft left right
  | "shift_right" => engine.combine .shiftRight left right
  | "shift_right_unsigned" => engine.shiftedUnsigned left right
  | "max" => do return if ← engine.compares .ge left right then left else right
  | "min" => do return if ← engine.compares .le left right then left else right
  | "max_float" | "max_decimal" => engine.pick .gt left right
  | "min_float" | "min_decimal" => engine.pick .lt left right
  | "pow" | "pow_float" =>
      return .float (← Act.ofReal (RealFunctions.pow (← realOf left) (← realOf right)))
  | "floor_div" => engine.combine .floorDiv left right
  | "add_exact" => do engine.narrowed .int64 (← engine.combine .add left right)
  | "subtract_exact" => do engine.narrowed .int64 (← engine.combine .sub left right)
  | "multiply_exact" => do engine.narrowed .int64 (← engine.combine .mul left right)
  | "hypot" => return .float (← Act.ofReal (RealFunctions.hypot (← realOf left) (← realOf right)))
  | name => Act.typeError ("no function " ++ name ++ " of two numbers")

/-- The ratio of the circumference of a circle to its diameter. -/
def pi : Float := 3.141592653589793

/-- The cube root, under the sign of the number. -/
def cubeRoot (number : Float) : Float :=
  RealFunctions.copySign (Float.pow (Float.abs number) (1.0 / 3.0)) number

/-- A logarithm of a value. That of a whole number too large for a floating-point one is the sum of
those of a number below one and of a power of two. -/
def logarithmOf (function : Float → Float) (value : Value) : Act Value := do
  match (← Act.contentOf value).int? with
  | none => return .float (← Act.ofReal (RealFunctions.logarithm function (← realOf value)))
  | some number =>
      if number ≤ 0 then Act.valueError "math domain error"
      else match Binary64.ofInt? number with
        | some near => return .float (function near)
        | none =>
            let power := number.natAbs.log2 + 1
            let part := (Binary64.nearest? false number.natAbs (twoTo power)).getD 1.0
            let (part, power) := if part == 1.0 then (0.5, power + 1) else (part, power)
            return .float (function part + function 2.0 * Float.ofNat power)

/-- The whole number that a rounding gives, by the ways to round each kind of number. -/
def roundedBy (ofDecimal : Decimal → Option Int) (ofRatio : Rat → Int)
    (ofReal : Binary64 → Option Int) (value : Value) : Act Int := do
  match ← Act.contentOf value with
  | .decimal number => match ofDecimal number with
    | some whole => return whole
    | none => Act.unbounded number
  | .fraction ratio => return ofRatio ratio
  | content => match content.int? with
    | some number => return number
    | none => Act.ofReal (RealFunctions.toInteger ofReal (← realOf value))

/-- The greatest whole number that is not above a value. -/
def floorOf : Value → Act Int :=
  roundedBy Decimal.floor? Rat.floor Binary64.floor?

/-- The least whole number that is not below a value. -/
def ceilingOf : Value → Act Int :=
  roundedBy Decimal.ceil? Rat.ceil Binary64.ceil?

/-- The whole number left when the fraction of a value is dropped. -/
def truncationOf : Value → Act Int :=
  roundedBy Decimal.truncate? (fun ratio => Int.tdiv ratio.num ratio.den) Binary64.truncate?

/-- The functions of one number, by the operators of the value. -/
def unaryFunction (engine : Engine) (name : String) (value : Value) : Act Value := do
  match name with
  | "inc" => engine.combine .add value (.int 1)
  | "dec" => engine.combine .sub value (.int 1)
  | "inc_float" => engine.combine .add value (.float 1.0)
  | "dec_float" => engine.combine .sub value (.float 1.0)
  | "negate" | "negate_float" | "negate_decimal" => engine.operate .negative [value]
  | "not_" => engine.operate .invert [value]
  | "to_byte_exact" => engine.narrowed .int8 value
  | "to_short_exact" => engine.narrowed .int16 value
  | "to_int_exact" => engine.narrowed .int32 value
  | "negate_exact" => do engine.narrowed .int64 (← engine.operate .negative [value])
  | "increment_exact" => do engine.narrowed .int64 (← engine.combine .add value (.int 1))
  | "decrement_exact" => do engine.narrowed .int64 (← engine.combine .sub value (.int 1))
  | "abs" => do
      if ← engine.compares .lt value (.int 0) then engine.operate .negative [value] else return value
  | "abs_float" => return .float (Float.abs (← realOf value))
  | "abs_decimal" => engine.operate .magnitude [value]
  | "signum" | "signum_decimal" => engine.signOf value
  | "signum_float" => do
      if ← engine.compares .eq value (.int 0) then return value
      else
        let number ← realOf value
        return if RealFunctions.isNaN number then value
          else .float (RealFunctions.copySign 1.0 number)
  | "sqrt" | "sqrt_float" => return .float (← Act.ofReal (RealFunctions.sqrt (← realOf value)))
  | "sqrt_decimal" => engine.callMember value "sqrt" []
  | "cbrt" => do
      return .float (cubeRoot (← realOf (← engine.call (.construct (.builtin .float)) [value])))
  | "cbrt_float" => return .float (cubeRoot (← realOf value))
  | "exp" => return .float (← Act.ofReal (RealFunctions.exp (← realOf value)))
  | "log" => logarithmOf Float.log value
  | "log10" => logarithmOf Float.log10 value
  | "floor" => do return .float (← Act.floatOfInt (← floorOf value))
  | "ceil" => do return .float (← Act.floatOfInt (← ceilingOf value))
  | "round" => do return .int (← floorOf (← engine.combine .add value (.float 0.5)))
  | "to_degrees" => return .float ((← realOf value) * (180.0 / pi))
  | "to_radians" => return .float ((← realOf value) * (pi / 180.0))
  | name => Act.typeError ("no function " ++ name ++ " of a number")

def numericFunction (engine : Engine) (name : String) (arguments : List Value) : Act Value :=
  match (plainIntegers? arguments).bind (integerFunction? name) with
  | some result => Act.ofInteger result
  | none => match arguments with
    | [value] => engine.unaryFunction name value
    | [left, right] => engine.binaryFunction name left right
    | _ => Act.typeError (name ++ "() takes one or two arguments")

end Engine

end MemberDispatch
