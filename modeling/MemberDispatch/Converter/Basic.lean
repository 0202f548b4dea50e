import MemberDispatch.Callable

/-!
# Converters

A converter accepts values of its target as they are and may coerce others to it. A placeholder
has no coercion and only accepts. The rank of a converter is its place in its table and is all
that tells converters apart.
-/

namespace MemberDispatch

/-- A way to turn values into values of a target. -/
inductive Coercion
  | char | int | float | bool | decimal | text | bytes
  /-- Narrowing a whole number to a width, never cutting it. -/
  | width (width : Width)
  /-- A body called with the value. -/
  | body (body : Body)
  | callable (callable : Callable)

def Coercion.ofName : CoercionName → Coercion
  | .char => .char
  | .int => .int
  | .float => .float
  | .bool => .bool
  | .decimal => .decimal
  | .text => .text
  | .bytes => .bytes

/-- A converter to a target. -/
structure Converter where
  rank : Nat
  target : TypeKey
  coercion : Option Coercion

namespace Converter

/-- Whether the converter can only accept values of its target. -/
def isPlaceholder (converter : Converter) : Bool :=
  converter.coercion.isNone

/-- The converter in the same place for the same target with a coercion. -/
def withCoercion (converter : Converter) (coercion : Coercion) : Converter :=
  { converter with coercion := some coercion }

def display (converter : Converter) : String :=
  "TypeConverter(" ++ converter.target.name ++ ", rank=" ++ toString converter.rank ++ ", " ++
    (if converter.isPlaceholder then "placeholder" else "converter") ++ ")"

end Converter

/-- The coercions that a session starts with, in the order of their ranks. -/
def standardCoercions : List (TypeKey × Coercion) :=
  [(.exact .char, .char),
    (.cls (.builtin .int), .int),
    (.exact .int64, .width .int64),
    (.exact .int32, .width .int32),
    (.exact .int16, .width .int16),
    (.exact .int8, .width .int8),
    (.cls (.builtin .float), .float),
    (.cls (.builtin .bool), .bool),
    (.cls (.builtin .decimal), .decimal),
    (.cls (.builtin .text), .text),
    (.cls (.builtin .bytes), .bytes)]

end MemberDispatch
