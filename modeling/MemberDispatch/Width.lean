import MemberDispatch.Class.Id
import MemberDispatch.Number.Power

/-!
# Exact widths

A width narrows the class that represents its values: whole numbers to a signed number of bits,
texts and lists to an exact length. A parameter may be declared with a width in place of a class.
-/

namespace MemberDispatch

/-- A width: its name, the class of its values, and the bits or the length that it admits, each 0
where it does not apply. -/
structure Width where
  name : String
  representation : ClassId
  bits : Int := 0
  length : Int := 0
  deriving DecidableEq, Repr

namespace Width

/-- A single character. -/
def char : Width := { name := "char", representation := .builtin .text, length := 1 }

/-- A signed 8-bit number. -/
def int8 : Width := { name := "int8", representation := .builtin .int, bits := 8 }

/-- A signed 16-bit number. -/
def int16 : Width := { name := "int16", representation := .builtin .int, bits := 16 }

/-- A signed 32-bit number. -/
def int32 : Width := { name := "int32", representation := .builtin .int, bits := 32 }

/-- A signed 64-bit number. -/
def int64 : Width := { name := "int64", representation := .builtin .int, bits := 64 }

/-- The widths that every session knows. -/
def standard : List Width := [char, int8, int16, int32, int64]

/-- The power of two that bounds the range, where there are bits for one. -/
def bound? (width : Width) : Option Int :=
  if width.bits < 1 then none else some (twoTo (width.bits - 1).toNat)

def least? (width : Width) : Option Int :=
  width.bound?.map fun bound => -bound

def greatest? (width : Width) : Option Int :=
  width.bound?.map fun bound => bound - 1

/-- Whether the range holds the number; without bits, every number is in range. A range of a
negative number of bits has no bounds to compare with. -/
def inRange? (width : Width) (number : Int) : Option Bool :=
  if width.bits == 0 then some true
  else width.bound?.map fun bound => -bound ≤ number && number < bound

/-- Whether a width of at least one bit, or without bits, holds the number. -/
def holds (width : Width) (number : Int) : Bool :=
  (width.inRange? number).getD false

def display (width : Width) : String :=
  "ParamType(" ++ width.name ++ ")"

end Width

/-- What a parameter is declared with: a class or a width. -/
inductive TypeKey
  | cls (id : ClassId)
  | exact (width : Width)
  deriving DecidableEq, Repr

namespace TypeKey

/-- The key that every value fits. -/
abbrev object : TypeKey := .cls .object

/-- The class that represents values of the key. -/
def representation : TypeKey → ClassId
  | .cls id => id
  | .exact width => width.representation

def name : TypeKey → String
  | .cls id => id.name
  | .exact width => width.name

end TypeKey

end MemberDispatch
