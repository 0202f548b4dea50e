import MemberDispatch.Width
import MemberDispatch.Number.Decimal.Basic

/-!
# Terms

A term describes a value that is made when it is needed: constants of function bodies, defaults of
parameters and the values that a session names. Making a term twice gives two values; only a
reference or a pending call stands for one that exists already.
-/

namespace MemberDispatch

/-- The description of a value. -/
inductive Term
  | none
  | bool (value : Bool)
  | int (value : Int)
  | float (value : Float)
  | complex (real imaginary : Float)
  | decimal (value : Decimal)
  | fraction (value : Rat)
  | text (value : String)
  | bytes (value : List UInt8)
  | byteArray (value : List UInt8)
  | list (items : List Term)
  | tuple (items : List Term)
  | set (items : List Term)
  | frozenSet (items : List Term)
  | dict (entries : List (Term × Term))
  /-- A new instance of a declared class with the given attributes. -/
  | fresh (className : String) (attributes : List (String × Term))
  /-- An instance of a declared class that derives from the class of the content. -/
  | derived (className : String) (content : Term)
  | cls (id : ClassId)
  | moduleNamed (name : String)
  /-- The one object of that name. -/
  | reference (name : String)
  /-- The pending call kept under that name. -/
  | pending (name : String)
  deriving Inhabited

end MemberDispatch
