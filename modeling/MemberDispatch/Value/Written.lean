import MemberDispatch.Number.IntegerText
import MemberDispatch.Value.Argument

/-!
# Written numbers

The numbers that texts and byte strings say. A byte string is read as the characters of ASCII, and
refused in its own spelling.
-/

namespace MemberDispatch

namespace Written

/-- The characters of a byte string; a byte beyond ASCII stands for one that no number has. -/
def asciiText (bytes : List UInt8) : String :=
  String.ofList (bytes.map fun byte =>
    if byte.toNat < 128 then Char.ofNat byte.toNat else '\uFFFD')

/-- The whole number that a text says in a base. -/
def integer (base : Int) (text : String) : Act Int :=
  match readInteger base text with
  | .ok number => return number
  | .error issue => Act.valueError issue.message

/-- The whole number that a byte string says in a base. -/
def integerOfBytes (base : Int) (bytes : List UInt8) : Act Int :=
  match readInteger base (asciiText bytes) with
  | .ok number => return number
  | .error (.malformed base _) =>
      Act.valueError ("invalid literal for int() with base " ++ toString base ++ ": " ++
        String.ofList ((Text.quotedBytes bytes).toList.take 200))
  | .error issue => Act.valueError issue.message

/-- The complaint over something that says no floating-point number. -/
def noReal {α : Type} (shown : String) : Act α :=
  Act.valueError ("could not convert string to float: " ++ shown)

/-- The floating-point number that a text says. -/
def real (text : String) : Act Float :=
  match readFloat? text with
  | some number => return number
  | none => noReal (Text.quoted text)

/-- The floating-point number that a byte string of the given display says. -/
def realOfBytes (bytes : List UInt8) (shown : String) : Act Float :=
  match readFloat? (asciiText bytes) with
  | some number => return number
  | none => noReal shown

end Written

end MemberDispatch
