import MemberDispatch.Library.Textual
import MemberDispatch.Text.Wrap

/-!
# Functions of the built-in modules

The functions that names can be resolved to: functions of any value, mathematics, and the filling of
paragraphs.
-/

namespace MemberDispatch

/-- What a value calls when it is called, if it can be. -/
def Value.callable? : Value → Option Callable
  | .callable function => some function
  | .cls id => some (.construct id)
  | _ => Option.none

namespace Engine

/-- A whole number in a base, behind the mark of the base. -/
def markedInteger (mark : String) (base : Nat) (number : Int) : String :=
  (if number < 0 then "-" else "") ++ mark ++ String.ofList (Nat.toDigits base number.natAbs)

def characterOf (number : Int) : Act Value := do
  if number < 0 || number > 0x10ffff then Act.valueError "chr() arg not in range(0x110000)"
  else return .text (String.singleton (Char.ofNat number.toNat))

/-- The number of the only character of a text. -/
def numberOfCharacter (value : Value) : Act Value := do
  match ← Act.contentOf value with
  | .text text => match text.toList with
    | [character] => return .int character.toNat
    | characters =>
        Act.typeError ("ord() expected a character, but string of length " ++
          toString characters.length ++ " found")
  | .bytes [byte] => return .int byte.toNat
  | _ =>
      Act.typeError ("ord() expected string of length 1, but " ++ (← Argument.className value) ++
        " found")

/-- Calls a function of any value. -/
def generalFunction (engine : Engine) (name : String) (arguments : List Value) : Act Value := do
  let first := Argument.atOrNone arguments 0
  let second := Argument.atOrNone arguments 1
  match name with
  | "abs" => engine.operate .magnitude [first]
  | "len" => engine.operate .length [first]
  | "repr" => return .text (← engine.display first)
  | "callable" => return .bool first.callable?.isSome
  | "bin" => return .text (markedInteger "0b" 2 (← Argument.integer first))
  | "oct" => return .text (markedInteger "0o" 8 (← Argument.integer first))
  | "hex" => return .text (markedInteger "0x" 16 (← Argument.integer first))
  | "chr" => characterOf (← Argument.integer first)
  | "ord" => numberOfCharacter first
  | "all" => do return .bool (← (← engine.itemsOf first).allM engine.isTrue)
  | "any" => do return .bool (← (← engine.itemsOf first).anyM engine.isTrue)
  | "sorted" => do Act.makeList (← engine.sorted (← engine.itemsOf first))
  | "sum" => (← engine.itemsOf first).foldlM (engine.combine .add) second
  | "pow" => engine.combine .pow first second
  | "divmod" => do
      let quotient ← engine.combine .floorDiv first second
      return .tuple [quotient, ← engine.combine .mod first second]
  | name => throw (.say .notImplemented (name ++ "()"))

/-- The functions of a floating-point number that hold for every number of their domain. -/
def realFunction? (name : String) : Option (Float → Float) :=
  [("acos", Float.acos), ("acosh", Float.acosh), ("asin", Float.asin), ("asinh", Float.asinh),
    ("atan", Float.atan), ("atanh", Float.atanh), ("cbrt", Float.cbrt), ("cos", Float.cos),
    ("cosh", Float.cosh), ("exp", Float.exp), ("exp2", Float.exp2), ("fabs", Float.abs),
    ("sin", Float.sin), ("sinh", Float.sinh), ("sqrt", Float.sqrt), ("tan", Float.tan),
    ("tanh", Float.tanh), ("degrees", fun number => number * (180.0 / pi)),
    ("radians", fun number => number * (pi / 180.0))].lookup name

/-- The product of the numbers up to one. -/
def factorial (number : Nat) : Nat :=
  (List.range number).foldl (fun product factor => product * (factor + 1)) 1

/-- The greatest number whose square is not above a number, found bit by bit. -/
def wholeRoot (number : Nat) : Nat :=
  (List.range (Nat.log2 number / 2 + 1)).foldr
    (fun bit root =>
      let next := root + twoTo bit
      if next * next ≤ number then next else root)
    0

def mathematicalFunction (name : String) (arguments : List Value) : Act Value := do
  let first := Argument.atOrNone arguments 0
  let second := Argument.atOrNone arguments 1
  match name with
  | "ceil" => return .int (← ceilingOf first)
  | "floor" => return .int (← floorOf first)
  | "trunc" => return .int (← truncationOf first)
  | "isfinite" => return .bool (RealFunctions.isFinite (← realOf first))
  | "isinf" => return .bool (RealFunctions.isInfinite (← realOf first))
  | "isnan" => return .bool (RealFunctions.isNaN (← realOf first))
  | "log2" => logarithmOf Float.log2 first
  | "log10" => logarithmOf Float.log10 first
  | "factorial" => do
      let number ← Argument.integer first
      if number < 0 then Act.valueError "factorial() not defined for negative values"
      else return .int (factorial number.toNat)
  | "isqrt" => do
      let number ← Argument.integer first
      if number < 0 then Act.valueError "isqrt() argument must be nonnegative"
      else return .int (wholeRoot number.toNat)
  | "atan2" => return .float (Float.atan2 (← realOf first) (← realOf second))
  | "copysign" => return .float (RealFunctions.copySign (← realOf first) (← realOf second))
  | "fmod" => return .float (← Act.ofReal (RealFunctions.fmod (← realOf first) (← realOf second)))
  | "pow" => return .float (← Act.ofReal (RealFunctions.pow (← realOf first) (← realOf second)))
  | name => match realFunction? name with
    | some function =>
        let number ← realOf first
        let result := function number
        if RealFunctions.isNaN result && !RealFunctions.isNaN number then
          Act.valueError "math domain error"
        else return .float (← Act.ofReal (RealFunctions.checked result (RealFunctions.isFinite number)))
    | none => throw (.say .notImplemented (name ++ "()"))

/-- The text that a function of paragraphs works on. -/
def paragraph (value : Value) (member : String) : Act (List Char) := do
  match ← Act.contentOf value with
  | .text text => return text.toList
  | _ => Act.noAttribute (← Act.classOf value) member

/-- The width of the lines of a paragraph, which must be positive. -/
def lineWidth (engine : Engine) (value : Value) : Act Nat := do
  if ← engine.compares .le value (.int 0) then
    Act.valueError ("invalid width " ++ (← engine.display value) ++ " (must be > 0)")
  else return (← Argument.integer value).toNat

/-- The lines that are put behind another text, if they are selected. -/
def indented (engine : Engine) (start predicate : Value) (line : List Char) : Act Value := do
  let line := String.ofList line
  let selected ← match predicate with
    | .none => pure (!(Text.trim line).isEmpty)
    | predicate => match predicate.callable? with
      | some callable => do engine.isTrue (← engine.call callable [.text line])
      | none =>
          Act.typeError ("'" ++ (← Argument.className predicate) ++ "' object is not callable")
  if selected then engine.combine .add start (.text line) else return .text line

def paragraphFunction (engine : Engine) (name : String) (arguments : List Value) : Act Value := do
  let first := Argument.atOrNone arguments 0
  let second := Argument.atOrNone arguments 1
  match name with
  | "wrap" => do
      let text ← paragraph first "expandtabs"
      let lines := Wrap.lines (← engine.lineWidth second) text
      Act.makeList (lines.map fun line => .text (String.ofList line))
  | "fill" => do
      let text ← paragraph first "expandtabs"
      let lines := Wrap.lines (← engine.lineWidth second) text
      return .text ("\n".intercalate (lines.map String.ofList))
  | "shorten" => do
      let text ← paragraph first "strip"
      match Wrap.shorten? (← engine.lineWidth second) text with
      | some line => return .text (String.ofList line)
      | none => Act.valueError "placeholder too large for max width"
  | "dedent" => match ← Act.contentOf first with
    | .text text => return .text (String.ofList (Wrap.dedent text.toList))
    | _ =>
        Act.typeError ("expected string or bytes-like object, got '" ++
          (← Argument.className first) ++ "'")
  | _ => do
      let text ← paragraph first "splitlines"
      let lines ← (Wrap.linesWithEnds text).mapM
        (engine.indented second (Argument.atOrNone arguments 2))
      let texts ← lines.mapM fun line => Argument.text line
        ("sequence item 0: expected str instance, " ++ · ++ " found")
      return .text (String.join texts)

def moduleFunction (engine : Engine) (moduleName name : String) (arguments : List Value) :
    Act Value :=
  match moduleName with
  | "builtins" => engine.generalFunction name arguments
  | "math" => mathematicalFunction name arguments
  | _ => engine.paragraphFunction name arguments

end Engine

end MemberDispatch
