import MemberDispatch.Library.Numeric
import MemberDispatch.Text.Utf8
import MemberDispatch.Value.Range
import MemberDispatch.Value.Written

/-!
# Converting values

What a converter does to a value: it passes a value of its target on and coerces any other one, if
it can. The value that stands for no value is never converted, and byte strings are coerced as the
texts that they encode.
-/

namespace MemberDispatch

namespace Engine

/-- Whether a value is one of a width as it is. Bits take precedence over a length. -/
def isOfWidth (engine : Engine) (width : Width) (value : Value) : Act Bool := do
  if !(← Act.isInstance engine.hierarchy value width.representation) then return false
  else if width.bits != 0 then engine.inRange width value
  else if width.length != 0 then
    engine.compares .eq (← engine.operate .length [value]) (.int width.length)
  else return true

/-- Whether a value is one of a key as it is. -/
def isOfKey (engine : Engine) (key : TypeKey) (value : Value) : Act Bool := do
  match value, key with
  | .none, _ => return false
  | value, .exact width => engine.isOfWidth width value
  | value, .cls cls => Act.isInstance engine.hierarchy value cls

/-- The whole number that a value is exactly. Any other value is read as a text. -/
def toInteger (engine : Engine) (value : Value) : Act Int := do
  let exactly (number : Option Int) : Act Int := do
    match number with
    | some number => return number
    | none => throw (.conversion (.notWhole (← engine.text value)))
  match ← Act.contentOf value with
  | .decimal number => exactly number.whole?
  | .fraction number => exactly (if number.den == 1 then some number.num else none)
  | .float number => exactly (Binary64.ofFloat number).whole?
  | content => match content.int? with
    | some number => return number
    | none => Written.integer 10 (← engine.text value)

/-- The floating-point number nearest to a value. Any value that is no exact number is read as a
text. -/
def toReal (engine : Engine) (value : Value) : Act Float := do
  match ← Act.contentOf value with
  | .int _ | .bool _ | .decimal _ | .fraction _ => realOf value
  | _ => do Written.real (← engine.text value)

/-- The truth value that a word stands for in any case, where at most one line end follows. -/
def truthWord? (text : String) : Option Bool :=
  let characters := match text.toList.reverse with
    | '\n' :: rest => rest.reverse
    | _ => text.toList
  let word := String.ofList (characters.map fun character =>
    if character == 'ſ' then 's' else character.toLower)
  if word == "t" || word == "true" then some true
  else if word == "f" || word == "false" then some false
  else none

/-- The truth value of a value: whether a number differs from zero, or what its text says. An
instance of a class that derives from that of whole numbers compares itself with zero, and its
answer stands as it is. -/
def toTruth (engine : Engine) (value : Value) : Act Value := do
  match (← Act.contentOf value).int?, value with
  | some _, .object _ => engine.operate (.compare .ne) [value, .int 0]
  | some number, _ => return .bool (number != 0)
  | none, _ => do
      let text ← engine.text value
      match truthWord? text with
      | some truth => return .bool truth
      | none => return .bool ((← Written.integer 10 text) != 0)

/-- The decimal number that a value is exactly or that its text says. -/
def toDecimal (engine : Engine) (value : Value) : Act Decimal := do
  match (← Act.contentOf value).int? with
  | some number => return .ofInt number
  | none => match Decimal.read (← engine.text value) with
    | .ok number => return number
    | .error signal => throw (.ofSignal signal)

/-- The text of a value, which must be a single character by its own length. A text is passed on as
it is. -/
def toCharacter (engine : Engine) (value : Value) : Act Value := do
  let result ←
    if ← Act.isInstance engine.hierarchy value (.builtin .text) then pure value
    else engine.spoken value
  if ← engine.compares .eq (← engine.operate .length [result]) (.int 1) then return result
  else throw (.conversion (.notOneCharacter (← engine.display result)))

/-- A whole number held to a width. -/
def toWidth (engine : Engine) (width : Width) (value : Value) : Act Value := do
  let number ← engine.toInteger value
  if ← engine.inRange width (.int number) then return .int number
  else throw (.conversion (.outOfRange width.name (← Act.integerText number)))

def coerce (engine : Engine) (coercion : Coercion) (value : Value) : Act Value := do
  match coercion with
  | .char => engine.toCharacter value
  | .int => return .int (← engine.toInteger value)
  | .float => return .float (← engine.toReal value)
  | .bool => engine.toTruth value
  | .decimal => return .decimal (← engine.toDecimal value)
  | .text => engine.spoken value
  | .bytes => return .bytes (Text.encodeUtf8 (← engine.text value))
  | .width width => engine.toWidth width value
  | .body body => engine.call (.tagged "" body) [value]
  | .callable callable => engine.call callable [value]

/-- A byte string as the text that it encodes; any other value as it is. -/
def carriedText (value : Value) : Act Value := do
  match ← bytes? value with
  | none => return value
  | some bytes => match Text.decodeUtf8 bytes with
    | .ok text => return .text text
    | .error fault =>
        throw (.raised .unicodeDecode
          (.undecodable "utf-8" bytes fault.start (fault.start + fault.length)
            fault.issue.message))

/-- Converts a value to the target of a converter. -/
def convert (engine : Engine) (converter : Converter) (value : Value) : Act Value := do
  match value with
  | .none => throw (.conversion (.absent converter.target.name))
  | value => do
      if ← engine.isOfKey converter.target value then return value
      else match converter.coercion with
        | none =>
            throw (.conversion (.mismatch (← Act.classOf value).name converter.target.name))
        | some coercion => engine.coerce coercion (← carriedText value)

end Engine

end MemberDispatch
