import MemberDispatch.Attribute

/-!
# Displays and texts

The display of a value is how it looks as a literal, with the type where there is no literal. Its
text is the same except for texts, numbers and values of classes that say otherwise. The text of a
pending call is that of its result.
-/

namespace MemberDispatch

namespace Act

/-- A whole number in decimal. -/
def integerText (number : Int) : Act String :=
  match writeInteger number with
  | .ok text => return text
  | .error issue => valueError issue.message

/-- A ratio as a fraction, or as a whole number where it is one. -/
def fractionText (ratio : Rat) : Act String := do
  let numerator ← integerText ratio.num
  if ratio.den == 1 then return numerator
  else return numerator ++ "/" ++ (← integerText ratio.den)

/-- Runs work while an object counts as being displayed. -/
def whileDisplaying {α : Type} (address : Nat) (work : Act α) : Act α := do
  modify fun session => { session with displaying := address :: session.displaying }
  let outcome ← attempt work
  modify fun session => { session with displaying := session.displaying.erase address }
  match outcome with
  | .ok result => return result
  | .error fault => throw fault

end Act

namespace Engine

/-- Texts between brackets, separated by commas. -/
def bracketed (opening closing : String) (texts : List String) : String :=
  opening ++ ", ".intercalate texts ++ closing

def displayContent (engine : Engine) (object : Object) : Act String := do
  match object.content with
  | .list items => return bracketed "[" "]" (← engine.displayAll items)
  | .dict entries =>
      let texts ← entries.mapM fun (key, value) => do
        let key ← engine.display key
        let value ← engine.display value
        return key ++ ": " ++ value
      return bracketed "\x7b" "\x7d" texts
  | .set items =>
      if items.isEmpty then return "set()"
      else return bracketed "\x7b" "\x7d" (← engine.displayAll items)
  | .byteArray bytes => return "bytearray(" ++ Text.quotedBytes bytes ++ ")"
  | .scalar value => engine.display value
  | .plain =>
      let sorted := object.attributes.mergeSort fun left right => decide (left.1 ≤ right.1)
      let texts ← sorted.mapM fun (name, value) => do
        return name ++ "=" ++ (← engine.display value)
      return object.cls.name ++ bracketed "(" ")" texts

/-- How an object shows inside itself. -/
def innerDisplay (object : Object) : String :=
  match object.content with
  | .list _ => "[...]"
  | .dict _ => "\x7b...\x7d"
  | .set _ => "set(...)"
  | _ => "..."

/-- The path of a call: the name of the member and the arguments, which show by the formatters of
their classes. -/
def renderArgument (engine : Engine) (value : Value) : Act String := do
  let cls ← Act.classOf value
  let session ← get
  let (formatter, formatters) := session.formatters.lookup engine.hierarchy.linearization cls
  set { session with formatters }
  match formatter with
  | none => throw (.raised .keyError (.missing cls.display))
  | some (.fixed text) => return text
  | some .quoted => match ← Act.contentOf value with
    | .text text => return Text.enclosed text
    | other => return Text.enclosed (← engine.text other)
  | some .described => return "\x7b" ++ cls.name ++ ":" ++ Text.enclosed (← engine.text value) ++ "\x7d"

/-- The name of a member and the arguments of a call, joined with points. -/
def renderPath (engine : Engine) (name : String) (arguments : List Value) : Act String := do
  let texts ← arguments.mapM engine.renderArgument
  return ".".intercalate (name :: texts)

def displayCall (engine : Engine) (call : PendingCall) : Act String := do
  let path ← engine.renderPath call.name call.arguments
  return "ArgsAdaptor(" ++ (← Act.classOf call.target).name ++ "." ++ path ++ ", " ++
    call.phase.name ++ ")"

def displayWith (engine : Engine) (value : Value) : Act String := do
  match value with
  | .none => return "None"
  | .bool value => return if value then "True" else "False"
  | .int value => Act.integerText value
  | .float value => return showFloat value
  | .complex real imaginary => return showComplex real imaginary
  | .decimal value => return "Decimal('" ++ value.text ++ "')"
  | .fraction value =>
      let numerator ← Act.integerText value.num
      let denominator ← Act.integerText value.den
      return "Fraction(" ++ numerator ++ ", " ++ denominator ++ ")"
  | .text value => return Text.quoted value
  | .bytes value => return Text.quotedBytes value
  | .tuple items => match ← engine.displayAll items with
    | [text] => return "(" ++ text ++ ",)"
    | texts => return bracketed "(" ")" texts
  | .frozenSet [] => return "frozenset()"
  | .frozenSet items => return bracketed "frozenset(\x7b" "\x7d)" (← engine.displayAll items)
  | .object address =>
      let object ← Act.objectAt address
      if (← get).displaying.contains address then return innerDisplay object
      else Act.whileDisplaying address (engine.displayContent object)
  | .pending id => match ← Act.callAt? id with
    | some call => engine.displayCall call
    | none => return "ArgsAdaptor()"
  | .cls id => return id.display
  | .moduleNamed name => return "<module '" ++ name ++ "'>"
  | .callable function => return function.display
  | .method receiver function =>
      return "<bound method " ++ function.qualifiedName ++ " of " ++ (← engine.display receiver) ++ ">"
  | .notImplemented => return "NotImplemented"
  | .unset => return "<object object>"

/-- The text of a value other than a pending call. -/
def textWith (engine : Engine) (value : Value) : Act String := do
  match value with
  | .text value => return value
  | .decimal value => return value.text
  | .fraction value => Act.fractionText value
  | .object address =>
      let object ← Act.objectAt address
      match engine.world.entryAlong? object.cls "__str__" with
      | some (_, .method function) => match ← engine.call (.plain function) [value] with
        | .text text => return text
        | other => match ← Act.contentOf other with
          | .text text => return text
          | _ =>
              Act.typeError ("__str__ returned non-string (type " ++
                (← Act.classOf other).operandName ++ ")")
      | _ => match object.content with
        | .scalar content => engine.text content
        | _ => engine.display value
  | value => engine.display value

/-- The text of a value as a value. What an object answers for it itself may be of a class that derives
from that of texts. -/
def spoken (engine : Engine) (value : Value) : Act Value := do
  match value with
  | .object address =>
      let object ← Act.objectAt address
      match engine.world.entryAlong? object.cls "__str__" with
      | some (_, .method function) =>
          let answer ← engine.call (.plain function) [value]
          if ← Act.isInstance engine.hierarchy answer (.builtin .text) then return answer
          else
            Act.typeError ("__str__ returned non-string (type " ++
              (← Act.classOf answer).operandName ++ ")")
      | _ => return .text (← engine.text value)
  | value => return .text (← engine.text value)

end Engine

end MemberDispatch
