import MemberDispatch.Library.Collections
import MemberDispatch.Text.Escape
import MemberDispatch.Text.Slice
import MemberDispatch.Value.Written

/-!
# Functions of texts

The functions that the provider for texts offers. A stretch of any sequence is taken by the
operators of its bounds; a text with whole numbers for bounds goes straight to the stretches of a
list.
-/

namespace MemberDispatch

namespace Engine

def ofCharacters (characters : List Char) : Act Value :=
  return .text (String.ofList characters)

def boundOf (value : Value) : Act (Option Int) := do
  match value with
  | .none => return none
  | value => match (← Act.contentOf value).int? with
    | some bound => return some bound
    | none =>
        Act.typeError "slice indices must be integers or None or have an __index__ method"

/-- The items between two bounds. -/
def stretch {α : Type} (items : List α) (start stop : Value) : Act (List α) := do
  let start := (← boundOf start).getD 0
  let stop := (← boundOf stop).getD items.length
  return Slice.between items start stop

/-- The stretch of a sequence between two bounds. -/
def stretchOf (sequence start stop : Value) : Act Value := do
  match ← Act.contentOf sequence with
  | .text text => do ofCharacters (← stretch text.toList start stop)
  | .bytes bytes => return .bytes (← stretch bytes start stop)
  | .tuple items => return .tuple (← stretch items start stop)
  | _ => match ← listItems? sequence, ← bytes? sequence, ← dictEntries? sequence with
    | some items, _, _ => do Act.makeList (← stretch items start stop)
    | _, some bytes, _ => do Act.makeByteArray (← stretch bytes start stop)
    | _, _, some _ => Act.typeError "unhashable type: 'slice'"
    | _, _, _ =>
        Act.typeError ("'" ++ (← Argument.className sequence) ++ "' object is not subscriptable")

/-- The strict stretch of a sequence, whose bounds must lie in it. -/
def strictStretch (engine : Engine) (sequence start stop : Value) : Act Value := do
  let stop ← match stop with
    | .none => engine.operate .length [sequence]
    | stop => pure stop
  let isOutside : Act Bool := do
    if ← engine.compares .lt start (.int 0) then return true
    else if ← engine.compares .gt stop (← engine.operate .length [sequence]) then return true
    else engine.compares .gt start stop
  if ← isOutside then
    let first ← engine.text start
    let last ← engine.text stop
    let length ← engine.text (← engine.operate .length [sequence])
    throw (.say .indexError
      ("begin " ++ first ++ ", end " ++ last ++ ", length " ++ length))
  else stretchOf sequence start stop

/-- A number, or zero where it is negative. -/
def atLeastZero (engine : Engine) (value : Value) : Act Value :=
  engine.pick .gt value (.int 0)

/-- A part of a text, or of any other sequence. -/
def partOf (engine : Engine) (name : String) (sequence first second : Value) : Act Value := do
  match name with
  | "substring" => engine.strictStretch sequence first second
  | "substr" => do stretchOf sequence (← engine.atLeastZero first) second
  | "leftstr" => do stretchOf sequence .none (← engine.atLeastZero first)
  | "rightstr" => do
      if ← engine.compares .gt first (.int 0) then
        let start ← engine.combine .sub (← engine.operate .length [sequence]) first
        stretchOf sequence start .none
      else return .text ""
  | _ => do
      let start ← engine.atLeastZero first
      stretchOf sequence start (← engine.combine .add start (← engine.atLeastZero second))

/-- A part of a text by whole numbers, as far as they are all that it takes. -/
def textPart? (name : String) (characters : List Char) (first : Int) (second : Option Int) :
    Option (Act Value) :=
  match name with
  | "substring" => some (match Slice.strict characters first second with
    | .ok characters => ofCharacters characters
    | .error issue => do
        let start ← Act.integerText issue.start
        let stop ← Act.integerText issue.stop
        throw (.say .indexError
          ("begin " ++ start ++ ", end " ++ stop ++ ", length " ++ toString issue.length)))
  | "substr" => some (ofCharacters (Slice.lenient characters first second))
  | "leftstr" => some (ofCharacters (Slice.left characters first))
  | "rightstr" => some (ofCharacters (Slice.right characters first))
  | _ => second.map fun second => ofCharacters (Slice.middle characters first second)

/-- Replaces in a value, by its own member, one text after the other. -/
def replacing (engine : Engine) : Value → List (String × String) → Act Value
  | value, [] => return value
  | value, (old, new) :: others => do
      engine.replacing (← engine.callMember value "replace" [.text old, .text new]) others

def escapedHtml (engine : Engine) (value : Value) : Act Value := do
  match ← Act.contentOf value with
  | .text text => return .text (Text.escapeHtml text)
  | _ =>
      engine.replacing value
        (["&", "<", ">", "\"", "'"].map fun mark => (mark, Text.escapeHtml mark))

def escapedXml (engine : Engine) (value : Value) : Act Value := do
  match ← Act.contentOf value with
  | .text text => return .text (Text.escapeXml text)
  | _ =>
      engine.replacing value
        (["&", ">", "<", "\"", "'"].map fun mark => (mark, Text.escapeXml mark))

/-- A text or byte string as part of the query of an address. -/
def escapedQuery (value : Value) : Act Value := do
  match ← Act.contentOf value with
  | .text text => return if text.isEmpty then value else .text (Text.escapeQuery text)
  | _ => match ← bytes? value with
    | some bytes => return .text (Text.escapeQueryBytes bytes)
    | none => Act.typeError "quote_from_bytes() expected bytes"

/-- A text with the first character of every word in upper case. -/
def capitalized (value : Value) : Act Value := do
  match ← Act.contentOf value with
  | .text text => return .text (Text.capitalizeWords text)
  | _ =>
      if (← bytes? value).isSome then
        Act.typeError "cannot use a string pattern on a bytes-like object"
      else
        Act.typeError ("expected string or bytes-like object, got '" ++
          (← Argument.className value) ++ "'")

/-- The whole number that a value says in a base once it is stripped. -/
def parsedInteger (engine : Engine) (value base : Value) : Act Value := do
  let stripped ← engine.callMember value "strip" []
  let base ← Argument.integer base
  match ← Act.contentOf stripped, ← bytes? stripped with
  | .text text, _ => return .int (← Written.integer base text)
  | _, some bytes => return .int (← Written.integerOfBytes base bytes)
  | _, _ => Act.typeError "int() can't convert non-string with explicit base"

/-- The floating-point number that a value says once it is stripped. -/
def parsedReal (engine : Engine) (value : Value) : Act Value := do
  engine.call (.construct (.builtin .float)) [← engine.callMember value "strip" []]

def textFunction (engine : Engine) (name : String) (arguments : List Value) : Act Value := do
  let value := Argument.atOrNone arguments 0
  let first := Argument.atOrNone arguments 1
  let second := Argument.atOrNone arguments 2
  match name with
  | "word_capitalize" => capitalized value
  | "escape_html" => engine.escapedHtml value
  | "escape_xml" => engine.escapedXml value
  | "escape_url" => escapedQuery value
  | "parse_int" => engine.parsedInteger value first
  | "parse_float" => engine.parsedReal value
  | name =>
      let plain := match value, first, second with
        | .text text, .int first, .int second => textPart? name text.toList first (some second)
        | .text text, .int first, .none => textPart? name text.toList first none
        | _, _, _ => none
      plain.getD (engine.partOf name value first second)

/-- Calls a function of a built-in provider. -/
def libraryFunction (engine : Engine) (owner : BuiltinClass) (name : String)
    (arguments : List Value) : Act Value :=
  match owner with
  | .objectFunctions => engine.collectionFunction name arguments
  | .stringFunctions => engine.textFunction name arguments
  | _ => engine.numericFunction name arguments

end Engine

end MemberDispatch
