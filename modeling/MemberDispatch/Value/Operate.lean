import MemberDispatch.Value.Arithmetic

/-!
# Operators on values

The operators on one value, membership and items, and the operator of every name. A class may
define each of them itself; the built-in classes define theirs here.
-/

namespace MemberDispatch

namespace Engine

/-- The items that going through a value gives, if it can be gone through. -/
def items? (engine : Engine) (value : Value) : Act (Option (List Value)) := do
  let cls ← Act.classOf value
  match engine.declaredMethod? cls "__iter__" with
  | some function => match ← engine.call (.plain function) [value] with
    | answer =>
        Act.typeError ("iter() returned non-iterator of type '" ++
          (← Act.classOf answer).operandName ++ "'")
  | none => match ← Act.contentOf value with
    | .text text => return some (text.toList.map fun character => .text (String.singleton character))
    | .bytes bytes => return some (bytes.map fun byte => .int byte.toNat)
    | .tuple items => return some items
    | .frozenSet items => return some items
    | .object address => match (← Act.objectAt address).content with
      | .list items => return some items
      | .dict entries => return some (entries.map (·.1))
      | .set items => return some items
      | .byteArray bytes => return some (bytes.map fun byte => .int byte.toNat)
      | _ => return none
    | _ => return none

/-- The items that going through a value gives. -/
def itemsOf (engine : Engine) (value : Value) : Act (List Value) := do
  match ← engine.items? value with
  | some items => return items
  | none => Act.typeError ("'" ++ (← Act.classOf value).operandName ++ "' object is not iterable")

def anyEqual (engine : Engine) (value : Value) : List Value → Act Bool
  | [] => return false
  | item :: items => do
      if ← engine.sameOrEqual item value then return true
      else engine.anyEqual value items

/-- Whether a run of items starts a list. -/
def startsWith {α : Type} [BEq α] : List α → List α → Bool
  | [], _ => true
  | _, [] => false
  | first :: firsts, item :: items => first == item && startsWith firsts items

/-- Whether a run of items stands somewhere in a list. -/
def holdsRun {α : Type} [BEq α] (run : List α) : List α → Bool
  | [] => run.isEmpty
  | item :: items => startsWith run (item :: items) || holdsRun run items

/-- Whether a byte string holds a byte or a run of bytes. -/
def bytesContain (bytes : List UInt8) (value : Value) : Act Bool := do
  match (← Act.contentOf value).int? with
  | some number =>
      if number < 0 || number > 255 then Act.valueError "byte must be in range(0, 256)"
      else return bytes.contains (UInt8.ofNat number.toNat)
  | none => match ← bytes? value with
    | some run => return holdsRun run bytes
    | none =>
        Act.typeError ("a bytes-like object is required, not '" ++
          (← Act.classOf value).operandName ++ "'")

def contains (engine : Engine) (collection value : Value) : Act Value := do
  let cls ← Act.classOf collection
  match engine.declaredMethod? cls "__contains__" with
  | some function => do
      return .bool (← engine.isTrue (← engine.call (.plain function) [collection, value]))
  | none => match ← Act.contentOf collection with
    | .text text => match ← Act.contentOf value with
      | .text part => return .bool (holdsRun part.toList text.toList)
      | _ =>
          Act.typeError ("'in <string>' requires string as left operand, not " ++
            (← Act.classOf value).operandName)
    | _ => match ← setItems? collection, ← dictEntries? collection, ← bytes? collection with
      | some items, _, _ => do
          unless (← setItems? value).isSome do engine.requireKey value
          return .bool (← engine.hasKey value items)
      | _, some entries, _ => do
          engine.requireKey value
          return .bool (← engine.hasKey value (entries.map (·.1)))
      | _, _, some bytes => return .bool (← bytesContain bytes value)
      | _, _, _ => match ← engine.items? collection with
        | some items => return .bool (← engine.anyEqual value items)
        | none => Act.typeError ("argument of type '" ++ cls.operandName ++ "' is not iterable")

/-- The position that an index stands for in a sequence; a negative one counts from the end. -/
def position? (length : Nat) (index : Int) : Option Nat :=
  if 0 ≤ index && index < length then some index.toNat
  else if index < 0 && -(length : Int) ≤ index then some (length + index).toNat
  else none

/-- The item of a sequence at an index, or the given complaint. -/
def itemAt {α : Type} (items : List α) (index : Int) (complaint : String) : Act α := do
  if index ≥ twoTo 63 || index < -(twoTo 63) then
    throw (.say .indexError "cannot fit 'int' into an index-sized integer")
  else match (position? items.length index).bind fun position => items[position]? with
    | some item => return item
    | none => throw (.say .indexError complaint)

/-- The index that a value stands for, or the given complaint about its class. -/
def indexOf (value : Value) (complaint : String → String) : Act Int := do
  match (← Act.contentOf value).int? with
  | some index => return index
  | none => Act.typeError (complaint (← Act.classOf value).operandName)

/-- The item of a collection at an index or under a key. -/
def itemOf (engine : Engine) (collection key : Value) : Act Value := do
  let cls ← Act.classOf collection
  let indices (kind : String) (cls : String) : String :=
    kind ++ " indices must be integers or slices, not " ++ cls
  match engine.declaredMethod? cls "__getitem__" with
  | some function => engine.call (.plain function) [collection, key]
  | none => match ← Act.contentOf collection with
    | .text text => do
        let index ← indexOf key fun cls => "string indices must be integers, not '" ++ cls ++ "'"
        return .text (String.singleton (← itemAt text.toList index "string index out of range"))
    | .tuple items => do
        itemAt items (← indexOf key (indices "tuple")) "tuple index out of range"
    | .bytes bytes => do
        return .int (← itemAt bytes (← indexOf key (indices "byte")) "index out of range").toNat
    | .object address => match (← Act.objectAt address).content with
      | .list items => do
          itemAt items (← indexOf key (indices "list")) "list index out of range"
      | .byteArray bytes => do
          return .int (← itemAt bytes (← indexOf key (indices "bytearray"))
            "bytearray index out of range").toNat
      | .dict entries => do
          engine.requireKey key
          let objects := (← get).objects
          match entries.find? fun (other, _) => Value.sameKey engine.world objects key other with
          | some (_, value) => return value
          | none => throw (.raised .keyError (.missing (← engine.display key)))
      | _ => Act.typeError ("'" ++ cls.operandName ++ "' object is not subscriptable")
    | _ => Act.typeError ("'" ++ cls.operandName ++ "' object is not subscriptable")

/-- The length that a declared class answers, which must be a small natural number. -/
def checkedLength (value : Value) : Act Value := do
  match (← Act.contentOf value).int? with
  | some length =>
      if length < 0 then Act.valueError "__len__() should return >= 0"
      else if length ≥ twoTo 63 then
        throw (.say .overflow "cannot fit 'int' into an index-sized integer")
      else return .int length
  | none =>
      Act.typeError ("'" ++ (← Act.classOf value).operandName ++
        "' object cannot be interpreted as an integer")

/-- The number of items of a collection. -/
def lengthOf (engine : Engine) (collection : Value) : Act Value := do
  let cls ← Act.classOf collection
  match engine.declaredMethod? cls "__len__" with
  | some function => do checkedLength (← engine.call (.plain function) [collection])
  | none => match ← Act.contentOf collection with
    | .text text => return .int text.length
    | .bytes bytes => return .int bytes.length
    | .tuple items => return .int items.length
    | .frozenSet items => return .int items.length
    | .object address => match (← Act.objectAt address).content with
      | .list items => return .int items.length
      | .dict entries => return .int entries.length
      | .set items => return .int items.length
      | .byteArray bytes => return .int bytes.length
      | _ => Act.typeError ("object of type '" ++ cls.operandName ++ "' has no len()")
    | _ => Act.typeError ("object of type '" ++ cls.operandName ++ "' has no len()")

/-- The operators on one number. -/
inductive Sign
  | negative | positive | invert | magnitude
  deriving DecidableEq

/-- How complaints name an operator on one number. -/
def Sign.words : Sign → String
  | .negative => "unary -"
  | .positive => "unary +"
  | .invert => "unary ~"
  | .magnitude => "abs()"

/-- The member that defines an operator on one number. -/
def Sign.memberName : Sign → String
  | .negative => "__neg__"
  | .positive => "__pos__"
  | .invert => "__invert__"
  | .magnitude => "__abs__"

/-- Applies an operator to one number. -/
def signed (engine : Engine) (sign : Sign) (value : Value) : Act Value := do
  let cls ← Act.classOf value
  match engine.declaredMethod? cls sign.memberName with
  | some function => engine.call (.plain function) [value]
  | none => match sign, ← Act.contentOf value with
    | .negative, .float number => return .float (-number)
    | .positive, .float number => return .float number
    | .magnitude, .float number => return .float (Float.abs number)
    | .negative, .decimal number => Act.ofDecimal number.negate
    | .positive, .decimal number => Act.ofDecimal number.plus
    | .magnitude, .decimal number => Act.ofDecimal number.magnitude
    | .negative, .fraction number => return .fraction (-number)
    | .positive, .fraction number => return .fraction number
    | .magnitude, .fraction number => return .fraction (if number < 0 then -number else number)
    | sign, content => match sign, content.int? with
      | .negative, some number => return .int (-number)
      | .positive, some number => return .int number
      | .invert, some number => return .int (Integer.not number)
      | .magnitude, some number => return .int number.natAbs
      | sign, none =>
          Act.typeError ("bad operand type for " ++ sign.words ++ ": '" ++ cls.operandName ++ "'")

/-- Applies an operator to its operands. -/
def operateWith (engine : Engine) (operator : Operator) (operands : List Value) : Act Value :=
  match operator, operands with
  | .compare comparison, [left, right] => engine.compareWith comparison left right
  | .binary operator, [left, right] => engine.combineWith operator left right
  | .contains, [collection, value] => engine.contains collection value
  | .item, [collection, key] => engine.itemOf collection key
  | .negative, [value] => engine.signed .negative value
  | .positive, [value] => engine.signed .positive value
  | .invert, [value] => engine.signed .invert value
  | .magnitude, [value] => engine.signed .magnitude value
  | .length, [value] => engine.lengthOf value
  | _, operands =>
      Act.typeError ("operator expected other than " ++ toString operands.length ++ " operands")

end Engine

end MemberDispatch
