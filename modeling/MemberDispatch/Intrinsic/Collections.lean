import MemberDispatch.Intrinsic.Bytes
import MemberDispatch.Library.Collections

/-!
# Members of collections

The members of lists, tuples and mappings that are not operators, and the function of every member
of a built-in class.
-/

namespace MemberDispatch

namespace Argument

/-- The position that a bound of a search stands for in a sequence. -/
def bound (length : Nat) (default : Int) (value : Option Value) : Act Nat := do
  match value with
  | none => return Slice.bound length default
  | some value => match (← Act.contentOf value).int? with
    | some number => return Slice.bound length number
    | none => Act.typeError "slice indices must be integers or have an __index__ method"

end Argument

namespace Engine

/-- The first position of a value among items, counted from a position on. -/
def firstPlace? (engine : Engine) (value : Value) (position : Nat) :
    List Value → Act (Option Nat)
  | [] => return none
  | item :: items => do
      if ← engine.sameOrEqual item value then return some position
      else engine.firstPlace? value (position + 1) items

/-- The first position of a value within the bounds of a search. -/
def searchItems (engine : Engine) (items arguments : List Value) : Act (Option Nat) := do
  let start ← Argument.bound items.length 0 (Argument.at? arguments 1)
  let stop ← Argument.bound items.length items.length (Argument.at? arguments 2)
  engine.firstPlace? (Argument.atOrNone arguments 0) start ((items.take stop).drop start)

def countItems (engine : Engine) (value : Value) (items : List Value) : Act Value := do
  let equal ← items.filterM fun item => engine.sameOrEqual item value
  return .int equal.length

def tupleMember (engine : Engine) (name : String) (items arguments : List Value) : Act Value := do
  match name with
  | "count" => engine.countItems (Argument.atOrNone arguments 0) items
  | "index" => match ← engine.searchItems items arguments with
    | some place => return .int place
    | none => Act.valueError "tuple.index(x): x not in tuple"
  | name => Act.typeError ("no member " ++ name ++ " of a tuple")

def listMember (engine : Engine) (name : String) (address : Nat) (items arguments : List Value) :
    Act Value := do
  let first := Argument.atOrNone arguments 0
  let become (items : List Value) : Act Value := do
    Act.setContent address (.list items)
    return .none
  match name with
  | "append" => become (items ++ [first])
  | "clear" => become []
  | "copy" => Act.makeList items
  | "count" => engine.countItems first items
  | "extend" => do
      let others ← engine.itemsOf first
      become (items ++ others)
  | "index" => match ← engine.searchItems items arguments with
    | some place => return .int place
    | none => Act.valueError ((← engine.display first) ++ " is not in list")
  | "insert" => do
      let place := Slice.bound items.length (← Argument.size first)
      become (items.insertIdx place (Argument.atOrNone arguments 1))
  | "pop" => do
      let index ← Argument.sizeOr (-1) (Argument.at? arguments 0)
      if items.isEmpty then throw (.say .indexError "pop from empty list")
      else match position? items.length index with
        | none => throw (.say .indexError "pop index out of range")
        | some place => do
            Act.setContent address (.list (items.eraseIdx place))
            return (items[place]?).getD .none
  | "remove" => match ← engine.firstPlace? first 0 items with
    | some place => become (items.eraseIdx place)
    | none => Act.valueError "list.remove(x): x not in list"
  | "reverse" => become items.reverse
  | "sort" => do become (← engine.sorted items)
  | name => Act.typeError ("no member " ++ name ++ " of a list")

def valueOf? (engine : Engine) (key : Value) (entries : List (Value × Value)) :
    Act (Option Value) := do
  engine.requireKey key
  let objects := (← get).objects
  return (entries.find? fun (other, _) => Value.sameKey engine.world objects key other).map (·.2)

def dictMember (engine : Engine) (name : String) (address : Nat) (entries : List (Value × Value))
    (arguments : List Value) : Act Value := do
  let key := Argument.atOrNone arguments 0
  let default := Argument.atOrNone arguments 1
  match name with
  | "get" => return (← engine.valueOf? key entries).getD default
  | "setdefault" => match ← engine.valueOf? key entries with
    | some value => return value
    | none => do
        Act.setContent address (.dict (entries ++ [(key, default)]))
        return default
  | "popitem" => match entries.getLast? with
    | none => throw (.raised .keyError (.message "popitem(): dictionary is empty"))
    | some (key, value) => do
        Act.setContent address (.dict entries.dropLast)
        return .tuple [key, value]
  | name => Act.typeError ("no member " ++ name ++ " of a mapping")

/-- A mapping that gives one value for every item. -/
def dictFromKeys (engine : Engine) (arguments : List Value) : Act Value := do
  let keys ← engine.distinctKeys (← engine.itemsOf (Argument.atOrNone arguments 0))
  let value := Argument.atOrNone arguments 1
  Act.makeDict (keys.map fun key => (key, value))

/-- Calls a member of a built-in class that stands by itself. -/
def intrinsicStatic? (engine : Engine) (owner : BuiltinClass) (name : String)
    (arguments : List Value) : Option (Act Value) :=
  let first := Argument.atOrNone arguments 0
  match owner, name with
  | .int, "from_bytes" => some (engine.fromBytes arguments)
  | .float, "fromhex" => some (fromHex first)
  | .decimal, "from_float" => some (decimalFromFloat first)
  | .fraction, "from_float" => some (engine.fractionOfFloat first)
  | .fraction, "from_decimal" => some (engine.fractionOfDecimal first)
  | .bytes, "fromhex" => some (bytesFromHex false first)
  | .byteArray, "fromhex" => some (bytesFromHex true first)
  | .bytes, "maketrans" | .byteArray, "maketrans" => some (makeByteTable arguments)
  | .dict, "fromkeys" => some (engine.dictFromKeys arguments)
  | _, _ => none

/-- Calls a member of a value of a built-in class. -/
def intrinsicMember (engine : Engine) (owner : BuiltinClass) (name : String) (value : Value)
    (arguments : List Value) : Act Value := do
  match Operator.ofMemberName? name with
  | some operator =>
      if operator.arity == arguments.length then engine.operate operator (value :: arguments)
      else match ← Act.contentOf value with
        | .decimal number => decimalMember name number arguments
        | .float number => floatMember name number
        | content => engine.integerMember name (content.int?.getD 0) arguments
  | none => match ← Act.contentOf value with
    | .float number => floatMember name number
    | .decimal number => decimalMember name number arguments
    | .fraction number => engine.fractionMember name number arguments
    | .text text => engine.textMember name text arguments
    | .bytes bytes => engine.bytesMember false name bytes arguments
    | .tuple items => engine.tupleMember name items arguments
    | .bool number => engine.integerMember name (if number then 1 else 0) arguments
    | .int number => engine.integerMember name number arguments
    | .object address => match (← Act.objectAt address).content with
      | .list items => engine.listMember name address items arguments
      | .dict entries => engine.dictMember name address entries arguments
      | .byteArray bytes => engine.byteArrayMember name address bytes arguments
      | _ => Act.typeError ("no member " ++ name ++ " of " ++ owner.name)
    | _ => Act.typeError ("no member " ++ name ++ " of " ++ owner.name)

/-- Calls a member of a built-in class, with the value first where it belongs to values. -/
def intrinsicFunction (engine : Engine) (owner : BuiltinClass) (name : String)
    (arguments : List Value) : Act Value :=
  match engine.intrinsicStatic? owner name arguments with
  | some answer => answer
  | none => match arguments with
    | [] =>
        Act.typeError ("unbound method " ++ owner.name ++ "." ++ name ++
          "() needs an argument")
    | value :: rest => engine.intrinsicMember owner name value rest

end Engine

end MemberDispatch
