import MemberDispatch.Attribute

/-!
# Comparing values

Numbers compare by their exact values whatever their kinds, texts and sequences item by item, and
collections without order by what they hold. A class may define comparisons itself. Where neither
operand knows a comparison, equality is identity and an order is refused.
-/

namespace MemberDispatch

namespace Value

/-- The exact ratio of a finite number other than a decimal one. -/
def ratio? : Value → Option Rat
  | .bool value => some (if value then 1 else 0)
  | .int value => some value
  | .fraction value => some value
  | .float value => (Binary64.ofFloat value).ratio?.map fun (numerator, denominator) =>
      (numerator : Rat) / (denominator : Rat)
  | _ => Option.none

/-- Whether the value is a number that has an order. -/
def isNumber : Value → Bool
  | .bool _ | .int _ | .float _ | .decimal _ | .fraction _ => true
  | _ => false

/-- The order of two floating-point numbers, unless one is not a number. -/
def floatOrder? (left right : Float) : Option Ordering :=
  if left < right then some .lt
  else if left > right then some .gt
  else if left == right then some .eq
  else Option.none

/-- Turns a number that is not decimal into a decimal one, a fraction aside. -/
def asDecimal? : Value → Option Decimal
  | .bool value => some (.ofInt (if value then 1 else 0))
  | .int value => some (.ofInt value)
  | .float value => some (.ofFloat value)
  | .decimal value => some value
  | _ => Option.none

/-- The order of two numbers, unless one is not a number. -/
def numberOrder? (left right : Value) : Option Ordering :=
  match left, right with
  | .decimal left, .fraction right => left.orderRatio? right
  | .fraction left, .decimal right => (right.orderRatio? left).map Ordering.swap
  | .decimal left, right => (asDecimal? right).bind left.order?
  | left, .decimal right => (asDecimal? left).bind fun left => left.order? right
  | .float left, .float right => floatOrder? left right
  | left, right => match ratio? left, ratio? right with
    | some left, some right =>
        some (if left < right then .lt else if right < left then .gt else .eq)
    | _, _ =>
        let toFloat : Value → Float
          | .float value => value
          | _ => 0.0
        floatOrder? (toFloat left) (toFloat right)

/-- Whether the value is a decimal number that stops operations. -/
def isSignaling : Value → Bool
  | .decimal value => value.isSignaling
  | _ => false

def isDecimal : Value → Bool
  | .decimal _ => true
  | _ => false

/-- Whether a class keeps the equality of what its instances are made of. -/
def keepsEquality (world : World) (cls : ClassId) : Bool :=
  match world.entryAlong? cls "__eq__" with
  | some (.declared _, _) => false
  | _ => true

/-- The value that stands for another one as a key: what an instance is made of, unless its class
defines equality. -/
def keyOf (world : World) (objects : Array Object) (value : Value) : Value :=
  if keepsEquality world (value.classOf objects) then value.content objects else value

mutual

/-- Whether two values are the same key of a mapping or the same item of a set. -/
def sameKey (world : World) (objects : Array Object) (left right : Value) : Bool :=
  match left, right with
  | .tuple lefts, right => match keyOf world objects right with
    | .tuple rights => sameKeys world objects lefts rights
    | _ => false
  | .frozenSet lefts, right => match keyOf world objects right with
    | .frozenSet rights =>
        lefts.length == rights.length && subsetKeys world objects lefts rights
    | _ => false
  | left, right =>
      identical left right ||
        (match keyOf world objects left, keyOf world objects right with
          | .text left, .text right => left == right
          | .bytes left, .bytes right => left == right
          | left, right =>
              identical left right ||
                (left.isNumber && right.isNumber && numberOrder? left right == some .eq))

/-- Whether two lists are the same keys item by item. -/
def sameKeys (world : World) (objects : Array Object) : List Value → List Value → Bool
  | [], [] => true
  | left :: lefts, right :: rights =>
      sameKey world objects left right && sameKeys world objects lefts rights
  | _, _ => false

/-- Whether every key of the first list is in the second. -/
def subsetKeys (world : World) (objects : Array Object) : List Value → List Value → Bool
  | [], _ => true
  | left :: lefts, rights =>
      rights.any (fun right => sameKey world objects left right) &&
        subsetKeys world objects lefts rights

end

end Value

namespace Engine

def sameKey (engine : Engine) (left right : Value) : Act Bool := do
  return Value.sameKey engine.world (← get).objects left right

mutual

/-- The class of a value, or of an item of it, that cannot be a key; none if it can be one. -/
def unhashable? (world : World) (objects : Array Object) (value : Value) : Option ClassId :=
  match value with
  | .tuple items => firstUnhashable? world objects items
  | value =>
      let cls := value.classOf objects
      if world.hasMember cls "__hash__" then none else some cls

/-- The class of the first of several values that cannot be a key. -/
def firstUnhashable? (world : World) (objects : Array Object) : List Value → Option ClassId
  | [] => none
  | value :: values => match unhashable? world objects value with
    | some cls => some cls
    | none => firstUnhashable? world objects values

end

/-- Makes sure that a value can be a key. -/
def requireKey (engine : Engine) (value : Value) : Act Unit := do
  match unhashable? engine.world (← get).objects value with
  | some cls => Act.typeError ("unhashable type: '" ++ cls.operandName ++ "'")
  | none =>
      if value.isSignaling then Act.typeError "Cannot hash a signaling NaN value"

def hasKey (engine : Engine) (key : Value) (keys : List Value) : Act Bool := do
  let objects := (← get).objects
  return keys.any fun other => Value.sameKey engine.world objects key other

/-- The keys without repetitions, each at its first place. -/
def distinctKeys (engine : Engine) (values : List Value) : Act (List Value) := do
  values.foldlM
    (fun kept value => do
      engine.requireKey value
      return if ← engine.hasKey value kept then kept else kept ++ [value])
    []

def sameOrEqual (engine : Engine) (left right : Value) : Act Bool := do
  if Value.identical left right then return true
  else engine.compares .eq left right

/-- Compares two sequences by their first difference, or else by their lengths. -/
def compareItems (engine : Engine) (comparison : Comparison) :
    List Value → List Value → Act Value
  | [], rights => return .bool (comparison.holds (compare 0 rights.length))
  | lefts, [] => return .bool (comparison.holds (compare lefts.length 0))
  | left :: lefts, right :: rights => do
      if ← engine.sameOrEqual left right then engine.compareItems comparison lefts rights
      else match comparison with
        | .eq => return .bool false
        | .ne => return .bool true
        | _ => engine.operate (.compare comparison) [left, right]

/-- Compares two sequences. Sequences of different lengths are unequal without a look at them. -/
def compareSequences (engine : Engine) (comparison : Comparison) (left right : List Value) :
    Act Value := do
  if left.length != right.length && (comparison == .eq || comparison == .ne) then
    return .bool (comparison == .ne)
  else engine.compareItems comparison left right

/-- Whether every key of the first list is in the second. -/
def isSubset (engine : Engine) (left right : List Value) : Act Bool := do
  let objects := (← get).objects
  return left.all fun key => right.any fun other => Value.sameKey engine.world objects key other

/-- Compares two sets: equality by what they hold, order by inclusion. -/
def compareSets (engine : Engine) (comparison : Comparison) (left right : List Value) :
    Act Bool := do
  let within ← engine.isSubset left right
  let around ← engine.isSubset right left
  return match comparison with
    | .eq => within && around
    | .ne => !(within && around)
    | .le => within
    | .lt => within && !around
    | .ge => around
    | .gt => around && !within

/-- Whether two mappings have the same keys with equal values. -/
def sameEntries (engine : Engine) (left right : List (Value × Value)) : Act Bool := do
  if left.length != right.length then return false
  else
    left.foldlM
      (fun same (key, value) => do
        if !same then return false
        else
          let objects := (← get).objects
          match right.find? fun (other, _) => Value.sameKey engine.world objects key other with
          | none => return false
          | some (_, other) => engine.sameOrEqual value other)
      true

def setItems? (value : Value) : Act (Option (List Value)) := do
  match value with
  | .frozenSet items => return some items
  | .object address => match (← Act.objectAt address).content with
    | .set items => return some items
    | .scalar (.frozenSet items) => return some items
    | _ => return none
  | _ => return none

/-- The bytes of a byte string of either kind. -/
def bytes? (value : Value) : Act (Option (List UInt8)) := do
  match value with
  | .bytes bytes => return some bytes
  | .object address => match (← Act.objectAt address).content with
    | .byteArray bytes => return some bytes
    | .scalar (.bytes bytes) => return some bytes
    | _ => return none
  | _ => return none

def listItems? (value : Value) : Act (Option (List Value)) := do
  match value with
  | .object address => match (← Act.objectAt address).content with
    | .list items => return some items
    | _ => return none
  | _ => return none

def dictEntries? (value : Value) : Act (Option (List (Value × Value))) := do
  match value with
  | .object address => match (← Act.objectAt address).content with
    | .dict entries => return some entries
    | _ => return none
  | _ => return none

def tupleItems? (value : Value) : Act (Option (List Value)) := do
  match ← Act.contentOf value with
  | .tuple items => return some items
  | _ => return none

def compareBytes (comparison : Comparison) (left right : List UInt8) : Bool :=
  let toNats (bytes : List UInt8) := bytes.map UInt8.toNat
  comparison.holds (compareLex compare (toNats left) (toNats right))
where
  /-- The lexicographic order of lists. -/
  compareLex (order : Nat → Nat → Ordering) : List Nat → List Nat → Ordering
    | [], [] => .eq
    | [], _ :: _ => .lt
    | _ :: _, [] => .gt
    | left :: lefts, right :: rights => (order left right).then (compareLex order lefts rights)

/-- Compares two numbers. An order with a value that is no number is false, and refused among
decimal numbers. -/
def compareNumbers (comparison : Comparison) (left right : Value) : Act Value := do
  let isEquality := comparison == .eq || comparison == .ne
  match Value.numberOrder? left right with
  | some order => return .bool (comparison.holds order)
  | none =>
      let decimal := left.isDecimal || right.isDecimal
      if decimal && (!isEquality || left.isSignaling || right.isSignaling) then
        throw (.ofSignal .invalidOperation)
      else return .bool (comparison == .ne)

/-- Compares two values by what the built-in classes define, if they define it. -/
def compareBuiltin (engine : Engine) (comparison : Comparison) (left right : Value) :
    Act Value := do
  let leftContent ← Act.contentOf left
  let rightContent ← Act.contentOf right
  if leftContent.isNumber && rightContent.isNumber then
    compareNumbers comparison leftContent rightContent
  else match leftContent, rightContent with
    | .text left, .text right => return .bool (comparison.holds (compare left right))
    | .tuple left, .tuple right => engine.compareSequences comparison left right
    | _, _ => match ← listItems? left, ← listItems? right with
      | some left, some right => engine.compareSequences comparison left right
      | _, _ => match ← setItems? left, ← setItems? right with
        | some left, some right => return .bool (← engine.compareSets comparison left right)
        | _, _ => match ← bytes? left, ← bytes? right with
          | some left, some right => return .bool (compareBytes comparison left right)
          | _, _ => match ← dictEntries? left, ← dictEntries? right with
            | some left, some right => match comparison with
              | .eq => return .bool (← engine.sameEntries left right)
              | .ne => return .bool (!(← engine.sameEntries left right))
              | _ => return .notImplemented
            | _, _ =>
                if comparison == .eq && Value.identical left right then return .bool true
                else if comparison == .ne && Value.identical left right then return .bool false
                else return .notImplemented

/-- The function that a declared class defines for a member of its values. -/
def declaredMethod? (engine : Engine) (cls : ClassId) (name : String) : Option FunctionDecl :=
  match engine.world.entryAlong? cls name with
  | some (.declared _, .method function) => some function
  | _ => none

/-- What the class of the left operand says to a comparison. Inequality that nobody defines is
the opposite of equality. -/
def compareFrom (engine : Engine) (comparison : Comparison) (left right : Value) : Act Value := do
  let cls ← Act.classOf left
  match engine.declaredMethod? cls comparison.memberName with
  | some function => engine.call (.plain function) [left, right]
  | none => match comparison, engine.declaredMethod? cls "__eq__",
      engine.world.entryAlong? cls "__ne__" with
    -- The class of all objects answers inequality by asking for equality.
    | .ne, some function, some (.builtin .object, _) =>
        match ← engine.call (.plain function) [left, right] with
        | .notImplemented => return .notImplemented
        | answer => return .bool (!(← engine.isTrue answer))
    | _, _, _ => engine.compareBuiltin comparison left right

/-- Compares two values. A right operand of a proper subclass of the left one's class is asked
first. -/
def compareWith (engine : Engine) (comparison : Comparison) (left right : Value) : Act Value := do
  let leftClass ← Act.classOf left
  let rightClass ← Act.classOf right
  let rightFirst := leftClass != rightClass &&
    (engine.world.linearization rightClass).contains leftClass
  let first ←
    if rightFirst then engine.compareFrom comparison.mirrored right left
    else pure .notImplemented
  match first with
  | .notImplemented => match ← engine.compareFrom comparison left right with
    | .notImplemented =>
        let last ←
          if rightFirst then pure .notImplemented
          else engine.compareFrom comparison.mirrored right left
        match last with
        | .notImplemented => match comparison with
          | .eq => return .bool (Value.identical left right)
          | .ne => return .bool (!Value.identical left right)
          | _ =>
              Act.typeError ("'" ++ comparison.sign ++ "' not supported between instances of '" ++
                leftClass.operandName ++ "' and '" ++ rightClass.operandName ++ "'")
        | answer => return answer
    | answer => return answer
  | answer => return answer

end Engine

end MemberDispatch
