import MemberDispatch.Display
import MemberDispatch.Number.Integer
import MemberDispatch.Number.RealFunctions
import MemberDispatch.Text.Percent
import MemberDispatch.Value.Compare

/-!
# Arithmetic on values

The operators on numbers of all kinds, on sequences and on sets. Numbers of different kinds meet in
the more general kind; decimal numbers only meet whole ones. A class may define operators itself,
also for values on their right.
-/

namespace MemberDispatch

namespace Act

/-- The floating-point number nearest to a whole one. -/
def floatOfInt (number : Int) : Act Float :=
  match Binary64.ofInt? number with
  | some result => return result
  | none => throw (.say .overflow "int too large to convert to float")

/-- The floating-point number nearest to a quotient. -/
def floatOfRatio (numerator : Int) (denominator : Nat) : Act Float :=
  match Binary64.nearest? (numerator < 0) numerator.natAbs denominator with
  | some result => return result
  | none => throw (.say .overflow "integer division result too large for a float")

/-- The result of a decimal operation. -/
def ofDecimal (result : Decimal.Result) : Act Value :=
  match result with
  | .ok number => return .decimal number
  | .error signal => throw (.ofSignal signal)

/-- Division by zero, in the given words. -/
def zeroDivision {α : Type} (text : String) : Act α :=
  throw (.say .zeroDivision text)

end Act

namespace Value

/-- The whole number that a truth value or whole number is. -/
def int? : Value → Option Int
  | .bool value => some (if value then 1 else 0)
  | .int value => some value
  | _ => Option.none

/-- The ratio that a whole number or fraction is. -/
def rational? : Value → Option Rat
  | .fraction value => some value
  | value => value.int?.map fun number => (number : Rat)

end Value

namespace Arithmetic

/-- A power of a negative number that is not real, in polar form. -/
def complexPower (base exponent : Float) : Value :=
  let length := Float.pow (Float.abs base) exponent
  let angle := Float.atan2 0.0 base * exponent
  .complex (length * Float.cos angle) (length * Float.sin angle)

def floatPower (base exponent : Float) : Act Value := do
  if base == 0.0 && exponent < 0.0 then
    Act.zeroDivision "0.0 cannot be raised to a negative power"
  else if base < 0.0 && RealFunctions.isFinite base && RealFunctions.isFinite exponent &&
      ((Binary64.ofFloat exponent).whole?).isNone then
    return complexPower base exponent
  else
    let result := Float.pow base exponent
    if RealFunctions.isInfinite result && RealFunctions.isFinite base &&
        RealFunctions.isFinite exponent then
      throw (.raised .overflow (.numbered 34 "Numerical result out of range"))
    else return .float result

/-- An operator on whole numbers. -/
def ofInts (operator : BinaryOperator) (left right : Int) : Act Value := do
  match operator with
  | .add => return .int (left + right)
  | .sub => return .int (left - right)
  | .mul => return .int (left * right)
  | .trueDiv =>
      if right == 0 then Act.zeroDivision "division by zero"
      else if left == 0 then return .float (if right < 0 then -0.0 else 0.0)
      else return .float (← Act.floatOfRatio (if right < 0 then -left else left) right.natAbs)
  | .floorDiv =>
      if right == 0 then Act.zeroDivision "integer division or modulo by zero"
      else return .int (Int.fdiv left right)
  | .mod =>
      if right == 0 then Act.zeroDivision "integer modulo by zero"
      else return .int (Int.fmod left right)
  | .pow =>
      if right ≥ 0 then return .int (Integer.power left right.toNat)
      else floatPower (← Act.floatOfInt left) (← Act.floatOfInt right)
  | .and => return .int (Integer.and left right)
  | .or => return .int (Integer.or left right)
  | .xor => return .int (Integer.xor left right)
  | .shiftLeft =>
      if right < 0 then Act.valueError "negative shift count"
      else if left == 0 then return .int 0
      -- Such a number would have more digits than can be counted, or more than there is room for.
      else if right > twoTo 62 then throw (.say .overflow "too many digits in integer")
      else if right > twoTo 36 then throw (.raised .memory .silent)
      else return .int (Integer.shiftLeft left right.toNat)
  | .shiftRight =>
      if right < 0 then Act.valueError "negative shift count"
      else return .int (Integer.shiftRight left right.toNat)

/-- An operator on truth values, which stay truth values under the bitwise operators. -/
def ofBools (operator : BinaryOperator) (left right : Bool) : Act Value :=
  match operator with
  | .and => return .bool (left && right)
  | .or => return .bool (left || right)
  | .xor => return .bool (left != right)
  | operator => ofInts operator (if left then 1 else 0) (if right then 1 else 0)

/-- An operator on floating-point numbers, if it is defined for them. -/
def ofFloats (operator : BinaryOperator) (left right : Float) : Act Value := do
  match operator with
  | .add => return .float (left + right)
  | .sub => return .float (left - right)
  | .mul => return .float (left * right)
  | .trueDiv =>
      if right == 0.0 then Act.zeroDivision "float division by zero"
      else return .float (left / right)
  | .floorDiv =>
      if right == 0.0 then Act.zeroDivision "float floor division by zero"
      else return .float (RealFunctions.floorDiv left right)
  | .mod =>
      if right == 0.0 then Act.zeroDivision "float modulo"
      else return .float (RealFunctions.floorMod left right)
  | .pow => floatPower left right
  | _ => return .notImplemented

/-- An operator on decimal numbers, if it is defined for them. -/
def ofDecimals (operator : BinaryOperator) (left right : Decimal) : Act Value := do
  match operator with
  | .add => Act.ofDecimal (left.add right)
  | .sub => Act.ofDecimal (left.sub right)
  | .mul => Act.ofDecimal (left.mul right)
  | .trueDiv => Act.ofDecimal (left.div right)
  | .floorDiv => Act.ofDecimal (left.floorDiv right)
  | .mod => Act.ofDecimal (left.mod right)
  | .pow => match right.whole? with
    | some exponent => Act.ofDecimal (left.powInt exponent)
    | none => throw (.ofSignal .invalidOperation)
  | _ => return .notImplemented

def divideRatios (left right : Rat) : Act Value := do
  if right.num == 0 then
    let top := if left.num == 0 then 0 else if left.num < 0 then -1 else 1
    Act.zeroDivision ("Fraction(" ++ toString (top : Int) ++ ", 0)")
  else return .fraction (left / right)

def raiseRatio (base : Rat) (exponent : Int) : Act Value := do
  if exponent < 0 && base.num == 0 then
    Act.zeroDivision ("Fraction(" ++ toString (Nat.pow base.den exponent.natAbs) ++ ", 0)")
  else return .fraction (base.zpow exponent)

/-- An operator on ratios, if it is defined for them. -/
def ofRatios (operator : BinaryOperator) (left right : Rat) : Act Value := do
  match operator with
  | .add => return .fraction (left + right)
  | .sub => return .fraction (left - right)
  | .mul => return .fraction (left * right)
  | .trueDiv => divideRatios left right
  | .floorDiv =>
      if right.num == 0 then Act.zeroDivision "integer division or modulo by zero"
      else return .int (Int.fdiv (left.num * right.den) (right.num * left.den))
  | .mod =>
      if right.num == 0 then Act.zeroDivision "integer modulo by zero"
      else return .fraction (left - right * (Int.fdiv (left.num * right.den) (right.num * left.den)))
  | .pow =>
      if right.den == 1 then raiseRatio left right.num
      else
        floatPower (← Act.floatOfRatio left.num left.den) (← Act.floatOfRatio right.num right.den)
  | _ => return .notImplemented

/-- The floating-point number nearest to a number other than a decimal one. -/
def toFloat? (value : Value) : Act (Option Float) := do
  match value with
  | .float value => return some value
  | .fraction value => return some (← Act.floatOfRatio value.num value.den)
  | value => match value.int? with
    | some number => return some (← Act.floatOfInt number)
    | none => return none

/-- An operator on two numbers, if it is defined for their kinds. -/
def ofNumbers (operator : BinaryOperator) (left right : Value) : Act Value := do
  match left, right with
  | .bool left, .bool right => ofBools operator left right
  | .float left, .float right => ofFloats operator left right
  | .decimal left, .decimal right => ofDecimals operator left right
  | .decimal left, right => match right.int? with
    | some number => ofDecimals operator left (.ofInt number)
    | none => return .notImplemented
  | left, .decimal right => match left.int? with
    | some number => ofDecimals operator (.ofInt number) right
    | none => return .notImplemented
  | left, right => match left.int?, right.int? with
    | some left, some right => ofInts operator left right
    | _, _ => match left, right.rational?, left.rational? with
      | .bool _, some (right : Rat), some left | .int _, some right, some left =>
          if operator == .pow && right.den == 1 && right.num ≥ 0 then
            return .int (Integer.power left.num right.num.toNat)
          else ofRatios operator left right
      | _, some right, some left => ofRatios operator left right
      | _, _, _ =>
          if operator.isBitwise then return .notImplemented
          else match ← toFloat? left, ← toFloat? right with
            | some left, some right => ofFloats operator left right
            | _, _ => return .notImplemented

end Arithmetic

namespace Engine

/-- Puts a number at a place of a template. -/
def formatInteger (place : Percent.Place) (width : Nat) (number : Int) : Act (List Char) := do
  let digits ← match place.kind with
    | 'x' => pure (Percent.digitsIn 16 number.natAbs)
    | 'X' => pure ((Percent.digitsIn 16 number.natAbs).map Char.toUpper)
    | 'o' => pure (Percent.digitsIn 8 number.natAbs)
    | _ => do pure (← Act.integerText number.natAbs).toList
  let mark := if !place.alternate then [] else match place.kind with
    | 'x' => ['0', 'x']
    | 'X' => ['0', 'X']
    | 'o' => ['0', 'o']
    | _ => []
  return Percent.padNumber place width (Percent.signOf place (number < 0) ++ mark) digits

/-- A finite floating-point number with a fixed number of places after the point. -/
def fixedPlaces (number : Float) (places : Nat) : List Char :=
  match (Binary64.ofFloat number).ratio? with
  | none => (showFloat number).toList
  | some (numerator, denominator) =>
      let scaled := Binary64.roundHalfEven (numerator.natAbs * tenTo places) denominator
      let digits := Percent.digitsIn 10 scaled
      let digits := List.replicate (places + 1 - digits.length) '0' ++ digits
      let whole := digits.take (digits.length - places)
      if places == 0 then whole else whole ++ '.' :: digits.drop (digits.length - places)

/-- What a place of a template shows of a value. -/
def formatPlace (engine : Engine) (place : Percent.Place) (width : Nat) (precision : Option Nat)
    (value : Value) : Act (List Char) := do
  let cut (text : String) : List Char := match precision with
    | some count => text.toList.take count
    | none => text.toList
  let kind := place.kind
  if kind == 's' then return Percent.pad place width (cut (← engine.text value))
  else if kind == 'r' || kind == 'a' then
    return Percent.pad place width (cut (← engine.display value))
  else if kind == 'd' || kind == 'i' || kind == 'u' then
    match ← Act.contentOf value with
    | .float number => match (Binary64.ofFloat number).truncate? with
      | some whole => formatInteger place width whole
      | none =>
          if RealFunctions.isNaN number then Act.valueError "cannot convert float NaN to integer"
          else throw (.say .overflow "cannot convert float infinity to integer")
    | content => match content.int? with
      | some number => formatInteger place width number
      | none =>
          Act.typeError ("%" ++ String.singleton kind ++ " format: a real number is required, not " ++
            (← Act.classOf value).operandName)
  else if kind == 'x' || kind == 'X' || kind == 'o' then
    match (← Act.contentOf value).int? with
    | some number => formatInteger place width number
    | none =>
        Act.typeError ("%" ++ String.singleton kind ++ " format: an integer is required, not " ++
          (← Act.classOf value).operandName)
  else if kind == 'f' || kind == 'F' then
    match ← Arithmetic.toFloat? (← Act.contentOf value) with
    | some number =>
        let negative := (Binary64.ofFloat number).isNegative
        return Percent.padNumber place width (Percent.signOf place negative)
          (fixedPlaces (Float.abs number) (precision.getD 6))
    | none =>
        Act.typeError ("must be real number, not " ++ (← Act.classOf value).operandName)
  else if kind == 'c' then
    match ← Act.contentOf value with
    | .text text =>
        if text.length == 1 then return Percent.pad place width text.toList
        else Act.typeError "%c requires int or char"
    | content => match content.int? with
      | some number =>
          if number < 0 || number ≥ 0x110000 then
            throw (.say .overflow "%c arg not in range(0x110000)")
          else return Percent.pad place width [Char.ofNat number.toNat]
      | none => Act.typeError "%c requires int or char"
  else
    Act.valueError ("unsupported format character '" ++ String.singleton kind ++ "' (0x" ++
      String.ofList (Percent.digitsIn 16 kind.toNat) ++ ") at index " ++ toString place.position)

/-- The amount of a place, with the arguments that are left. -/
def takeAmount (amount : Percent.Amount) (arguments : List Value) :
    Act (Option Nat × List Value) := do
  match amount with
  | .none => return (none, arguments)
  | .given number => return (some number, arguments)
  | .argument => match arguments with
    | [] => Act.typeError "not enough arguments for format string"
    | value :: rest => match value.int? with
      | some number => return (some number.natAbs, rest)
      | none => Act.typeError "* wants int"

/-- Fills the places of a template with arguments one after the other, or with the values of a
mapping where they are named. -/
def fillPieces (engine : Engine) (mapping : Option (List (Value × Value))) :
    List Percent.Piece → List Value → Act (List Char × List Value)
  | [], arguments => return ([], arguments)
  | .literal text :: pieces, arguments => do
      let (rest, arguments) ← engine.fillPieces mapping pieces arguments
      return (text ++ rest, arguments)
  | .place place :: pieces, arguments => do
      let (width, arguments) ← takeAmount place.width arguments
      let (precision, arguments) ← takeAmount place.precision arguments
      -- A percent sign takes the arguments for its width, but shows no value.
      if place.kind == '%' then
        let (rest, arguments) ← engine.fillPieces mapping pieces arguments
        return ('%' :: rest, arguments)
      else
        let (value, arguments) ← match place.name with
          | some name => match mapping with
            | none => Act.typeError "format requires a mapping"
            | some entries =>
                let key := Value.text name
                let objects := (← get).objects
                match entries.find? fun (other, _) =>
                    Value.sameKey engine.world objects key other with
                | some (_, value) => pure (value, arguments)
                | none => throw (.raised .keyError (.message name))
          | none => match arguments with
            | [] => Act.typeError "not enough arguments for format string"
            | value :: rest => pure (value, rest)
        let shown ← engine.formatPlace place (width.getD 0) precision value
        let (rest, arguments) ← engine.fillPieces mapping pieces arguments
        return (shown ++ rest, arguments)

/-- Fills a template. Arguments that are left over are refused, except a single collection. -/
def fillTemplate (engine : Engine) (template : String) (value : Value) : Act Value := do
  match Percent.parse template with
  | .error issue => Act.valueError issue.message
  | .ok pieces =>
      let content ← Act.contentOf value
      let mapping ← dictEntries? value
      let isMapping := mapping.isSome || (← listItems? value).isSome || (← bytes? value).isSome
      let arguments := match content with
        | .tuple items => items
        | _ => [value]
      let (text, left) ← engine.fillPieces mapping pieces arguments
      let named := pieces.any fun
        | .place place => place.name.isSome
        | .literal _ => false
      if left.isEmpty || isMapping || named then return .text (String.ofList text)
      else Act.typeError "not all arguments converted during string formatting"

/-- Fills a byte string that has no places: it stays as it is. A value that no place takes is
refused, except a single collection. -/
def fillBytes (template : Value) (bytes : List UInt8) (value : Value) : Act Value := do
  let isEmpty := match ← Act.contentOf value with
    | .tuple items => items.isEmpty
    | _ => false
  if isEmpty || (← dictEntries? value).isSome || (← listItems? value).isSome then
    match ← Act.contentOf template with
    | .bytes _ => return .bytes bytes
    | _ => Act.makeByteArray bytes
  else Act.typeError "not all arguments converted during bytes formatting"

/-- The sequence that a value is made of, if it is one that can be joined and repeated. -/
def isSequence (value : Value) : Act Bool := do
  match ← Act.contentOf value with
  | .text _ | .bytes _ | .tuple _ => return true
  | .object address => match (← Act.objectAt address).content with
    | .list _ | .byteArray _ => return true
    | _ => return false
  | _ => return false

def joinSequences (left right : Value) : Act Value := do
  let rightName := (← Act.classOf right).operandName
  match ← Act.contentOf left with
  | .text first => match ← Act.contentOf right with
    | .text second => return .text (first ++ second)
    | _ => Act.typeError ("can only concatenate str (not \"" ++ rightName ++ "\") to str")
  | .tuple first => match ← Act.contentOf right with
    | .tuple second => return .tuple (first ++ second)
    | _ => Act.typeError ("can only concatenate tuple (not \"" ++ rightName ++ "\") to tuple")
  | .bytes first => match ← bytes? right with
    | some second => return .bytes (first ++ second)
    | none => Act.typeError ("can't concat " ++ rightName ++ " to bytes")
  | .object address => match (← Act.objectAt address).content with
    | .list first => match ← listItems? right with
      | some second => Act.makeList (first ++ second)
      | none => Act.typeError ("can only concatenate list (not \"" ++ rightName ++ "\") to list")
    | .byteArray first => match ← bytes? right with
      | some second => Act.makeByteArray (first ++ second)
      | none => Act.typeError ("can't concat " ++ rightName ++ " to bytearray")
    | _ => return .notImplemented
  | _ => return .notImplemented

/-- The list repeated a number of times. -/
def repeated {α : Type} (items : List α) (count : Int) : List α :=
  (List.replicate count.toNat items).flatten

/-- Repeats items. The result is refused if its length cannot be counted, or if no memory holds it. -/
def repeatItems {α : Type} (items : List α) (count : Int) (tooLong : Option String) :
    Act (List α) := do
  match tooLong with
  | some complaint =>
      if items.length * count.toNat ≥ twoTo 63 then throw (.say .overflow complaint)
  | none => pure ()
  Act.requireRoom (items.length * count.toNat)
  if items.isEmpty then return [] else return repeated items count

def repeatSequence (sequence : Value) (count : Int) (counter : ClassId) : Act Value := do
  if count ≥ twoTo 63 || count < -(twoTo 63 : Int) then
    throw (.say .overflow
      ("cannot fit '" ++ counter.operandName ++ "' into an index-sized integer"))
  match ← Act.contentOf sequence with
  | .text text =>
      let characters ← repeatItems text.toList count (some "repeated string is too long")
      return .text (String.ofList characters)
  | .tuple items => return .tuple (← repeatItems items count none)
  | .bytes bytes => return .bytes (← repeatItems bytes count (some "repeated bytes are too long"))
  | .object address => match (← Act.objectAt address).content with
    | .list items => do Act.makeList (← repeatItems items count none)
    | .byteArray bytes => do Act.makeByteArray (← repeatItems bytes count none)
    | _ => return .notImplemented
  | _ => return .notImplemented

/-- An operator on two sets; the result is of the kind of the left one. -/
def combineSets (engine : Engine) (operator : BinaryOperator) (left : Value)
    (leftItems rightItems : List Value) : Act Value := do
  let objects := (← get).objects
  let within (items : List Value) (value : Value) : Bool :=
    items.any fun other => Value.sameKey engine.world objects value other
  let items? := match operator with
    | .and => some (leftItems.filter (within rightItems))
    | .or => some (leftItems ++ rightItems.filter fun value => !within leftItems value)
    | .sub => some (leftItems.filter fun value => !within rightItems value)
    | .xor => some (leftItems.filter (fun value => !within rightItems value) ++
        rightItems.filter fun value => !within leftItems value)
    | _ => none
  match items?, ← Act.contentOf left with
  | some items, .frozenSet _ => Act.makeFrozenSet items
  | some items, _ => Act.makeSet items
  | none, _ => return .notImplemented

/-- Adds entries to a mapping, in place of those with the same keys. -/
def updateEntries (engine : Engine) (entries : List (Value × Value)) (key value : Value) :
    Act (List (Value × Value)) := do
  let objects := (← get).objects
  let isSame (entry : Value × Value) : Bool := Value.sameKey engine.world objects key entry.1
  if entries.any isSame then
    return entries.map fun entry => if isSame entry then (entry.1, value) else entry
  else return entries ++ [(key, value)]

/-- An operator on two values by what the built-in classes define, sequences aside. -/
def combineBuiltin (engine : Engine) (operator : BinaryOperator) (left right : Value) :
    Act Value := do
  let leftContent ← Act.contentOf left
  let rightContent ← Act.contentOf right
  let isRatioPower := match operator, leftContent, rightContent with
    | .pow, .fraction _, .float _ => false
    | .pow, .fraction _, exponent => exponent.rational?.isNone
    | _, _, _ => false
  -- A fraction to any other power is a floating-point number to that power, which is what is refused.
  if isRatioPower then
    Act.typeError ("unsupported operand type(s) for ** or pow(): 'float' and '" ++
      (← Act.classOf right).operandName ++ "'")
  else if leftContent.isNumber && rightContent.isNumber then
    Arithmetic.ofNumbers operator leftContent rightContent
  else match operator, leftContent, ← bytes? left with
    | .mod, .text template, _ => engine.fillTemplate template right
    | .mod, _, some bytes => fillBytes left bytes right
    | operator, _, _ => match ← setItems? left, ← setItems? right with
      | some leftItems, some rightItems => engine.combineSets operator left leftItems rightItems
      | _, _ => match operator, ← dictEntries? left, ← dictEntries? right with
        | .or, some leftEntries, some rightEntries => do
            let entries ← rightEntries.foldlM
              (fun entries (key, value) => engine.updateEntries entries key value) leftEntries
            Act.makeDict entries
        | _, _, _ => return .notImplemented

/-- The complaint over operands that an operator does not know. -/
def unsupported {α : Type} (operator : BinaryOperator) (left right : Value) : Act α := do
  Act.typeError ("unsupported operand type(s) for " ++ operator.sign ++ ": '" ++
    (← Act.classOf left).operandName ++ "' and '" ++ (← Act.classOf right).operandName ++ "'")

/-- Joins or repeats sequences where no class of the operands knows the operator. -/
def combineSequences (operator : BinaryOperator) (left right : Value) : Act Value := do
  let leftIs ← isSequence left
  let rightIs ← isSequence right
  match operator with
  | .add => if leftIs then joinSequences left right else unsupported operator left right
  | .mul =>
      if leftIs then match (← Act.contentOf right).int? with
        | some count => do repeatSequence left count (← Act.classOf right)
        | none =>
            Act.typeError ("can't multiply sequence by non-int of type '" ++
              (← Act.classOf right).operandName ++ "'")
      else if rightIs then match (← Act.contentOf left).int? with
        | some count => do repeatSequence right count (← Act.classOf left)
        | none =>
            Act.typeError ("can't multiply sequence by non-int of type '" ++
              (← Act.classOf left).operandName ++ "'")
      else unsupported operator left right
  | operator => unsupported operator left right

/-- Asks one operand after the other until one knows the answer. -/
def firstAnswer : List (Act Value) → Act Value
  | [] => return .notImplemented
  | attempt :: attempts => do
      match ← attempt with
      | .notImplemented => firstAnswer attempts
      | answer => return answer

/-- Applies an operator to two values. A right operand of a proper subclass of the left one's class
that defines the operator for its right side is asked first. -/
def combineWith (engine : Engine) (operator : BinaryOperator) (left right : Value) : Act Value := do
  let leftClass ← Act.classOf left
  let rightClass ← Act.classOf right
  let ofLeft := engine.declaredMethod? leftClass operator.memberName
  let ofRight := if leftClass == rightClass then none
    else engine.declaredMethod? rightClass operator.reflectedName
  let askLeft : List (Act Value) := match ofLeft with
    | some function => [engine.call (.plain function) [left, right]]
    | none => [engine.combineBuiltin operator left right]
  let askRight : List (Act Value) := match ofRight with
    | some function => [engine.call (.plain function) [right, left]]
    | none => []
  let askBuiltin : List (Act Value) :=
    if ofLeft.isSome && leftClass != rightClass &&
        (engine.declaredMethod? rightClass operator.memberName).isNone then
      [engine.combineBuiltin operator left right]
    else []
  let rightFirst := (engine.world.linearization rightClass).contains leftClass
  let attempts :=
    if rightFirst then askRight ++ askLeft ++ askBuiltin else askLeft ++ askRight ++ askBuiltin
  match ← firstAnswer attempts with
  | .notImplemented => combineSequences operator left right
  | answer => return answer

end Engine

end MemberDispatch
