import MemberDispatch.Library.Numeric

/-!
# Conversions to collections

Any value as a list or a set, in order if asked for. A text is one item, a mapping gives its
entries, a collection its items, and any other value is the only item. Sorting compares with the
operator of the items: it finds the first run in order and inserts the remaining items by halving.
-/

namespace MemberDispatch

namespace Engine

/-- The items of a list whose class may announce its length in its own way. A wrong kind of length
is passed over; any other fault of the announcement is kept. -/
def announced (engine : Engine) (value : Value) : Act Unit := do
  if (engine.declaredMethod? (← Act.classOf value) "__len__").isSome then
    match ← Act.attempt (engine.operate .length [value]) with
    | .ok _ => return
    | .error fault => if fault.kind == .typeError then return else throw fault

def collected (engine : Engine) (value : Value) : Act (List Value) := do
  let cls ← Act.classOf value
  let is (kind : BuiltinClass) : Bool := engine.hierarchy.isSubclass cls (.builtin kind)
  if is .text || is .bytes || is .byteArray then return [value]
  else if is .mapping then match ← dictEntries? value with
    | some entries => return entries.map fun (key, value) => .tuple [key, value]
    | none => Act.noAttribute cls "items"
  else if is .iterable then do
    let items ← engine.itemsOf value
    engine.announced value
    return items
  else return [value]

/-- The length of the run in order, or of the run in falling order, that a list starts with, and
whether it falls. -/
def firstRun (engine : Engine) : List Value → Act (Nat × Bool)
  | [] => return (0, false)
  | [_] => return (1, false)
  | first :: second :: rest => do
      let falls ← engine.compares .lt second first
      let length ← go falls 2 second rest
      return (length, falls)
where
  /-- Follows the run from an item on. -/
  go (falls : Bool) (length : Nat) (previous : Value) : List Value → Act Nat
    | [] => return length
    | next :: rest => do
        if (← engine.compares .lt next previous) == falls then go falls (length + 1) next rest
        else return length

/-- The place of an item in a list in order, behind all items that are not greater, found by
halving the stretch between two positions. -/
def placeOf (engine : Engine) (items : Array Value) (item : Value) : Nat → Nat → Nat → Act Nat
  | 0, low, _ => return low
  | fuel + 1, low, high => do
      if low < high then
        let middle := low + (high - low) / 2
        if ← engine.compares .lt item (items[middle]?.getD .none) then
          engine.placeOf items item fuel low middle
        else engine.placeOf items item fuel (middle + 1) high
      else return low

/-- Inserts items one after the other into a list in order. -/
def insertAll (engine : Engine) : Array Value → List Value → Act (List Value)
  | sorted, [] => return sorted.toList
  | sorted, item :: items => do
      let place ← engine.placeOf sorted item (sorted.size + 1) 0 sorted.size
      engine.insertAll (sorted.toList.insertIdx place item).toArray items

/-- The values in order; equal ones stay as they were. -/
def sorted (engine : Engine) (values : List Value) : Act (List Value) := do
  let (length, falls) ← engine.firstRun values
  let run := values.take length
  engine.insertAll (if falls then run.reverse else run).toArray (values.drop length)

def collectionFunction (engine : Engine) (name : String) (arguments : List Value) : Act Value := do
  match arguments with
  | [value] =>
      let items ← engine.collected value
      match name with
      | "to_list" => Act.makeList items
      | "to_sorted_list" => do Act.makeList (← engine.sorted items)
      | "to_set" => do Act.makeSet (← engine.distinctKeys items)
      | "to_sorted_set" => do Act.makeList (← engine.sorted (← engine.distinctKeys items))
      | name => Act.typeError ("no function " ++ name ++ " of a value")
  | _ => Act.typeError (name ++ "() takes one argument")

end Engine

end MemberDispatch
