import MemberDispatch.Text.Blank

/-!
# Cutting sequences

Sequences cut at separators, at runs of blank items or at line ends, from the left or from the
right, and what is put together from such pieces: replacements, padding and tab stops. Joining the
pieces of a cut with its separator gives back the sequence.
-/

namespace MemberDispatch.Split

variable {α : Type}

/-- What follows a run at the start of a sequence. -/
def afterRun? [BEq α] : List α → List α → Option (List α)
  | [], items => some items
  | _, [] => none
  | first :: run, item :: items => if first == item then afterRun? run items else none

/-- What stands before and after the first place of a run that is not empty. -/
def cut? [BEq α] (run : List α) : List α → Option (List α × List α)
  | [] => none
  | item :: items => match afterRun? run (item :: items) with
    | some rest => some ([], rest)
    | none => (cut? run items).map fun (before, after) => (item :: before, after)

/-- What stands before and after the last place of a run that is not empty. -/
def cutLast? [BEq α] (run items : List α) : Option (List α × List α) :=
  (cut? run.reverse items.reverse).map fun (after, before) => (before.reverse, after.reverse)

/-- The pieces between the first places of a run, at most `places` of them. -/
def pieces [BEq α] (run : List α) : Nat → List α → List (List α)
  | 0, items => [items]
  | places + 1, items => match cut? run items with
    | none => [items]
    | some (before, after) => before :: pieces run places after

/-- The number of places that a limit allows; a negative one allows all. -/
def placesWithin (limit : Int) (items : List α) : Nat :=
  if limit < 0 then items.length + 1 else min limit.toNat (items.length + 1)

/-- The pieces between places of a run, from the left. -/
def atRun [BEq α] (run : List α) (limit : Int) (items : List α) : List (List α) :=
  pieces run (placesWithin limit items) items

/-- The pieces between places of a run, from the right. -/
def atLastRun [BEq α] (run : List α) (limit : Int) (items : List α) : List (List α) :=
  ((atRun run.reverse limit items.reverse).map List.reverse).reverse

/-- The pieces between runs of blank items, at most `places` runs being passed within the sequence;
what is left stays as it is. -/
def words (blank : α → Bool) : Nat → List α → List (List α)
  | 0, items => match items.dropWhile blank with
    | [] => []
    | rest => [rest]
  | places + 1, items => match items.dropWhile blank with
    | [] => []
    | rest => rest.takeWhile (fun item => !blank item) ::
        words blank places (rest.dropWhile fun item => !blank item)

/-- The pieces between runs of blank items, from the left. -/
def atBlanks (blank : α → Bool) (limit : Int) (items : List α) : List (List α) :=
  words blank (placesWithin limit items) items

/-- The pieces between runs of blank items, from the right. -/
def atLastBlanks (blank : α → Bool) (limit : Int) (items : List α) : List (List α) :=
  ((atBlanks blank limit items.reverse).map List.reverse).reverse

/-- The sequence with at most `places` places of a run replaced. An empty run stands before every
item and at the end. -/
def replace [BEq α] (run substitute : List α) (limit : Int) (items : List α) : List α :=
  match run with
  | [] =>
      let places := placesWithin limit items
      (items.take places).flatMap (fun item => substitute ++ [item]) ++ items.drop places ++
        (if places > items.length then substitute else [])
  | run => List.intercalate substitute (atRun run limit items)

/-- The lines of a sequence; a line end of two items counts as one. -/
def lines (isEnd : α → Bool) (isPair : α → α → Bool) (keepEnds : Bool) :
    List α → List α → List (List α)
  | [], [] => []
  | line, [] => [line.reverse]
  | line, [item] =>
      if isEnd item then [(if keepEnds then item :: line else line).reverse]
      else [(item :: line).reverse]
  | line, item :: next :: rest =>
      if isEnd item then
        if isPair item next then
          (if keepEnds then next :: item :: line else line).reverse ::
            lines isEnd isPair keepEnds [] rest
        else (if keepEnds then item :: line else line).reverse ::
          lines isEnd isPair keepEnds [] (next :: rest)
      else lines isEnd isPair keepEnds (item :: line) (next :: rest)

/-- The sequence between runs of a filling that make it `width` long; of an odd number of fillings
the left side has one more where the width is odd. -/
def center (filling : α) (width : Int) (items : List α) : List α :=
  let missing := (width - items.length).toNat
  let left := missing / 2 + (if missing % 2 == 1 && width % 2 == 1 then 1 else 0)
  List.replicate left filling ++ items ++ List.replicate (missing - left) filling

/-- The sequence behind fillings that make it `width` long. -/
def padLeft (filling : α) (width : Int) (items : List α) : List α :=
  List.replicate (width - items.length).toNat filling ++ items

/-- The sequence before fillings that make it `width` long. -/
def padRight (filling : α) (width : Int) (items : List α) : List α :=
  items ++ List.replicate (width - items.length).toNat filling

/-- The sequence with zeros behind its sign that make it `width` long. -/
def padNumber (isSign : α → Bool) (zero : α) (width : Int) : List α → List α
  | [] => padLeft zero width []
  | first :: rest =>
      if isSign first then first :: padLeft zero (width - 1) rest
      else padLeft zero width (first :: rest)

/-- The sequence with fillings in place of tabs, up to the next column that is a multiple of
`size`. A line end starts the columns anew. -/
def expandTabs (isTab isEnd : α → Bool) (filling : α) (size : Nat) : Nat → List α → List α
  | _, [] => []
  | column, item :: items =>
      if isTab item then
        let count := if size == 0 then 0 else size - column % size
        List.replicate count filling ++ expandTabs isTab isEnd filling size (column + count) items
      else if isEnd item then item :: expandTabs isTab isEnd filling size 0 items
      else item :: expandTabs isTab isEnd filling size (column + 1) items

/-- The sequence without a run that it starts with. -/
def removeStart [BEq α] (run items : List α) : List α :=
  (afterRun? run items).getD items

/-- The sequence without a run that it ends with. -/
def removeEnd [BEq α] (run items : List α) : List α :=
  (removeStart run.reverse items.reverse).reverse

end MemberDispatch.Split
