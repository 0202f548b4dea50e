import MemberDispatch.Intrinsic.Texts
import MemberDispatch.Text.Slice

/-!
# Members of byte strings

The members of byte strings that are not operators. Those of a changeable byte string give
changeable byte strings and may change it.
-/

namespace MemberDispatch

def isBlankByte (byte : UInt8) : Bool :=
  byte == 0x20 || (0x9 ≤ byte.toNat && byte.toNat ≤ 0xd)

/-- The bytes of pairs of hexadecimal digits, with white space between pairs. The position of the
first character that does not fit is given instead. -/
def bytesOfHex (position : Nat) : List Char → Except Nat (List UInt8)
  | [] => .ok []
  | [character] =>
      if character.toNat < 128 && isBlankByte (UInt8.ofNat character.toNat) then .ok []
      else match HexFloat.digit? character with
        | some _ => .error (position + 1)
        | none => .error position
  | first :: second :: rest =>
      if first.toNat < 128 && isBlankByte (UInt8.ofNat first.toNat) then
        bytesOfHex (position + 1) (second :: rest)
      else match HexFloat.digit? first, HexFloat.digit? second with
        | some high, some low =>
            (bytesOfHex (position + 2) rest).map (UInt8.ofNat (high * 16 + low) :: ·)
        | some _, none => .error (position + 1)
        | none, _ => .error position

namespace Engine

/-- A byte string, of the changeable kind if asked for. -/
def makeBytes (changeable : Bool) (bytes : List UInt8) : Act Value :=
  if changeable then Act.makeByteArray bytes else return .bytes bytes

def makeByteStrings (changeable : Bool) (pieces : List (List UInt8)) : Act Value := do
  Act.makeList (← pieces.mapM (makeBytes changeable))

/-- The byte string of a text of hexadecimal digits. -/
def bytesFromHex (changeable : Bool) (argument : Value) : Act Value := do
  let text ← Argument.text argument fun cls => "fromhex() argument must be str, not " ++ cls
  match bytesOfHex 0 text.toList with
  | .ok bytes => makeBytes changeable bytes
  | .error position =>
      Act.valueError ("non-hexadecimal number found in fromhex() arg at position " ++
        toString position)

/-- A table that gives for every byte the byte in its place. -/
def makeByteTable (arguments : List Value) : Act Value := do
  let old ← Argument.bytes (Argument.atOrNone arguments 0)
  let new ← Argument.bytes (Argument.atOrNone arguments 1)
  if old.length != new.length then Act.valueError "maketrans arguments must have same length"
  else
    let table := (List.range 256).map fun point =>
      (((old.zip new).reverse.lookup (UInt8.ofNat point))).getD (UInt8.ofNat point)
    return .bytes table

/-- The text that a byte string encodes. -/
def decodeBytes (bytes : List UInt8) (arguments : List Value) : Act Value := do
  let (encoding, leniency) ← Argument.encodingPair "decode" (!bytes.isEmpty) arguments
  match encoding.decode leniency bytes with
  | .ok text => return .text text
  | .error fault =>
      throw (.raised .unicodeDecode
        (.undecodable fault.encoding bytes fault.start fault.stop fault.reason))

def fillingByte (operation : String) (value : Option Value) : Act UInt8 := do
  match value with
  | none => return 0x20
  | some value =>
      match ← bytes? value with
      | some [byte] => return byte
      | _ =>
          Act.typeError (operation ++ "() argument 2 must be a byte string of length 1, not " ++
            (← Argument.className value))

/-- The bytes that are cut off a byte string: those of an argument, or white space. -/
def cutBytes (value : Option Value) : Act (UInt8 → Bool) := do
  match value with
  | none | some .none => return isBlankByte
  | some value =>
      let bytes ← Argument.bytes value
      return fun byte => bytes.contains byte

/-- The separator that an argument gives, which must not be empty. -/
def byteSeparator (argument : Value) : Act (List UInt8) := do
  let separator ← Argument.bytes argument
  if separator.isEmpty then Act.valueError "empty separator" else return separator

/-- The byte strings among items, or a complaint about the first item that is none. -/
def byteItems (position : Nat) : List Value → Act (List (List UInt8))
  | [] => return []
  | item :: items => do
      match ← bytes? item with
      | some bytes => do
          let others ← byteItems (position + 1) items
          return bytes :: others
      | none =>
          Act.typeError ("sequence item " ++ toString position ++
            ": expected a bytes-like object, " ++ (← Argument.className item) ++ " found")

/-- The parts of a byte string before, in and after a separator. -/
def partitionBytes (changeable fromRight : Bool) (bytes : List UInt8) (argument : Value) :
    Act Value := do
  let separator ← byteSeparator argument
  let cut := if fromRight then Split.cutLast? separator bytes else Split.cut? separator bytes
  let parts := match cut with
    | some (before, after) => [before, separator, after]
    | none => if fromRight then [[], [], bytes] else [bytes, [], []]
  return .tuple (← parts.mapM (makeBytes changeable))

/-- The members of byte strings that leave them as they are. -/
def bytesMember (engine : Engine) (changeable : Bool) (name : String) (bytes : List UInt8)
    (arguments : List Value) : Act Value := do
  let first := Argument.atOrNone arguments 0
  let make := makeBytes changeable
  match name with
  | "decode" => decodeBytes bytes arguments
  | "center" => do
      let width ← Argument.width first
      make (Split.center (← fillingByte name (Argument.at? arguments 1)) width bytes)
  | "ljust" => do
      let width ← Argument.width first
      make (Split.padRight (← fillingByte name (Argument.at? arguments 1)) width bytes)
  | "rjust" => do
      let width ← Argument.width first
      make (Split.padLeft (← fillingByte name (Argument.at? arguments 1)) width bytes)
  | "zfill" => do
      let width ← Argument.width first
      make (Split.padNumber (fun byte => byte == 0x2b || byte == 0x2d) 0x30 width bytes)
  | "expandtabs" => do
      let size ← Argument.smallOr 8 (Argument.at? arguments 0)
      make (Split.expandTabs (· == 9) (fun byte => byte == 10 || byte == 13) 0x20 size.toNat 0 bytes)
  | "join" => do
      match ← engine.items? first with
      | none => Act.typeError "can only join an iterable"
      | some items => make (List.intercalate bytes (← byteItems 0 items))
  | "strip" => do
      let test ← cutBytes (Argument.at? arguments 0)
      make ((bytes.dropWhile test).reverse.dropWhile test).reverse
  | "lstrip" => do
      let test ← cutBytes (Argument.at? arguments 0)
      make (bytes.dropWhile test)
  | "rstrip" => do
      let test ← cutBytes (Argument.at? arguments 0)
      make (bytes.reverse.dropWhile test).reverse
  | "partition" => partitionBytes changeable false bytes first
  | "rpartition" => partitionBytes changeable true bytes first
  | "replace" => do
      let old ← Argument.bytes first
      let new ← Argument.bytes (Argument.atOrNone arguments 1)
      let limit ← Argument.sizeOr (-1) (Argument.at? arguments 2)
      make (Split.replace old new limit bytes)
  | "removeprefix" => do make (Split.removeStart (← Argument.bytes first) bytes)
  | "removesuffix" => do make (Split.removeEnd (← Argument.bytes first) bytes)
  | "split" | "rsplit" => do
      let limit ← Argument.sizeOr (-1) (Argument.at? arguments 1)
      let fromRight := name == "rsplit"
      match first with
      | .none =>
          makeByteStrings changeable (if fromRight then Split.atLastBlanks isBlankByte limit bytes
            else Split.atBlanks isBlankByte limit bytes)
      | separator => do
          let separator ← byteSeparator separator
          makeByteStrings changeable (if fromRight then Split.atLastRun separator limit bytes
            else Split.atRun separator limit bytes)
  | "splitlines" => do
      let keepEnds ← Argument.smallOr 0 (Argument.at? arguments 0)
      makeByteStrings changeable (Split.lines (fun byte => byte == 10 || byte == 13)
        (fun first next => first == 13 && next == 10) (keepEnds != 0) [] bytes)
  | "translate" => do
      let removed ← match Argument.at? arguments 1 with
        | none => pure []
        | some value => Argument.bytes value
      let kept := bytes.filter fun byte => !removed.contains byte
      let table ← Argument.bytes first
      if table.length != 256 then Act.valueError "translation table must be 256 characters long"
      else make (kept.map fun byte => (table[byte.toNat]?).getD byte)
  | name => Act.typeError ("no member " ++ name ++ " of a byte string")

/-- The byte that is put into a byte string. -/
def newByte (value : Value) : Act UInt8 := do
  let number ← Argument.integer value
  if number < 0 || number > 255 then Act.valueError "byte must be in range(0, 256)"
  else return UInt8.ofNat number.toNat

/-- The members that change a byte string, and those that any byte string has. -/
def byteArrayMember (engine : Engine) (name : String) (address : Nat) (bytes : List UInt8)
    (arguments : List Value) : Act Value := do
  let first := Argument.atOrNone arguments 0
  let become (bytes : List UInt8) : Act Value := do
    Act.setContent address (.byteArray bytes)
    return .none
  match name with
  | "append" => do become (bytes ++ [← newByte first])
  | "clear" => become []
  | "copy" => Act.makeByteArray bytes
  | "extend" => do
      let items ← match ← bytes? first with
        | some bytes => pure bytes
        | none => (← engine.itemsOf first).mapM newByte
      become (bytes ++ items)
  | "insert" => do
      let place := Slice.bound bytes.length (← Argument.size first)
      let byte ← newByte (Argument.atOrNone arguments 1)
      become (bytes.insertIdx place byte)
  | "pop" => do
      let index ← Argument.sizeOr (-1) (Argument.at? arguments 0)
      if bytes.isEmpty then throw (.say .indexError "pop from empty bytearray")
      else match position? bytes.length index with
        | none => throw (.say .indexError "pop index out of range")
        | some place => do
            Act.setContent address (.byteArray (bytes.eraseIdx place))
            return .int ((bytes[place]?).getD 0).toNat
  | "remove" => do
      let byte ← newByte first
      if bytes.contains byte then become (bytes.erase byte)
      else Act.valueError "value not found in bytearray"
  | "reverse" => become bytes.reverse
  | name => engine.bytesMember true name bytes arguments

end Engine

end MemberDispatch
