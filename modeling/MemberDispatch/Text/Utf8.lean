/-!
# UTF-8

Encoding a text as bytes and reading bytes as text. Reading stops at the first offending
sequence and says which bytes it spans and what is wrong with them.
-/

namespace MemberDispatch.Text

def encodeCharacter (character : Char) : List UInt8 :=
  let point := character.toNat
  let continuation (value : Nat) : UInt8 := UInt8.ofNat (0x80 + value % 0x40)
  if point < 0x80 then [UInt8.ofNat point]
  else if point < 0x800 then [UInt8.ofNat (0xc0 + point / 0x40), continuation point]
  else if point < 0x10000 then
    [UInt8.ofNat (0xe0 + point / 0x1000), continuation (point / 0x40), continuation point]
  else
    [UInt8.ofNat (0xf0 + point / 0x40000), continuation (point / 0x1000),
      continuation (point / 0x40), continuation point]

def encodeUtf8 (text : String) : List UInt8 :=
  text.toList.flatMap encodeCharacter

/-- What is wrong with a byte sequence. -/
inductive Utf8Issue
  | invalidStart
  | invalidContinuation
  | unexpectedEnd
  deriving DecidableEq, Repr

def Utf8Issue.message : Utf8Issue → String
  | .invalidStart => "invalid start byte"
  | .invalidContinuation => "invalid continuation byte"
  | .unexpectedEnd => "unexpected end of data"

/-- An offending sequence: where it starts, how many bytes it spans and what is wrong. -/
structure Utf8Fault where
  start : Nat
  length : Nat
  issue : Utf8Issue
  deriving DecidableEq, Repr

/-- The admissible second bytes and the total length of a sequence of several bytes, by its first
byte. -/
def sequenceShape? (first : Nat) : Option (Nat × Nat × Nat) :=
  if 0xc2 ≤ first && first < 0xe0 then some (0x80, 0xbf, 2)
  else if first == 0xe0 then some (0xa0, 0xbf, 3)
  else if first == 0xed then some (0x80, 0x9f, 3)
  else if 0xe1 ≤ first && first < 0xf0 then some (0x80, 0xbf, 3)
  else if first == 0xf0 then some (0x90, 0xbf, 4)
  else if first == 0xf4 then some (0x80, 0x8f, 4)
  else if 0xf1 ≤ first && first < 0xf4 then some (0x80, 0xbf, 4)
  else none

/-- Reads the continuation bytes of one sequence. `taken` counts the bytes read so far, `missing`
those still to come, and `low` to `high` is the range of the next byte. -/
def readContinuation (value taken : Nat) (low high : Nat) :
    Nat → List UInt8 → Except (Nat × Utf8Issue) Nat
  | 0, _ => .ok value
  | _ + 1, [] => .error (taken, .unexpectedEnd)
  | missing + 1, byte :: bytes =>
      if low ≤ byte.toNat && byte.toNat ≤ high then
        readContinuation (value * 0x40 + byte.toNat % 0x40) (taken + 1) 0x80 0xbf missing bytes
      else .error (taken, .invalidContinuation)

/-- Reads bytes as text from `position` on, passing over the first `skip` bytes of the rest, which
belong to a sequence already read. -/
def decodeUtf8From (position skip : Nat) : List UInt8 → Except Utf8Fault (List Char)
  | [] => .ok []
  | byte :: bytes =>
      match skip with
      | skip + 1 => decodeUtf8From (position + 1) skip bytes
      | 0 =>
          let first := byte.toNat
          if first < 0x80 then
            (decodeUtf8From (position + 1) 0 bytes).map (Char.ofNat first :: ·)
          else match sequenceShape? first with
            | none => .error ⟨position, 1, .invalidStart⟩
            | some (low, high, length) =>
                let mask := if length == 2 then 0x20 else if length == 3 then 0x10 else 0x8
                match readContinuation (first % mask) 1 low high (length - 1) bytes with
                | .error (taken, issue) => .error ⟨position, taken, issue⟩
                | .ok point =>
                    (decodeUtf8From (position + 1) (length - 1) bytes).map (Char.ofNat point :: ·)

def decodeUtf8 (bytes : List UInt8) : Except Utf8Fault String :=
  (decodeUtf8From 0 0 bytes).map String.ofList

end MemberDispatch.Text
