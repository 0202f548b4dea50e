import MemberDispatch.Text.Utf8

/-!
# Encodings

The encodings of texts by name: UTF-8 and two of one byte per character. What a byte sequence or a
text has that the encoding does not know is refused, passed over or replaced.
-/

namespace MemberDispatch.Text

/-- An encoding of texts as bytes. -/
inductive Encoding
  | utf8
  /-- One byte for each of the first `limit` characters. -/
  | single (name : String) (limit : Nat)
  deriving DecidableEq, Repr

/-- What happens to what an encoding does not know. -/
inductive Leniency
  | refuse | ignore | replace
  deriving DecidableEq, Repr

/-- A stretch that an encoding does not know. -/
structure EncodingFault where
  encoding : String
  start : Nat
  stop : Nat
  reason : String
  deriving DecidableEq, Repr

namespace Encoding

/-- A name of an encoding without case and with one kind of separator. -/
def plainName (name : String) : String :=
  String.ofList (name.toList.map fun character =>
    if character == '-' || character == ' ' || character == '_' then '_' else character.toLower)

def ofName? (name : String) : Option Encoding :=
  let plain := plainName name
  if ["utf_8", "utf8", "u8", "utf", "cp65001"].contains plain then some .utf8
  else if ["ascii", "us_ascii", "646"].contains plain then some (.single "ascii" 128)
  else if ["latin_1", "latin1", "latin", "l1", "iso8859_1", "iso_8859_1", "8859", "cp819"].contains
      plain then some (.single "latin-1" 256)
  else none

/-- How an encoding of one byte complains. -/
def rangeReason (limit : Nat) : String :=
  "ordinal not in range(" ++ toString limit ++ ")"

/-- The bytes of a text from a position on in an encoding of one byte per character. -/
def encodeSingle (name : String) (limit : Nat) (leniency : Leniency) (position : Nat) :
    List Char → Except EncodingFault (List UInt8)
  | [] => .ok []
  | character :: rest =>
      let following := encodeSingle name limit leniency (position + 1) rest
      if character.toNat < limit then
        following.map (UInt8.ofNat character.toNat :: ·)
      else match leniency with
        | .refuse =>
            let run := rest.takeWhile fun next => next.toNat ≥ limit
            .error ⟨name, position, position + 1 + run.length, rangeReason limit⟩
        | .ignore => following
        | .replace => following.map (UInt8.ofNat 0x3f :: ·)

def encode (encoding : Encoding) (leniency : Leniency) (text : String) :
    Except EncodingFault (List UInt8) :=
  match encoding with
  | .utf8 => .ok (encodeUtf8 text)
  | .single name limit => encodeSingle name limit leniency 0 text.toList

/-- The text of bytes from a position on in an encoding of one byte per character. -/
def decodeSingle (name : String) (limit : Nat) (leniency : Leniency) (position : Nat) :
    List UInt8 → Except EncodingFault (List Char)
  | [] => .ok []
  | byte :: rest =>
      let following := decodeSingle name limit leniency (position + 1) rest
      if byte.toNat < limit then following.map (Char.ofNat byte.toNat :: ·)
      else match leniency with
        | .refuse => .error ⟨name, position, position + 1, rangeReason limit⟩
        | .ignore => following
        | .replace => following.map (Char.ofNat 0xfffd :: ·)

/-- The text of bytes in UTF-8, at most `steps` offending stretches being passed over. -/
def decodeLeniently (leniency : Leniency) : Nat → List UInt8 → Except EncodingFault String
  | steps, bytes => match decodeUtf8 bytes with
    | .ok text => .ok text
    | .error fault => match leniency, steps with
      | .refuse, _ | _, 0 =>
          .error ⟨"utf-8", fault.start, fault.start + fault.length, fault.issue.message⟩
      | leniency, steps + 1 => do
          let before ← decodeLeniently .refuse 0 (bytes.take fault.start)
          let after ← decodeLeniently leniency steps (bytes.drop (fault.start + fault.length))
          let mark := if leniency == .replace then "\ufffd" else ""
          return before ++ mark ++ after

def decode (encoding : Encoding) (leniency : Leniency) (bytes : List UInt8) :
    Except EncodingFault String :=
  match encoding with
  | .utf8 => decodeLeniently leniency bytes.length bytes
  | .single name limit =>
      (decodeSingle name limit leniency 0 bytes).map String.ofList

end Encoding

end MemberDispatch.Text
