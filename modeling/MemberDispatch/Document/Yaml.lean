import MemberDispatch.Document.Yaml.Scalar
import MemberDispatch.Document.Yaml.Text

/-!
# YAML

Reading YAML documents of mappings, sequences and scalars, in blocks and between brackets. Anchors,
tags, complex keys and block scalars are not read. In a block the column of a thing tells what it
belongs to; between brackets it does not matter.
-/

namespace MemberDispatch

namespace Yaml

/-- Reads a scalar with or without quotes. -/
def readScalar (inFlow : Bool) (margin : Nat) (place : Place) :
    Except Issue (Document × Place) := do
  match place.head? with
  | some '"' =>
      let (text, place) ← readQuoted '"' place
      return (.text text, place)
  | some '\'' =>
      let (text, place) ← readQuoted '\'' place
      return (.text text, place)
  | some character =>
      if startsPlain inFlow place then
        let (text, place) := readPlain inFlow margin place
        return (resolve text, place)
      else
        place.complainWithin .scanner "while scanning for the next token" place
          ("found character " ++ Text.quoted (String.singleton character) ++
            " that cannot start any token")
  | none => return (.none, place)

/-- The key at a place and the place behind its colon, if a key is there: a scalar in one line with a
colon behind it. -/
def key? (margin : Nat) (place : Place) : Option (Document × Place) :=
  let isScalar := place.startsWith '"' || place.startsWith '\'' || startsPlain false place
  match isScalar, readScalar false margin place with
  | true, .ok (key, behind) =>
      let behind := if behind.line == place.line then behind.skipSpaces else behind
      if behind.line == place.line && behind.startsWithMark ':' then some (key, behind.next)
      else none
  | _, _ => none

/-- The name of what comes next, as complaints show it. -/
def tokenName (margin : Nat) (sameColumn : Bool) (place : Place) : String :=
  match place.head? with
  | none => "<stream end>"
  | some character =>
      if place.startsWithMark '-' then if sameColumn then "-" else "<block sequence start>"
      else if isFlowMark character then String.singleton character
      else if (key? margin place).isSome then if sameColumn then "?" else "<block mapping start>"
      else "<scalar>"

/-! ## Between brackets -/

/-- The name of what comes next between brackets. -/
def flowTokenName (place : Place) : String :=
  match place.head? with
  | none => "<stream end>"
  | some character =>
      if isFlowMark character || character == ':' then String.singleton character else "<scalar>"

/-- The complaint over a place between brackets that cannot go on. -/
def flowIssue {α : Type} (kind closing : String) (start place : Place) : Except Issue α :=
  place.complainWithin .assembler ("while parsing a flow " ++ kind) start
    ("expected ',' or '" ++ closing ++ "', but got '" ++ flowTokenName place ++ "'")

/-- Whether a colon comes next that is the mark of a value between brackets. -/
def startsFlowValue (place : Place) : Bool :=
  place.startsWith ':'

mutual

/-- Reads a collection between brackets, or a scalar among its items. Every step takes at least one
character, so the length of the text bounds the number of steps. -/
def readFlow : Nat → Place → Except Issue (Document × Place)
  | 0, place => return (.none, place)
  | fuel + 1, place => do
      match place.head? with
      | some '[' =>
          let (items, behind) ← readFlowItems fuel place place.next.toToken
          return (.list items, behind)
      | some '\x7b' =>
          let (entries, behind) ← readFlowEntries fuel place place.next.toToken
          return (Document.ofEntries entries, behind)
      | some ',' | some ']' | some '\x7d' | none =>
          place.complainWithin .assembler "while parsing a flow node" place
            ("expected the node content, but found '" ++ flowTokenName place ++ "'")
      | _ => readScalar true 0 place

/-- Reads the items of a sequence up to its closing bracket. A key with a value among them counts as
a mapping of its own. -/
def readFlowItems : Nat → Place → Place → Except Issue (List Document × Place)
  | 0, _, place => return ([], place)
  | fuel + 1, start, place => do
      if place.startsWith ']' then return ([], place.next)
      let (item, behind) ← readFlow fuel place
      let behind := behind.toToken
      let (item, behind) ←
        if startsFlowValue behind then
          let (value, behind) ← readFlowValue fuel behind.next.toToken
          pure (.mapping [(item, value)], behind)
        else pure (item, behind)
      if behind.startsWith ']' then return ([item], behind.next)
      else if behind.startsWith ',' then
        let (items, behind) ← readFlowItems fuel start behind.next.toToken
        return (item :: items, behind)
      else flowIssue "sequence" "]" start behind

/-- Reads the entries of a mapping up to its closing brace. -/
def readFlowEntries : Nat → Place → Place → Except Issue (List (Document × Document) × Place)
  | 0, _, place => return ([], place)
  | fuel + 1, start, place => do
      if place.startsWith '\x7d' then return ([], place.next)
      let (key, behind) ← readFlow fuel place
      let behind := behind.toToken
      let (value, behind) ←
        if startsFlowValue behind then readFlowValue fuel behind.next.toToken
        else pure (.none, behind)
      if behind.startsWith '\x7d' then return ([(key, value)], behind.next)
      else if behind.startsWith ',' then
        let (entries, behind) ← readFlowEntries fuel start behind.next.toToken
        return ((key, value) :: entries, behind)
      else flowIssue "mapping" "\x7d" start behind

/-- Reads the value of a key between brackets, which may be missing. -/
def readFlowValue : Nat → Place → Except Issue (Document × Place)
  | 0, place => return (.none, place)
  | fuel + 1, place => do
      if place.startsWith ',' || place.startsWith ']' || place.startsWith '\x7d' then
        return (.none, place)
      let (value, behind) ← readFlow fuel place
      return (value, behind.toToken)

end

/-! ## In blocks -/

/-- Reads something that is no block: a collection between brackets or a scalar. A colon behind it
would make it a key, which cannot stand there. -/
def readInline (indent : Int) (place : Place) : Except Issue (Document × Place) := do
  let (value, behind) ←
    if place.startsWith '[' || place.startsWith '\x7b' then
      readFlow (2 * place.characters.length + 2) place
    else readScalar false (indent + 1).toNat place
  let behind := if behind.line == place.line then behind.skipSpaces else behind
  if behind.startsWithMark ':' then behind.complain "mapping values are not allowed here"
  else return (value, behind.toToken)

/-- The complaint over something in a block that does not belong to it. -/
def blockIssue {α : Type} (kind : String) (start place : Place) : Except Issue α :=
  place.complainWithin .assembler ("while parsing a block " ++ kind) start
    ("expected <block end>, but found '" ++
      tokenName start.column (place.column == start.column) place ++ "'")

mutual

/-- Reads what belongs to a block that is indented by `indent`: a block of its own if it starts to the
right of that, and nothing otherwise. -/
def readBlock : Nat → Int → Place → Except Issue (Document × Place)
  | 0, _, place => return (.none, place)
  | fuel + 1, indent, place => do
      if place.head?.isNone || place.atDocumentMark || place.column ≤ indent then
        return (.none, place)
      else if place.startsWithMark '-' then
        let (items, behind) ← readItems fuel place true place
        return (.list items, behind)
      else if (key? (indent + 1).toNat place).isSome then
        let (entries, behind) ← readEntries fuel (indent + 1).toNat place place
        return (Document.ofEntries entries, behind)
      else readInline indent place

/-- Reads the items of a sequence, each behind its dash. A sequence that stands in the column of a key
ends with the last dash there. -/
def readItems : Nat → Place → Bool → Place → Except Issue (List Document × Place)
  | 0, _, _, place => return ([], place)
  | fuel + 1, start, ownColumn, place => do
      if place.head?.isNone || place.atDocumentMark || place.column < start.column then
        return ([], place)
      else if place.column == start.column && place.startsWithMark '-' then
        let (item, behind) ← readBlock fuel start.column place.next.toToken
        let (items, behind) ← readItems fuel start ownColumn behind
        return (item :: items, behind)
      else if place.column == start.column && !ownColumn then return ([], place)
      else blockIssue "collection" start place

def readEntries : Nat → Nat → Place → Place → Except Issue (List (Document × Document) × Place)
  | 0, _, _, place => return ([], place)
  | fuel + 1, margin, start, place => do
      if place.head?.isNone || place.atDocumentMark || place.column < start.column then
        return ([], place)
      else if place.column == start.column then
        match key? margin place with
        | some (key, behind) => do
            let (value, behind) ← readValue fuel start.column behind
            let (entries, behind) ← readEntries fuel (start.column + 1) start behind
            return ((key, value) :: entries, behind)
        | none =>
            if startsPlain false place then
              let (_, behind) := readPlain false (start.column + 1) place
              behind.toToken.complainWithin .scanner "while scanning a simple key" place
                "could not find expected ':'"
            else blockIssue "mapping" start place
      else blockIssue "mapping" start place

/-- Reads the value of a key of a mapping in a column, from behind the colon. -/
def readValue : Nat → Nat → Place → Except Issue (Document × Place)
  | 0, _, place => return (.none, place)
  | fuel + 1, column, place => do
      let value := place.toToken
      if value.line == place.line && value.head?.isSome then
        if value.startsWithMark '-' then
          value.complain "sequence entries are not allowed here"
        else readInline column value
      else if value.column == column && value.startsWithMark '-' && !value.atDocumentMark then
        let (items, behind) ← readItems fuel value false value
        return (.list items, behind)
      else readBlock fuel column value

end

/-- The place behind the mark that may open a document. -/
def skipOpening (place : Place) : Place :=
  if place.atDocumentMark && place.startsWith '-' then (place.advance 3).toToken else place

/-- Reads a text as one document. A document without anything is no value. -/
def read (text : String) : Except Issue Document := do
  let start : Place := (Place.mk text.toList 0 0).toToken
  let opened := skipOpening start
  let (value, behind) ← readBlock (3 * text.length + 3) (-1) opened
  if behind.head?.isNone then return value
  else if behind.atDocumentMark then
    let closed := (behind.advance 3).toToken
    if behind.startsWith '.' && closed.head?.isNone then return value
    else
      behind.complainWithin .composer "expected a single document in the stream" start
        "but found another document"
  else
    .error
      { stage := .assembler
        problem := "expected '<document start>', but found '" ++ tokenName 0 false behind ++ "'"
        line := behind.line, column := behind.column }

end Yaml

end MemberDispatch
