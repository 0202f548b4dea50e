import MemberDispatch.Document.Toml.Table
import MemberDispatch.Document.Toml.Token

/-!
# TOML

Reading TOML documents without dates and times. A document is a sequence of statements, each in a
line: a key with its value, the header of a table, or the header of one more table of a list.
-/

namespace MemberDispatch

namespace Toml

/-- Whether a value was written in one piece, so that nothing can be added to it. -/
def isCollection : Document → Bool
  | .list _ | .mapping _ => true
  | _ => false

mutual

/-- Reads a value. Every step takes at least one character, so the length of the text bounds the
number of steps. -/
def readValue : Nat → Unread → Except ReadIssue (Document × Unread)
  | 0, rest => rest.complain "Invalid value"
  | fuel + 1, rest => match rest.characters with
    | '"' :: _ => (readText '"' rest).map fun (text, rest) => (.text text, rest)
    | '\'' :: _ => (readText '\'' rest).map fun (text, rest) => (.text text, rest)
    | '[' :: _ => do
        let rest ← skipCommentLines rest.characters.length (rest.drop 1)
        let (items, rest) ← readItems fuel rest
        return (.list items, rest)
    | '\x7b' :: _ => do
        let rest := skipBlanks (rest.drop 1)
        if rest.startsWith '\x7d' then return (.mapping [], rest.drop 1)
        let (entries, rest) ← readEntries fuel {} [] rest
        return (.mapping entries, rest)
    | characters => match (number? characters).or (word? characters) with
      | some (value, length) => .ok (value, rest.drop length)
      | none => rest.complain "Invalid value"

/-- Reads the items of a list up to its closing bracket. -/
def readItems : Nat → Unread → Except ReadIssue (List Document × Unread)
  | 0, rest => rest.complain "Unclosed array"
  | fuel + 1, rest => do
      if rest.startsWith ']' then return ([], rest.drop 1)
      let (item, rest) ← readValue fuel rest
      let rest ← skipCommentLines rest.characters.length rest
      if rest.startsWith ']' then return ([item], rest.drop 1)
      else if rest.startsWith ',' then
        let rest ← skipCommentLines rest.characters.length (rest.drop 1)
        let (items, rest) ← readItems fuel rest
        return (item :: items, rest)
      else rest.complain "Unclosed array"

/-- Reads the entries of a table within a line up to its closing brace, behind those that were read
already. -/
def readEntries : Nat → PathState → Entries → Unread → Except ReadIssue (Entries × Unread)
  | 0, _, _, rest => rest.complain "Unclosed inline table"
  | fuel + 1, state, entries, rest => do
      let (path, value, rest) ← readPair fuel rest
      let key := path.getLast?.getD ""
      if state.isComplete path then
        rest.complain ("Cannot mutate immutable namespace " ++ showPath path)
      else match entries.changeAt false some path.dropLast with
      | none => rest.complain "Cannot overwrite a value"
      | some entries => match entries.changeAt false (Entries.addEntry key value) path.dropLast with
        | none => rest.complain ("Duplicate inline table key " ++ Text.quoted key)
        | some entries => do
            let rest := skipBlanks rest
            if rest.startsWith '\x7d' then return (entries, rest.drop 1)
            else if rest.startsWith ',' then
              let state := if isCollection value then state.markComplete path else state
              readEntries fuel state entries (skipBlanks (rest.drop 1))
            else rest.complain "Unclosed inline table"

def readPair : Nat → Unread → Except ReadIssue (List String × Document × Unread)
  | 0, rest => .error ⟨"Invalid value", rest.position⟩
  | fuel + 1, rest => do
      let (path, rest) ← readKey (rest.characters.length + 1) rest
      if !rest.startsWith '=' then
        throw ⟨"Expected '=' after a key in a key/value pair", rest.position⟩
      let (value, rest) ← readValue fuel (skipBlanks (rest.drop 1))
      return (path, value, rest)

end

/-- What was read of a document. -/
structure Progress where
  entries : Entries := []
  /-- The path of the table that keys belong to. -/
  header : List String := []
  paths : PathState := {}

/-- Reads the header of a table, from its opening bracket on. -/
def readTableHeader (progress : Progress) (rest : Unread) :
    Except ReadIssue (Progress × Unread) := do
  let (path, rest) ← readKey (rest.characters.length + 1) (skipBlanks (rest.drop 1))
  let paths := progress.paths
  if paths.isDeclared path || paths.isComplete path then
    rest.complain ("Cannot declare " ++ showPath path ++ " twice")
  else match progress.entries.changeAt true some path with
  | none => rest.complain "Cannot overwrite a value"
  | some entries =>
      if rest.startsWith ']' then
        return ({ entries, header := path, paths := paths.declare path }, rest.drop 1)
      else rest.complain "Expected ']' at the end of a table declaration"

/-- Reads the header of one more table of a list, from its opening brackets on. -/
def readListHeader (progress : Progress) (rest : Unread) :
    Except ReadIssue (Progress × Unread) := do
  let (path, rest) ← readKey (rest.characters.length + 1) (skipBlanks (rest.drop 2))
  let paths := progress.paths
  if paths.isComplete path then
    throw ⟨"Cannot mutate immutable namespace " ++ showPath path, rest.position⟩
  let add := Entries.addTable (path.getLast?.getD "")
  match progress.entries.changeAt true add path.dropLast with
  | none => rest.complain "Cannot overwrite a value"
  | some entries =>
      if rest.startsWithAll [']', ']'] then
        return ({ entries, header := path, paths := (paths.forget path).declare path },
          rest.drop 2)
      else rest.complain "Expected ']]' at the end of an array declaration"

/-- Reads a key of the table at hand and its value. -/
def readAssignment (progress : Progress) (rest : Unread) :
    Except ReadIssue (Progress × Unread) := do
  let (path, value, rest) ← readPair (2 * rest.characters.length + 3) rest
  let header := progress.header
  let paths := progress.paths
  let inner := ((List.range path.length).drop 1).map fun length => header ++ path.take length
  match inner.find? paths.isDeclared with
  | some known => rest.complain ("Cannot redefine namespace " ++ showPath known)
  | none =>
      let owner := header ++ path.dropLast
      let paths := { paths with pending := inner ++ paths.pending }
      if paths.isComplete owner then
        throw ⟨"Cannot mutate immutable namespace " ++ showPath owner, rest.position⟩
      let add := Entries.addEntry (path.getLast?.getD "") value
      match progress.entries.changeAt true add owner with
      | none => rest.complain "Cannot overwrite a value"
      | some entries =>
          let paths := if isCollection value then paths.markComplete (header ++ path) else paths
          return ({ entries, header, paths }, rest)

/-- Reads a statement, if there is one in the line. -/
def readStatement (progress : Progress) (rest : Unread) : Reading Progress :=
  match rest.characters with
  | '[' :: '[' :: _ => readListHeader { progress with paths := progress.paths.settle } rest
  | '[' :: _ => readTableHeader { progress with paths := progress.paths.settle } rest
  | character :: _ =>
      if isKeyCharacter character || character == '"' || character == '\'' then
        readAssignment progress rest
      else if character == '#' || character == '\n' then .ok (progress, rest)
      else rest.complain "Invalid statement"
  | [] => .ok (progress, rest)

def readLines : Nat → Progress → Unread → Except ReadIssue Progress
  | 0, progress, _ => return progress
  | fuel + 1, progress, rest => do
      let (progress, rest) ← readStatement progress (skipBlanks rest)
      let rest ← skipComment (skipBlanks rest)
      if rest.isEmpty then return progress
      else if rest.startsWith '\n' then readLines fuel progress (rest.drop 1)
      else throw ⟨"Expected newline or end of document after a statement", rest.position⟩

/-- A text whose lines end in one character. -/
def withPlainLineEnds (text : String) : String :=
  text.replace "\r\n" "\n"

def read (text : String) : Except ReadIssue Document := do
  let rest := Unread.ofText (withPlainLineEnds text)
  let progress ← readLines (rest.characters.length + 1) {} rest
  return .mapping progress.entries

/-- The wording of a complaint about a text. -/
def issueText (text : String) (issue : ReadIssue) : String :=
  let characters := (withPlainLineEnds text).toList
  let place :=
    if characters.length ≤ issue.position then "end of document"
    else
      let (line, column) := lineAndColumn characters issue.position
      "line " ++ toString line ++ ", column " ++ toString column
  issue.reason ++ " (at " ++ place ++ ")"

end Toml

end MemberDispatch
