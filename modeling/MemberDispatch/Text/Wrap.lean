import MemberDispatch.Text.Blank
import MemberDispatch.Text.Letter
import MemberDispatch.Text.Split

/-!
# Filling paragraphs

A paragraph is cut into chunks: runs of blanks, words, the parts of words that hyphens join, and
dashes between words. Lines take chunks while they fit; a chunk that fits no line is cut. Blanks at
the ends of lines are dropped. Indenting puts a text in front of lines, and removing an indent takes
the blanks away that all lines start with.
-/

namespace MemberDispatch

namespace Wrap

/-- The characters that count as blanks in a paragraph. -/
def isSpace (character : Char) : Bool :=
  character == ' ' || (9 ≤ character.toNat && character.toNat ≤ 13)

/-- Characters behind which a dash can part words. -/
def isWordEnd (character : Char) : Bool :=
  Text.isWordCharacter character || "!\"'&.,?".toList.contains character

/-- Word characters that are no digits. -/
def isLetter (character : Char) : Bool :=
  Text.isWordCharacter character && (Text.digitValue? character).isNone

/-- The number of hyphens of a dash at the start, which parts words if a word follows. -/
def dash? (characters : List Char) : Option Nat :=
  let hyphens := (characters.takeWhile (· == '-')).length
  match characters.drop hyphens with
  | next :: _ => if hyphens ≥ 2 && Text.isWordCharacter next then some hyphens else none
  | [] => none

/-- Whether a hyphen between what is before it, last character first, and what follows it joins
words. -/
def joins (before after : List Char) : Bool :=
  let behind := match before with
    | second :: first :: _ =>
        (isLetter second && isLetter first) ||
          (isLetter second && first == '-' && ((before[2]?).map isLetter).getD false)
    | _ => false
  let ahead := match after with
    | first :: second :: rest =>
        isLetter first &&
          (isLetter second || (second == '-' && ((rest.head?).map isLetter).getD false))
    | _ => false
  behind && ahead

/-- The number of characters of the word at the start, given how many of them were looked at and
what is before, last character first. -/
def wordLength (before : List Char) (seen : Nat) : List Char → Nat
  | [] => seen
  | character :: rest =>
      if seen == 0 then wordLength (character :: before) 1 rest
      else if character == '-' && joins before rest then seen + 1
      else if isSpace character then seen
      else if ((before.head?).map isWordEnd).getD false && (dash? (character :: rest)).isSome then
        seen
      else wordLength (character :: before) (seen + 1) rest

/-- The number of characters of the chunk at the start. -/
def chunkLength (before characters : List Char) : Nat :=
  let blanks := (characters.takeWhile isSpace).length
  if blanks > 0 then blanks
  else match dash? characters with
    | some hyphens =>
        if ((before.head?).map isWordEnd).getD false then hyphens
        else wordLength before 0 characters
    | none => wordLength before 0 characters

/-- The chunks of a paragraph. Each has a character, so the number of characters bounds them. -/
def chunksFrom (before : List Char) : Nat → List Char → List (List Char)
  | 0, _ => []
  | _, [] => []
  | fuel + 1, characters =>
      let length := max 1 (chunkLength before characters)
      let chunk := characters.take length
      chunk :: chunksFrom (chunk.reverse ++ before) fuel (characters.drop length)

/-- The chunks of a text, with tabs expanded and every other blank as a space. -/
def chunks (text : List Char) : List (List Char) :=
  let expanded := Split.expandTabs (· == '\t') (fun c => c == '\n' || c == '\r') ' ' 8 0 text
  let characters := expanded.map fun character => if isSpace character then ' ' else character
  chunksFrom [] characters.length characters

def isBlankChunk (chunk : List Char) : Bool :=
  chunk.all Text.isBlank

/-- Takes chunks while they fit into a width. -/
def takeFitting (width : Nat) : List (List Char) → List (List Char) × List (List Char)
  | [] => ([], [])
  | chunk :: rest =>
      if chunk.length ≤ width then
        let (line, rest) := takeFitting (width - chunk.length) rest
        (chunk :: line, rest)
      else ([], chunk :: rest)

/-- Where a chunk is cut that fits no line: behind the last hyphen within the space, if something
else comes before it, or at the end of the space. -/
def cutPlace (space : Nat) (chunk : List Char) : Nat :=
  let within := chunk.take space
  let behind := (within.reverse.takeWhile (· != '-')).length
  let hyphen := within.length - behind - 1
  if behind < within.length && hyphen > 0 && (chunk.take hyphen).any (· != '-') then hyphen + 1
  else space

def withoutLastBlank (line : List (List Char)) : List (List Char) :=
  match line.getLast? with
  | some chunk => if isBlankChunk chunk then line.dropLast else line
  | none => line

/-- One line of chunks and the chunks behind it. -/
def takeLine (width : Nat) (isFirst : Bool) (chunks : List (List Char)) :
    List (List Char) × List (List Char) :=
  let chunks := match chunks with
    | chunk :: rest => if isBlankChunk chunk && !isFirst then rest else chunks
    | [] => []
  let (line, rest) := takeFitting width chunks
  match rest with
  | chunk :: others =>
      if chunk.length > width then
        let place := cutPlace (width - line.flatten.length) chunk
        (withoutLastBlank (line ++ [chunk.take place]), chunk.drop place :: others)
      else (withoutLastBlank line, rest)
  | [] => (withoutLastBlank line, [])

/-- The lines of chunks. Every line takes a character, so their number bounds the lines. -/
def linesFrom (width : Nat) (isFirst : Bool) : Nat → List (List Char) → List (List Char)
  | 0, _ => []
  | _, [] => []
  | fuel + 1, chunks =>
      let (line, rest) := takeLine width isFirst chunks
      if line.isEmpty then linesFrom width isFirst fuel rest
      else line.flatten :: linesFrom width false fuel rest

/-- The lines of a paragraph of at most a positive width. -/
def lines (width : Nat) (text : List Char) : List (List Char) :=
  let chunks := chunks text
  linesFrom width true (2 * chunks.flatten.length + 1) chunks

/-- What stands for the part of a text that is left out. -/
def ellipsis : List Char := " [...]".toList

/-- The longest start of a line that leaves room for the ellipsis, with the ellipsis; only the
ellipsis if there is none. -/
def withEllipsis (width : Nat) : Nat → List (List Char) → List Char
  | 0, _ => ellipsis.drop 1
  | fuel + 1, line => match line.getLast? with
    | none => ellipsis.drop 1
    | some chunk =>
        if !isBlankChunk chunk && line.flatten.length + ellipsis.length ≤ width then
          line.flatten ++ ellipsis
        else withEllipsis width fuel line.dropLast

/-- A text as one line of at most a width, with single blanks; what does not fit is left out. A width
that does not even hold the ellipsis gives nothing. -/
def shorten? (width : Nat) (text : List Char) : Option (List Char) :=
  let joined := (List.intersperse [' '] (Split.atBlanks Text.isBlank (-1) text)).flatten
  if width < ellipsis.length - 1 then none
  else match chunks joined with
    | [] => some []
    | chunks =>
        let (line, rest) := takeLine width true chunks
        if line.isEmpty then some []
        else if rest.all isBlankChunk && rest.length ≤ 1 then some line.flatten
        else some (withEllipsis width line.length line)

/-- The longest common start of two lists. -/
def commonStart : List Char → List Char → List Char
  | first :: rest, other :: others =>
      if first == other then first :: commonStart rest others else []
  | _, _ => []

def isIndent (character : Char) : Bool :=
  character == ' ' || character == '\t'

/-- A text without the blanks that all its lines start with. Lines of nothing but blanks become empty
and do not count. -/
def dedent (text : List Char) : List Char :=
  let lines := (Split.atRun ['\n'] (-1) text).map fun line =>
    if line.all isIndent then [] else line
  let indents := (lines.filter fun line => !line.isEmpty).map fun line => line.takeWhile isIndent
  let margin := match indents with
    | [] => []
    | first :: others => others.foldl commonStart first
  (List.intersperse ['\n'] (lines.map fun line =>
    if margin.isPrefixOf line then line.drop margin.length else line)).flatten

def linesWithEnds (text : List Char) : List (List Char) :=
  Split.lines Text.isLineEnd (fun first second => first == '\r' && second == '\n') true [] text

end Wrap

end MemberDispatch
