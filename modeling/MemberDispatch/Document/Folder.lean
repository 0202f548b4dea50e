import MemberDispatch.Document.Json
import MemberDispatch.Document.Toml
import MemberDispatch.Document.Yaml
import MemberDispatch.Fault
import MemberDispatch.Text.LetterCase

/-!
# Folders of documents

Documents in files. The suffix of a file's name tells the format of its document. A configuration must
be a mapping; a document without anything counts as an empty one.
-/

namespace MemberDispatch

/-- A format of documents. -/
inductive Format
  | json | toml | yaml
  deriving DecidableEq, Repr

namespace Format

/-- The format that a suffix in lower case stands for. -/
def ofSuffix? (suffix : String) : Option Format :=
  if suffix == ".json" then some .json
  else if suffix == ".toml" then some .toml
  else if suffix == ".yaml" || suffix == ".yml" then some .yaml
  else none

/-- The complaint over a format that cannot be read for want of its reader. -/
def missingReader : Format → Fault
  | .json => .say .importFailure "JSON support is missing"
  | .toml =>
      .say .importFailure ("TOML support requires Python 3.11+ (built-in tomllib) or the 'tomli' " ++
        "package. Install with: pip install dynaprop[toml]")
  | .yaml =>
      .say .importFailure ("YAML support requires the 'pyyaml' package. " ++
        "Install with: pip install dynaprop[yaml]")

def yamlFault (name : String) (issue : Yaml.Issue) : Fault :=
  let kind := match issue.stage with
    | .scanner => .yamlScan
    | .assembler => .yamlParse
    | .composer => .yamlCompose
  .say kind (issue.message name)

/-- A text whose lines end in one character, whatever they ended in. -/
def withLineFeeds (text : String) : String :=
  (text.replace "\r\n" "\n").replace "\r" "\n"

/-- Reads the text of a file of some name as a document. -/
def read (format : Format) (name text : String) : Except Fault Document :=
  match format with
  | .json =>
      let text := withLineFeeds text
      (Json.read text).mapError fun issue => .say .jsonDecode (Json.issueText text issue)
  | .toml => (Toml.read text).mapError fun issue => .say .tomlDecode (Toml.issueText text issue)
  | .yaml => (Yaml.read (withLineFeeds text)).mapError (yamlFault name)

end Format

/-- A path through folders. -/
structure Path where
  /-- The slashes in front, if the path does not start at the folder at hand. -/
  root : String
  parts : List String
  deriving DecidableEq, Repr

namespace Path

/-- The path that a text names. Empty parts and parts of one point say nothing. -/
def ofText (text : String) : Path :=
  let slashes := (text.toList.takeWhile (· == '/')).length
  let root := if slashes == 0 then "" else if slashes == 2 then "//" else "/"
  { root, parts := (text.splitOn "/").filter fun part => !part.isEmpty && part != "." }

def text (path : Path) : String :=
  if path.root.isEmpty && path.parts.isEmpty then "."
  else path.root ++ "/".intercalate path.parts

/-- The suffix of the last part of a path with its point. A point at the start or the end of the part
makes no suffix. -/
def suffix (path : Path) : String :=
  let name := (path.parts.getLast?.getD "").toList
  let ending := (name.reverse.takeWhile (· != '.')).reverse
  if ending.isEmpty || name.length ≤ ending.length + 1 then ""
  else String.ofList ('.' :: ending)

end Path

/-- A folder of files, with the formats for which there is no reader. -/
structure Folder where
  /-- The paths of the files and their texts. -/
  files : List (Path × String) := []
  missingReaders : List Format := []

namespace Folder

def hasFolder (folder : Folder) (path : Path) : Bool :=
  path.parts.all (· == "..") ||
    folder.files.any fun (file, _) => path.root == file.root && path != file &&
      path.parts.isPrefixOf file.parts

def read (folder : Folder) (path : Path) : Except Fault Document := do
  let file? := folder.files.lookup path
  if file?.isNone && !folder.hasFolder path then
    throw (.say .fileNotFound ("Config file not found: " ++ path.text))
  let suffix := Text.lower path.suffix
  match Format.ofSuffix? suffix with
  | none =>
      throw (.valueError ("Unsupported config file extension " ++ Text.quoted suffix ++
        ". Use .json, .toml, .yaml, or .yml."))
  | some format =>
      if folder.missingReaders.contains format then throw format.missingReader
      match file? with
      | some text => format.read path.text text
      | none =>
          throw (.say .isDirectory ("[Errno 21] Is a directory: " ++ Text.quoted path.text))

/-- Reads the configuration at a path, which is a mapping. -/
def readConfiguration (folder : Folder) (path : Path) : Except Fault Document := do
  match ← folder.read path with
  | .none => return .mapping []
  | .mapping entries => return .mapping entries
  | _ => throw (.configuration (.fileNotMapping path.text))

end Folder

end MemberDispatch
