import MemberDispatch.CommandLine.Arguments

/-!
# Usage of the program

The commands of the program with their options and operands, and what their help texts say.
-/

namespace MemberDispatch

namespace Usage

def helpOption : CommandOption := ⟨["-h", "--help"], .help⟩

/-- Names the configuration of the registry. -/
def configOption : CommandOption := ⟨["--config"], .value⟩

def ofLines (lines : List String) : String :=
  String.join (lines.map (· ++ "\n"))

def commandNames : List String := ["members", "eval"]

/-- The usage of the program, which takes a command. -/
def program : Usage :=
  let summary := ["usage: dynaprop [-h] \x7bmembers,eval\x7d ..."]
  { name := "dynaprop"
    summary := ofLines summary
    help := ofLines (summary ++
      ["",
        "dynaprop CLI: inspect and try template member resolution.",
        "",
        "positional arguments:",
        "  \x7bmembers,eval\x7d",
        "    members       List the members a type exposes, in match order.",
        "    eval          Evaluate a property chain on a Python literal.",
        "",
        "options:",
        "  -h, --help      show this help message and exit"])
    options := [helpOption]
    operands := [{ name := "command", count := .everything, isRequired := false }] }

/-- The usage of the command that lists members. -/
def members : Usage :=
  let summary :=
    ["usage: dynaprop members [-h] [--config CONFIG] [--name NAME] [--private] type"]
  { name := "dynaprop members"
    summary := ofLines summary
    help := ofLines (summary ++
      ["",
        "positional arguments:",
        "  type             Type as 'module:qualname' or dotted name (e.g.",
        "                   builtins.str).",
        "",
        "options:",
        "  -h, --help       show this help message and exit",
        "  --config CONFIG  Registry config file (.json, .toml, .yaml); defaults to the",
        "                   built-in functions.",
        "  --name NAME      Only show members with this name.",
        "  --private        Include single-underscore members."])
    options := [helpOption, configOption, ⟨["--name"], .value⟩, ⟨["--private"], .flag⟩]
    operands := [{ name := "type" }] }

/-- The usage of the command that applies property steps. -/
def eval : Usage :=
  let summary := ["usage: dynaprop eval [-h] [--config CONFIG] literal props [props ...]"]
  { name := "dynaprop eval"
    summary := ofLines summary
    help := ofLines (summary ++
      ["",
        "positional arguments:",
        "  literal          Target value as a Python literal, e.g. 123 or \"'ABC'\".",
        "  props            Property steps; later steps are call arguments.",
        "",
        "options:",
        "  -h, --help       show this help message and exit",
        "  --config CONFIG  Registry config file (.json, .toml, .yaml); defaults to the",
        "                   built-in functions."])
    options := [helpOption, configOption]
    operands := [{ name := "literal" }, { name := "props", count := .oneOrMore }] }

/-- The complaint over a command that the program does not have. -/
def unknownCommand (name : String) : String :=
  "argument command: invalid choice: " ++ Text.quoted name ++ " (choose from " ++
    ", ".intercalate (commandNames.map Text.quoted) ++ ")"

end Usage

/-- What the command line asks for. -/
inductive Command
  | members (arguments : Arguments)
  | eval (arguments : Arguments)
  | nothing
  deriving Repr

/-- What a run of the program gives: its status, whether it ended before a command was at work, what
it printed and what it complained about. -/
structure Outcome where
  status : Nat
  endsEarly : Bool := false
  output : String := ""
  complaint : String := ""
  deriving DecidableEq, Repr

namespace Usage

/-- The outcome of a command line that is not carried out. -/
def stopped (usage : Usage) : ArgumentStop → Outcome
  | .help => { status := 0, endsEarly := true, output := usage.help }
  | .issue message =>
      { status := 2, endsEarly := true
        complaint := usage.summary ++ usage.name ++ ": error: " ++ message ++ "\n" }

/-- What is said by a usage, or the outcome where that is not carried out. -/
def readOrStop (usage : Usage) (arguments : List String) : Except Outcome Arguments :=
  (usage.read arguments).mapError usage.stopped

end Usage

namespace Command

/-- What a command line asks for. What neither the program nor the command understands is refused
last. -/
def read (arguments : List String) : Except Outcome Command := do
  let outer ← Usage.program.readOrStop arguments
  let refuse (message : String) : Except Outcome Command :=
    .error (Usage.program.stopped (.issue message))
  let finish (command : Command) (surplus : List String) : Except Outcome Command :=
    match outer.surplus ++ surplus with
    | [] => .ok command
    | texts => refuse ("unrecognized arguments: " ++ " ".intercalate texts)
  match outer.valuesOf "command" with
  | [] => finish .nothing []
  | "members" :: rest => do
      let inner ← Usage.members.readOrStop rest
      finish (.members inner) inner.surplus
  | "eval" :: rest => do
      let inner ← Usage.eval.readOrStop rest
      finish (.eval inner) inner.surplus
  | name :: _ => refuse (Usage.unknownCommand name)

end Command

end MemberDispatch
