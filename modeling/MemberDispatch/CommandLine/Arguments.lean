import MemberDispatch.Text.Quoted

/-!
# Arguments of command lines

What the arguments of a command line say by a usage: which options it has, which of them take a value,
and which operands are expected. An option may be shortened as long as no other one starts alike. What
stands behind `--` is no option, and neither is a negative number or something with a space in it.
-/

namespace MemberDispatch

/-- What an option is for. -/
inductive OptionRole
  /-- Asks for the help text. -/
  | help
  /-- Takes a value. -/
  | value
  /-- Says something by being there. -/
  | flag
  deriving DecidableEq, Repr

/-- An option with its spellings; the last one without its dashes is its name. -/
structure CommandOption where
  spellings : List String
  role : OptionRole
  deriving DecidableEq, Repr

def CommandOption.display (option : CommandOption) : String :=
  "/".intercalate option.spellings

/-- How many arguments an operand takes. -/
inductive OperandCount
  | one
  | oneOrMore
  /-- Everything that follows, options as well. -/
  | everything
  deriving DecidableEq, Repr

/-- An operand. -/
structure Operand where
  name : String
  count : OperandCount := .one
  isRequired : Bool := true
  deriving DecidableEq, Repr

/-- How a command is used. -/
structure Usage where
  /-- The words that start the command. -/
  name : String
  /-- The lines that sum the usage up. -/
  summary : String
  help : String
  options : List CommandOption
  operands : List Operand

/-- What an argument is by its look. -/
inductive ArgumentLook
  | operand
  /-- The mark behind which everything is an operand. -/
  | divider
  /-- An option in some spelling, perhaps with a value of its own. -/
  | option (option : CommandOption) (spelling : String) (value : Option String)
  | unknownOption
  deriving Repr

/-- What a command line says. -/
structure Arguments where
  /-- The values of options and operands under their names. -/
  values : List (String × List String) := []
  /-- What is not understood. -/
  surplus : List String := []
  deriving DecidableEq, Repr

/-- Why a command line is not carried out. -/
inductive ArgumentStop
  | help
  | issue (message : String)
  deriving DecidableEq, Repr

namespace Arguments

def valuesOf (arguments : Arguments) (name : String) : List String :=
  (arguments.values.lookup name).getD []

/-- The one value under a name; of several the last counts. -/
def value? (arguments : Arguments) (name : String) : Option String :=
  (arguments.valuesOf name).getLast?

/-- Whether something was said under a name. -/
def has (arguments : Arguments) (name : String) : Bool :=
  (arguments.values.lookup name).isSome

/-- Says values under a name. -/
def put (arguments : Arguments) (name : String) (values : List String) : Arguments :=
  { arguments with values := (name, values) :: arguments.values }

/-- Leaves something aside. -/
def leave (arguments : Arguments) (texts : List String) : Arguments :=
  { arguments with surplus := arguments.surplus ++ texts }

end Arguments

namespace Usage

/-- Whether a text looks like a negative number. -/
def isNegativeNumber (text : String) : Bool :=
  match text.toList with
  | '-' :: rest =>
      let places := rest.dropWhile Char.isDigit
      match places with
      | [] => !rest.isEmpty
      | '.' :: digits => !digits.isEmpty && digits.all Char.isDigit
      | _ => false
  | _ => false

/-- The part of a text up to the first equals sign and the part behind it, if there is one. -/
def splitValue (text : String) : String × Option String :=
  let characters := text.toList
  let name := characters.takeWhile (· != '=')
  match characters.drop name.length with
  | _ :: value => (String.ofList name, some (String.ofList value))
  | [] => (text, none)

def spellings (usage : Usage) : List (CommandOption × String) :=
  usage.options.flatMap fun option => option.spellings.map fun spelling => (option, spelling)

def option? (usage : Usage) (spelling : String) : Option CommandOption :=
  (usage.spellings.find? fun (_, known) => known == spelling).map (·.1)

/-- What a shortened spelling can stand for. Behind one dash and one letter, the rest of the argument
is a value. -/
def expansions (usage : Usage) (text : String) : List ArgumentLook :=
  match text.toList with
  | '-' :: '-' :: _ =>
      let (name, value) := splitValue text
      usage.spellings.filterMap fun (option, spelling) =>
        if spelling.startsWith name then some (.option option spelling value) else none
  | '-' :: letter :: rest =>
      usage.spellings.filterMap fun (option, spelling) =>
        if spelling == String.ofList ['-', letter] then
          some (.option option spelling (some (String.ofList rest)))
        else if spelling.startsWith text then some (.option option spelling none)
        else none
  | _ => []

/-- The spelling that an argument was found to stand for. -/
def spellingOf : ArgumentLook → String
  | .option _ spelling _ => spelling
  | _ => ""

/-- What an argument is that does not stand behind the divider. -/
def lookOf (usage : Usage) (text : String) : Except ArgumentStop ArgumentLook :=
  let (name, value) := splitValue text
  if !text.startsWith "-" || text == "-" then .ok .operand
  else match usage.option? text, usage.option? name with
  | some option, _ => .ok (.option option text none)
  | none, some option => .ok (.option option name value)
  | none, none => match usage.expansions text with
    | [look] => .ok look
    | [] =>
        if isNegativeNumber text || text.toList.contains ' ' then .ok .operand
        else .ok .unknownOption
    | looks =>
        .error (.issue ("ambiguous option: " ++ text ++ " could match " ++
          ", ".intercalate (looks.map spellingOf)))

def looksOf (usage : Usage) : List String → Except ArgumentStop (List (String × ArgumentLook))
  | [] => return []
  | text :: texts => do
      if text == "--" then
        return (text, .divider) :: texts.map fun text => (text, .operand)
      else
        let look ← usage.lookOf text
        return (text, look) :: (← usage.looksOf texts)

end Usage

namespace ArgumentLook

def isOption : ArgumentLook → Bool
  | .option _ _ _ | .unknownOption => true
  | _ => false

def isDivider : ArgumentLook → Bool
  | .divider => true
  | _ => false

end ArgumentLook

/-- Arguments with what they are. -/
abbrev Looked := List (String × ArgumentLook)

namespace Operand

/-- The arguments that an operand takes from the start of others, if there are enough. The divider may
stand among them. -/
def take? (operand : Operand) (arguments : Looked) : Option (Looked × Looked) :=
  let dividers := arguments.takeWhile fun (_, look) => look.isDivider
  match arguments.drop dividers.length with
  | [] => none
  | first :: rest =>
      if first.2.isOption then none
      else
        let further := match operand.count with
          | .one => rest.takeWhile fun (_, look) => look.isDivider
          | .oneOrMore => rest.takeWhile fun (_, look) => !look.isOption
          | .everything => rest
        some (dividers ++ first :: further, rest.drop further.length)

/-- The values of an operand among the arguments that it took: all but the divider, which stays where
it belongs to a command of its own. -/
def valuesFrom (operand : Operand) (taken : Looked) : List String :=
  let texts := taken.map (·.1)
  if operand.count == .everything then texts else texts.erase "--"

/-- Has operands take arguments one after the other, as long as there are enough. Gives what is said,
the operands that are left and the arguments that are left. -/
def takeAll (said : Arguments) : List Operand → Looked → Arguments × List Operand × Looked
  | [], arguments => (said, [], arguments)
  | operand :: operands, arguments => match operand.take? arguments with
    | none => (said, operand :: operands, arguments)
    | some (taken, rest) =>
        takeAll (said.put operand.name (operand.valuesFrom taken)) operands rest

end Operand

namespace Usage

def optionIssue {α : Type} (option : CommandOption) (problem : String) : Except ArgumentStop α :=
  .error (.issue ("argument " ++ option.display ++ ": " ++ problem))

/-- Takes an option without a value, which may have further options of one letter behind it. -/
def takeFlags (usage : Usage) (said : Arguments) (name : CommandOption → String) :
    CommandOption → List Char → Except ArgumentStop Arguments
  | option, [] =>
      if option.role == .help then .error .help
      else .ok (said.put (name option) [])
  | option, letter :: letters => match usage.option? (String.ofList ['-', letter]) with
    | none =>
        optionIssue option
          ("ignored explicit argument " ++ Text.quoted (String.ofList (letter :: letters)))
    | some next => do
        let said ← usage.takeFlags (said.put (name option) []) name next letters
        if option.role == .help then throw .help else return said

def nameOf (option : CommandOption) : String :=
  match option.spellings.getLast? with
  | some spelling => String.ofList (spelling.toList.dropWhile (· == '-'))
  | none => ""

/-- Takes an option and its value from the start of arguments. -/
def takeOption (usage : Usage) (said : Arguments) (option : CommandOption) (spelling : String)
    (value : Option String) (rest : Looked) : Except ArgumentStop (Arguments × Looked) := do
  match option.role, value with
  | .value, some value => return (said.put (nameOf option) [value], rest)
  | .value, none => match rest with
    | (text, .operand) :: rest => return (said.put (nameOf option) [text], rest)
    | _ => optionIssue option "expected one argument"
  | _, none => return (← usage.takeFlags said nameOf option [], rest)
  | _, some value =>
      if spelling.startsWith "--" || value.isEmpty then
        optionIssue option ("ignored explicit argument " ++ Text.quoted value)
      else return (← usage.takeFlags said nameOf option value.toList, rest)

/-- Takes arguments up to the last option. Operands take what they can before each option, and what
they leave is left aside. -/
def takeOptions (usage : Usage) : Nat → Arguments → List Operand → Looked →
    Except ArgumentStop (Arguments × List Operand × Looked)
  | 0, said, operands, arguments => return (said, operands, arguments)
  | fuel + 1, said, operands, arguments => do
      if !(arguments.any fun (_, look) => look.isOption) then
        return (said, operands, arguments)
      match arguments with
      | (_, .option option spelling value) :: rest => do
          let (said, rest) ← usage.takeOption said option spelling value rest
          usage.takeOptions fuel said operands rest
      | (text, .unknownOption) :: rest =>
          usage.takeOptions fuel (said.leave [text]) operands rest
      | arguments => do
          let (said, operands, rest) := Operand.takeAll said operands arguments
          if rest.length < arguments.length then usage.takeOptions fuel said operands rest
          else
            let skipped := arguments.takeWhile fun (_, look) => !look.isOption
            usage.takeOptions fuel (said.leave (skipped.map (·.1))) operands
              (arguments.drop skipped.length)

/-- What a command line says by a usage. Every operand that is required must be there. -/
def read (usage : Usage) (arguments : List String) : Except ArgumentStop Arguments := do
  let looked ← usage.looksOf arguments
  let (said, operands, rest) ←
    usage.takeOptions (2 * looked.length + 1) {} usage.operands looked
  let (said, _, rest) := Operand.takeAll said operands rest
  let said := said.leave (rest.map (·.1))
  let missing := usage.operands.filter fun operand =>
    operand.isRequired && !said.has operand.name
  if missing.isEmpty then return said
  else
    throw (.issue ("the following arguments are required: " ++
      ", ".intercalate (missing.map (·.name))))

end Usage

end MemberDispatch
