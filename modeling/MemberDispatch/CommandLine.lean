import MemberDispatch.CommandLine.Literal
import MemberDispatch.CommandLine.Usage
import MemberDispatch.Configuration
import MemberDispatch.Document.Folder
import MemberDispatch.Machine

/-!
# The command line

Carrying out commands: listing the members of a class and applying property steps to a literal. The
members come from a registry that a configuration describes, or from the shared one.
-/

namespace MemberDispatch

namespace Engine

mutual

/-- Makes the value of a literal, in which every key must be fit to be one. -/
def makeLiteral (engine : Engine) : Term → Act Value
  | .list items => do Act.makeList (← engine.makeLiterals items)
  | .tuple items => do return .tuple (← engine.makeLiterals items)
  | .set items => do Act.makeSet (← engine.makeLiteralKeys [] items)
  | .dict entries => do Act.makeDict (← engine.makeLiteralEntries [] entries)
  | other => Act.make other

def makeLiterals (engine : Engine) : List Term → Act (List Value)
  | [] => return []
  | item :: items => do
      let first ← engine.makeLiteral item
      let others ← engine.makeLiterals items
      return first :: others

/-- Makes the items of a set behind those that were made already. Each of them must be fit before the
next one is made. -/
def makeLiteralKeys (engine : Engine) (made : List Value) : List Term → Act (List Value)
  | [] => return made
  | item :: items => do
      let key ← engine.makeLiteral item
      engine.requireKey key
      engine.makeLiteralKeys (if ← engine.hasKey key made then made else made ++ [key]) items

/-- Makes the entries of a mapping behind those that were made already. -/
def makeLiteralEntries (engine : Engine) (made : List (Value × Value)) :
    List (Term × Term) → Act (List (Value × Value))
  | [] => return made
  | (key, value) :: entries => do
      let key ← engine.makeLiteral key
      let value ← engine.makeLiteral value
      engine.requireKey key
      engine.makeLiteralEntries (← engine.updateEntries made key value) entries

end

/-- The configuration in a folder at a path. -/
def loadConfiguration (folder : Folder) (path : String) : Act Document :=
  match folder.readConfiguration (.ofText path) with
  | .ok configuration => return configuration
  | .error fault => throw fault

/-- Makes a registry from the configuration in a folder at a path and gives its number. -/
def configureFrom (engine : Engine) (folder : Folder) (path : String) : Act Nat := do
  engine.configure (← loadConfiguration folder path)

def registryFor (engine : Engine) (folder : Folder) (arguments : Arguments) : Act Nat :=
  match arguments.value? "config" with
  | none | some "" => Act.sharedRegistry engine.world
  | some path => engine.configureFrom folder path

/-- The outcome of a command that ends with a complaint. -/
def complaint (message : String) : Outcome :=
  { status := 1, complaint := "error: " ++ message ++ "\n" }

def memberLines (name : String) (members : List Member) : String :=
  if members.isEmpty then ""
  else
    Usage.ofLines (name ::
      members.map fun member => "  [" ++ member.kind ++ "] " ++ member.signature)

/-- Lists the members of a class, all of them or those of one name. -/
def listMembers (engine : Engine) (registry : Nat) (arguments : Arguments) : Act Outcome := do
  let typeName := (arguments.value? "type").getD ""
  match ← Act.attempt (engine.resolveName (.text typeName)) with
  | .error (.configuration issue) => return complaint issue.message
  | .error fault => throw fault
  | .ok (.value (.cls id)) => do
      let view ← Act.onRegistry registry (Registry.viewOf engine.world id)
      let names := match arguments.value? "name" with
        | none | some "" => view.names
        | some name => [name]
      let onlyPublic := !arguments.has "private"
      let output := String.join (names.map fun name =>
        memberLines name ((view.get name).members.filter (Member.isAccessible onlyPublic)))
      if output.isEmpty then return complaint ("no members found on " ++ id.name)
      else return { status := 0, output }
  | .ok _ => return complaint (typeName ++ " is not a class")

/-- Applies property steps to a literal, or to the text itself where it is none, and shows the
outcome. -/
def evaluateLiteral (engine : Engine) (registry : Nat) (arguments : Arguments) : Act Outcome := do
  let text := (arguments.value? "literal").getD ""
  let value ← engine.makeLiteral ((Literal.read? text).getD (.text text))
  let host ← Act.addHost registry
  let steps := (arguments.valuesOf "props").map Value.text
  match ← Act.attempt (engine.evaluate host value steps) with
  | .ok result => return { status := 0, output := (← engine.display result) ++ "\n" }
  | .error fault =>
      if fault.kind.isOwn then return complaint fault.message else throw fault

/-- Carries out a command over its registry. A fault over the registry ends every command. -/
def withRegistry (engine : Engine) (folder : Folder) (arguments : Arguments)
    (work : Nat → Act Outcome) : Act Outcome := do
  match ← Act.attempt (engine.registryFor folder arguments) with
  | .ok registry => work registry
  | .error fault =>
      if fault.kind.isExit then throw fault else return complaint fault.message

/-- Carries out a command line. Without a command, the program says how it is used. -/
def runCommandLine (engine : Engine) (folder : Folder) (arguments : List String) : Act Outcome :=
  match Command.read arguments with
  | .error outcome => return outcome
  | .ok .nothing => return { status := 1, output := Usage.program.help }
  | .ok (.members arguments) =>
      engine.withRegistry folder arguments fun registry => engine.listMembers registry arguments
  | .ok (.eval arguments) =>
      engine.withRegistry folder arguments fun registry =>
        engine.evaluateLiteral registry arguments

end Engine

end MemberDispatch
