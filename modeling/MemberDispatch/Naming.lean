import MemberDispatch.Document.Basic
import MemberDispatch.Machine

/-!
# Names of things

A dotted name stands for a module or for something in one. `module:name` says where the module ends;
without the colon, the longest start that is a module counts, which is the whole name or all of it
but its last part. Further parts of the name are attributes.
-/

namespace MemberDispatch

/-- What a name stands for: a value, or a descriptor of a class, of which only the kind is known. -/
inductive NamedThing
  | value (value : Value)
  | descriptor (kind : String)

/-- The class or module that provides functions, if it is one. -/
def NamedThing.owner? : NamedThing → Option Owner
  | .value (.cls id) => some (.cls id)
  | .value (.moduleNamed name) => some (.moduleNamed name)
  | _ => none

def lastPart (qualifiedName : String) : String :=
  ((qualifiedName.splitOn ".").getLast?).getD qualifiedName

namespace Engine

/-- The display of data, in which every whole number must be short enough to be written. -/
def displayData (data : Document) : Act String := do
  let _ ← data.integers.mapM Act.integerText
  return data.toTerm.display

/-- Why a name cannot be used at all: it is no text, or empty. -/
def nameText (name : Document) : Act String := do
  match name with
  | .text text =>
      if text.isEmpty then throw (.configuration (.notDottedName "''")) else return text
  | other => throw (.configuration (.notDottedName (← displayData other)))

/-- Where the module ends in a name: at the first colon, or without one at the last point. -/
def splitName (name : String) : String × String :=
  let characters := name.toList
  if characters.contains ':' then
    (String.ofList (characters.takeWhile (· != ':')),
      String.ofList ((characters.dropWhile (· != ':')).drop 1))
  else
    let reversed := characters.reverse
    (String.ofList ((reversed.dropWhile (· != '.')).drop 1).reverse,
      if characters.contains '.' then String.ofList (reversed.takeWhile (· != '.')).reverse
      else name)

/-- The module of a name, if there is one. A name that starts with a point is relative to a module
that no session has. -/
def importModule? (engine : Engine) (name : String) : Act (Option ModuleDecl) := do
  if name.startsWith "." then
    Act.typeError ("the 'package' argument is required to perform a relative import for " ++
      Text.quoted name)
  else return engine.world.module? name

def moduleEntry : ModuleEntry → Act Value
  | .function _ function => return .callable (.plain function)
  | .cls id => return .cls id
  | .value term => Act.make term

def moduleAttribute? (module : ModuleDecl) (name : String) : Act (Option NamedThing) := do
  match module.entries.lookup name, name, module.offered with
  | some entry, _, _ => return some (.value (← moduleEntry entry))
  | none, "__name__", _ => return some (.value (.text module.name))
  | none, "__all__", some names => return some (.value (← Act.makeList (names.map .text)))
  | none, _, _ => return none

/-- The attribute of a class: what the class itself tells, or an entry along its linearization. -/
def classAttribute? (engine : Engine) (cls : ClassId) (name : String) : Act (Option NamedThing) := do
  match name with
  | "__name__" | "__qualname__" => return some (.value (.text cls.name))
  | "__module__" =>
      let moduleName := match cls with
        | .builtin kind => kind.moduleName?.getD "builtins"
        | .declared _ => ClassId.declaredModule
      return some (.value (.text moduleName))
  | "__bases__" =>
      return some (.value (.tuple ((engine.hierarchy.bases cls).map .cls)))
  | "__mro__" =>
      return some (.value (.tuple ((engine.hierarchy.linearization cls).map .cls)))
  | name => match engine.world.entryAlong? cls name with
    | none => return none
    | some (owner, entry) => match entry with
      | .method function | .staticMethod function =>
          return some (.value (.callable (.plain function)))
      | .classMethod function => return some (.value (.callable (.bound cls function)))
      | .property _ => return some (.descriptor "property")
      | .slot => match owner with
        | .builtin .fraction | .declared _ => return some (.descriptor "member_descriptor")
        | .builtin _ => return some (.descriptor "getset_descriptor")
      | .value term => return some (.value (← Act.make term))

def functionAttribute? (callable : Callable) (name : String) : Option NamedThing :=
  match name with
  | "__qualname__" => some (.value (.text callable.qualifiedName))
  | "__name__" => some (.value (.text (lastPart callable.qualifiedName)))
  | _ => none

def attributeOfNamed? (engine : Engine) (thing : NamedThing) (name : String) :
    Act (Option NamedThing) := do
  match thing with
  | .descriptor _ => return none
  | .value (.moduleNamed moduleName) => match engine.world.module? moduleName with
    | some module => moduleAttribute? module name
    | none => return none
  | .value (.cls id) => engine.classAttribute? id name
  | .value (.callable callable) => return functionAttribute? callable name
  | .value value => match ← Act.attempt (engine.attributeOf value name) with
    | .ok found => return some (.value found)
    | .error fault => if fault.kind == .attributeError then return none else throw fault

/-- The attribute of an attribute, and so on, of what a name stands for. -/
def attributePath (engine : Engine) (name : String) : NamedThing → List String → Act NamedThing
  | thing, [] => return thing
  | thing, part :: parts => do
      match ← engine.attributeOfNamed? thing part with
      | some found => engine.attributePath name found parts
      | none => throw (.configuration (.noAttribute (Text.quoted name) (Text.quoted part)))

def resolveName (engine : Engine) (name : Document) : Act NamedThing := do
  let name ← nameText name
  let whole ← if name.toList.contains ':' then pure none else engine.importModule? name
  match whole with
  | some module => return .value (.moduleNamed module.name)
  | none => do
      let (moduleName, path) := splitName name
      if moduleName.isEmpty || path.isEmpty then
        throw (.configuration (.malformedName (Text.quoted name)))
      match ← engine.importModule? moduleName with
      | none =>
          throw (.configuration (.cannotImport (Text.quoted moduleName) (Text.quoted name)))
      | some module =>
          engine.attributePath name (.value (.moduleNamed module.name)) (path.splitOn ".")

/-- How what a name stands for is displayed. -/
def displayNamed (engine : Engine) (thing : NamedThing) : Act String :=
  match thing with
  | .value value => engine.display value
  | .descriptor kind => return "<" ++ kind ++ " object>"

/-- The short name of what a name stands for, or its display where it has none. -/
def shortName (engine : Engine) (thing : NamedThing) : Act String :=
  match thing with
  | .value (.cls id) => return id.name
  | .value (.callable callable) => return callable.qualifiedName
  | other => engine.displayNamed other

end Engine

end MemberDispatch
