import MemberDispatch.Naming

/-!
# Configurations

A configuration is a mapping of up to three keys: converters by the names of their keys, whether the
built-in providers are registered, and providers by the names of the classes that they serve. A
registry is made from it in that order, and the first fault ends it.
-/

namespace MemberDispatch

namespace Engine

/-- The keys that a configuration may have. -/
def configurationKeys : List String := ["converters", "functions", "defaults"]

/-- The entries of a section of a configuration; a section that is missing or counts as nothing has
none. -/
def sectionEntries (configuration : Document) (name : String) :
    Act (List (Document × Document)) := do
  match configuration.find? name with
  | none => return []
  | some found =>
      if !found.isTrue then return []
      else match found with
        | .mapping entries => return entries
        | _ => throw (.configuration (.sectionNotMapping (Text.quoted name)))

/-- The key that a converter is registered for: a width or a class. -/
def converterKey (engine : Engine) (name : Document) : Act TypeKey := do
  let width? := match name with
    | .text name => engine.world.width? name
    | _ => none
  match width? with
  | some width => return .exact width
  | none => match ← engine.resolveName name with
    | .value (.cls id) => return .cls id
    | other =>
        throw (.configuration (.notClass name.toTerm.display (← engine.shortName other)))

def configureConverters (engine : Engine) (registry : Nat) : List (Document × Document) → Act Unit
  | [] => return
  | (keyName, coercionName) :: entries => do
      let thing ← engine.resolveName coercionName
      let callable? := match thing with
        | .value value => value.callable?
        | .descriptor _ => none
      match callable? with
      | none =>
          throw (.configuration (.namedConverterNotCallable coercionName.toTerm.display))
      | some callable => do
          let key ← engine.converterKey keyName
          let _ ← Act.onRegistry registry (Registry.registerConverter key (.callable callable))
          engine.configureConverters registry entries

/-- The names of the providers for a class: one, or several. -/
def providerNames : Document → Act (List Document)
  | .text name => return [.text name]
  | .list names => return names
  | .mapping entries => return entries.map (·.1)
  | other => Act.typeError ("'" ++ other.className ++ "' object is not iterable")

/-- What can provide functions, of the things that names stand for, up to the first thing that cannot. -/
def leadingProviders : List NamedThing → List Owner × Option NamedThing
  | [] => ([], none)
  | thing :: things => match thing.owner? with
    | none => ([], some thing)
    | some owner =>
        let (owners, refused) := leadingProviders things
        (owner :: owners, refused)

/-- Registers providers of functions for values of a class. The first thing that cannot provide any is
displayed when the providers before it have been seen. -/
def registerProviders (engine : Engine) (registry : Nat) (cls : NamedThing)
    (providers : List NamedThing) : Act Unit := do
  match cls with
  | .value (.cls id) => match leadingProviders providers with
    | (owners, none) =>
        Act.onRegistry registry
          (Registry.registerProviders engine.world id (owners.map Except.ok))
    | (owners, some refused) => do
        let outcome ← Act.attempt (Act.onRegistry registry
          (Registry.registerProviders engine.world id
            (owners.map Except.ok ++ [.error (.provider "")])))
        match outcome with
        | .error (.configuration (.provider _)) =>
            throw (.configuration (.provider (← engine.displayNamed refused)))
        | .error fault => throw fault
        | .ok _ => return
  | other => throw (.configuration (.valueType (← engine.displayNamed other)))

def configureProviders (engine : Engine) (registry : Nat) : List (Document × Document) → Act Unit
  | [] => return
  | (className, names) :: entries => do
      let cls ← engine.resolveName className
      let providers ← (← providerNames names).mapM engine.resolveName
      engine.registerProviders registry cls providers
      engine.configureProviders registry entries

def refuseUnknownKeys (entries : List (Document × Document)) : Act Unit := do
  let unknown := (entries.map (·.1)).filter fun key => match key with
    | .text name => !configurationKeys.contains name
    | _ => true
  let names := unknown.filterMap fun key => match key with
    | .text name => some name
    | _ => none
  match unknown.find? fun key => key.className != "str" with
  | some key =>
      if names.isEmpty then
        Act.typeError ("sequence item 0: expected str instance, " ++ key.className ++ " found")
      else
        Act.typeError ("'<' not supported between instances of 'str' and '" ++ key.className ++ "'")
  | none =>
      unless names.isEmpty do
        throw (.configuration (.unknownKeys
          (names.mergeSort fun left right => decide (left ≤ right))))

/-- Makes a registry from a configuration and gives its number. -/
def configure (engine : Engine) (configuration : Document) : Act Nat := do
  match configuration with
  | .mapping entries => do
      refuseUnknownKeys entries
      let registry ← Act.addRegistry Registry.installStandardCoercions
      engine.configureConverters registry (← sectionEntries configuration "converters")
      if ((configuration.find? "defaults").map Document.isTrue).getD true then
        Act.onRegistry registry (Registry.installStandardProviders engine.world)
      engine.configureProviders registry (← sectionEntries configuration "functions")
      return registry
  | other => throw (.configuration (.notMapping other.className))

end Engine

end MemberDispatch
