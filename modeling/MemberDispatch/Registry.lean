import MemberDispatch.Catalog
import MemberDispatch.Class.DispatchMap
import MemberDispatch.Fault

/-!
# The registry

A registry owns the table of converters, the catalogs and, for every class, a merged view of all
members that values of the class have. A view takes, in this order, the members that the class
declares, the functions of its providers, and the views of its bases; of members that take the same
arguments the first is kept. Views and catalogs are made once and dropped when a registration could
change them.
-/

namespace MemberDispatch

/-- All members of values of a class, by name. -/
structure View where
  cls : ClassId
  indexes : List (String × Index) := []

namespace View

/-- Adds members under a name, except those that take the same arguments as one that is there. -/
def merge (view : View) (name : String) (members : List Member) : View :=
  let index := (view.indexes.lookup name).getD ⟨name, []⟩
  { view with indexes := putEntry name (index.merge members) view.indexes }

/-- Adds groups of members one after the other. -/
def mergeAll (view : View) (groups : List (String × List Member)) : View :=
  groups.foldl (fun view (name, members) => view.merge name members) view

def find? (view : View) (name : String) : Option Index :=
  view.indexes.lookup name

def get (view : View) (name : String) : Index :=
  (view.find? name).getD .none

/-- The members, grouped by name in the order in which the names came. -/
def groups (view : View) : List (String × List Member) :=
  view.indexes.map fun (name, index) => (name, index.members)

def names (view : View) : List String :=
  (view.indexes.map (·.1)).mergeSort fun left right => decide (left ≤ right)

def size (view : View) : Nat :=
  view.indexes.length

def display (view : View) : String :=
  "TypeFunctions(" ++ view.cls.name ++ ", names=" ++ toString view.size ++ ")"

end View

/-- Converters, catalogs, providers and views. -/
structure Registry where
  table : ConverterTable := {}
  catalogs : List (Owner × Catalog) := []
  /-- The providers registered for a class, in order. -/
  providers : List (ClassId × List Owner) := []
  views : List (ClassId × View) := []

/-- A registry at work, with the events it reported. -/
structure RegistryRun where
  registry : Registry
  events : List Event := []

/-- Work on a registry, which fails only over its configuration. -/
abbrev RegistryM := ExceptT ConfigurationIssue (StateM RegistryRun)

namespace Registry

def report (event : Event) : RegistryM Unit :=
  modify fun run => { run with events := run.events ++ [event] }

def update (change : Registry → Registry) : RegistryM Unit :=
  modify fun run => { run with registry := change run.registry }

def current : RegistryM Registry := do
  return (← get).registry

variable (world : World)

/-- The converter for a key. A placeholder that had to be added is reported. -/
def lookupConverter (key : TypeKey) : RegistryM Converter := do
  let registry ← current
  let (converter, table) := registry.table.lookup world.hierarchy key
  update fun registry => { registry with table }
  if table.size > registry.table.size then report (.installedPlaceholder key.name)
  return converter

def lookupConverters : List TypeKey → RegistryM (List Converter)
  | [] => return []
  | key :: keys => do
      let converter ← lookupConverter world key
      let converters ← lookupConverters keys
      return converter :: converters

/-- Adds a coercion to the table alone and says whether the table changed. -/
def registerInTable (key : TypeKey) (coercion : Coercion) : RegistryM Bool := do
  let (changed, table) := (← current).table.register key coercion
  update fun registry => { registry with table }
  if changed then report (.registeredConverter key.name)
  return changed

/-- Adds a coercion. If the table changed, all catalogs and views are dropped. -/
def registerConverter (key : TypeKey) (coercion : Coercion) : RegistryM Bool := do
  let changed ← registerInTable key coercion
  if changed then update fun registry => { registry with catalogs := [], views := [] }
  return changed

/-- Makes a catalog without keeping it. -/
def buildCatalog (owner : Owner) : RegistryM Catalog := do
  let (catalog, table, events) := Catalog.build world (← current).table owner
  update fun registry => { registry with table }
  events.forM report
  return catalog

/-- The catalog of an owner, made on first use. -/
def catalogOf (owner : Owner) : RegistryM Catalog := do
  match (← current).catalogs.lookup owner with
  | some catalog => return catalog
  | none =>
      let catalog ← buildCatalog world owner
      update fun registry => { registry with catalogs := registry.catalogs ++ [(owner, catalog)] }
      return catalog

/-- The providers registered for a class itself. -/
def providersOf (registry : Registry) (cls : ClassId) : List Owner :=
  (registry.providers.lookup cls).getD []

/-- The functions that an owner offers as members of values of a class. -/
def functionsOf (owner : Owner) (cls : ClassId) : RegistryM (List (String × List Member)) := do
  match (← catalogOf world owner).functionsFor world.hierarchy cls with
  | .ok groups => return groups
  | .error issue => throw (.ambiguousValue issue)

/-- The functions that an owner offers as members of values of a class, without those for which it
is not clear where they receive the values. -/
def unambiguousFunctionsOf (owner : Owner) (cls : ClassId) :
    RegistryM (List (String × List Member)) := do
  let (groups, events) :=
    (← catalogOf world owner).unambiguousFunctionsFor world.hierarchy cls
  events.forM report
  return groups

/-- Adds what each provider offers to a view. -/
def mergeProviders (cls : ClassId) : List Owner → View → RegistryM View
  | [], view => return view
  | provider :: providers, view => do
      let groups ← functionsOf world provider cls
      mergeProviders cls providers (view.mergeAll groups)

/-- Adds the views of bases to a view. -/
def mergeBases (viewOf : ClassId → RegistryM View) : List ClassId → View → RegistryM View
  | [], view => return view
  | base :: bases, view => do
      let inherited ← viewOf base
      mergeBases viewOf bases (view.mergeAll inherited.groups)

/-- Makes the view of a class from the views of its bases. -/
def buildView (viewOf : ClassId → RegistryM View) (cls : ClassId) : RegistryM View := do
  let own ← catalogOf world (.cls cls)
  let declared := own.instanceMembers.map fun (name, index) => (name, index.members)
  let (functions, events) := own.unambiguousFunctionsFor world.hierarchy cls
  events.forM report
  -- Of members that take the same arguments, the one that is merged first stays.
  let view := (({ cls } : View).mergeAll declared).mergeAll functions
  let view ← mergeProviders world cls ((← current).providersOf cls) view
  let view ← mergeBases viewOf (world.hierarchy.bases cls) view
  report (.mergedNames view.size cls.name)
  return view

/-- The view of a class with at most `depth` generations of ancestors, made on first use. -/
def viewWithin : Nat → ClassId → RegistryM View
  | 0, cls => return { cls }
  | depth + 1, cls => do
      match (← current).views.lookup cls with
      | some view => return view
      | none =>
          let view ← buildView world (viewWithin depth) cls
          update fun registry => { registry with views := registry.views ++ [(cls, view)] }
          return view

/-- The view of a class, made on first use. Every generation of ancestors adds a class to the
linearization, so its length bounds them. -/
def viewOf (cls : ClassId) : RegistryM View :=
  viewWithin world (world.hierarchy.linearization cls).length cls

/-- The members of a name on values of a class. -/
def lookup (cls : ClassId) (name : String) : RegistryM Index := do
  return (← viewOf world cls).get name

/-- Drops the views that a new provider for a class could change. -/
def invalidate (cls : ClassId) (registry : Registry) : Registry :=
  { registry with
    views := registry.views.filter fun (cached, _) => !world.hierarchy.isSubclass cached cls }

/-- Sees what each new provider offers for a class and collects the providers that are new. The
first fault ends it. -/
def enroll (cls : ClassId) (registered : List Owner) :
    List (Except ConfigurationIssue Owner) → List Owner → RegistryM (List Owner)
  | [], added => return added
  | .error issue :: _, _ => throw issue
  | .ok provider :: providers, added => do
      if registered.contains provider || added.contains provider then
        enroll cls registered providers added
      else
        -- A function that could receive a value in several places is refused here, before anything is added.
        let exposed := (← functionsOf world provider cls).map (·.1)
        if exposed.isEmpty then report (.nothingProvided provider.name cls.name)
        report (.registeredProvider provider.name cls.name exposed)
        enroll cls registered providers (added ++ [provider])

def setProviders (cls : ClassId) (providers : List Owner) (registry : Registry) : Registry :=
  { registry with providers := DispatchMap.put cls providers registry.providers }

/-- Registers providers of functions for values of a class, all of them or none. -/
def registerProviders (cls : ClassId) (providers : List (Except ConfigurationIssue Owner)) :
    RegistryM Unit := do
  let registered := (← current).providersOf cls
  -- The class has an entry from now on, even if nothing is added to it.
  update (setProviders cls registered)
  let added ← enroll world cls registered providers []
  unless added.isEmpty do
    update (setProviders cls (registered ++ added))
    update (invalidate world cls)

def installStandardCoercions : RegistryM Unit :=
  standardCoercions.forM fun (key, coercion) => discard (registerInTable key coercion)

def installStandardProviders : RegistryM Unit :=
  standardProviders.forM fun (cls, providers) =>
    registerProviders world cls (providers.map fun provider => .ok (.cls (.builtin provider)))

/-- Drops all catalogs and views. -/
def clear : RegistryM Unit :=
  update fun registry => { registry with catalogs := [], views := [] }

def clearCatalogs : RegistryM Unit :=
  update fun registry => { registry with catalogs := [] }

def display (registry : Registry) : String :=
  "FunctionRegistry(converters=" ++ toString registry.table.size ++ ", types=" ++
    toString registry.views.length ++ ", providers=" ++
    toString ((registry.providers.map fun (_, providers) => providers.length).foldl (· + ·) 0) ++ ")"

end Registry

/-- Runs work on a registry and gives its outcome, the registry and the events. -/
def RegistryM.runOn {α : Type} (registry : Registry) (work : RegistryM α) :
    Except ConfigurationIssue α × Registry × List Event :=
  let (outcome, run) := StateT.run (ExceptT.run work) { registry }
  (outcome, run.registry, run.events)

/-- The making of a registry with the standard coercions and the built-in providers. -/
def Registry.prepare (world : World) : RegistryM Unit := do
  installStandardCoercions
  installStandardProviders world

/-- A registry with the standard coercions and no provider. -/
def Registry.bare : Registry :=
  (RegistryM.runOn {} installStandardCoercions).2.1

/-- A registry with the standard coercions and the built-in providers. -/
def Registry.standard (world : World) : Registry :=
  (RegistryM.runOn {} (prepare world)).2.1

end MemberDispatch
