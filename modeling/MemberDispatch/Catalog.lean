import MemberDispatch.Event
import MemberDispatch.Library.Provider
import MemberDispatch.Member.Index

/-!
# Catalogs

The catalog of a class or module lists the members it declares of its own: those of its values and
those that stand by themselves, each under the name it is exposed with. A function becomes one
member per number of arguments it can be called with. Functions that declare to produce nothing,
that a caller cannot fill by position or whose parameters have no type key are left out.
-/

namespace MemberDispatch

/-- What a catalog belongs to. -/
inductive Owner
  | cls (id : ClassId)
  | moduleNamed (name : String)
  deriving DecidableEq, Repr

def Owner.name : Owner → String
  | .cls id => id.name
  | .moduleNamed name => name

/-- The members that a class or module declares. -/
structure Catalog where
  owner : Owner
  /-- The members of values of the class. -/
  instanceMembers : List (String × Index) := []
  /-- The members that stand by themselves. -/
  staticMembers : List (String × Index) := []

/-- All entries of a class that are its own. -/
def World.entries (world : World) : ClassId → List (String × Entry)
  | .builtin kind => kind.allEntries
  | .declared name => ((world.class? name).map (·.entries)).getD []

namespace FunctionDecl

/-- The parameters that a caller fills by position, if that suffices for a call. The first
parameter is passed over where it is filled otherwise; it must then be there. -/
def positional? (parameters : List Parameter) (dropFirst : Bool) : Option (List Parameter) :=
  let callers? : Option (List Parameter) :=
    if dropFirst then
      match parameters with
      | first :: rest => if first.takesPosition then some rest else none
      | [] => none
    else some parameters
  callers?.bind fun parameters =>
    if parameters.any fun parameter => parameter.kind == .keywordOnly && parameter.isRequired then
      none
    else some (parameters.filter Parameter.takesPosition)

/-- The numbers of arguments that fill the parameters: all that have no default and any number of
those that follow. -/
def arities (parameters : List Parameter) : List Nat :=
  let required := (parameters.filter Parameter.isRequired).length
  (List.range (parameters.length + 1)).drop required

/-- Whether every annotation of the function can be resolved. -/
def hasHints (lookUp : String → Option Annotation) (function : FunctionDecl) : Bool :=
  ((function.parameters.getD []).all fun parameter =>
    (parameter.type.hint? lookUp).isSome) && (function.result.hint? lookUp).isSome

/-- An annotation of the function as a hint. If one annotation of the function cannot be resolved,
all stay as they are. -/
def hint (lookUp : String → Option Annotation) (function : FunctionDecl) (type : Annotation) :
    Annotation :=
  if function.hasHints lookUp then (type.hint? lookUp).getD type else type

end FunctionDecl

/-- What a function offers to a caller: the parameters filled by position, their keys, and the
class of the result. -/
structure Signature where
  parameters : List Parameter
  keys : List TypeKey
  returns : ClassId

/-- Why a function is not offered. -/
inductive SignatureIssue
  /-- A caller cannot fill it, or it produces nothing. -/
  | unusable
  /-- A parameter has no type key. -/
  | noKey (issue : Annotation.KeyIssue)

/-- The keys of parameters, or the first reason why one has none. -/
def parameterKeys (hint : Annotation → Annotation) :
    List Parameter → Except Annotation.KeyIssue (List TypeKey)
  | [] => .ok []
  | parameter :: parameters => do
      let key ← (hint parameter.type).typeKey
      let keys ← parameterKeys hint parameters
      return key :: keys

/-- The signature of a function among parameters that a caller sees. What it produces may be known
without its declaration. -/
def FunctionDecl.signature (lookUp : String → Option Annotation) (function : FunctionDecl)
    (parameters? : Option (List Parameter)) (dropFirst : Bool) (produced : Option ClassId) :
    Except SignatureIssue Signature :=
  match parameters?.bind fun parameters => FunctionDecl.positional? parameters dropFirst with
  | none => .error .unusable
  | some parameters =>
      let hint := function.hint lookUp
      match produced <|> (hint function.result).returnClass with
      | none => .error .unusable
      | some returns => match parameterKeys hint parameters with
        | .error issue => .error (.noKey issue)
        | .ok keys => .ok ⟨parameters, keys, returns⟩

/-- The names whose members test for equality. -/
def equalityNames : List String := ["__eq__", "__ne__", "equals"]

/-- A catalog in the making, with the table that its converters come from. -/
structure CatalogBuilder where
  table : ConverterTable
  events : List Event := []
  instanceMembers : List (String × Index) := []
  staticMembers : List (String × Index) := []
  /-- The names of the fields so far. -/
  fields : List String := []

namespace CatalogBuilder

/-- Adds a member to the index of its name. -/
def addTo (indexes : List (String × Index)) (member : Member) : List (String × Index) :=
  putEntry member.name (((indexes.lookup member.name).getD ⟨member.name, []⟩).add member) indexes

def report (builder : CatalogBuilder) (event : Event) : CatalogBuilder :=
  { builder with events := builder.events ++ [event] }

/-- The builder with another table. Every converter that the table gained is a placeholder and is
reported. -/
def withTable (builder : CatalogBuilder) (table : ConverterTable) : CatalogBuilder :=
  let gained := (table.keys.drop builder.table.size).map fun key =>
    Event.installedPlaceholder key.name
  { builder with table, events := builder.events ++ gained }

/-- Adds a field, unless one of that name is there or it produces nothing. -/
def addField (builder : CatalogBuilder) (name : String) (returns : Option ClassId)
    (ownName : String) : CatalogBuilder :=
  match returns with
  | none => builder
  | some returns =>
      if builder.fields.contains name then builder
      else
        { builder with
          fields := builder.fields ++ [name]
          instanceMembers := addTo builder.instanceMembers
            { name, converters := [], returns, isPublic := isPublicName name,
              role := .field (.attribute ownName) } }

variable (world : World)

/-- Adds a method for every number of arguments. A member that tests for equality with anything is
offered only for what converts to its owner, and a member that defines an operator runs the
operator where the number of arguments is that of the operator. -/
def addMethod (builder : CatalogBuilder) (owner : ClassId) (name ownName : String)
    (function : FunctionDecl) : CatalogBuilder :=
  match function.signature world.lookUpType? function.parameters true none with
  | .error .unusable => builder
  | .error (.noKey issue) =>
      builder.report (.skippedFunction (Callable.plain function).display issue.message)
  | .ok signature =>
      (FunctionDecl.arities signature.parameters).foldl
        (fun builder arity =>
          let keys := signature.keys.take arity
          let keys :=
            if keys == [.object] && equalityNames.contains name then [.cls owner] else keys
          let (converters, table) := builder.table.lookupAll world.hierarchy keys
          let callable := match Operator.ofMemberName? ownName with
            | some operator =>
                if operator.arity == arity then .operation operator else .plain function
            | none => .plain function
          let builder := builder.withTable table
          { builder with
            instanceMembers := addTo builder.instanceMembers
              { name, converters, returns := signature.returns, isPublic := isPublicName name,
                role := .method callable } })
        builder

/-- Adds a function that stands by itself for every number of arguments from one on. -/
def addStatic (builder : CatalogBuilder) (name qualifiedName : String) (function : FunctionDecl)
    (callable : Callable) (parameters : Option (List Parameter)) (constructs : Option ClassId) :
    CatalogBuilder :=
  match function.signature world.lookUpType? parameters constructs.isSome constructs with
  | .error .unusable => builder
  | .error (.noKey issue) =>
      let shown := match constructs with
        | some _ => Callable.plain function
        | none => callable
      builder.report (.skippedFunction shown.display issue.message)
  | .ok signature =>
      ((FunctionDecl.arities signature.parameters).filter (· != 0)).foldl
        (fun builder arity =>
          let keys := signature.keys.take arity
          let (converters, table) := builder.table.lookupAll world.hierarchy keys
          let builder := builder.withTable table
          { builder with
            staticMembers := addTo builder.staticMembers
              { name, converters, returns := signature.returns, isPublic := isPublicName name,
                role := .static
                  { callable, receivers := ValueIndex.ofKeys keys, qualifiedName,
                    isConstructor := constructs.isSome } } })
        builder

/-- The parameters of a class method besides its class. -/
def withoutClass : Option (List Parameter) → Option (List Parameter)
  | some (first :: rest) => if first.takesPosition then some rest else some (first :: rest)
  | some [] => none
  | none => none

def addEntry (owner : ClassId) (builder : CatalogBuilder) (entry : String × Entry) :
    CatalogBuilder :=
  let (name, entry) := entry
  let qualifiedName := owner.name ++ "." ++ name
  let exposed (function : FunctionDecl) := function.exposedName.getD name
  if isProtocolName name && (Operator.ofMemberName? name).isNone then builder
  else match entry with
    | .staticMethod function =>
        builder.addStatic world (exposed function) qualifiedName function (.plain function)
          function.parameters none
    | .classMethod function =>
        builder.addStatic world (exposed function) qualifiedName function (.bound owner function)
          (withoutClass function.parameters) none
    | .property none => builder
    | .property (some getter) =>
        builder.addField (exposed getter) (getter.hint world.lookUpType? getter.result).returnClass
          name
    | .slot => builder.addField name (some .object) name
    | .method function => builder.addMethod world owner (exposed function) name function
    | .value _ => builder

def isFunction : Entry → Bool
  | .method _ | .staticMethod _ | .classMethod _ => true
  | _ => false

/-- Adds the annotated fields of a class. The annotations of the class and of its ancestors resolve
together or not at all. A value shared by all instances is no field. -/
def addAnnotated (cls : ClassDecl) (builder : CatalogBuilder) : CatalogBuilder :=
  let annotations := cls.linearization.flatMap fun
    | .declared name => ((world.class? name).map (·.annotations)).getD []
    | .builtin _ => []
  let hasHints := annotations.all fun (_, type) =>
    (type.hint? world.lookUpType?).isSome
  cls.annotations.foldl
    (fun builder (name, type) =>
      let skipped := isProtocolName name || ((cls.entries.lookup name).map isFunction).getD false
      let type :=
        if hasHints then (type.hint? world.lookUpType?).getD type else type
      match type with
      | .shared _ => builder
      | type =>
          if skipped then builder
          else builder.addField name (some (type.returnClass.getD .object)) name)
    builder

/-- Adds the constructor of a class that sets up its instances itself. -/
def addConstructor (cls : ClassDecl) (builder : CatalogBuilder) : CatalogBuilder :=
  match cls.entries.lookup "__init__" with
  | some (.method function) =>
      builder.addStatic world cls.name (cls.name ++ ".__init__") function
        (.construct (.declared cls.name)) function.parameters (some (.declared cls.name))
  | _ => builder

def addClass (owner : ClassId) (builder : CatalogBuilder) : CatalogBuilder :=
  let builder := (world.entries owner).foldl (addEntry world owner) builder
  match owner with
  | .builtin _ => builder
  | .declared name => match world.class? name with
    | none => builder
    | some cls => (builder.addAnnotated world cls).addConstructor world cls

/-- Adds the functions that a module offers of its own. -/
def addModule (module : ModuleDecl) (builder : CatalogBuilder) : CatalogBuilder :=
  module.entries.foldl
    (fun builder (name, entry) =>
      let isOffered := (module.offered.map fun names => names.contains name).getD true
      match entry with
      | .function true function =>
          if isOffered && !isProtocolName name then
            builder.addStatic world (function.exposedName.getD name) (module.name ++ "." ++ name)
              function (.plain function) function.parameters none
          else builder
      | _ => builder)
    builder

end CatalogBuilder

/-- The catalog of an owner, with the table and the events after its making. -/
def Catalog.build (world : World) (table : ConverterTable) (owner : Owner) :
    Catalog × ConverterTable × List Event :=
  let builder : CatalogBuilder := match owner with
    | .cls id => CatalogBuilder.addClass world id { table }
    | .moduleNamed name => match world.module? name with
      | some module => CatalogBuilder.addModule world module { table }
      | none => { table }
  (⟨owner, builder.instanceMembers, builder.staticMembers⟩, builder.table,
    builder.events ++ [.builtCatalog owner.name builder.instanceMembers.length
      builder.staticMembers.length])

namespace Catalog

/-- The members that stand by themselves, as members of values of a class, by name. It fails at
the first function whose receiving parameter is ambiguous. -/
def functionsFor (hierarchy : Hierarchy) (cls : ClassId) (catalog : Catalog) :
    Except AmbiguousValue (List (String × List Member)) :=
  let group (entry : String × Index) : Except AmbiguousValue (String × List Member) :=
    (entry.2.members.mapM (Member.forValue hierarchy cls)).map fun members =>
      (entry.1, members.filterMap id)
  (catalog.staticMembers.mapM group).map fun groups =>
    groups.filter fun (_, members) => !members.isEmpty

/-- The members that stand by themselves, as members of values of a class, by name. Functions whose
receiving parameter is ambiguous are left out and reported. -/
def unambiguousFunctionsFor (hierarchy : Hierarchy) (cls : ClassId) (catalog : Catalog) :
    List (String × List Member) × List Event :=
  let usable (member : Member) : Option Member :=
    match member.forValue hierarchy cls with
    | .ok member => member
    | .error _ => none
  let skipped (member : Member) : Option Event :=
    match member.role, member.forValue hierarchy cls with
    | .static function, .error issue =>
        some (.skippedInjection function.qualifiedName issue.message)
    | _, _ => none
  let members := catalog.staticMembers.map fun (name, index) =>
    (name, index.members.filterMap usable)
  let events := catalog.staticMembers.flatMap fun (_, index) => index.members.filterMap skipped
  (members.filter fun (_, members) => !members.isEmpty, events)

def display (catalog : Catalog) : String :=
  let names (indexes : List (String × Index)) :=
    "[" ++ ", ".intercalate (indexes.map fun (name, _) => Text.quoted name) ++ "]"
  "ClassMembers(" ++ catalog.owner.name ++ ", instance=" ++ names catalog.instanceMembers ++
    ", static=" ++ names catalog.staticMembers ++ ")"

end Catalog

end MemberDispatch
