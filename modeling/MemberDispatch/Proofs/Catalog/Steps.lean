import MemberDispatch.Catalog
import MemberDispatch.Proofs.Converter.Growth

/-!
# Steps of a catalog

Where the members of an owner come from is said of its declarations alone, without the order in which
they are gone through. A function is offered with the keys of as many of its parameters as a member
takes arguments. A test for equality with anything is the exception: it is offered for values of its
class.

What is added to a catalog is added for single declarations of its owner, by steps of few kinds: a step
reports something, adds a field, or asks the table for the converters of some keys and adds a member
that takes them. Which steps are made, and what the members are besides their converters, depends on the
declarations alone. Properties of catalogs are therefore shown for every addition, or for every kind of
step, and hold of everything that is made of these.
-/

namespace MemberDispatch

namespace World

variable (world : World)

/-- The functions of an owner that can stand by themselves, with what is called for each, the
parameters that a caller sees and the class that it makes instances of. -/
inductive Declares :
    Owner → FunctionDecl → Callable → Option (List Parameter) → Option ClassId → Prop
  | staticMethod {cls : ClassId} {name : String} {function : FunctionDecl}
      (entry : (name, .staticMethod function) ∈ world.entries cls) :
      Declares (.cls cls) function (.plain function) function.parameters none
  | classMethod {cls : ClassId} {name : String} {function : FunctionDecl}
      (entry : (name, .classMethod function) ∈ world.entries cls) :
      Declares (.cls cls) function (.bound cls function)
        (CatalogBuilder.withoutClass function.parameters) none
  | constructor {name : String} {cls : ClassDecl} {function : FunctionDecl}
      (found : world.class? name = some cls)
      (entry : cls.entries.lookup "__init__" = some (.method function)) :
      Declares (.cls (.declared name)) function (.construct (.declared cls.name))
        function.parameters (some (.declared cls.name))
  | ofModule {name entryName : String} {module : ModuleDecl} {function : FunctionDecl}
      (found : world.module? name = some module)
      (entry : (entryName, .function true function) ∈ module.entries) :
      Declares (.moduleNamed name) function (.plain function) function.parameters none

/-- The members that an owner offers: the keys of the arguments that each takes, its name and what
using it does. -/
inductive Offers : Owner → List TypeKey → String → Role → Prop
  | field {owner : Owner} (name : String) (getter : Callable) :
      Offers owner [] name (.field getter)
  | method {cls : ClassId} {ownName : String} {function : FunctionDecl} {signature : Signature}
      {arity : Nat} {callable : Callable}
      (entry : (ownName, .method function) ∈ world.entries cls)
      (signed : function.signature world.lookUpType? function.parameters true none = .ok signature)
      (fills : arity ∈ FunctionDecl.arities signature.parameters)
      (runs : callable = .plain function ∨
        ∃ operator, Operator.ofMemberName? ownName = some operator ∧
          callable = .operation operator) :
      Offers (.cls cls) (signature.keys.take arity) (function.exposedName.getD ownName)
        (.method callable)
  | equality {cls : ClassId} {ownName : String} {function : FunctionDecl} {signature : Signature}
      {arity : Nat} {callable : Callable}
      (entry : (ownName, .method function) ∈ world.entries cls)
      (signed : function.signature world.lookUpType? function.parameters true none = .ok signature)
      (fills : arity ∈ FunctionDecl.arities signature.parameters)
      (any : signature.keys.take arity = [.object])
      (named : function.exposedName.getD ownName ∈ equalityNames) :
      Offers (.cls cls) [.cls cls] (function.exposedName.getD ownName) (.method callable)
  | standing {owner : Owner} {function : FunctionDecl} {callable : Callable}
      {parameters : Option (List Parameter)} {constructs : Option ClassId} {signature : Signature}
      {arity : Nat} (name qualifiedName : String)
      (declared : world.Declares owner function callable parameters constructs)
      (signed : function.signature world.lookUpType? parameters constructs.isSome constructs =
        .ok signature)
      (fills : arity ∈ FunctionDecl.arities signature.parameters) :
      Offers owner (signature.keys.take arity) name
        (.static
          { callable
            receivers := ValueIndex.ofKeys (signature.keys.take arity)
            qualifiedName
            isConstructor := constructs.isSome })

end World

namespace CatalogBuilder

/-- Adds a member of values that takes arguments of some keys. -/
def addInstance (hierarchy : Hierarchy) (keys : List TypeKey) (member : Member)
    (builder : CatalogBuilder) : CatalogBuilder :=
  let (converters, table) := builder.table.lookupAll hierarchy keys
  let builder := builder.withTable table
  { builder with instanceMembers := addTo builder.instanceMembers { member with converters } }

/-- Adds a member that stands by itself and takes arguments of some keys. -/
def addStandalone (hierarchy : Hierarchy) (keys : List TypeKey) (member : Member)
    (builder : CatalogBuilder) : CatalogBuilder :=
  let (converters, table) := builder.table.lookupAll hierarchy keys
  let builder := builder.withTable table
  { builder with staticMembers := addTo builder.staticMembers { member with converters } }

/-- What is made of steps. -/
inductive Steps (hierarchy : Hierarchy) : (CatalogBuilder → CatalogBuilder) → Prop
  | none : Steps hierarchy fun builder => builder
  | next {first second : CatalogBuilder → CatalogBuilder} (before : Steps hierarchy first)
      (behind : Steps hierarchy second) : Steps hierarchy fun builder => second (first builder)
  | report (event : Event) : Steps hierarchy fun builder => builder.report event
  | field (name : String) (returns : Option ClassId) (ownName : String) :
      Steps hierarchy fun builder => builder.addField name returns ownName
  | ofValues (keys : List TypeKey) (member : Member) :
      Steps hierarchy fun builder => builder.addInstance hierarchy keys member
  | standalone (keys : List TypeKey) (member : Member) :
      Steps hierarchy fun builder => builder.addStandalone hierarchy keys member

/-- What is made of steps that add nothing but members that an owner offers. -/
inductive Makes (world : World) (owner : Owner) : (CatalogBuilder → CatalogBuilder) → Prop
  | none : Makes world owner fun builder => builder
  | next {first second : CatalogBuilder → CatalogBuilder} (before : Makes world owner first)
      (behind : Makes world owner second) : Makes world owner fun builder => second (first builder)
  | report (event : Event) : Makes world owner fun builder => builder.report event
  | field (name : String) (returns : Option ClassId) (ownName : String) :
      Makes world owner fun builder => builder.addField name returns ownName
  | ofValues (keys : List TypeKey) (member : Member)
      (offered : world.Offers owner keys member.name member.role) :
      Makes world owner fun builder => builder.addInstance world.hierarchy keys member
  | standalone (keys : List TypeKey) (member : Member)
      (offered : world.Offers owner keys member.name member.role) :
      Makes world owner fun builder => builder.addStandalone world.hierarchy keys member

variable {world : World} {owner : Owner}

/-- A property of what is made one after the other holds of what is made for each item of a list. -/
theorem foldl_of_each {holds : (CatalogBuilder → CatalogBuilder) → Prop}
    (none : holds fun builder => builder)
    (next : ∀ {first second : CatalogBuilder → CatalogBuilder}, holds first → holds second →
      holds fun builder => second (first builder))
    {α : Type} {step : CatalogBuilder → α → CatalogBuilder} {items : List α}
    (each : ∀ item ∈ items, holds fun builder => step builder item) :
    holds fun builder => items.foldl step builder := by
  induction items with
  | nil => exact none
  | cons item items ih =>
      obtain ⟨first, others⟩ := List.forall_mem_cons.mp each
      exact next first (ih others)

theorem makes_addMethod {cls : ClassId} {ownName : String} {function : FunctionDecl}
    (entry : (ownName, .method function) ∈ world.entries cls) :
    Makes world (.cls cls) fun builder =>
      builder.addMethod world cls (function.exposedName.getD ownName) ownName function := by
  simp only [addMethod]
  split
  · exact .none
  · exact .report _
  · rename_i signature signed
    refine foldl_of_each .none .next ?_
    intro arity fills
    refine .ofValues _ ⟨function.exposedName.getD ownName, [], _, _, .method _⟩ ?_
    split
    · rename_i tests
      simp only [Bool.and_eq_true, beq_iff_eq, List.contains_iff_mem] at tests
      exact .equality entry signed fills tests.1 tests.2
    · apply World.Offers.method entry signed fills
      split
      · split
        · exact .inr ⟨_, by assumption, rfl⟩
        · exact .inl rfl
      · exact .inl rfl

theorem makes_addStatic {function : FunctionDecl} {callable : Callable}
    {parameters : Option (List Parameter)} {constructs : Option ClassId}
    (declared : world.Declares owner function callable parameters constructs)
    (name qualifiedName : String) :
    Makes world owner fun builder =>
      builder.addStatic world name qualifiedName function callable parameters constructs := by
  simp only [addStatic]
  split
  · exact .none
  · exact .report _
  · rename_i signature signed
    refine foldl_of_each .none .next ?_
    intro arity mem
    refine .standalone _ ⟨name, [], _, _, .static _⟩ ?_
    exact .standing name qualifiedName declared signed (List.mem_filter.mp mem).1

/-- What is added for a single declaration of an owner. -/
inductive Addition (world : World) : Owner → (CatalogBuilder → CatalogBuilder) → Prop
  | staticMethod {cls : ClassId} {name : String} {function : FunctionDecl}
      (entry : (name, .staticMethod function) ∈ world.entries cls) :
      Addition world (.cls cls) fun builder =>
        builder.addStatic world (function.exposedName.getD name) (cls.name ++ "." ++ name) function
          (.plain function) function.parameters none
  | classMethod {cls : ClassId} {name : String} {function : FunctionDecl}
      (entry : (name, .classMethod function) ∈ world.entries cls) :
      Addition world (.cls cls) fun builder =>
        builder.addStatic world (function.exposedName.getD name) (cls.name ++ "." ++ name) function
          (.bound cls function) (withoutClass function.parameters) none
  | property {cls : ClassId} {name : String} {getter : FunctionDecl}
      (entry : (name, .property (some getter)) ∈ world.entries cls) :
      Addition world (.cls cls) fun builder =>
        builder.addField (getter.exposedName.getD name)
          (getter.hint world.lookUpType? getter.result).returnClass name
  | slot {cls : ClassId} {name : String} (entry : (name, .slot) ∈ world.entries cls) :
      Addition world (.cls cls) fun builder => builder.addField name (some .object) name
  | method {cls : ClassId} {name : String} {function : FunctionDecl}
      (entry : (name, .method function) ∈ world.entries cls) :
      Addition world (.cls cls) fun builder =>
        builder.addMethod world cls (function.exposedName.getD name) name function
  | annotated {className name : String} {decl : ClassDecl} {type : Annotation}
      (found : world.class? className = some decl) (noted : (name, type) ∈ decl.annotations)
      (returns : ClassId) :
      Addition world (.cls (.declared className)) fun builder =>
        builder.addField name (some returns) name
  | constructor {className : String} {decl : ClassDecl} {function : FunctionDecl}
      (found : world.class? className = some decl)
      (entry : decl.entries.lookup "__init__" = some (.method function)) :
      Addition world (.cls (.declared className)) fun builder =>
        builder.addStatic world decl.name (decl.name ++ ".__init__") function
          (.construct (.declared decl.name)) function.parameters (some (.declared decl.name))
  | ofModule {moduleName name : String} {module : ModuleDecl} {function : FunctionDecl}
      (found : world.module? moduleName = some module)
      (entry : (name, .function true function) ∈ module.entries) :
      Addition world (.moduleNamed moduleName) fun builder =>
        builder.addStatic world (function.exposedName.getD name) (module.name ++ "." ++ name)
          function (.plain function) function.parameters none

/-- What is added for declarations of an owner, one after the other. -/
inductive Additions (world : World) (owner : Owner) : (CatalogBuilder → CatalogBuilder) → Prop
  | none : Additions world owner fun builder => builder
  | one {step : CatalogBuilder → CatalogBuilder} (addition : Addition world owner step) :
      Additions world owner step
  | next {first second : CatalogBuilder → CatalogBuilder} (before : Additions world owner first)
      (behind : Additions world owner second) :
      Additions world owner fun builder => second (first builder)

theorem additions_addEntry {cls : ClassId} {entry : String × Entry}
    (mem : entry ∈ world.entries cls) :
    Additions world (.cls cls) fun builder => addEntry world cls builder entry := by
  rcases entry with ⟨name, entry⟩
  simp only [addEntry]
  split
  · exact .none
  · cases entry with
    | staticMethod function => exact .one (.staticMethod mem)
    | classMethod function => exact .one (.classMethod mem)
    | property getter =>
        cases getter with
        | none => exact .none
        | some getter => exact .one (.property mem)
    | slot => exact .one (.slot mem)
    | method function => exact .one (.method mem)
    | value value => exact .none

theorem additions_addAnnotated {className : String} {decl : ClassDecl}
    (found : world.class? className = some decl) :
    Additions world (.cls (.declared className)) (addAnnotated world decl) := by
  refine foldl_of_each .none .next ?_
  rintro ⟨name, type⟩ noted
  simp only
  split
  · exact .none
  · split
    · exact .none
    · exact .one (.annotated found noted _)

theorem additions_addConstructor {className : String} {decl : ClassDecl}
    (found : world.class? className = some decl) :
    Additions world (.cls (.declared className)) (addConstructor world decl) := by
  unfold addConstructor
  split
  · rename_i function entry
    exact .one (.constructor found entry)
  · exact .none

theorem additions_addClass (world : World) (cls : ClassId) :
    Additions world (.cls cls) (addClass world cls) := by
  have entries : Additions world (.cls cls) fun builder =>
      (world.entries cls).foldl (addEntry world cls) builder :=
    foldl_of_each .none .next fun _ mem => additions_addEntry mem
  unfold addClass
  cases cls with
  | builtin kind => exact entries
  | declared name =>
      rcases found : world.class? name with _ | decl
      · simpa [found] using entries
      · have others := (additions_addAnnotated found).next (additions_addConstructor found)
        simpa [found] using entries.next others

theorem additions_addModule {name : String} {module : ModuleDecl}
    (found : world.module? name = some module) :
    Additions world (.moduleNamed name) (addModule world module) := by
  refine foldl_of_each .none .next ?_
  rintro ⟨entryName, entry⟩ mem
  simp only
  split
  · split
    · exact .one (.ofModule found mem)
    · exact .none
  · exact .none

/-- The steps by which the catalog of an owner is made. -/
def stepsFor (world : World) (owner : Owner) (builder : CatalogBuilder) : CatalogBuilder :=
  match owner with
  | .cls id => addClass world id builder
  | .moduleNamed name => match world.module? name with
    | some module => addModule world module builder
    | none => builder

theorem additions_stepsFor (world : World) (owner : Owner) :
    Additions world owner (stepsFor world owner) := by
  unfold stepsFor
  cases owner with
  | cls id => exact additions_addClass world id
  | moduleNamed name =>
      simp only
      split
      · rename_i module found
        exact additions_addModule found
      · exact .none

/-- What each addition keeps holds of the catalog if it holds at the start. -/
theorem Additions.preserve {holds : CatalogBuilder → Prop}
    (each : ∀ step, Addition world owner step → ∀ builder, holds builder → holds (step builder))
    {step : CatalogBuilder → CatalogBuilder} (additions : Additions world owner step)
    {builder : CatalogBuilder} (start : holds builder) : holds (step builder) := by
  induction additions generalizing builder with
  | none => exact start
  | one addition => exact each _ addition _ start
  | next before behind ihBefore ihBehind => exact ihBehind (ihBefore start)

theorem Addition.makes {step : CatalogBuilder → CatalogBuilder}
    (addition : Addition world owner step) : Makes world owner step := by
  cases addition with
  | staticMethod entry => exact makes_addStatic (.staticMethod entry) ..
  | classMethod entry => exact makes_addStatic (.classMethod entry) ..
  | property entry => exact .field ..
  | slot entry => exact .field ..
  | method entry => exact makes_addMethod entry
  | annotated found noted returns => exact .field ..
  | constructor found entry => exact makes_addStatic (.constructor found entry) ..
  | ofModule found entry => exact makes_addStatic (.ofModule found entry) ..

theorem Additions.makes {step : CatalogBuilder → CatalogBuilder}
    (additions : Additions world owner step) : Makes world owner step := by
  induction additions with
  | none => exact .none
  | one addition => exact addition.makes
  | next before behind ihBefore ihBehind => exact ihBefore.next ihBehind

theorem makes_stepsFor (world : World) (owner : Owner) :
    Makes world owner (stepsFor world owner) :=
  (additions_stepsFor world owner).makes

theorem Makes.steps {step : CatalogBuilder → CatalogBuilder} (makes : Makes world owner step) :
    Steps world.hierarchy step := by
  induction makes with
  | none => exact .none
  | next before behind ihBefore ihBehind => exact ihBefore.next ihBehind
  | report event => exact .report event
  | field name returns ownName => exact .field name returns ownName
  | ofValues keys member => exact .ofValues keys member
  | standalone keys member => exact .standalone keys member

theorem steps_stepsFor (world : World) (owner : Owner) :
    Steps world.hierarchy (stepsFor world owner) :=
  (makes_stepsFor world owner).steps

/-- That two catalogs in the making have the same members so far. -/
structure SameMembers (left right : CatalogBuilder) : Prop where
  instanceMembers : left.instanceMembers = right.instanceMembers
  staticMembers : left.staticMembers = right.staticMembers
  fields : left.fields = right.fields

@[simp]
theorem withTable_table (builder : CatalogBuilder) (table : ConverterTable) :
    (builder.withTable table).table = table :=
  rfl

/-- A field is added as one member, unless nothing changes. -/
theorem addField_cases (builder : CatalogBuilder) (name : String) (returns : Option ClassId)
    (ownName : String) :
    builder.addField name returns ownName = builder ∨
      ∃ produced, returns = some produced ∧
        builder.addField name returns ownName =
          { builder with
            fields := builder.fields ++ [name]
            instanceMembers := addTo builder.instanceMembers
              { name, converters := [], returns := produced, isPublic := isPublicName name,
                role := .field (.attribute ownName) } } := by
  unfold addField
  split
  · exact .inl rfl
  · split
    · exact .inl rfl
    · exact .inr ⟨_, rfl, rfl⟩

@[simp]
theorem addField_table (builder : CatalogBuilder) (name : String) (returns : Option ClassId)
    (ownName : String) : (builder.addField name returns ownName).table = builder.table := by
  rcases builder.addField_cases name returns ownName with same | ⟨_, -, added⟩
  · rw [same]
  · rw [added]

@[simp]
theorem addField_staticMembers (builder : CatalogBuilder) (name : String)
    (returns : Option ClassId) (ownName : String) :
    (builder.addField name returns ownName).staticMembers = builder.staticMembers := by
  rcases builder.addField_cases name returns ownName with same | ⟨_, -, added⟩
  · rw [same]
  · rw [added]

theorem SameMembers.addField {left right : CatalogBuilder} (same : SameMembers left right)
    (name : String) (returns : Option ClassId) (ownName : String) :
    SameMembers (left.addField name returns ownName) (right.addField name returns ownName) := by
  unfold CatalogBuilder.addField
  rw [same.fields, same.instanceMembers]
  split
  · exact same
  · split
    · exact same
    · exact ⟨rfl, same.staticMembers, rfl⟩

theorem Steps.grows {hierarchy : Hierarchy} {step : CatalogBuilder → CatalogBuilder}
    (steps : Steps hierarchy step) (builder : CatalogBuilder) :
    ConverterTable.Grows hierarchy builder.table (step builder).table := by
  induction steps generalizing builder with
  | none => exact .refl _ _
  | next before behind ihBefore ihBehind => exact (ihBefore _).trans (ihBehind _)
  | report event => exact .refl _ _
  | field name returns ownName =>
      rw [addField_table]
      exact .refl _ _
  | ofValues keys member => exact (repeatable_lookupAll hierarchy keys).grows builder.table
  | standalone keys member => exact (repeatable_lookupAll hierarchy keys).grows builder.table

/-- Steps made again over a table that grew out of theirs make the same members and leave that
table alone. -/
theorem Steps.repeats {hierarchy : Hierarchy} {step : CatalogBuilder → CatalogBuilder}
    (steps : Steps hierarchy step) {builder again : CatalogBuilder}
    (same : SameMembers again builder) (extension : again.table.Extends (step builder).table) :
    SameMembers (step again) (step builder) ∧ (step again).table = again.table := by
  induction steps generalizing builder again with
  | none => exact ⟨same, rfl⟩
  | next before behind ihBefore ihBehind =>
      obtain ⟨between, unchanged⟩ := ihBefore same (extension.trans (behind.grows _).keeps)
      obtain ⟨last, kept⟩ := ihBehind between (by rw [unchanged]; exact extension)
      exact ⟨last, kept.trans unchanged⟩
  | report event => exact ⟨⟨same.instanceMembers, same.staticMembers, same.fields⟩, rfl⟩
  | field name returns ownName => exact ⟨same.addField name returns ownName, addField_table ..⟩
  | ofValues keys member =>
      have asked :=
        (repeatable_lookupAll hierarchy keys).repeats builder.table again.table extension
      simp only [addInstance, asked, withTable]
      exact ⟨⟨by rw [same.instanceMembers], same.staticMembers, same.fields⟩, trivial⟩
  | standalone keys member =>
      have asked :=
        (repeatable_lookupAll hierarchy keys).repeats builder.table again.table extension
      simp only [addStandalone, asked, withTable]
      exact ⟨⟨same.instanceMembers, by rw [same.staticMembers], same.fields⟩, trivial⟩

end CatalogBuilder

theorem Catalog.build_eq (world : World) (table : ConverterTable) (owner : Owner) :
    Catalog.build world table owner =
      let builder := CatalogBuilder.stepsFor world owner { table }
      (⟨owner, builder.instanceMembers, builder.staticMembers⟩, builder.table,
        builder.events ++ [.builtCatalog owner.name builder.instanceMembers.length
          builder.staticMembers.length]) := by
  cases owner with
  | cls id => rfl
  | moduleNamed name =>
      unfold Catalog.build CatalogBuilder.stepsFor
      rcases world.module? name with _ | module
      · rfl
      · rfl

/-- The making of the catalog of an owner, besides what it reports. -/
def Catalog.making (world : World) (owner : Owner) : TableWork Catalog := fun table =>
  ((Catalog.build world table owner).1, (Catalog.build world table owner).2.1)

theorem Catalog.repeatable_making (world : World) (owner : Owner) :
    Repeatable world.hierarchy (Catalog.making world owner) where
  grows table := by
    simp only [Catalog.making, Catalog.build_eq]
    exact (CatalogBuilder.steps_stepsFor world owner).grows { table }
  repeats table larger extension := by
    simp only [Catalog.making, Catalog.build_eq] at extension ⊢
    have fresh : CatalogBuilder.SameMembers { table := larger } { table } := ⟨rfl, rfl, rfl⟩
    obtain ⟨same, kept⟩ := (CatalogBuilder.steps_stepsFor world owner).repeats fresh extension
    rw [same.instanceMembers, same.staticMembers, kept]

end MemberDispatch
