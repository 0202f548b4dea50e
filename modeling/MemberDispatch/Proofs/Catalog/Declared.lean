import MemberDispatch.Proofs.Catalog.Origin

/-!
# What classes declare for their values

The members that a catalog has for values of its class are the fields and methods that the class
itself declares, and nothing else. A field is a property, a slot or an annotated name. A method
becomes one member for every number of arguments that fill its parameters. Which number it is decides
what the member runs, for a method that is named for an operator, and which converter it takes, for
one that tests for equality with anything.
-/

namespace MemberDispatch

/-- The fields and methods that a class itself declares for its values. -/
inductive World.DeclaresMember (world : World) (cls : ClassId) : String → Role → Prop
  | property {ownName : String} {getter : FunctionDecl}
      (entry : (ownName, .property (some getter)) ∈ world.entries cls) :
      DeclaresMember world cls (getter.exposedName.getD ownName) (.field (.attribute ownName))
  | slot {name : String} (entry : (name, .slot) ∈ world.entries cls) :
      DeclaresMember world cls name (.field (.attribute name))
  | annotated {className name : String} {decl : ClassDecl} {type : Annotation}
      (named : cls = .declared className) (found : world.class? className = some decl)
      (noted : (name, type) ∈ decl.annotations) :
      DeclaresMember world cls name (.field (.attribute name))
  | method {ownName : String} {function : FunctionDecl} {callable : Callable}
      (entry : (ownName, .method function) ∈ world.entries cls)
      (runs : callable = .plain function ∨
        ∃ operator, Operator.ofMemberName? ownName = some operator ∧
          callable = .operation operator) :
      DeclaresMember world cls (function.exposedName.getD ownName) (.method callable)

/-- What a method runs with a number of arguments: the operator that its own name stands for if the
operator takes as many, and the function itself otherwise. -/
def FunctionDecl.callableAt (function : FunctionDecl) (ownName : String) (arity : ℕ) : Callable :=
  match Operator.ofMemberName? ownName with
  | some operator => if operator.arity == arity then .operation operator else .plain function
  | none => .plain function

/-- The keys of the arguments of a method: those of its first parameters, except that a test for
equality with anything takes values of its class. -/
def Signature.methodKeys (signature : Signature) (cls : ClassId) (name : String) (arity : ℕ) :
    List TypeKey :=
  if signature.keys.take arity == [.object] && equalityNames.contains name then [.cls cls]
  else signature.keys.take arity

/-- That a member is a method that a class declares under a name of its own, for the number of
arguments that the member takes, with converters that a table has settled on. -/
structure Member.IsMethod (world : World) (cls : ClassId) (table : ConverterTable)
    (ownName : String) (function : FunctionDecl) (signature : Signature) (member : Member) :
    Prop where
  entry : (ownName, .method function) ∈ world.entries cls
  signed : function.signature world.lookUpType? function.parameters true none = .ok signature
  fills : member.arity ∈ FunctionDecl.arities signature.parameters
  name : member.name = function.exposedName.getD ownName
  role : member.role = .method (function.callableAt ownName member.arity)
  settles : table.Settles (signature.methodKeys cls member.name member.arity) member.converters

/-- That a member of values is declared by a class: as a field, which takes nothing, or as a method
with all that this implies. -/
structure Member.Declared (world : World) (cls : ClassId) (table : ConverterTable)
    (member : Member) : Prop where
  declares : world.DeclaresMember cls member.name member.role
  isField {getter : Callable} (role : member.role = .field getter) : member.converters = []
  isMethod {callable : Callable} (role : member.role = .method callable) :
    ∃ ownName function signature, member.IsMethod world cls table ownName function signature

theorem Member.Declared.extend {world : World} {cls : ClassId} {table larger : ConverterTable}
    (extension : larger.Extends table) (member : Member) (declared : member.Declared world cls table) :
    member.Declared world cls larger where
  declares := declared.declares
  isField := declared.isField
  isMethod role := by
    obtain ⟨ownName, function, signature, isMethod⟩ := declared.isMethod role
    exact ⟨ownName, function, signature,
      { isMethod with settles := isMethod.settles.extend extension }⟩

/-- A class declares only fields and methods for its values. -/
theorem World.DeclaresMember.field_or_method {world : World} {cls : ClassId} {name : String}
    {role : Role} (declares : world.DeclaresMember cls name role) :
    (∃ getter, role = .field getter) ∨ ∃ callable, role = .method callable := by
  cases declares with
  | property | slot | annotated => exact .inl ⟨_, rfl⟩
  | method => exact .inr ⟨_, rfl⟩

theorem Member.Declared.isField_or_isMethod {world : World} {cls : ClassId} {table : ConverterTable}
    {member : Member} (declared : member.Declared world cls table) :
    (∃ getter, member.role = .field getter ∧ member.converters = []) ∨
      ∃ ownName function signature, member.IsMethod world cls table ownName function signature := by
  rcases declared.declares.field_or_method with ⟨getter, role⟩ | ⟨callable, role⟩
  · exact .inl ⟨getter, role, declared.isField role⟩
  · exact .inr (declared.isMethod role)

section Signatures

theorem length_of_parameterKeys {hint : Annotation → Annotation} {parameters : List Parameter}
    {keys : List TypeKey} (made : parameterKeys hint parameters = .ok keys) :
    keys.length = parameters.length := by
  induction parameters generalizing keys with
  | nil =>
      cases made
      rfl
  | cons parameter parameters ih =>
      simp only [parameterKeys, bind, Except.bind] at made
      split at made
      · cases made
      · split at made
        · cases made
        · rename_i others behind
          cases made
          rw [List.length_cons, List.length_cons, ih behind]

theorem FunctionDecl.length_of_signature {function : FunctionDecl}
    {lookUp : String → Option Annotation} {parameters : Option (List Parameter)} {dropFirst : Bool}
    {produced : Option ClassId} {signature : Signature}
    (signed : function.signature lookUp parameters dropFirst produced = .ok signature) :
    signature.keys.length = signature.parameters.length := by
  unfold FunctionDecl.signature at signed
  split at signed
  · cases signed
  · dsimp only at signed
    split at signed
    · cases signed
    · split at signed
      · cases signed
      · rename_i keys made
        cases signed
        exact length_of_parameterKeys made

theorem Signature.length_methodKeys {signature : Signature}
    (same : signature.keys.length = signature.parameters.length) {arity : ℕ}
    (fills : arity ∈ FunctionDecl.arities signature.parameters) (cls : ClassId) (name : String) :
    (signature.methodKeys cls name arity).length = arity := by
  have within : arity < signature.parameters.length + 1 :=
    List.mem_range.mp (List.mem_of_mem_drop fills)
  have taken : (signature.keys.take arity).length = arity := by
    rw [List.length_take, same]
    omega
  unfold methodKeys
  split
  · rename_i any
    rw [← taken, (beq_iff_eq.mp (Bool.and_eq_true_iff.mp any).1)]
    rfl
  · exact taken

end Signatures

namespace CatalogBuilder

/-- That all members of values in a catalog in the making are declared by a class. -/
def OnlyDeclared (world : World) (cls : ClassId) (builder : CatalogBuilder) : Prop :=
  EachMember (Member.Declared world cls builder.table) builder.instanceMembers

variable {world : World} {cls : ClassId} {builder : CatalogBuilder}

/-- Members that are declared stay so when the table is asked for more keys. -/
theorem OnlyDeclared.askMore (only : builder.OnlyDeclared world cls) (keys : List TypeKey) :
    EachMember (Member.Declared world cls (builder.table.lookupAll world.hierarchy keys).2)
      builder.instanceMembers := by
  have grows := (repeatable_lookupAll world.hierarchy keys).grows builder.table
  exact only.imp (Member.Declared.extend grows.keeps)

theorem OnlyDeclared.addField (only : builder.OnlyDeclared world cls) {name ownName : String}
    (declares : world.DeclaresMember cls name (.field (.attribute ownName)))
    (returns : Option ClassId) : (builder.addField name returns ownName).OnlyDeclared world cls := by
  rcases builder.addField_cases name returns ownName with same | ⟨produced, -, added⟩
  · rwa [same]
  · rw [added]
    refine EachMember.addTo only ⟨declares, fun _ => rfl, ?_⟩
    intro callable role
    cases role

theorem OnlyDeclared.addMethod (only : builder.OnlyDeclared world cls) {ownName : String}
    {function : FunctionDecl} (entry : (ownName, .method function) ∈ world.entries cls) :
    (builder.addMethod world cls (function.exposedName.getD ownName) ownName function).OnlyDeclared
      world cls := by
  unfold CatalogBuilder.addMethod
  split
  · exact only
  · exact only
  · rename_i signature signed
    refine List.foldlRecOn _ _ only fun builder only arity fills => ?_
    set name := function.exposedName.getD ownName
    have more := only.askMore (signature.methodKeys cls name arity)
    have settles := ConverterTable.settles_lookupAll world.hierarchy builder.table
      (signature.methodKeys cls name arity)
    have takes := settles.length_eq
    rw [signature.length_methodKeys (FunctionDecl.length_of_signature signed) fills] at takes
    change EachMember
      (Member.Declared world cls
        (builder.table.lookupAll world.hierarchy (signature.methodKeys cls name arity)).2)
      (addTo builder.instanceMembers
        ⟨name, (builder.table.lookupAll world.hierarchy (signature.methodKeys cls name arity)).1,
          signature.returns, isPublicName name, .method (function.callableAt ownName arity)⟩)
    generalize builder.table.lookupAll world.hierarchy (signature.methodKeys cls name arity) =
      asked at *
    rcases asked with ⟨converters, table⟩
    subst takes
    refine more.addTo ⟨.method entry ?_, nofun, ?_⟩
    · unfold FunctionDecl.callableAt
      split
      · split
        · exact .inr ⟨_, by assumption, rfl⟩
        · exact .inl rfl
      · exact .inl rfl
    · intro callable role
      exact ⟨ownName, function, signature, entry, signed, fills, rfl, rfl, settles⟩

/-- Functions that stand by themselves leave the members of values alone. -/
theorem OnlyDeclared.addStatic (only : builder.OnlyDeclared world cls) (name qualifiedName : String)
    (function : FunctionDecl) (callable : Callable) (parameters : Option (List Parameter))
    (constructs : Option ClassId) :
    (builder.addStatic world name qualifiedName function callable parameters
      constructs).OnlyDeclared world cls := by
  unfold CatalogBuilder.addStatic
  split
  · exact only
  · exact only
  · exact List.foldlRecOn _ _ only fun builder only arity _ => only.askMore _

theorem Addition.onlyDeclared {step : CatalogBuilder → CatalogBuilder}
    (addition : Addition world (.cls cls) step) (builder : CatalogBuilder)
    (only : builder.OnlyDeclared world cls) : (step builder).OnlyDeclared world cls := by
  cases addition with
  | staticMethod | classMethod | constructor => exact only.addStatic _ _ _ _ _ _
  | property entry => exact only.addField (.property entry) _
  | slot entry => exact only.addField (.slot entry) _
  | method entry => exact only.addMethod entry
  | annotated found noted returns => exact only.addField (.annotated rfl found noted) _

end CatalogBuilder

/-- What the catalog of a class has for values of the class is what the class declares. -/
theorem Catalog.declared_making (world : World) (cls : ClassId) (table : ConverterTable) :
    EachMember (Member.Declared world cls (Catalog.making world (.cls cls) table).2)
      (Catalog.making world (.cls cls) table).1.instanceMembers := by
  have start : CatalogBuilder.OnlyDeclared world cls { table } :=
    fun _ listed => absurd listed List.not_mem_nil
  simp only [Catalog.making, Catalog.build_eq]
  exact (CatalogBuilder.additions_stepsFor world (.cls cls)).preserve
    (fun _ addition => addition.onlyDeclared) start

end MemberDispatch
