import MemberDispatch.Proofs.Catalog.Binding
import MemberDispatch.Proofs.Catalog.Declared
import MemberDispatch.Proofs.Index.Merging

/-!
# One member for every number of arguments

Each function that a class declares has a share in the members of the name it is exposed with: one
member for every number of arguments with which a caller can use it. The shares of all functions, in
the order in which the class declares them, are all that a catalog lists under a name, fields apart.
-/

namespace MemberDispatch

/-- A function that a class declares as a member. -/
structure MemberFunction where
  way : Way
  /-- The name under which the class has it. -/
  ownName : String
  /-- The name with which it is exposed. -/
  name : String
  function : FunctionDecl

/-- Whether the members for a function stand by themselves. -/
def Way.isStanding : Way → Bool
  | .method => false
  | _ => true

namespace MemberFunction

/-- The function of an entry, if its name can be exposed. -/
def ofEntry? (entry : String × Entry) : Option MemberFunction :=
  let exposed (way : Way) (function : FunctionDecl) : MemberFunction :=
    ⟨way, entry.1, function.exposedName.getD entry.1, function⟩
  if isProtocolName entry.1 && (Operator.ofMemberName? entry.1).isNone then none
  else match entry.2 with
    | .method function => some (exposed .method function)
    | .staticMethod function => some (exposed .staticMethod function)
    | .classMethod function => some (exposed .classMethod function)
    | _ => none

/-- The constructor of a class that sets up its instances itself. -/
def constructorOf? (cls : ClassDecl) : Option MemberFunction :=
  match cls.entries.lookup "__init__" with
  | some (.method function) => some ⟨.constructor, "__init__", cls.name, function⟩
  | _ => none

end MemberFunction

/-- The functions that a class declares as members. -/
def World.memberFunctions (world : World) (cls : ClassId) : List MemberFunction :=
  let constructor := match cls with
    | .builtin _ => none
    | .declared name => (world.class? name).bind MemberFunction.constructorOf?
  (world.entries cls).flatMap (fun entry => (MemberFunction.ofEntry? entry).toList) ++
    constructor.toList

namespace MemberFunction

variable (world : World) (cls : ClassId) (declared : MemberFunction)

def signature : Except SignatureIssue Signature :=
  match declared.way with
  | .method =>
      declared.function.signature world.lookUpType? declared.function.parameters true none
  | .staticMethod =>
      declared.function.signature world.lookUpType? declared.function.parameters false none
  | .classMethod =>
      declared.function.signature world.lookUpType?
        (CatalogBuilder.withoutClass declared.function.parameters) false none
  | .constructor =>
      declared.function.signature world.lookUpType? declared.function.parameters true
        (some (.declared declared.name))

/-- The keys of a number of arguments: those of the first parameters. A method that tests for equality
with anything takes values of its class. -/
def keysAt (keys : List TypeKey) (arity : ℕ) : List TypeKey :=
  match declared.way with
  | .method =>
      if keys.take arity == [.object] && equalityNames.contains declared.name then [.cls cls]
      else keys.take arity
  | _ => keys.take arity

/-- What a member for a number of arguments does. -/
def roleAt (keys : List TypeKey) (arity : ℕ) : Role :=
  let receivers := ValueIndex.ofKeys (keys.take arity)
  let qualifiedName := cls.name ++ "." ++ declared.ownName
  match declared.way with
  | .method => .method (declared.function.callableAt declared.ownName arity)
  | .staticMethod => .static { callable := .plain declared.function, receivers, qualifiedName }
  | .classMethod => .static { callable := .bound cls declared.function, receivers, qualifiedName }
  | .constructor => .static
      { callable := .construct (.declared declared.name)
        receivers
        qualifiedName := declared.name ++ ".__init__"
        isConstructor := true }

/-- A member for a number of arguments, without its converters. -/
def memberAt (signature : Signature) (arity : ℕ) : Member where
  name := declared.name
  converters := []
  returns := signature.returns
  isPublic := isPublicName declared.name
  role := declared.roleAt cls signature.keys arity

/-- That a function has parameters as the language orders them, keys for those that a caller fills,
and a result. -/
structure Normal (parameters : List Parameter) (keys : List TypeKey) : Prop where
  known : declared.function.parameters = some parameters
  ordered : Parameter.Ordered parameters
  normalizes : parameterKeys (declared.function.hint world.lookUpType?)
    (declared.way.named parameters) = .ok keys
  produces : declared.way ≠ .constructor →
    ((declared.function.hint world.lookUpType?) declared.function.result).returnClass ≠ none

/-- The share of a function in the members under a name: one member for every number of arguments with
which a caller can use it, with converters that a table has settled on. -/
structure HasShare (table : ConverterTable) (standing : Bool) (name : String)
    (share : List Member) : Prop where
  elsewhere (apart : declared.way.isStanding ≠ standing ∨ declared.name ≠ name) : share = []
  counts {parameters : List Parameter} {keys : List TypeKey}
    (normal : declared.Normal world parameters keys) (side : declared.way.isStanding = standing)
    (same : declared.name = name) : share.map Member.arity = declared.way.counts parameters
  members {parameters : List Parameter} {keys : List TypeKey}
    (normal : declared.Normal world parameters keys) {member : Member} (mem : member ∈ share) :
    member.role = declared.roleAt cls keys member.arity ∧
      table.Settles (declared.keysAt cls keys member.arity) member.converters

variable {world cls declared} {parameters : List Parameter} {keys : List TypeKey}
  {table larger : ConverterTable} {standing : Bool} {name : String} {share : List Member}

theorem HasShare.extend (has : declared.HasShare world cls table standing name share)
    (extension : larger.Extends table) :
    declared.HasShare world cls larger standing name share where
  elsewhere := has.elsewhere
  counts := has.counts
  members normal _ mem := (has.members normal mem).imp_right (·.extend extension)

theorem signature_of_hidden
    (hidden : declared.way.positional? declared.function.parameters = none) :
    declared.signature world = .error .unusable := by
  rcases declared with ⟨way, ownName, name, function⟩
  cases way <;>
    · simp only [Way.positional?] at hidden
      simp only [signature, FunctionDecl.signature, hidden]

theorem signature_of_visible {named : List Parameter}
    (visible : declared.way.positional? declared.function.parameters = some named)
    (made : parameterKeys (declared.function.hint world.lookUpType?) named = .ok keys)
    (produces : declared.way ≠ .constructor →
      ((declared.function.hint world.lookUpType?) declared.function.result).returnClass ≠ none) :
    ∃ returns, declared.signature world = .ok ⟨named, keys, returns⟩ := by
  rcases declared with ⟨way, ownName, name, function⟩
  cases way with
  | constructor =>
      simp only [Way.positional?] at visible
      simp only [signature, FunctionDecl.signature, visible, made]
      exact ⟨_, rfl⟩
  | method | staticMethod | classMethod =>
      obtain ⟨returns, found⟩ := Option.ne_none_iff_exists'.mp (produces (by simp))
      simp only [Way.positional?] at visible
      simp only at made found
      simp only [signature, FunctionDecl.signature, visible, made]
      refine ⟨returns, ?_⟩
      simp [found]

theorem length_of_signature {signature : Signature}
    (signed : declared.signature world = .ok signature) :
    signature.keys.length = signature.parameters.length := by
  rcases declared with ⟨way, ownName, name, function⟩
  cases way <;>
    · simp only [MemberFunction.signature] at signed
      exact FunctionDecl.length_of_signature signed

/-- A normal function is offered for the numbers of arguments with which a caller can use it. -/
theorem signature_of_normal (normal : declared.Normal world parameters keys) :
    (declared.signature world = .error .unusable ∧ declared.way.counts parameters = []) ∨
      ∃ returns,
        declared.signature world = .ok ⟨declared.way.named parameters, keys, returns⟩ ∧
          declared.way.counts parameters =
            (FunctionDecl.arities (declared.way.named parameters)).filter
              (declared.way.least ≤ ·) := by
  rcases declared.way.positional?_cases normal.ordered with ⟨hidden, none⟩ | ⟨visible, counts⟩
  · rw [← normal.known] at hidden
    exact .inl ⟨signature_of_hidden hidden, none⟩
  · rw [← normal.known] at visible
    obtain ⟨returns, signed⟩ :=
      signature_of_visible visible normal.normalizes normal.produces
    exact .inr ⟨returns, signed, counts⟩

theorem length_keysAt {signature : Signature}
    (same : signature.keys.length = signature.parameters.length) {arity : ℕ}
    (fills : arity ∈ FunctionDecl.arities signature.parameters) :
    (declared.keysAt cls signature.keys arity).length = arity := by
  rcases declared with ⟨way, ownName, name, function⟩
  cases way with
  | method => exact signature.length_methodKeys same fills cls name
  | staticMethod | classMethod | constructor =>
      have within := (FunctionDecl.mem_arities_iff.mp fills).2
      change (signature.keys.take arity).length = arity
      rw [List.length_take]
      omega

end MemberFunction

def Member.runsFunction (member : Member) : Bool :=
  match member.role with
  | .method _ | .static _ => true
  | _ => false

/-- The members under a name that run functions, in the order in which they came. -/
def runningUnder (indexes : List (String × Index)) (name : String) : List Member :=
  (((indexes.lookup name).map Index.accepted).getD []).filter Member.runsFunction

theorem runningUnder_addTo (indexes : List (String × Index)) (member : Member) (name : String) :
    runningUnder (CatalogBuilder.addTo indexes member) name =
      runningUnder indexes name ++
        if member.name = name then [member].filter Member.runsFunction else [] := by
  rw [runningUnder, CatalogBuilder.addTo, lookup_putEntry]
  by_cases same : name = member.name
  · subst same
    rcases found : indexes.lookup member.name with _ | index
    · simp [runningUnder, found, Index.add]
    · simp [runningUnder, found, Index.add, List.filter_append]
  · simp [runningUnder, same, Ne.symm same]

namespace CatalogBuilder

variable {world : World} {cls : ClassId} {hierarchy : Hierarchy} {builder : CatalogBuilder}
  {standing : Bool} {name : String}

/-- The members so far that stand by themselves, or those of values. -/
def side (standing : Bool) (builder : CatalogBuilder) : List (String × Index) :=
  if standing then builder.staticMembers else builder.instanceMembers

/-- Adds a member that takes arguments of some keys. -/
def addOn (standing : Bool) (hierarchy : Hierarchy) (keys : List TypeKey) (member : Member)
    (builder : CatalogBuilder) : CatalogBuilder :=
  if standing then builder.addStandalone hierarchy keys member
  else builder.addInstance hierarchy keys member

theorem addOn_table (keys : List TypeKey) (member : Member) :
    (builder.addOn standing hierarchy keys member).table =
      (builder.table.lookupAll hierarchy keys).2 := by
  cases standing <;> rfl

theorem side_addOn (own : Bool) (keys : List TypeKey) (member : Member) :
    (builder.addOn own hierarchy keys member).side standing =
      if own = standing then
        addTo (builder.side standing)
          { member with converters := (builder.table.lookupAll hierarchy keys).1 }
      else builder.side standing := by
  cases own <;> cases standing <;> rfl

theorem runningUnder_addOn (own : Bool) (keys : List TypeKey) {member : Member}
    (runs : member.runsFunction = true) :
    runningUnder ((builder.addOn own hierarchy keys member).side standing) name =
      runningUnder (builder.side standing) name ++
        if own = standing ∧ member.name = name then
          [{ member with converters := (builder.table.lookupAll hierarchy keys).1 }]
        else [] := by
  have still : Member.runsFunction { member with
      converters := (builder.table.lookupAll hierarchy keys).1 } = true := runs
  rw [side_addOn]
  by_cases side : own = standing
  · simp [side, runningUnder_addTo, still]
  · simp [side]

/-- That a step adds the shares of some functions to the members under a name and leaves the table
with all that it settled on before. -/
def Adds (world : World) (cls : ClassId) (standing : Bool) (name : String)
    (functions : List MemberFunction) (step : CatalogBuilder → CatalogBuilder) : Prop :=
  ∀ builder, (step builder).table.Extends builder.table ∧ ∃ shares,
    runningUnder ((step builder).side standing) name =
        runningUnder (builder.side standing) name ++ shares.flatten ∧
      List.Forall₂
        (fun declared share => declared.HasShare world cls (step builder).table standing name share)
        functions shares

theorem Adds.none {step : CatalogBuilder → CatalogBuilder}
    (same : ∀ builder : CatalogBuilder, (step builder).table = builder.table ∧
      runningUnder ((step builder).side standing) name =
        runningUnder (builder.side standing) name) :
    Adds world cls standing name [] step := by
  intro builder
  obtain ⟨table, members⟩ := same builder
  rw [table]
  exact ⟨.refl _, [], by simp [members], .nil⟩

theorem Adds.append {functions others : List MemberFunction}
    {first second : CatalogBuilder → CatalogBuilder}
    (before : Adds world cls standing name functions first)
    (behind : Adds world cls standing name others second) :
    Adds world cls standing name (functions ++ others) fun builder => second (first builder) := by
  intro builder
  obtain ⟨extends₁, shares, members₁, have₁⟩ := before builder
  obtain ⟨extends₂, more, members₂, have₂⟩ := behind (first builder)
  refine ⟨extends₂.trans extends₁, shares ++ more, ?_, ?_⟩
  · rw [members₂, members₁, List.flatten_append, List.append_assoc]
  · exact List.rel_append (have₁.imp fun _ _ has => has.extend extends₂) have₂

theorem Adds.foldl {α : Type} {functions : α → List MemberFunction}
    {step : CatalogBuilder → α → CatalogBuilder}
    (each : ∀ item, Adds world cls standing name (functions item) fun builder => step builder item)
    (items : List α) :
    Adds world cls standing name (items.flatMap functions) fun builder => items.foldl step builder := by
  induction items with
  | nil => exact .none fun _ => ⟨rfl, rfl⟩
  | cons item items ih => exact (each item).append ih

theorem adds_addField (field : String) (returns : Option ClassId) (ownName : String) :
    Adds world cls standing name [] fun builder => builder.addField field returns ownName := by
  refine .none fun builder => ⟨addField_table .., ?_⟩
  rcases builder.addField_cases field returns ownName with same | ⟨produced, -, added⟩
  · rw [same]
  · rw [added]
    cases standing with
    | true => rfl
    | false =>
        simp only [side, Bool.false_eq_true, if_false, runningUnder_addTo]
        simp [Member.runsFunction]

/-- A function that is not offered has no share. -/
theorem adds_of_error {declared : MemberFunction} {issue : SignatureIssue}
    {step : CatalogBuilder → CatalogBuilder} (refused : declared.signature world = .error issue)
    (none : Adds world cls standing name [] step) :
    Adds world cls standing name [declared] step := by
  intro builder
  obtain ⟨extension, shares, members, has⟩ := none builder
  cases has
  refine ⟨extension, [[]], members, .cons ⟨fun _ => rfl, ?_, ?_⟩ .nil⟩
  · intro parameters keys normal _ _
    rcases MemberFunction.signature_of_normal normal with ⟨-, empty⟩ | ⟨returns, signed, -⟩
    · rw [empty]
      rfl
    · rw [refused] at signed
      cases signed
  · intro _ _ _ _ mem
    cases mem

/-- Adds the member of a function for a number of arguments. -/
def addAt (world : World) (cls : ClassId) (declared : MemberFunction) (signature : Signature)
    (builder : CatalogBuilder) (arity : ℕ) : CatalogBuilder :=
  builder.addOn declared.way.isStanding world.hierarchy
    (declared.keysAt cls signature.keys arity) (declared.memberAt cls signature arity)

variable {declared : MemberFunction} {signature : Signature}

theorem exists_of_addAt (same : signature.keys.length = signature.parameters.length)
    (builder : CatalogBuilder) {arity : ℕ}
    (fills : arity ∈ FunctionDecl.arities signature.parameters) :
    (builder.addAt world cls declared signature arity).table.Extends builder.table ∧ ∃ member : Member,
      runningUnder ((builder.addAt world cls declared signature arity).side standing) name =
          runningUnder (builder.side standing) name ++
            (if declared.way.isStanding = standing ∧ declared.name = name then [member] else []) ∧
        member.arity = arity ∧ member.role = declared.roleAt cls signature.keys arity ∧
          (builder.addAt world cls declared signature arity).table.Settles
            (declared.keysAt cls signature.keys arity) member.converters := by
  have settles := ConverterTable.settles_lookupAll world.hierarchy builder.table
    (declared.keysAt cls signature.keys arity)
  have runs : (declared.memberAt cls signature arity).runsFunction = true := by
    rcases declared with ⟨way, ownName, name, function⟩
    cases way <;> rfl
  rw [addAt, addOn_table, runningUnder_addOn _ _ runs]
  refine ⟨?_, _, rfl, ?_, rfl, settles⟩
  · exact ((repeatable_lookupAll world.hierarchy _).grows builder.table).keeps
  · rw [Member.arity, ← settles.length_eq, MemberFunction.length_keysAt same fills]

/-- The members that are added for several numbers of arguments. -/
theorem exists_of_foldl_addAt (same : signature.keys.length = signature.parameters.length)
    {arities : List ℕ} (fill : ∀ arity ∈ arities, arity ∈ FunctionDecl.arities signature.parameters)
    (builder : CatalogBuilder) :
    let after := arities.foldl (addAt world cls declared signature) builder
    after.table.Extends builder.table ∧ ∃ share,
      runningUnder (after.side standing) name =
          runningUnder (builder.side standing) name ++
            (if declared.way.isStanding = standing ∧ declared.name = name then share else []) ∧
        share.map Member.arity = arities ∧
          ∀ member ∈ share, member.role = declared.roleAt cls signature.keys member.arity ∧
            after.table.Settles (declared.keysAt cls signature.keys member.arity)
              member.converters := by
  induction arities generalizing builder with
  | nil => exact ⟨.refl _, [], by simp, rfl, by simp⟩
  | cons arity arities ih =>
      obtain ⟨fills, others⟩ := List.forall_mem_cons.mp fill
      obtain ⟨first, member, added, takes, role, settles⟩ := exists_of_addAt same builder fills
      obtain ⟨behind, share, members, counts, each⟩ :=
        ih others (builder.addAt world cls declared signature arity)
      refine ⟨behind.trans first, member :: share, ?_, ?_, ?_⟩
      · rw [List.foldl_cons, members, added, List.append_assoc]
        split <;> rfl
      · rw [List.map_cons, takes, counts]
      · refine List.forall_mem_cons.mpr ⟨?_, each⟩
        rw [takes]
        exact ⟨role, settles.extend behind⟩

/-- A function has its share once its members were added for all numbers of arguments. -/
theorem adds_foldl_addAt (signed : declared.signature world = .ok signature) :
    Adds world cls standing name [declared] fun builder =>
      ((FunctionDecl.arities signature.parameters).filter (declared.way.least ≤ ·)).foldl
        (addAt world cls declared signature) builder := by
  intro builder
  have same := MemberFunction.length_of_signature signed
  have fill : ∀ arity ∈ (FunctionDecl.arities signature.parameters).filter (declared.way.least ≤ ·),
      arity ∈ FunctionDecl.arities signature.parameters :=
    fun _ mem => (List.mem_filter.mp mem).1
  obtain ⟨extension, share, members, counts, each⟩ := exists_of_foldl_addAt same fill builder
  by_cases here : declared.way.isStanding = standing ∧ declared.name = name
  · rw [if_pos here] at members
    refine ⟨extension, [share], by simpa using members, .cons ⟨?_, ?_, ?_⟩ .nil⟩
    · intro apart
      exact absurd here (not_and_or.mpr apart)
    · intro parameters keys normal _ _
      rcases MemberFunction.signature_of_normal normal with ⟨refused, -⟩ | ⟨returns, offered, usable⟩
      · rw [signed] at refused
        cases refused
      · rw [signed] at offered
        cases offered
        rw [counts, usable]
    · intro parameters keys normal member mem
      rcases MemberFunction.signature_of_normal normal with ⟨refused, -⟩ | ⟨returns, offered, -⟩
      · rw [signed] at refused
        cases refused
      · rw [signed] at offered
        cases offered
        exact each member mem
  · rw [if_neg here] at members
    refine ⟨extension, [[]], by simpa using members, .cons ⟨fun _ => rfl, ?_, ?_⟩ .nil⟩
    · exact fun _ side same => absurd ⟨side, same⟩ here
    · intro _ _ _ _ mem
      cases mem

theorem adds_addMethod {ownName name' : String} {function : FunctionDecl} :
    Adds world cls standing name [⟨.method, ownName, name', function⟩] fun builder =>
      builder.addMethod world cls name' ownName function := by
  set declared : MemberFunction := ⟨.method, ownName, name', function⟩ with declared_eq
  have signature_eq : declared.signature world =
      function.signature world.lookUpType? function.parameters true none := rfl
  unfold addMethod
  rcases signed : declared.signature world with issue | signature
  · refine adds_of_error signed (.none fun builder => ?_)
    rw [signature_eq] at signed
    cases issue with
    | unusable => simp only [signed, and_self]
    | noKey issue =>
      simp only [signed]
      exact ⟨rfl, by cases standing <;> rfl⟩
  · have adds : Adds world cls standing name [declared] _ := adds_foldl_addAt signed
    rw [signature_eq] at signed
    simp only [signed]
    have all : (FunctionDecl.arities signature.parameters).filter (declared.way.least ≤ ·) =
        FunctionDecl.arities signature.parameters := by
      simp [declared_eq, Way.least]
    rw [all] at adds
    exact adds

/-- The three ways to stand by itself differ in what is called and in which parameters are seen. -/
theorem adds_addStatic {qualifiedName : String} {callable : Callable}
    {parameters : Option (List Parameter)} {constructs : Option ClassId}
    (least : declared.way.least = 1)
    (signature_eq : declared.signature world =
      declared.function.signature world.lookUpType? parameters constructs.isSome constructs)
    (step_eq : ∀ signature, addAt world cls declared signature = fun builder arity =>
      builder.addStandalone world.hierarchy (signature.keys.take arity)
        { name := declared.name
          converters := []
          returns := signature.returns
          isPublic := isPublicName declared.name
          role := .static
            { callable
              receivers := ValueIndex.ofKeys (signature.keys.take arity)
              qualifiedName
              isConstructor := constructs.isSome } }) :
    Adds world cls standing name [declared] fun builder =>
      builder.addStatic world declared.name qualifiedName declared.function callable parameters
        constructs := by
  unfold addStatic
  rcases signed : declared.signature world with issue | signature
  · refine adds_of_error signed (.none fun builder => ?_)
    rw [signature_eq] at signed
    cases issue with
    | unusable => simp only [signed, and_self]
    | noKey issue =>
        simp only [signed]
        exact ⟨rfl, by cases standing <;> rfl⟩
  · have adds : Adds world cls standing name [declared] _ := adds_foldl_addAt signed
    rw [signature_eq] at signed
    simp only [signed]
    have positive : (FunctionDecl.arities signature.parameters).filter (declared.way.least ≤ ·) =
        (FunctionDecl.arities signature.parameters).filter (· != 0) := by
      refine List.filter_congr fun arity _ => ?_
      rw [least, Bool.eq_iff_iff]
      simp [Nat.one_le_iff_ne_zero]
    rw [positive, step_eq] at adds
    exact adds

theorem adds_staticMethod {ownName exposed : String} {function : FunctionDecl} :
    Adds world cls standing name [⟨.staticMethod, ownName, exposed, function⟩] fun builder =>
      builder.addStatic world exposed (cls.name ++ "." ++ ownName) function (.plain function)
        function.parameters none :=
  adds_addStatic rfl rfl fun _ => rfl

theorem adds_classMethod {ownName exposed : String} {function : FunctionDecl} :
    Adds world cls standing name [⟨.classMethod, ownName, exposed, function⟩] fun builder =>
      builder.addStatic world exposed (cls.name ++ "." ++ ownName) function (.bound cls function)
        (withoutClass function.parameters) none :=
  adds_addStatic rfl rfl fun _ => rfl

theorem adds_constructor {exposed : String} {function : FunctionDecl} :
    Adds world cls standing name [⟨.constructor, "__init__", exposed, function⟩] fun builder =>
      builder.addStatic world exposed (exposed ++ ".__init__") function
        (.construct (.declared exposed)) function.parameters (some (.declared exposed)) :=
  adds_addStatic rfl rfl fun _ => rfl

theorem adds_addEntry (entry : String × Entry) :
    Adds world cls standing name (MemberFunction.ofEntry? entry).toList fun builder =>
      addEntry world cls builder entry := by
  rcases entry with ⟨ownName, entry⟩
  simp only [MemberFunction.ofEntry?, addEntry]
  split
  · exact .none fun _ => ⟨rfl, rfl⟩
  · cases entry with
    | method function => exact adds_addMethod
    | staticMethod function => exact adds_staticMethod
    | classMethod function => exact adds_classMethod
    | property getter =>
        cases getter with
        | none => exact .none fun _ => ⟨rfl, rfl⟩
        | some getter => exact adds_addField _ _ _
    | slot => exact adds_addField _ _ _
    | value value => exact .none fun _ => ⟨rfl, rfl⟩

theorem adds_addAnnotated (decl : ClassDecl) :
    Adds world cls standing name [] (addAnnotated world decl) := by
  have nothing : (decl.annotations.flatMap fun _ => []) = ([] : List MemberFunction) := by simp
  rw [← nothing]
  refine .foldl (fun item => ?_) _
  rcases item with ⟨field, type⟩
  simp only
  split
  · exact .none fun _ => ⟨rfl, rfl⟩
  · split
    · exact .none fun _ => ⟨rfl, rfl⟩
    · exact adds_addField _ _ _

theorem adds_addConstructor (decl : ClassDecl) :
    Adds world cls standing name (MemberFunction.constructorOf? decl).toList
      (addConstructor world decl) := by
  unfold addConstructor MemberFunction.constructorOf?
  rcases found : decl.entries.lookup "__init__" with _ | entry
  · exact .none fun _ => ⟨rfl, rfl⟩
  · cases entry with
    | method function => exact adds_constructor
    | _ => exact .none fun _ => ⟨rfl, rfl⟩

theorem adds_addClass (world : World) (cls : ClassId) (standing : Bool) (name : String) :
    Adds world cls standing name (world.memberFunctions cls) (addClass world cls) := by
  have entries : Adds world cls standing name
      ((world.entries cls).flatMap fun entry => (MemberFunction.ofEntry? entry).toList)
      fun builder => (world.entries cls).foldl (addEntry world cls) builder :=
    .foldl adds_addEntry _
  unfold addClass World.memberFunctions
  cases cls with
  | builtin kind => simpa using entries
  | declared className =>
      rcases found : world.class? className with _ | decl
      · simpa [found] using entries
      · have annotated : Adds world (.declared className) standing name [] (addAnnotated world decl) :=
          adds_addAnnotated decl
        simpa [found] using entries.append (annotated.append (adds_addConstructor decl))

end CatalogBuilder

/-- The members under a name that run functions: those that stand by themselves, or those of values. -/
def Catalog.functionsUnder (catalog : Catalog) (standing : Bool) (name : String) : List Member :=
  let indexes := if standing then catalog.staticMembers else catalog.instanceMembers
  (((indexes.lookup name).map Index.members).getD []).filter Member.runsFunction

theorem runningUnder_perm (indexes : List (String × Index)) (name : String) :
    ((((indexes.lookup name).map Index.members).getD []).filter Member.runsFunction).Perm
      (runningUnder indexes name) := by
  rcases found : indexes.lookup name with _ | index
  · simp [runningUnder, found]
  · simp only [runningUnder, found, Option.map_some, Option.getD_some]
    exact (sortMembers_perm index.accepted).filter _

theorem MemberFunction.HasShare.eq_nil {world : World} {cls : ClassId} {declared : MemberFunction}
    {table : ConverterTable} {standing : Bool} {name : String} {share : List Member}
    (has : declared.HasShare world cls table standing name share) {parameters : List Parameter}
    {keys : List TypeKey} (normal : declared.Normal world parameters keys)
    (unusable : Parameter.needsKeyword parameters = true ∨
      declared.way.receives parameters = false) : share = [] := by
  by_cases here : declared.way.isStanding = standing ∧ declared.name = name
  · have counts := has.counts normal here.1 here.2
    have none : declared.way.counts parameters = [] := by
      rcases unusable with needs | missing
      · exact Way.counts_eq_nil normal.ordered needs
      · simp [Way.counts, missing]
    rw [none] at counts
    exact List.map_eq_nil_iff.mp counts
  · exact has.elsewhere (not_and_or.mp here)

/-- What runs functions among the members under a name is made up of the shares of the functions that
the class declares. Each has one member for every number of arguments with which a caller can use it,
and none if something is missing that no caller can give by position. -/
theorem Catalog.functionsUnder_making (world : World) (cls : ClassId) (table : ConverterTable)
    (standing : Bool) (name : String) :
    ∃ shares : List (List Member),
      ((Catalog.making world (.cls cls) table).1.functionsUnder standing name).Perm
          shares.flatten ∧
        List.Forall₂
          (fun declared share =>
            declared.HasShare world cls (Catalog.making world (.cls cls) table).2 standing name
                share ∧
              ∀ parameters keys, declared.Normal world parameters keys →
                Parameter.needsKeyword parameters = true ∨
                    declared.way.receives parameters = false → share = [])
          (world.memberFunctions cls) shares := by
  obtain ⟨-, shares, members, has⟩ := CatalogBuilder.adds_addClass world cls standing name { table }
  have start : runningUnder (CatalogBuilder.side standing { table }) name = [] := by
    cases standing <;> rfl
  rw [start, List.nil_append] at members
  refine ⟨shares, ?_, has.imp fun _ _ has => ⟨has, fun _ _ normal => has.eq_nil normal⟩⟩
  rw [← members]
  exact runningUnder_perm _ name

section Greeting

/-- A method with a parameter that needs an argument, one with a default, one for the remaining
arguments and one that only a keyword fills. -/
def greet : FunctionDecl where
  qualifiedName := "K.greet"
  parameters := some
    [{ name := "self", kind := .positionalOnly }, { name := "a", type := .cls (.builtin .int) },
      { name := "b", type := .cls (.builtin .text), default := some (.text "") },
      { name := "rest", kind := .remainingPositional },
      { name := "loud", default := some (.bool false), kind := .keywordOnly }]
  code := .body .echo

/-- The class with that method. -/
def greeting : World :=
  World.addClass {} { name := "K", entries := [("greet", .method greet)] }

theorem normal_greet : MemberFunction.Normal greeting ⟨.method, "greet", "greet", greet⟩
    (greet.parameters.getD []) [.cls (.builtin .int), .cls (.builtin .text)] where
  known := rfl
  ordered := by simp [Parameter.Ordered, greet, Parameter.takesPosition, Parameter.isRequired]
  normalizes := by rfl
  produces _ := by
    have result : ((greet.hint greeting.lookUpType?) greet.result).returnClass = some .object := by
      rfl
    simp [result]

/-- The method is there for one argument and for two. -/
theorem functionsUnder_making_greeting :
    greeting.memberFunctions (.declared "K") = [⟨.method, "greet", "greet", greet⟩] ∧
      ∃ share : List Member,
        ((Catalog.making greeting (.cls (.declared "K")) .standard).1.functionsUnder false
          "greet").Perm share ∧ share.map Member.arity = [1, 2] := by
  have declared : greeting.memberFunctions (.declared "K") =
      [⟨.method, "greet", "greet", greet⟩] := by
    with_unfolding_all rfl
  obtain ⟨shares, perm, each⟩ :=
    Catalog.functionsUnder_making greeting (.declared "K") .standard false "greet"
  rw [declared] at each
  cases each with
  | cons first others =>
      cases others
      refine ⟨declared, _, by simpa only [List.flatten_singleton] using perm, ?_⟩
      rw [first.1.counts normal_greet rfl rfl]
      decide

end Greeting

end MemberDispatch
