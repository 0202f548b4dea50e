import MemberDispatch.Proofs.Annotation.Wrappers
import MemberDispatch.Proofs.Catalog.Declared

/-!
# Functions that produce nothing

A function that is declared to produce nothing is left out of the catalog of its owner. What a function
is declared to produce is told from its annotation as a hint, and of the ways to say that this is nothing
a hint only keeps those without metadata. A name for it is told only if all annotations of the function
can be resolved.
-/

namespace MemberDispatch

namespace Annotation

/-- That one of several annotations comes with metadata. -/
def SomeNoted (members : List Annotation) : Prop :=
  ∃ base metadata, annotated base metadata ∈ members

/-- That an annotation comes with metadata, itself or in one of its alternatives. -/
def IsNoted (type : Annotation) : Prop :=
  SomeNoted type.alternatives

section Noted

variable {kept members all : List Annotation} {type other : Annotation}
  {lookUp : String → Option Annotation}

theorem isNoted_annotated (base : Annotation) (metadata : List Metadata) :
    (annotated base metadata).IsNoted :=
  ⟨base, metadata, List.mem_singleton.mpr rfl⟩

theorem isNoted_withMetadata (type : Annotation) (metadata : List Metadata) :
    (type.withMetadata metadata).IsNoted := by
  unfold withMetadata
  split <;> exact isNoted_annotated _ _

/-- Only an annotation with metadata is the same as one with metadata. -/
theorem exists_annotated_of_same {base : Annotation} {metadata : List Metadata}
    (equal : (annotated base metadata).same other = true) :
    ∃ base metadata, other = annotated base metadata := by
  cases other with
  | annotated base metadata => exact ⟨base, metadata, rfl⟩
  | _ => simp [same] at equal

theorem SomeNoted.keep (noted : SomeNoted (kept ++ type :: members)) :
    SomeNoted (keep kept type ++ members) := by
  obtain ⟨base, metadata, mem⟩ := noted
  unfold Annotation.keep
  split
  · rename_i known
    rcases List.mem_append.mp mem with before | behind
    · exact ⟨base, metadata, List.mem_append_left _ before⟩
    · rcases List.mem_cons.mp behind with rfl | behind
      · obtain ⟨other, mem, equal⟩ := List.any_eq_true.mp known
        obtain ⟨base, metadata, rfl⟩ := exists_annotated_of_same equal
        exact ⟨base, metadata, List.mem_append_left _ mem⟩
      · exact ⟨base, metadata, List.mem_append_right _ behind⟩
  · exact ⟨base, metadata, by simpa using mem⟩

theorem SomeNoted.distinct (noted : SomeNoted members) : SomeNoted (distinct members) := by
  have each (members kept : List Annotation) (noted : SomeNoted (kept ++ members)) :
      SomeNoted (members.foldl Annotation.keep kept) := by
    induction members generalizing kept with
    | nil => rwa [List.append_nil] at noted
    | cons member members ih => exact ih ( Annotation.keep kept member) noted.keep
  exact each members [] noted

theorem IsNoted.unionOf (noted : type.IsNoted) (mem : type ∈ members) (piped : Bool) :
    (unionOf piped members).IsNoted := by
  obtain ⟨base, metadata, among⟩ := noted
  have left : SomeNoted ( Annotation.distinct (members.flatMap alternatives)) :=
    SomeNoted.distinct ⟨base, metadata, List.mem_flatMap.mpr ⟨type, mem, among⟩⟩
  rw [ Annotation.unionOf]
  split
  · rename_i single alone
    rw [alone] at left
    obtain ⟨base, metadata, here⟩ := left
    rw [← List.mem_singleton.mp here]
    exact isNoted_annotated base metadata
  · exact left

/-- Metadata keep an annotation from saying that nothing is produced. -/
theorem IsNoted.returnClass_ne (noted : type.IsNoted) : type.returnClass ≠ Option.none := by
  obtain ⟨base, metadata, among⟩ := noted
  have nothing : type ≠ .none ∧ type.isNoneType = false := by
    refine ⟨?_, Bool.eq_false_iff.mpr fun isNone => ?_⟩
    · rintro rfl
      simp [alternatives] at among
    · rw [isNoneType_iff.mp isNone] at among
      simp [alternatives] at among
  unfold returnClass
  split
  · exact absurd rfl nothing.1
  · rw [if_neg (by simp [nothing.2])]
    split <;> simp

theorem exists_mem_resolvedAll (resolves : resolvedAll? lookUp members = some all)
    (mem : type ∈ members) : ∃ other ∈ all, type.resolved? lookUp = some other := by
  induction members generalizing all with
  | nil => cases mem
  | cons member members ih =>
      simp only [resolvedAll?, Option.bind_eq_bind, Option.bind_eq_some_iff, Option.pure_def,
        Option.some.injEq] at resolves
      obtain ⟨first, here, others, behind, rfl⟩ := resolves
      rcases List.mem_cons.mp mem with rfl | mem
      · exact ⟨first, List.mem_cons_self, here⟩
      · obtain ⟨other, among, resolves⟩ := ih behind mem
        exact ⟨other, List.mem_cons_of_mem _ among, resolves⟩

theorem isNoted_of_resolved_annotated {base : Annotation} {metadata : List Metadata}
    (resolves : (annotated base metadata).resolved? lookUp = some other) : other.IsNoted := by
  simp only [resolved?, Option.map_eq_some_iff] at resolves
  obtain ⟨base, -, rfl⟩ := resolves
  exact isNoted_withMetadata base metadata

theorem IsNoted.resolved (noted : type.IsNoted) (resolves : type.resolved? lookUp = some other) :
    other.IsNoted := by
  obtain ⟨base, metadata, among⟩ := noted
  cases type with
  | annotated base metadata => exact isNoted_of_resolved_annotated resolves
  | union piped members =>
      simp only [resolved?, Option.map_eq_some_iff] at resolves
      obtain ⟨all, resolves, rfl⟩ := resolves
      obtain ⟨member, mem, resolves⟩ := exists_mem_resolvedAll resolves among
      exact (isNoted_of_resolved_annotated resolves).unionOf mem piped
  | _ => simp [alternatives] at among

theorem IsNoted.hint (noted : type.IsNoted) (hints : type.hint? lookUp = some other) :
    other.IsNoted := by
  unfold hint? at hints
  split at hints
  · obtain ⟨base, metadata, among⟩ := noted
    simp [alternatives] at among
  · exact noted.resolved hints

end Noted

/-- The ways to declare that nothing is produced. -/
inductive VoidSpelling
  /-- The value that stands for no value. -/
  | value
  /-- The class of that value. -/
  | cls
  /-- The name of that value, as a text. -/
  | name
  /-- What may be left out of another one. -/
  | optional (spelling : VoidSpelling)
  /-- Another one, with metadata. -/
  | annotated (spelling : VoidSpelling) (metadata : List Metadata)

namespace VoidSpelling

def annotation : VoidSpelling → Annotation
  | value => .none
  | cls => noneType
  | name => .named false "None"
  | optional spelling => spelling.annotation.optional
  | annotated spelling metadata => spelling.annotation.withMetadata metadata

/-- Whether a name is left to be looked up. -/
def isNamed : VoidSpelling → Bool
  | value | cls => false
  | name => true
  | optional spelling | annotated spelling _ => spelling.isNamed

def hasMetadata : VoidSpelling → Bool
  | value | cls | name => false
  | optional spelling => spelling.hasMetadata
  | annotated _ _ => true

variable {spelling : VoidSpelling} {lookUp : String → Option Annotation}

theorem isNoted_of_hasMetadata (has : spelling.hasMetadata = true) :
    spelling.annotation.IsNoted := by
  induction spelling with
  | value | cls | name => cases has
  | optional spelling ih => exact (ih has).unionOf List.mem_cons_self false
  | annotated spelling metadata => exact isNoted_withMetadata _ metadata

/-- Without a name and without metadata there is only the value and its class. -/
theorem annotation_of_plain (metadata : spelling.hasMetadata = false)
    (named : spelling.isNamed = false) :
    spelling.annotation = .none ∨ spelling.annotation = noneType := by
  induction spelling with
  | value => exact .inl rfl
  | cls => exact .inr rfl
  | name => cases named
  | optional spelling ih =>
      rcases ih metadata named with same | same
      all_goals exact .inr (by rw [ annotation, same]; rfl)
  | annotated spelling => cases metadata

/-- With a name and without metadata there is only the name, or that it may be left out. -/
theorem annotation_of_named (metadata : spelling.hasMetadata = false)
    (named : spelling.isNamed = true) :
    spelling.annotation = .named false "None" ∨
      spelling.annotation = .union false [.named true "None", noneType] := by
  induction spelling with
  | value | cls => cases named
  | name => exact .inl rfl
  | optional spelling ih =>
      rcases ih metadata named with same | same
      all_goals exact .inr (by rw [ annotation, same]; rfl)
  | annotated spelling => cases metadata

end VoidSpelling

end Annotation

namespace FunctionDecl

/-- That a function is told to produce nothing. -/
def IsVoid (world : World) (function : FunctionDecl) : Prop :=
  (function.hint world.lookUpType? function.result).returnClass = none

variable {world : World} {function : FunctionDecl} {spelling : Annotation.VoidSpelling}

open Annotation in
/-- A function that is declared to produce nothing is told to, unless metadata come with the
declaration, or a name for it is used while another annotation of the function cannot be resolved. -/
theorem isVoid_iff (declared : function.result = spelling.annotation) :
    function.IsVoid world ↔ spelling.hasMetadata = false ∧
      (spelling.isNamed = true → function.hasHints world.lookUpType? = true) := by
  unfold IsVoid hint
  rw [declared]
  rcases noted : spelling.hasMetadata with _ | _
  · rcases named : spelling.isNamed with _ | _
    · rcases VoidSpelling.annotation_of_plain noted named with same | same
      all_goals
        rw [same]
        split <;> simp [hint?, resolved?, returnClass, isNoneType]
    · have known : world.lookUpType? "None" = some noneType := rfl
      rcases VoidSpelling.annotation_of_named noted named with same | same
      · rw [same]
        split
        · simp_all [hint?, resolved?, returnClass, isNoneType]
        · simp_all [returnClass, isNoneType, typeKey]
      · have union : unionOf false [noneType, noneType] = noneType := rfl
        rw [same]
        split
        · simp_all [hint?, resolved?, resolvedAll?, returnClass, isNoneType]
        · simp_all [returnClass, isNoneType, typeKey, soleKey]
  · have isNoted := VoidSpelling.isNoted_of_hasMetadata noted
    refine iff_of_false (IsNoted.returnClass_ne ?_) (by simp)
    split
    · rcases found : spelling.annotation.hint? world.lookUpType? with _ | hint
      · exact isNoted
      · exact isNoted.hint found
    · exact isNoted

theorem not_isVoid_of_signature {parameters : Option (List Parameter)} {dropFirst : Bool}
    {signature : Signature}
    (signed : function.signature world.lookUpType? parameters dropFirst none = .ok signature) :
    ¬ function.IsVoid world := by
  intro isVoid
  unfold FunctionDecl.signature at signed
  split at signed
  · cases signed
  · have nothing : (none <|> (function.hint world.lookUpType? function.result).returnClass) =
        none := isVoid
    simp only [nothing] at signed
    cases signed

end FunctionDecl

/-- What an owner declares to produce something, with the name and the role of the members that its
catalog has for it. The type of an annotated field is not told from a function, and a constructor
produces the instances of its class. -/
inductive World.DeclaresProducing (world : World) : Owner → String → Role → Prop
  | method {cls : ClassId} {ownName : String} {function : FunctionDecl}
      (entry : (ownName, .method function) ∈ world.entries cls)
      (produces : ¬ function.IsVoid world) (arity : ℕ) :
      DeclaresProducing world (.cls cls) (function.exposedName.getD ownName)
        (.method (function.callableAt ownName arity))
  | staticMethod {cls : ClassId} {ownName : String} {function : FunctionDecl}
      (entry : (ownName, .staticMethod function) ∈ world.entries cls)
      (produces : ¬ function.IsVoid world) (receivers : ValueIndex) :
      DeclaresProducing world (.cls cls) (function.exposedName.getD ownName)
        (.static ⟨.plain function, receivers, cls.name ++ "." ++ ownName, false⟩)
  | classMethod {cls : ClassId} {ownName : String} {function : FunctionDecl}
      (entry : (ownName, .classMethod function) ∈ world.entries cls)
      (produces : ¬ function.IsVoid world) (receivers : ValueIndex) :
      DeclaresProducing world (.cls cls) (function.exposedName.getD ownName)
        (.static ⟨.bound cls function, receivers, cls.name ++ "." ++ ownName, false⟩)
  | property {cls : ClassId} {ownName : String} {getter : FunctionDecl}
      (entry : (ownName, .property (some getter)) ∈ world.entries cls)
      (produces : ¬ getter.IsVoid world) :
      DeclaresProducing world (.cls cls) (getter.exposedName.getD ownName)
        (.field (.attribute ownName))
  | slot {cls : ClassId} {name : String} (entry : (name, .slot) ∈ world.entries cls) :
      DeclaresProducing world (.cls cls) name (.field (.attribute name))
  | annotated {className name : String} {decl : ClassDecl} {type : Annotation}
      (found : world.class? className = some decl) (noted : (name, type) ∈ decl.annotations) :
      DeclaresProducing world (.cls (.declared className)) name (.field (.attribute name))
  | constructor {className : String} {decl : ClassDecl} {function : FunctionDecl}
      (found : world.class? className = some decl)
      (entry : decl.entries.lookup "__init__" = some (.method function)) (receivers : ValueIndex) :
      DeclaresProducing world (.cls (.declared className)) decl.name
        (.static ⟨.construct (.declared decl.name), receivers, decl.name ++ ".__init__", true⟩)
  | ofModule {moduleName ownName : String} {module : ModuleDecl} {function : FunctionDecl}
      (found : world.module? moduleName = some module)
      (entry : (ownName, .function true function) ∈ module.entries)
      (produces : ¬ function.IsVoid world) (receivers : ValueIndex) :
      DeclaresProducing world (.moduleNamed moduleName) (function.exposedName.getD ownName)
        (.static ⟨.plain function, receivers, module.name ++ "." ++ ownName, false⟩)

/-- That all members so far come from what an owner declares to produce something. -/
structure CatalogBuilder.OnlyProducing (world : World) (owner : Owner) (builder : CatalogBuilder) :
    Prop where
  ofValues : EachMember (fun member => world.DeclaresProducing owner member.name member.role)
    builder.instanceMembers
  standing : EachMember (fun member => world.DeclaresProducing owner member.name member.role)
    builder.staticMembers

namespace CatalogBuilder

variable {world : World} {owner : Owner} {cls : ClassId} {builder : CatalogBuilder}

theorem OnlyProducing.addField (only : builder.OnlyProducing world owner) {name ownName : String}
    {returns : Option ClassId}
    (declares : returns ≠ none → world.DeclaresProducing owner name (.field (.attribute ownName))) :
    (builder.addField name returns ownName).OnlyProducing world owner := by
  rcases builder.addField_cases name returns ownName with same | ⟨produced, rfl, added⟩
  · rwa [same]
  · rw [added]
    exact ⟨only.ofValues.addTo (declares nofun), only.standing⟩

theorem OnlyProducing.addMethod (only : builder.OnlyProducing world (.cls cls)) {ownName : String}
    {function : FunctionDecl} (entry : (ownName, .method function) ∈ world.entries cls) :
    (builder.addMethod world cls (function.exposedName.getD ownName) ownName function).OnlyProducing
      world (.cls cls) := by
  unfold CatalogBuilder.addMethod
  split
  · exact only
  · exact ⟨only.ofValues, only.standing⟩
  · rename_i signature signed
    have produces := FunctionDecl.not_isVoid_of_signature signed
    refine List.foldlRecOn _ _ only fun builder only arity _ => ?_
    exact ⟨only.ofValues.addTo (.method entry produces arity), only.standing⟩

/-- A function that stands by itself is gone through only if it has a signature. -/
theorem OnlyProducing.addStatic (only : builder.OnlyProducing world owner)
    {name qualifiedName : String} {function : FunctionDecl} {callable : Callable}
    {parameters : Option (List Parameter)} {constructs : Option ClassId}
    (declares : (constructs = none → ¬ function.IsVoid world) → ∀ receivers,
      world.DeclaresProducing owner name
        (.static ⟨callable, receivers, qualifiedName, constructs.isSome⟩)) :
    (builder.addStatic world name qualifiedName function callable parameters
      constructs).OnlyProducing world owner := by
  unfold CatalogBuilder.addStatic
  split
  · exact only
  · exact ⟨only.ofValues, only.standing⟩
  · rename_i signature signed
    have produces : constructs = none → ¬ function.IsVoid world := by
      rintro rfl
      exact FunctionDecl.not_isVoid_of_signature signed
    refine List.foldlRecOn _ _ only fun builder only arity _ => ?_
    exact ⟨only.ofValues, only.standing.addTo (declares produces _)⟩

theorem Addition.onlyProducing {step : CatalogBuilder → CatalogBuilder}
    (addition : Addition world owner step) (builder : CatalogBuilder)
    (only : builder.OnlyProducing world owner) : (step builder).OnlyProducing world owner := by
  cases addition with
  | staticMethod entry => exact only.addStatic fun produces => .staticMethod entry (produces rfl)
  | classMethod entry => exact only.addStatic fun produces => .classMethod entry (produces rfl)
  | property entry => exact only.addField fun produces => .property entry produces
  | slot entry => exact only.addField fun _ => .slot entry
  | method entry => exact only.addMethod entry
  | annotated found noted returns => exact only.addField fun _ => .annotated found noted
  | constructor found entry => exact only.addStatic fun _ => .constructor found entry
  | ofModule found entry => exact only.addStatic fun produces => .ofModule found entry (produces rfl)

end CatalogBuilder

/-- Every member of a catalog comes from what the owner declares, and from no function that is told to
produce nothing. A function that is declared to produce nothing is told to, however this is said,
unless metadata come with it, or a name for it is used while another annotation of the function cannot
be resolved. -/
theorem Catalog.producing_making (world : World) (owner : Owner) (table : ConverterTable) :
    EachMember (fun member => world.DeclaresProducing owner member.name member.role)
        (Catalog.making world owner table).1.instanceMembers ∧
      EachMember (fun member => world.DeclaresProducing owner member.name member.role)
        (Catalog.making world owner table).1.staticMembers ∧
      ∀ (function : FunctionDecl) (spelling : Annotation.VoidSpelling),
        function.result = spelling.annotation →
        (function.IsVoid world ↔ spelling.hasMetadata = false ∧
          (spelling.isNamed = true → function.hasHints world.lookUpType? = true)) := by
  have fresh : CatalogBuilder.OnlyProducing world owner { table } :=
    ⟨fun _ listed => absurd listed List.not_mem_nil, fun _ listed => absurd listed List.not_mem_nil⟩
  have only := (CatalogBuilder.additions_stepsFor world owner).preserve
    (fun _ addition => addition.onlyProducing) fresh
  simp only [Catalog.making, Catalog.build_eq]
  exact ⟨only.ofValues, only.standing, fun _ _ => FunctionDecl.isVoid_iff⟩

section Quiet

/-- A method without arguments that declares its result. -/
def quiet (name : String) (result : Annotation) (others : List Parameter) : FunctionDecl where
  qualifiedName := "K." ++ name
  parameters := some ({ name := "self" } :: others)
  result
  code := .body (.constant .none)

/-- One that produces nothing. -/
def mute : FunctionDecl :=
  quiet "mute" .none []

/-- One with the name of that, beside a parameter whose annotation names nothing. -/
def whisper : FunctionDecl :=
  quiet "whisper" (.named false "None")
    [{ name := "loud", type := .named false "Nope", default := some .none, kind := .keywordOnly }]

/-- One that produces nothing, with a note. -/
def murmur : FunctionDecl :=
  quiet "murmur" (.annotated Annotation.noneType [.note "nothing"]) []

/-- A class with these methods. -/
def quietly : World :=
  World.addClass {}
    { name := "K"
      entries := [("mute", .method mute), ("whisper", .method whisper), ("murmur", .method murmur)] }

/-- Two of the three methods, which all declare to produce nothing, are in the catalog. -/
theorem Catalog.lists_whisper_and_murmur :
    mute.result = Annotation.VoidSpelling.value.annotation ∧
      whisper.result = Annotation.VoidSpelling.name.annotation ∧
      murmur.result = Annotation.VoidSpelling.annotation (.annotated .value [.note "nothing"]) ∧
      (Catalog.making quietly (.cls (.declared "K")) .standard).1.instanceMembers.map (·.1) =
        ["whisper", "murmur"] :=
  ⟨rfl, rfl, rfl, by decide +kernel⟩

/-- Only the first of them is told to produce nothing. -/
theorem Catalog.producing_making_quietly :
    mute.IsVoid quietly ∧ ¬ whisper.IsVoid quietly ∧ ¬ murmur.IsVoid quietly ∧
      EachMember
        (fun member =>
          quietly.DeclaresProducing (.cls (.declared "K")) member.name member.role)
        (Catalog.making quietly (.cls (.declared "K")) .standard).1.instanceMembers := by
  obtain ⟨ofValues, -, told⟩ :=
    Catalog.producing_making quietly (.cls (.declared "K")) .standard
  refine ⟨(told mute .value rfl).mpr ⟨rfl, nofun⟩, ?_, ?_, ofValues⟩
  · rw [told whisper .name rfl]
    rintro ⟨-, hints⟩
    exact absurd (hints rfl) (by decide +kernel)
  · rw [told murmur (.annotated .value [.note "nothing"]) rfl]
    rintro ⟨metadata, -⟩
    cases metadata

end Quiet

end MemberDispatch
