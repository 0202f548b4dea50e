import MemberDispatch.Proofs.Converter.Rule
import MemberDispatch.Proofs.Member.Receiving
import MemberDispatch.Proofs.Registry.Reads

/-!
# What reaches a member

With no converters but the standard ones, the arguments that a member is chosen for come to be of the
keys that its parameters are declared with. One kind of class is an exception. A class without an
entry in the table that derives from one with a standard converter is served by this converter, and so
its parameters are filled with values of the ancestor.
-/

namespace MemberDispatch

namespace ConverterTable

/-- That a table holds nothing but standard converters and placeholders. -/
def Plain (table : ConverterTable) : Prop :=
  ∀ entry ∈ table.entries, ∀ coercion ∈ entry.2.coercion, (entry.1, coercion) ∈ standardCoercions

/-- The key whose test decides on arguments for a declared key: the key itself where the table has it,
and the nearest ancestor with a usable converter where it does not. -/
inductive StandsFor (hierarchy : Hierarchy) (table : ConverterTable) : TypeKey → TypeKey → Prop
  | itself {key : TypeKey} (present : key ∈ table.keys) : StandsFor hierarchy table key key
  | ancestor {cls ancestor : ClassId} {nearer farther : List ClassId} {converter : Converter}
      (absent : .cls cls ∉ table.keys)
      (order : (hierarchy.linearization cls).tail = nearer ++ ancestor :: farther)
      (bare : table.Bare nearer) (usable : table.Usable ancestor converter) :
      StandsFor hierarchy table (.cls cls) (.cls ancestor)

variable {world : World} {table larger : ConverterTable} {key : TypeKey} {cls : ClassId}
  {converter : Converter}

theorem Plain.grow {hierarchy : Hierarchy} (plain : table.Plain)
    (grows : Grows hierarchy table larger) : larger.Plain := by
  obtain ⟨gained, append, placeholders⟩ := grows.gains
  intro entry mem coercion found
  rw [append] at mem
  rcases List.mem_append.mp mem with mem | mem
  · exact plain entry mem coercion found
  · have placeholder := (placeholders entry mem).1
    rw [Option.mem_def] at found
    simp [Converter.isPlaceholder, found] at placeholder

/-- The classes with a standard coercion are not abstract. -/
theorem isAbstract_of_standard {coercion : Coercion}
    (standard : (.cls cls, coercion) ∈ standardCoercions) : world.isAbstract cls = false := by
  have kinds : cls ∈ [BuiltinClass.int, .float, .bool, .decimal, .text, .bytes].map
      ClassId.builtin := by
    simp only [standardCoercions, List.mem_cons, Prod.mk.injEq, reduceCtorEq, false_and,
      TypeKey.cls.injEq, false_or, List.not_mem_nil, or_false] at standard
    simp only [List.map_cons, List.map_nil, List.mem_cons, List.not_mem_nil, or_false]
    rcases standard with h | h | h | h | h | h <;> simp [h.1]
  obtain ⟨kind, mem, rfl⟩ := List.mem_map.mp kinds
  simp only [List.mem_cons, List.not_mem_nil, or_false] at mem
  rcases mem with rfl | rfl | rfl | rfl | rfl | rfl <;> rfl

/-- Only ancestors serve a class in a plain table: no class with a standard coercion is abstract. -/
theorem Plain.inherited_of_serving (declared : world.Declared) (plain : table.Plain)
    (orderly : table.Orderly world.hierarchy) (absent : .cls cls ∉ table.keys)
    (serves : table.serving? world.hierarchy (.cls cls) = some converter) :
    table.inherited? world.hierarchy cls = some converter := by
  rw [serving?] at serves
  rcases inherits : table.inherited? world.hierarchy cls with _ | found
  · rw [inherits] at serves
    obtain ⟨ancestor, usable, counts, _⟩ := (orderly.adopted_eq_some_iff absent).mp serves
    obtain ⟨coercion, found⟩ : ∃ coercion, converter.coercion = some coercion := by
      have usable := usable.usable
      simpa [Converter.isPlaceholder, Option.isSome_iff_exists] using usable
    have concrete : world.isAbstract ancestor = false :=
      isAbstract_of_standard (plain _ usable.present coercion found)
    have above := World.mem_linearization_of_isSubclass concrete counts
    obtain ⟨others, line⟩ := List.head?_eq_some_iff.mp (declared.head_linearization cls)
    have bare := orderly.inherited_eq_none_iff.mp inherits
    change table.Bare (world.linearization cls).tail at bare
    rw [line] at above bare
    rcases List.mem_cons.mp above with rfl | higher
    · exact absurd (List.mem_map_of_mem usable.present) absent
    · exact absurd usable (bare ancestor higher converter)
  · rw [inherits] at serves
    exact serves

theorem Plain.standsFor_of_settled (declared : world.Declared) (plain : table.Plain)
    (orderly : table.Orderly world.hierarchy) (settled : table.settled? key = some converter) :
    table.StandsFor world.hierarchy key converter.target ∧ converter.Standard := by
  simp only [settled?, Option.orElse_eq_orElse, Option.orElse_eq_or, Option.or_eq_some_iff]
    at settled
  rcases settled with own | ⟨missing, remembered⟩
  · have mem := mem_of_lookup own
    have target : converter.target = key := orderly.targets _ mem
    constructor
    · rw [target]
      exact .itself (List.mem_map_of_mem mem)
    · intro coercion found
      rw [target]
      exact plain _ mem coercion found
  · have absent := own_eq_none_iff.mp missing
    have serves := orderly.remembers key converter (mem_of_lookup remembered)
    cases key with
    | exact width => cases serves
    | cls cls =>
        have inherits := plain.inherited_of_serving declared orderly absent serves
        obtain ⟨nearer, ancestor, farther, order, bare, usable⟩ :=
          orderly.inherited_eq_some_iff.mp inherits
        have target : converter.target = .cls ancestor := orderly.targets _ usable.present
        constructor
        · rw [target]
          exact .ancestor absent order bare usable
        · intro coercion found
          rw [target]
          exact plain _ usable.present coercion found

/-- The keys whose tests decide are those of the converters that a plain table settled on. -/
theorem Settles.standsFor (declared : world.Declared) (plain : table.Plain)
    (orderly : table.Orderly world.hierarchy) {keys : List TypeKey} {converters : List Converter}
    (settles : table.Settles keys converters) :
    List.Forall₂ (table.StandsFor world.hierarchy) keys (converters.map Converter.target) ∧
      ∀ converter ∈ converters, converter.Standard := by
  induction settles with
  | nil => exact ⟨.nil, by simp⟩
  | cons settled others ih =>
      obtain ⟨stands, standard⟩ := plain.standsFor_of_settled declared orderly settled
      exact ⟨.cons stands ih.1, List.forall_mem_cons.mpr ⟨standard, ih.2⟩⟩

end ConverterTable

/-- The arguments that a member was chosen for have arrived: the caller supplies them for the keys of
the declaration, and each value that is handed over may stand for its argument by the test of its key,
or of the one that stands for the key. -/
structure Engine.Arrives (engine : Engine) (world : World) (owner : Owner)
    (receiver : Option ClassId) (table : ConverterTable) (member : Member)
    (arguments values : List Value) (begun last : Session) (keys tested : List TypeKey) : Prop where
  supplies : world.Supplies owner receiver keys member.name member.role
  stands : List.Forall₂ (table.StandsFor world.hierarchy) keys tested
  delivers : engine.Delivers tested arguments begun values last
  /-- Objects that keep their classes are of them when the member is used, too. -/
  instances (keeps : engine.Keeps Act.keepingClasses) :
    List.Forall₂ (fun key value => begun.Has value → ∀ cls, key = .cls cls →
      (cls = .builtin .bool → engine.SpeaksTruly) →
        world.hierarchy.isSubclass (value.classOf last.objects) cls = true) tested values
  passes (target : Value) :
    engine.use member target values = member.role.handsOver engine target values

namespace Registry

variable {world : World}

theorem Sound.making_of_catalogOf {registry larger : Registry} (sound : registry.Sound world)
    {owner : Owner} {catalog : Catalog} {events : List Event}
    (made : RegistryM.runOn registry (catalogOf world owner) = (.ok catalog, larger, events)) :
    Catalog.making world owner registry.table = (catalog, larger.table) := by
  obtain ⟨outcome_eq, table_eq, -⟩ := mirrors_catalogOf owner { registry } sound rfl
  rw [Rebuild.catalog_on] at outcome_eq table_eq
  have outcome : ((catalogOf world owner).runFrom { registry }).1 = .ok catalog :=
    congrArg Prod.fst made
  have left : ((catalogOf world owner).runFrom { registry }).2.registry = larger :=
    congrArg (fun result => result.2.1) made
  rw [outcome] at outcome_eq
  rw [left] at table_eq
  exact Prod.ext (Except.ok.inj outcome_eq).symm table_eq.symm

theorem position_le_of_supplies {owner : Owner} {receiver : Option ClassId} {keys : List TypeKey}
    {name : String} {function : StaticFunction} {position : ℕ}
    (supplies : world.Supplies owner receiver keys name (.injected function position)) :
    position ≤ keys.length := by
  cases supplies with
  | all offered => cases offered
  | others offered receiver assignable =>
      obtain ⟨within, _⟩ := List.getElem?_eq_some_iff.mp receiver
      rw [List.length_eraseIdx_of_lt within]
      omega

section Counting

/-- A function that takes a value of a class. -/
def taking (qualifiedName : String) (cls : ClassId) : FunctionDecl where
  qualifiedName := qualifiedName
  parameters := some [{ name := "self" }, { name := "a", type := .cls cls }]
  code := .body .echo

/-- A comparison that answers with a number. -/
def answersSeven : FunctionDecl where
  qualifiedName := "Odd.__ne__"
  parameters := some [{ name := "self" }, { name := "other" }]
  code := .body (.constant (.int 7))

/-- Two classes of whole numbers, the second with a comparison of its own, and a class with functions
that take a count and a truth value. -/
def counting : World :=
  ((World.addClass {} { name := "Count", bases := [.builtin .int] }).addClass
    { name := "Odd"
      bases := [.builtin .int]
      entries := [("__ne__", .method answersSeven)] }).addClass
    { name := "K"
      entries := [("f", .method (taking "K.f" (.declared "Count"))),
        ("g", .method (taking "K.g" (.builtin .bool)))] }

/-- The member for the first function, with the converter of whole numbers. -/
def counted : Member where
  name := "f"
  converters := [⟨1, .cls (.builtin .int), some .int⟩]
  returns := .object
  role := .method (.plain (taking "K.f" (.declared "Count")))

/-- The member for the second function. -/
def judged : Member where
  name := "g"
  converters := [⟨7, .cls (.builtin .bool), some .bool⟩]
  returns := .object
  role := .method (.plain (taking "K.g" (.builtin .bool)))

/-- A session with an odd five. -/
def holdingOdd : Session where
  objects := #[{ cls := .declared "Odd", content := .scalar (.int 5) }]

theorem declared_counting : counting.Declared :=
  .cls (.cls (.cls .start _ (by decide) (by decide) (by decide)) _ (by decide) (by decide)
    (by decide)) _ (by decide) (by decide) (by decide)

theorem plain_standard : ConverterTable.standard.Plain := by
  intro entry mem coercion found
  rw [ConverterTable.entries_standard] at mem
  obtain ⟨rank, within, rfl⟩ := List.mem_mapIdx.mp mem
  cases found
  exact List.getElem_mem within

theorem exposes_counting : ∃ catalog registry events,
    RegistryM.runOn { table := .standard } (catalogOf counting (.cls (.declared "K"))) =
        (.ok catalog, registry, events) ∧
      catalog.Exposes counting.hierarchy none counted ∧
        catalog.Exposes counting.hierarchy none judged := by
  refine ⟨_, _, _, rfl, ?_⟩
  have listed : (Catalog.making counting (.cls (.declared "K")) .standard).1.instanceMembers =
      [("f", ⟨"f", [counted]⟩), ("g", ⟨"g", [judged]⟩)] := by
    with_unfolding_all rfl
  constructor
  · refine .ofValues (listed ▸ List.mem_cons_self) ?_
    exact List.mem_singleton_self counted
  · refine .ofValues (listed ▸ List.mem_cons_of_mem _ List.mem_cons_self) ?_
    exact List.mem_singleton_self judged

theorem supplies_counting {name qualifiedName : String} {cls : ClassId}
    (entry : (name, .method (taking qualifiedName cls)) ∈ counting.entries (.declared "K"))
    (signed : (taking qualifiedName cls).signature counting.lookUpType?
      (taking qualifiedName cls).parameters true none =
        .ok ⟨[{ name := "a", type := .cls cls }], [.cls cls], .object⟩) :
    counting.Supplies (.cls (.declared "K")) none [.cls cls] name
      (.method (.plain (taking qualifiedName cls))) := by
  have fills : 1 ∈ FunctionDecl.arities [{ name := "a", type := .cls cls }] :=
    List.mem_singleton_self 1
  exact .all (.method entry signed fills (.inl rfl))

theorem choose_counted :
    (counting.engine.choose ⟨"f", [counted]⟩ true .object [.int 5] 0).runFrom {} =
      (.ok (some ⟨counted, [.int 5]⟩), {}) := by
  with_unfolding_all rfl

end Counting

end Registry

end MemberDispatch
