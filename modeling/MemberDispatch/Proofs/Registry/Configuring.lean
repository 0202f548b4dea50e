import Mathlib
import MemberDispatch.Configuration
import MemberDispatch.Proofs.Session.Tending

/-!
# How configuring ends

Making a registry from a configuration gives a registry or ends in a fault. Nearly every fault is a
complaint about the configuration. The others are told apart here by where they come from: providers of
a class that are given as neither names nor a list of names, a name that is no text and holds a number
too long to be displayed, a name that is relative to no module, keys that are no texts, and what the
things that were named do when their attributes are read or when they are displayed.
-/

namespace MemberDispatch

/-- That data is part of other data. -/
inductive Document.Within (part : Document) : Document → Prop
  | whole : Within part part
  | item {items : List Document} {item : Document} (mem : item ∈ items) (within : Within part item) :
      Within part (.list items)
  | key {entries : List (Document × Document)} {key value : Document} (mem : (key, value) ∈ entries)
      (within : Within part key) : Within part (.mapping entries)
  | value {entries : List (Document × Document)} {key value : Document}
      (mem : (key, value) ∈ entries) (within : Within part value) : Within part (.mapping entries)

/-- That data is neither a text nor made of other data. -/
def Document.Scalar : Document → Prop
  | .text _ | .list _ | .mapping _ => False
  | _ => True

namespace Engine

/-- That the parts of some name of a configuration lead to something: to a module, or to an attribute of
what they lead to. -/
inductive Reached (engine : Engine) (configuration : Document) : NamedThing → Prop
  | module {name asked : String} {module : ModuleDecl}
      (within : (Document.text name).Within configuration)
      (asks : asked = name ∨ asked = (splitName name).1)
      (found : engine.world.module? asked = some module) :
      Reached engine configuration (.value (.moduleNamed module.name))
  | attribute {thing found : NamedThing} {name part : String} {before after : Session}
      (reached : Reached engine configuration thing)
      (within : (Document.text name).Within configuration)
      (among : part ∈ (splitName name).2.splitOn ".")
      (run : (engine.attributeOfNamed? thing part).runFrom before = (.ok (some found), after)) :
      Reached engine configuration found

/-- That a module or class declares the term of a value under a name. -/
inductive Declares (engine : Engine) : NamedThing → String → Term → Prop
  | module {name part : String} {module : ModuleDecl} {term : Term}
      (found : engine.world.module? name = some module)
      (entry : module.entries.lookup part = some (.value term)) :
      Declares engine (.value (.moduleNamed name)) part term
  | cls {cls owner : ClassId} {part : String} {term : Term}
      (entry : engine.world.entryAlong? cls part = some (owner, .value term)) :
      Declares engine (.value (.cls cls)) part term

/-- Work on what the names of a configuration lead to: making the value of an entry, reading an
attribute, and displaying. -/
inductive Touches (engine : Engine) (configuration : Document) : ∀ {α : Type}, Act α → Prop
  | making {thing : NamedThing} {part : String} {term : Term}
      (reached : engine.Reached configuration thing) (declares : engine.Declares thing part term) :
      Touches engine configuration (Act.make term)
  | reading {value : Value} (reached : engine.Reached configuration (.value value)) (part : String) :
      Touches engine configuration (engine.attributeOf value part)
  | showing {value : Value} (reached : engine.Reached configuration (.value value)) :
      Touches engine configuration (engine.display value)

/-- The faults that such work brings up: those that it raises, the lack of an attribute aside, and the
lack of a registry that it removed. -/
inductive Foils (engine : Engine) (configuration : Document) : Fault → Prop
  | making {thing : NamedThing} {part : String} {term : Term} {before after : Session} {fault : Fault}
      (reached : engine.Reached configuration thing) (declares : engine.Declares thing part term)
      (run : (Act.make term).runFrom before = (.error fault, after)) :
      Foils engine configuration fault
  | reading {value : Value} {part : String} {before after : Session} {fault : Fault}
      (reached : engine.Reached configuration (.value value))
      (run : (engine.attributeOf value part).runFrom before = (.error fault, after))
      (other : fault.kind ≠ .attributeError) : Foils engine configuration fault
  | showing {value : Value} {before after : Session} {fault : Fault}
      (reached : engine.Reached configuration (.value value))
      (run : (engine.display value).runFrom before = (.error fault, after)) :
      Foils engine configuration fault
  | removed {α : Type} {work : Act α} (touches : engine.Touches configuration work)
      {before : Session}
      (fewer : (work.runFrom before).2.registries.size < before.registries.size) :
      Foils engine configuration Registry.missing

/-- The faults that making a registry from a configuration may end in. -/
inductive Misconfigured (engine : Engine) (configuration : Document) : Fault → Prop
  | complaint (issue : ConfigurationIssue) : Misconfigured engine configuration (.configuration issue)
  | scalar {entries : List (Document × Document)} {className names : Document}
      (found : configuration.find? "functions" = some (.mapping entries))
      (mem : (className, names) ∈ entries) (scalar : names.Scalar) :
      Misconfigured engine configuration
        (.typeError ("'" ++ names.className ++ "' object is not iterable"))
  | tooLong {number : ℤ} {issue : IntegerTextIssue}
      (within : (Document.int number).Within configuration)
      (long : writeInteger number = .error issue) :
      Misconfigured engine configuration (.valueError issue.message)
  | relative {name asked : String} (within : (Document.text name).Within configuration)
      (asks : asked = name ∨ asked = (splitName name).1) (starts : asked.startsWith "." = true) :
      Misconfigured engine configuration
        (.typeError ("the 'package' argument is required to perform a relative import for " ++
          Text.quoted asked))
  | badKey {entries : List (Document × Document)} {key : Document}
      (made : configuration = .mapping entries) (mem : key ∈ entries.map Prod.fst)
      (noText : ∀ name, key ≠ .text name) (text : String) :
      Misconfigured engine configuration (.typeError text)
  | foiled {fault : Fault} (foils : engine.Foils configuration fault) :
      Misconfigured engine configuration fault

end Engine

namespace Document

variable {part middle whole : Document}

theorem Within.trans (inner : part.Within middle) (outer : middle.Within whole) :
    part.Within whole := by
  induction outer with
  | whole => exact inner
  | item mem _ ih => exact .item mem ih
  | key mem _ ih => exact .key mem ih
  | value mem _ ih => exact .value mem ih

theorem within_of_find? {name : String} (found : whole.find? name = some part) :
    part.Within whole := by
  cases whole with
  | mapping entries =>
      obtain ⟨entry, present, rfl⟩ := Option.map_eq_some_iff.mp found
      exact .value (List.mem_of_find?_eq_some present) .whole
  | _ => cases found

mutual

theorem within_of_mem_integers {number : ℤ} : ∀ document : Document,
    number ∈ document.integers → (int number).Within document
  | .int value, mem => by
      rw [integers, List.mem_singleton] at mem
      rw [mem]
      exact .whole
  | .list items, mem => by
      obtain ⟨item, present, within⟩ := exists_of_mem_integersAmong items mem
      exact .item present within
  | .mapping entries, mem => by
      obtain ⟨key, value, present, within | within⟩ := exists_of_mem_integersOfEntries entries mem
      · exact .key present within
      · exact .value present within
  | .none, mem | .bool _, mem | .float _, mem | .text _, mem => absurd mem List.not_mem_nil

theorem exists_of_mem_integersAmong {number : ℤ} : ∀ items : List Document,
    number ∈ integersAmong items → ∃ item ∈ items, (int number).Within item
  | [], mem => absurd mem List.not_mem_nil
  | item :: items, mem => by
      rcases List.mem_append.mp mem with here | behind
      · exact ⟨item, List.mem_cons_self, within_of_mem_integers item here⟩
      · obtain ⟨other, present, within⟩ := exists_of_mem_integersAmong items behind
        exact ⟨other, List.mem_cons_of_mem _ present, within⟩

theorem exists_of_mem_integersOfEntries {number : ℤ} : ∀ entries : List (Document × Document),
    number ∈ integersOfEntries entries → ∃ key value, (key, value) ∈ entries ∧
      ((int number).Within key ∨ (int number).Within value)
  | [], mem => absurd mem List.not_mem_nil
  | (key, value) :: entries, mem => by
      rcases List.mem_append.mp mem with here | behind
      · refine ⟨key, value, List.mem_cons_self, ?_⟩
        rcases List.mem_append.mp here with inKey | inValue
        · exact .inl (within_of_mem_integers key inKey)
        · exact .inr (within_of_mem_integers value inValue)
      · obtain ⟨otherKey, otherValue, present, within⟩ :=
          exists_of_mem_integersOfEntries entries behind
        exact ⟨otherKey, otherValue, List.mem_cons_of_mem _ present, within⟩

end

end Document

namespace Engine

variable {engine : Engine} {configuration name : Document} {id : ℕ}

section Reading

variable {thing : NamedThing} {value : Value}

theorem Touches.stays {α : Type} {work : Act α} (touches : engine.Touches configuration work)
    (session : Session) (accounts : session.Accounts id (engine.Misconfigured configuration)) :
    (work.runFrom session).2.Accounts id (engine.Misconfigured configuration) := by
  rcases accounts with lacks | present
  · exact .inl lacks
  · by_cases fewer : (work.runFrom session).2.registries.size < session.registries.size
    · exact .inl (.foiled (.removed touches fewer))
    · exact .inr (Nat.lt_of_lt_of_le present (Nat.not_lt.mp fewer))

theorem tends_make {part : String} {term : Term} (reached : engine.Reached configuration thing)
    (declares : engine.Declares thing part term) :
    (Act.make term).Tends id (engine.Misconfigured configuration) fun _ => True := by
  intro session accounts
  refine ⟨(Touches.making reached declares).stays session accounts, fun _ _ => trivial, ?_⟩
  exact fun fault raised => .foiled (.making reached declares (Prod.ext raised rfl))

theorem tends_displayNamed (reached : engine.Reached configuration thing) :
    (engine.displayNamed thing).Tends id (engine.Misconfigured configuration) fun _ => True := by
  cases thing with
  | value value =>
      intro session accounts
      refine ⟨(Touches.showing reached).stays session accounts, fun _ _ => trivial, ?_⟩
      exact fun fault raised => .foiled (.showing reached (Prod.ext raised rfl))
  | descriptor kind => exact .pure trivial

theorem tends_shortName (reached : engine.Reached configuration thing) :
    (engine.shortName thing).Tends id (engine.Misconfigured configuration) fun _ => True := by
  unfold shortName
  split
  · exact .pure trivial
  · exact .pure trivial
  · exact tends_displayNamed reached

theorem tends_moduleAttribute? {name : String} {module : ModuleDecl}
    (reached : engine.Reached configuration (.value (.moduleNamed name)))
    (found : engine.world.module? name = some module) (part : String) :
    (moduleAttribute? module part).Tends id (engine.Misconfigured configuration)
      fun _ => True := by
  have makesList (items : List Value) :
      (Act.makeList items).Tends id (engine.Misconfigured configuration) fun _ => True :=
    fun _ accounts => ⟨accounts, fun _ _ => trivial, nofun⟩
  unfold moduleAttribute?
  split
  · rename_i entry isEntry
    have makes : (moduleEntry entry).Tends id (engine.Misconfigured configuration)
        fun _ => True := by
      unfold moduleEntry
      split
      · exact .pure trivial
      · exact .pure trivial
      · exact tends_make reached (.module found isEntry)
    exact makes.bind fun value _ => .pure trivial
  · exact .pure trivial
  · exact (makesList _).bind fun value _ => .pure trivial
  · exact .pure trivial

theorem tends_classAttribute? {cls : ClassId}
    (reached : engine.Reached configuration (.value (.cls cls))) (part : String) :
    (engine.classAttribute? cls part).Tends id (engine.Misconfigured configuration)
      fun _ => True := by
  unfold classAttribute?
  split
  any_goals exact .pure trivial
  split
  · exact .pure trivial
  · rename_i owner entry isEntry
    split
    any_goals exact .pure trivial
    · split
      all_goals exact .pure trivial
    · exact (tends_make reached (.cls isEntry)).bind fun value _ => .pure trivial

/-- Reading an attribute of a value, where the lack of it is no fault. -/
theorem tends_attributeOfNamed? (reached : engine.Reached configuration thing) (part : String) :
    (engine.attributeOfNamed? thing part).Tends id (engine.Misconfigured configuration)
      fun _ => True := by
  unfold attributeOfNamed?
  split
  · exact .pure trivial
  · split
    · rename_i module found
      exact tends_moduleAttribute? reached found part
    · exact .pure trivial
  · exact tends_classAttribute? reached part
  · exact .pure trivial
  · rename_i value _ _ _
    refine .attempt (Touches.reading reached part).stays fun session _ => ?_
    rcases run : (engine.attributeOf value part).runFrom session with ⟨fault | found, after⟩
    · dsimp only
      split
      · exact .pure trivial
      · rename_i other
        exact .throw (.foiled (.reading reached run fun same => other (beq_iff_eq.mpr same)))
    · exact .pure trivial

/-- The parts of a name lead on from what was reached. -/
theorem tends_attributePath {name : String} {parts : List String}
    (within : (Document.text name).Within configuration)
    (among : ∀ part ∈ parts, part ∈ (splitName name).2.splitOn ".")
    (reached : engine.Reached configuration thing) :
    (engine.attributePath name thing parts).Tends id (engine.Misconfigured configuration)
      (engine.Reached configuration) := by
  induction parts generalizing thing with
  | nil => exact .pure reached
  | cons part parts ih =>
      obtain ⟨here, behind⟩ := List.forall_mem_cons.mp among
      unfold attributePath
      refine (tends_attributeOfNamed? reached part).ran.bind ?_
      rintro found ⟨before, after, run⟩
      cases found with
      | some found => exact ih behind (.attribute reached within here run)
      | none => exact .throw (.complaint _)

end Reading

section Naming

theorem tends_displayData (within : name.Within configuration) :
    (displayData name).Tends id (engine.Misconfigured configuration) fun _ => True := by
  have written (number : ℤ) (mem : number ∈ name.integers) :
      (Act.integerText number).Tends id (engine.Misconfigured configuration) fun _ => True := by
    unfold Act.integerText
    split
    · exact .pure trivial
    · rename_i issue long
      exact .throw (.tooLong ((Document.within_of_mem_integers name mem).trans within) long)
  exact (Act.Tends.mapM written).bind fun texts _ => .pure trivial

theorem tends_importModule? {name asked : String}
    (within : (Document.text name).Within configuration)
    (asks : asked = name ∨ asked = (splitName name).1) :
    (engine.importModule? asked).Tends id (engine.Misconfigured configuration)
      fun found => ∀ module ∈ found, engine.Reached configuration
        (.value (.moduleNamed module.name)) := by
  unfold importModule?
  split
  · rename_i starts
    exact .throw (.relative within asks starts)
  · exact .pure fun module found => .module within asks found

theorem tends_nameText (within : name.Within configuration) :
    (nameText name).Tends id (engine.Misconfigured configuration)
      fun text => name = .text text := by
  unfold nameText
  split
  · split
    · exact .throw (.complaint _)
    · exact .pure rfl
  · exact (tends_displayData within).bind fun shown _ => .throw (.complaint _)

/-- A name of a configuration leads to something, or there is a complaint, or the name is relative. -/
theorem tends_resolveName (within : name.Within configuration) :
    (engine.resolveName name).Tends id (engine.Misconfigured configuration)
      (engine.Reached configuration) := by
  unfold resolveName
  refine (tends_nameText within).bind ?_
  rintro text rfl
  extract_lets placing
  have placed (whole : Option ModuleDecl)
      (modules : ∀ module ∈ whole, engine.Reached configuration
        (.value (.moduleNamed module.name))) :
      (placing whole).Tends id (engine.Misconfigured configuration)
        (engine.Reached configuration) := by
    cases whole with
    | some module => exact .pure (modules module rfl)
    | none =>
        dsimp only [placing]
        split
        · exact .throwBind (.complaint _) _
        · refine (tends_importModule? within (.inr rfl)).bind fun found reached => ?_
          cases found with
          | none => exact .throw (.complaint _)
          | some module =>
              exact tends_attributePath within (fun _ mem => mem) (reached module rfl)
  split
  · exact .bind (.pure nofun) placed
  · exact (tends_importModule? within (.inl rfl)).bind placed

end Naming

section Sections

variable {entries : List (Document × Document)}

/-- The entries of a section are entries of a mapping that the configuration has under its name. -/
theorem tends_sectionEntries (configuration : Document) (name : String) :
    (sectionEntries configuration name).Tends id (engine.Misconfigured configuration)
      fun entries => ∀ entry ∈ entries, ∃ others,
        configuration.find? name = some (.mapping others) ∧ entry ∈ others := by
  unfold sectionEntries
  split
  · exact .pure nofun
  · rename_i found isFound
    split
    · exact .pure nofun
    · split
      · exact .pure fun entry mem => ⟨_, isFound, mem⟩
      · exact .throw (.complaint _)

theorem tends_converterKey (within : name.Within configuration) :
    (engine.converterKey name).Tends id (engine.Misconfigured configuration) fun _ => True := by
  unfold converterKey
  extract_lets width?
  clear_value width?
  split
  · exact .pure trivial
  · refine (tends_resolveName within).bind fun thing reached => ?_
    split
    · exact .pure trivial
    · exact (tends_shortName reached).bind fun shown _ => .throw (.complaint _)

theorem tends_configureConverters
    (within : ∀ entry ∈ entries, entry.1.Within configuration ∧ entry.2.Within configuration) :
    (engine.configureConverters id entries).Tends id (engine.Misconfigured configuration)
      fun _ => True := by
  induction entries with
  | nil => exact .pure trivial
  | cons entry entries ih =>
      obtain ⟨⟨keyWithin, nameWithin⟩, behind⟩ := List.forall_mem_cons.mp within
      unfold configureConverters
      refine (tends_resolveName nameWithin).bind fun thing _ => ?_
      extract_lets callable?
      clear_value callable?
      cases callable? with
      | none => exact .throw (.complaint _)
      | some callable =>
          refine (tends_converterKey keyWithin).bind fun key _ => ?_
          exact (Act.tends_onRegistry .complaint _).bind fun _ _ => ih behind

theorem mem_of_leadingProviders {things : List NamedThing} {owners : List Owner}
    {refused : NamedThing} (leads : leadingProviders things = (owners, some refused)) :
    refused ∈ things := by
  induction things generalizing owners with
  | nil => cases leads
  | cons thing things ih =>
      unfold leadingProviders at leads
      split at leads
      · cases leads
        exact List.mem_cons_self
      · rcases others : leadingProviders things with ⟨more, other⟩
        rw [others] at leads
        cases leads
        exact List.mem_cons_of_mem _ (ih others)

theorem tends_registerProviders {cls : NamedThing} {providers : List NamedThing}
    (ofClass : engine.Reached configuration cls)
    (ofProviders : ∀ provider ∈ providers, engine.Reached configuration provider) :
    (engine.registerProviders id cls providers).Tends id (engine.Misconfigured configuration)
      fun _ => True := by
  have registers {α : Type} (work : RegistryM α) :
      (Act.onRegistry id work).Tends id (engine.Misconfigured configuration) fun _ => True :=
    Act.tends_onRegistry .complaint work
  unfold registerProviders
  split
  · split
    · exact registers _
    · rename_i owners refused leads
      refine .attempt (fun session accounts => (registers _ session accounts).accounts) ?_
      intro session accounts
      split
      · have reached := ofProviders refused (mem_of_leadingProviders leads)
        exact (tends_displayNamed reached).bind fun shown _ => .throw (.complaint _)
      · rename_i fault _ raised
        exact .throw ((registers _ session accounts).fault fault raised)
      · exact .pure trivial
  · exact (tends_displayNamed ofClass).bind fun shown _ => .throw (.complaint _)

/-- The names of providers are part of what the class has for its value. -/
theorem tends_providerNames {entries : List (Document × Document)} {className names : Document}
    (found : configuration.find? "functions" = some (.mapping entries))
    (mem : (className, names) ∈ entries) :
    (providerNames names).Tends id (engine.Misconfigured configuration)
      fun listed => ∀ name ∈ listed, name.Within names := by
  cases names with
  | text text =>
      refine .pure fun name mem => ?_
      rw [List.mem_singleton.mp mem]
      exact .whole
  | list items => exact .pure fun name mem => .item mem .whole
  | mapping entries =>
      refine .pure fun name mem => ?_
      obtain ⟨entry, present, rfl⟩ := List.mem_map.mp mem
      exact .key present .whole
  | _ => exact .throw (.scalar found mem trivial)

theorem tends_configureProviders
    (listed : ∀ entry ∈ entries, ∃ others,
      configuration.find? "functions" = some (.mapping others) ∧ entry ∈ others) :
    (engine.configureProviders id entries).Tends id (engine.Misconfigured configuration)
      fun _ => True := by
  induction entries with
  | nil => exact .pure trivial
  | cons entry entries ih =>
      obtain ⟨⟨others, found, mem⟩, behind⟩ := List.forall_mem_cons.mp listed
      have outer := Document.within_of_find? found
      have resolves (name : Document) (within : name.Within entry.2) :
          (engine.resolveName name).Tends id (engine.Misconfigured configuration)
            (engine.Reached configuration) :=
        tends_resolveName (within.trans (.trans (.value mem .whole) outer))
      unfold configureProviders
      refine (tends_resolveName (.trans (.key mem .whole) outer)).bind fun cls ofClass => ?_
      refine (tends_providerNames found mem).bind fun names within => ?_
      refine (Act.Tends.mapM fun name among => resolves name (within name among)).bind ?_
      intro providers ofProviders
      exact (tends_registerProviders ofClass ofProviders).bind fun _ _ => ih behind

end Sections

section Configuring

variable {entries : List (Document × Document)} {session after : Session}

/-- Keys of a configuration are refused with a complaint, except such as are no texts. -/
theorem refuseUnknownKeys_ends (made : configuration = .mapping entries) (session : Session) :
    (refuseUnknownKeys entries).runFrom session = (.ok (), session) ∨
      ∃ fault, (refuseUnknownKeys entries).runFrom session = (.error fault, session) ∧
        engine.Misconfigured configuration fault := by
  unfold refuseUnknownKeys
  extract_lets unknown names
  split
  · rename_i key found
    have among : key ∈ entries.map Prod.fst :=
      (List.mem_filter.mp (List.mem_of_find?_eq_some found)).1
    have noText (name : String) : key ≠ .text name := by
      intro isText
      have other := List.find?_some found
      rw [isText] at other
      change ("str" != "str") = true at other
      exact absurd other (by decide)
    split
    · exact .inr ⟨_, rfl, .badKey made among noText _⟩
    · exact .inr ⟨_, rfl, .badKey made among noText _⟩
  · split
    · exact .inl rfl
    · exact .inr ⟨_, rfl, .complaint _⟩

/-- Whoever registers providers finds the registry there in the end. -/
theorem present_of_registerProviders {cls : NamedThing} {providers : List NamedThing}
    (run : (engine.registerProviders id cls providers).runFrom session = (.ok (), after)) :
    id < after.registries.size := by
  unfold registerProviders at run
  split at run
  · split at run
    · have present := Act.present_of_onRegistry (congrArg Prod.fst run)
      rw [run] at present
      exact present
    · obtain ⟨outcome, between, attempted, rest⟩ := Act.exists_of_runFrom_bind run
      rw [Act.runFrom_attempt] at attempted
      obtain ⟨made, rfl⟩ := Prod.mk.inj attempted
      split at rest
      · obtain ⟨shown, _, _, rest⟩ := Act.exists_of_runFrom_bind rest
        cases rest
      · cases rest
      · obtain ⟨-, rfl⟩ := Prod.mk.inj rest
        exact Act.present_of_onRegistry (Except.ok.inj made)
  · obtain ⟨shown, _, _, rest⟩ := Act.exists_of_runFrom_bind run
    cases rest

theorem present_of_configureProviders (present : id < session.registries.size)
    (run : (engine.configureProviders id entries).runFrom session = (.ok (), after)) :
    id < after.registries.size := by
  induction entries generalizing session with
  | nil =>
      cases run
      exact present
  | cons entry entries ih =>
      unfold configureProviders at run
      obtain ⟨cls, _, _, rest⟩ := Act.exists_of_runFrom_bind run
      obtain ⟨names, _, _, rest⟩ := Act.exists_of_runFrom_bind rest
      obtain ⟨providers, _, _, rest⟩ := Act.exists_of_runFrom_bind rest
      obtain ⟨_, between, registered, rest⟩ := Act.exists_of_runFrom_bind rest
      exact ih (present_of_registerProviders registered) rest

theorem present_of_configureConverters (present : id < session.registries.size)
    (run : (engine.configureConverters id entries).runFrom session = (.ok (), after)) :
    id < after.registries.size := by
  induction entries generalizing session with
  | nil =>
      cases run
      exact present
  | cons entry entries ih =>
      unfold configureConverters at run
      obtain ⟨thing, _, _, rest⟩ := Act.exists_of_runFrom_bind run
      extract_lets callable? at rest
      clear_value callable?
      cases callable? with
      | none => cases rest
      | some callable =>
          obtain ⟨key, _, _, rest⟩ := Act.exists_of_runFrom_bind rest
          obtain ⟨changed, between, registered, rest⟩ := Act.exists_of_runFrom_bind rest
          have present := Act.present_of_onRegistry (congrArg Prod.fst registered)
          rw [registered] at present
          exact ih present rest

/-- What is done with a new registry: its converters, the built-in providers and its own providers. -/
def fill (engine : Engine) (configuration : Document) (id : ℕ) : Act ℕ := do
  engine.configureConverters id (← sectionEntries configuration "converters")
  if ((configuration.find? "defaults").map Document.isTrue).getD true then
    Act.onRegistry id (Registry.installStandardProviders engine.world)
  engine.configureProviders id (← sectionEntries configuration "functions")
  return id

theorem configure_mapping (engine : Engine) (entries : List (Document × Document)) :
    engine.configure (.mapping entries) =
      (refuseUnknownKeys entries >>= fun _ =>
        Act.addRegistry Registry.installStandardCoercions >>= engine.fill (.mapping entries)) :=
  rfl

theorem tends_fill (engine : Engine) (configuration : Document) (id : ℕ) :
    (engine.fill configuration id).Tends id (engine.Misconfigured configuration) fun _ => True := by
  have providers : Act.Tends id (engine.Misconfigured configuration) (fun _ => True) (do
      engine.configureProviders id (← sectionEntries configuration "functions")
      return id) := by
    refine (tends_sectionEntries configuration "functions").bind fun entries listed => ?_
    exact (tends_configureProviders listed).bind fun _ _ => .pure trivial
  unfold fill
  refine (tends_sectionEntries configuration "converters").bind fun entries listed => ?_
  refine (tends_configureConverters fun entry mem => ?_).bind fun _ _ => ?_
  · obtain ⟨others, found, among⟩ := listed entry mem
    have outer := Document.within_of_find? found
    exact ⟨.trans (.key among .whole) outer, .trans (.value among .whole) outer⟩
  · dsimp only
    split
    · exact (Act.tends_onRegistry .complaint _).bind fun _ _ => providers
    · exact providers

theorem session_of_sectionEntries {name : String}
    (run : (sectionEntries configuration name).runFrom session = (.ok entries, after)) :
    after = session := by
  unfold sectionEntries at run
  split at run
  · cases run
    rfl
  · split at run
    · cases run
      rfl
    · split at run
      · cases run
        rfl
      · cases run

theorem present_of_fill {given : ℕ} (present : id < session.registries.size)
    (run : (engine.fill configuration id).runFrom session = (.ok given, after)) :
    given = id ∧ id < after.registries.size := by
  have provided {session : Session} (present : id < session.registries.size)
      (run : (do
        engine.configureProviders id (← sectionEntries configuration "functions")
        return id : Act ℕ).runFrom session = (.ok given, after)) :
      given = id ∧ id < after.registries.size := by
    obtain ⟨entries, between, found, rest⟩ := Act.exists_of_runFrom_bind run
    obtain rfl := session_of_sectionEntries found
    obtain ⟨_, last, configured, rest⟩ := Act.exists_of_runFrom_bind rest
    cases rest
    exact ⟨rfl, present_of_configureProviders present configured⟩
  unfold fill at run
  obtain ⟨entries, between, found, rest⟩ := Act.exists_of_runFrom_bind run
  obtain rfl := session_of_sectionEntries found
  obtain ⟨_, last, configured, rest⟩ := Act.exists_of_runFrom_bind rest
  have still := present_of_configureConverters present configured
  dsimp only at rest
  split at rest
  · obtain ⟨_, later, installed, rest⟩ := Act.exists_of_runFrom_bind rest
    have there := Act.present_of_onRegistry (congrArg Prod.fst installed)
    rw [installed] at there
    exact provided there rest
  · exact provided still rest

/-- A configuration makes a registry, or it is refused with a complaint, or one of the other faults
comes of a part of it that brings this fault up. -/
theorem configure_ends (engine : Engine) (configuration : Document) (session : Session) :
    (∃ id registry after,
      (engine.configure configuration).runFrom session = (.ok id, after) ∧
        after.registries[id]? = some registry) ∨
    ∃ fault after, (engine.configure configuration).runFrom session = (.error fault, after) ∧
      engine.Misconfigured configuration fault := by
  cases configuration with
  | mapping entries =>
      rw [configure_mapping]
      rcases refuseUnknownKeys_ends rfl session with known | ⟨fault, refused, misconfigured⟩
      · rw [Act.runFrom_bind_of_ok known]
        rcases Act.addRegistry_ends Registry.installStandardCoercions session with
          ⟨after, added, present⟩ | ⟨issue, after, -, refused⟩
        · rw [Act.runFrom_bind_of_ok added]
          have tended := engine.tends_fill (.mapping entries) _ after (.inr present)
          rcases run : (engine.fill (.mapping entries) session.registries.size).runFrom after with
            ⟨fault | given, last⟩
          · rw [run] at tended
            exact .inr ⟨fault, last, rfl, tended.fault fault rfl⟩
          · obtain ⟨rfl, there⟩ := present_of_fill present run
            exact .inl ⟨_, _, last, rfl, Array.getElem?_eq_getElem there⟩
        · exact .inr ⟨_, after, Act.runFrom_bind_of_error refused _, .complaint issue⟩
      · exact .inr ⟨fault, session, Act.runFrom_bind_of_error refused _, misconfigured⟩
  | _ => exact .inr ⟨_, session, rfl, .complaint _⟩

end Configuring

section Nothing

/-- A configuration that gives no providers for a class, not even an empty list. -/
def nothingProvided : Document :=
  .mapping [(.text "defaults", .bool false),
    (.text "functions", .mapping [(.text "builtins.str", .none)])]

theorem resolveName_str (session : Session) :
    ((World.engine {}).resolveName (.text "builtins.str")).runFrom session =
      (.ok (.value (.cls (.builtin .text))), session) := by
  have parts : "str".splitOn "." = ["str"] := by cbv
  have path : ((World.engine {}).resolveName (.text "builtins.str")).runFrom session =
      ((World.engine {}).attributePath "builtins.str" (.value (.moduleNamed "builtins"))
        ("str".splitOn ".")).runFrom session := by
    with_unfolding_all rfl
  rw [path, parts]
  with_unfolding_all rfl

/-- Nothing in the place of providers is no complaint about the configuration. -/
theorem configure_iterates_nothing : ∃ after,
    ((World.engine {}).configure nothingProvided).runFrom {} =
      (.error (.typeError "'NoneType' object is not iterable"), after) := by
  have installed : (RegistryM.runOn {} Registry.installStandardCoercions).1 = .ok () := by
    with_unfolding_all rfl
  have known : (refuseUnknownKeys [(.text "defaults", .bool false),
      (.text "functions", .mapping [(.text "builtins.str", .none)])]).runFrom {} = (.ok (), {}) := by
    with_unfolding_all rfl
  rcases Act.addRegistry_ends Registry.installStandardCoercions {} with
    ⟨after, added, _⟩ | ⟨issue, after, refused, _⟩
  · have provided : ((World.engine {}).configureProviders 0
        [(.text "builtins.str", .none)]).runFrom after =
          (.error (.typeError "'NoneType' object is not iterable"), after) := by
      unfold configureProviders
      rw [Act.runFrom_bind_of_ok (resolveName_str after)]
      rfl
    have filled : ((World.engine {}).fill nothingProvided 0).runFrom after =
        ((World.engine {}).configureProviders 0 [(.text "builtins.str", .none)] >>= fun _ =>
          pure 0 : Act ℕ).runFrom after := by
      with_unfolding_all rfl
    refine ⟨after, ?_⟩
    rw [nothingProvided, configure_mapping, Act.runFrom_bind_of_ok known,
      Act.runFrom_bind_of_ok added]
    exact filled.trans (Act.runFrom_bind_of_error provided _)
  · rw [installed] at refused
    cases refused

end Nothing

end Engine

end MemberDispatch
