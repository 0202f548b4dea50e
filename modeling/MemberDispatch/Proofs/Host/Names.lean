import Mathlib.Data.Bool.AllAny
import MemberDispatch.Machine
import MemberDispatch.Proofs.Host.Upkeep
import MemberDispatch.Proofs.Registry.Reads

/-!
# Names of members

A handler looks a name up as the name that it stands for, whether or not the view of the class has
members under the name itself. A name that stands for no other is found whenever the view has it, and
only a name that the view does not have is tried again with its words parted.

A name of words is written with underscores between the words, or with every later word starting with
a capital letter. Parting the words of the second spelling gives the first, which has no more words to
part. So a handler that finds no members under the second spelling finds those under the first.
-/

namespace MemberDispatch

namespace Registry

/-- That a registry that was reached answers a class with a view. -/
structure Shows (world : World) (cls : ClassId) (view : View) (registry : Registry) : Prop where
  reached : registry.Reached world
  answers : (RegistryM.runOn registry (viewOf world cls)).1 = .ok view

variable {world : World} {registry : Registry} {cls : ClassId} {view : View}

theorem Reached.shows (declared : world.Declared) (reached : registry.Reached world)
    (cls : ClassId) : ∃ view, registry.Shows world cls view := by
  rcases reached with ⟨table, operations, rfl⟩
  rcases viewOf_answers declared table operations cls with ⟨view, answers⟩
  exact ⟨view, ⟨table, operations, rfl⟩, answers⟩

theorem Reached.sound (declared : world.Declared) (reached : registry.Reached world) :
    registry.Sound world := by
  rcases reached with ⟨table, operations, rfl⟩
  exact (sound_after declared.coherent (sound_of_empty rfl rfl) operations).1

/-- Looking up a name gives the members that the view has under it and leaves the view in place. -/
theorem Shows.lookup (declared : world.Declared) (shows : registry.Shows world cls view)
    (name : String) :
    ∃ next events,
      RegistryM.runOn registry (Registry.lookup world cls name) = (.ok (view.get name), next, events) ∧
        next.Shows world cls view := by
  have coherent := declared.coherent
  have sound := shows.reached.sound declared
  have left : (RegistryM.runOn registry (Registry.lookup world cls name)).2.1 =
      after world registry [.lookup cls name] :=
    (congrArg RegistryRun.registry (runFrom_discard _ _)).symm
  have again : (RegistryM.runOn (after world registry [.lookup cls name]) (viewOf world cls)).1 =
      (RegistryM.runOn registry (viewOf world cls)).1 := by
    rw [← viewOf_again coherent sound]
    -- What a lookup and a request for the view leave differs in the caches at most.
    rcases sound_after coherent sound [.lookup cls name] with ⟨looked, looked_eq⟩
    rcases sound_after coherent sound [.get cls] with ⟨asked, asked_eq⟩
    exact viewOf_eq_of_essence coherent looked asked (looked_eq.trans asked_eq.symm) cls
  have found : (RegistryM.runOn registry (Registry.lookup world cls name)).1 =
      .ok (view.get name) := by
    rw [runOn_lookup, shows.answers]
    rfl
  have reached := (shows.reached.lookup declared cls name).2
  rw [← left, shows.answers] at again
  exact ⟨_, _, Prod.ext found rfl, reached, again⟩

end Registry

/-- That the registry of a number answers a class with a view. -/
def Session.Shows (world : World) (id : ℕ) (cls : ClassId) (view : View) (session : Session) : Prop :=
  ∃ registry, session.registries[id]? = some registry ∧ registry.Shows world cls view

theorem Act.runFrom_onRegistry_lookup {world : World} (declared : world.Declared) {id : ℕ}
    {cls : ClassId} {view : View} {session : Session} (shows : session.Shows world id cls view)
    (name : String) :
    ∃ after, (onRegistry id (Registry.lookup world cls name)).runFrom session =
        (.ok (view.get name), after) ∧ after.Shows world id cls view := by
  rcases shows with ⟨registry, there, shows⟩
  rcases shows.lookup declared name with ⟨next, events, looked, still⟩
  refine ⟨{ session with
    registries := session.registries.set! id next
    events := session.events ++ events }, ?_, next, ?_, still⟩
  · simp only [onRegistry, runFrom_bind, runFrom_get, there, looked, runFrom_set]
    simp
  · have within := (Array.getElem?_eq_some_iff.mp there).1
    simp [Array.set!_eq_setIfInBounds, within]

namespace Adaptor

/-- That a handler has the aliases of one of the built-in kinds. -/
def Standard (adaptor : Adaptor) : Prop :=
  ∃ kind ∈ [plain, object, number, text], adaptor.aliases = (kind adaptor.registry).aliases

/-- What a handler finds in a view: under a name that stands for another the members of that one, and
under any other name its own members or, without such, those of the name with its words parted. -/
structure Finds (adaptor : Adaptor) (view : View) (name : String) (index : Index) : Prop where
  own (unaliased : adaptor.aliases.lookup name = none) (present : (view.get name).size ≠ 0) :
    index = view.get name
  other {member : String} (stands : adaptor.aliases.lookup name = some member) :
    index = view.get member
  parted (unaliased : adaptor.aliases.lookup name = none) (absent : (view.get name).size = 0) :
    index = view.get (snakeCase name)

theorem Standard.snakeCase_eq {adaptor : Adaptor} (standard : adaptor.Standard) {name member : String}
    (stands : adaptor.aliases.lookup name = some member) : snakeCase member = member := by
  have fixed : ∀ entry ∈ textAliases, snakeCase entry.2 = entry.2 := by
    decide +kernel
  have mem := mem_of_lookup stands
  have known : (name, member) ∈ textAliases := by
    rcases standard with ⟨kind, among, aliases⟩
    rw [aliases] at mem
    simp only [List.mem_cons, List.not_mem_nil, or_false] at among
    rcases among with rfl | rfl | rfl | rfl
    · cases mem
    · exact List.mem_append_left _ mem
    · exact List.mem_append_left _ mem
    · exact mem
  exact fixed (name, member) known

end Adaptor

namespace Engine

open Act

variable {engine : Engine} {adaptor : Adaptor} {session between : Session} {id : ℕ} {cls : ClassId}
  {view : View}

/-- A handler looks at most twice at the view of the class, which stays the same. -/
theorem runFrom_resolveIndex (declared : engine.world.Declared)
    (given : (engine.registryOf adaptor).runFrom session = (.ok id, between))
    (shows : between.Shows engine.world id cls view) (name : String) :
    ∃ after, (engine.resolveIndex adaptor cls name).runFrom session =
      (.ok (if (view.get (adaptor.memberName name)).size = 0 then
          view.get (snakeCase (adaptor.memberName name))
        else view.get (adaptor.memberName name)), after) := by
  obtain ⟨looked, first, still⟩ :=
    runFrom_onRegistry_lookup declared shows (adaptor.memberName name)
  obtain ⟨after, second, -⟩ :=
    runFrom_onRegistry_lookup declared still (snakeCase (adaptor.memberName name))
  unfold resolveIndex
  dsimp only
  rw [runFrom_bind_of_ok given, runFrom_bind_of_ok first]
  by_cases absent : (view.get (adaptor.memberName name)).size = 0
  · by_cases same : snakeCase (adaptor.memberName name) = adaptor.memberName name
    · refine ⟨looked, ?_⟩
      simp [absent, same]
    · refine ⟨after, ?_⟩
      simp [absent, same, second]
  · refine ⟨looked, ?_⟩
    simp [absent]

/-- A built-in handler over a registry that was reached finds the members that the view has under a
name, unless it has the name stand for another. -/
theorem resolveIndex_finds (declared : engine.world.Declared) (standard : adaptor.Standard)
    (given : (engine.registryOf adaptor).runFrom session = (.ok id, between)) {registry : Registry}
    (there : between.registries[id]? = some registry) (reached : registry.Reached engine.world)
    (cls : ClassId) (name : String) :
    ∃ view index after,
      (RegistryM.runOn registry (Registry.viewOf engine.world cls)).1 = .ok view ∧
        (engine.resolveIndex adaptor cls name).runFrom session = (.ok index, after) ∧
        adaptor.Finds view name index := by
  rcases reached.shows declared cls with ⟨view, shows⟩
  rcases runFrom_resolveIndex declared given ⟨registry, there, shows⟩ name with ⟨after, run⟩
  refine ⟨view, _, after, shows.answers, run, ?_, ?_, ?_⟩
  · intro unaliased present
    simp [Adaptor.memberName, unaliased, present]
  · intro member stands
    -- The second look is at the same name, so it does not matter whether there are members.
    have fixed := standard.snakeCase_eq stands
    simp [Adaptor.memberName, stands, fixed]
  · intro unaliased absent
    simp [Adaptor.memberName, unaliased, absent]

section Sizes

/-- A class with methods under two names, one of which handlers take for the length. -/
def sizing : World :=
  World.addClass {}
    { name := "K"
      entries := ["size", "at"].map fun name => (name, .method
        { qualifiedName := "K." ++ name
          parameters := some [{ name := "self" }]
          code := .body .echo }) }

/-- A session with one registry that only has the standard coercions. -/
def sizingSession : Session where
  registries := #[{ table := .standard }]

/-- The number of members that a handler of objects finds under a name. -/
def foundSizes (name : String) : Option ℕ :=
  match ((sizing.engine.resolveIndex (.object (some 0)) (.declared "K") name).runFrom
      sizingSession).1 with
  | .ok index => some index.size
  | .error _ => none

/-- The number of members that the view has under a name. -/
def shownSizes (name : String) : Option ℕ :=
  match (RegistryM.runOn { table := .standard } (Registry.viewOf sizing (.declared "K"))).1 with
  | .ok view => some (view.get name).size
  | .error _ => none

theorem declared_sizing : sizing.Declared :=
  .cls .start _ (by decide) (by decide) (by decide)

/-- The class has a method for the size, but the name stands for the length, which it does not have. -/
theorem size_unknown_beside_method :
    sizing.Declared ∧ ({ table := .standard } : Registry).Reached sizing ∧
      sizingSession.registries[0]? = some { table := .standard } ∧
      (Adaptor.object (some 0)).Standard ∧
      shownSizes "size" = some 1 ∧ foundSizes "size" = some 0 :=
  ⟨declared_sizing, ⟨.standard, [], rfl⟩, rfl, ⟨.object, by simp, rfl⟩, by decide +kernel,
    by decide +kernel⟩

/-- The other method is found as the view has it. -/
theorem resolveIndex_finds_at :
    sizing.Declared ∧ (Adaptor.object (some 0)).Standard ∧
      (Adaptor.object (some 0)).aliases.lookup "at" = none ∧
      shownSizes "at" = some 1 ∧ foundSizes "at" = some 1 ∧
      ∃ view index after,
        (RegistryM.runOn { table := .standard } (Registry.viewOf sizing (.declared "K"))).1 =
            .ok view ∧
          (sizing.engine.resolveIndex (.object (some 0)) (.declared "K") "at").runFrom
            sizingSession = (.ok index, after) ∧
          (Adaptor.object (some 0)).Finds view "at" index := by
  have standard : (Adaptor.object (some 0)).Standard := ⟨.object, by simp, rfl⟩
  have given : (sizing.engine.registryOf (.object (some 0))).runFrom sizingSession =
      (.ok 0, sizingSession) := rfl
  have there : sizingSession.registries[0]? = some { table := .standard } := rfl
  have reached : ({ table := .standard } : Registry).Reached sizing := ⟨.standard, [], rfl⟩
  have declared : sizing.engine.world.Declared := declared_sizing
  exact ⟨declared, standard, by decide, by decide +kernel, by decide +kernel,
    resolveIndex_finds declared standard given there reached (.declared "K") "at"⟩

end Sizes

end Engine

/-- That a text consists of characters of ASCII. -/
def Ascii (characters : List Char) : Prop :=
  ∀ character ∈ characters, character.toNat < 0x80

namespace Ascii

variable {characters : List Char}

section Letters

variable {character : Char}

theorem isUpper_iff : character.isUpper = true ↔ 65 ≤ character.toNat ∧ character.toNat ≤ 90 :=
  decide_eq_true_iff.trans (and_congr UInt32.le_iff_toNat_le UInt32.le_iff_toNat_le)

theorem isLower_iff : character.isLower = true ↔ 97 ≤ character.toNat ∧ character.toNat ≤ 122 :=
  Bool.and_eq_true_iff.trans (and_congr (decide_eq_true_iff.trans UInt32.le_iff_toNat_le)
    (decide_eq_true_iff.trans UInt32.le_iff_toNat_le))

theorem toLower_eq_self (plain : character.isUpper = false) : character.toLower = character :=
  dif_neg (of_decide_eq_false plain)

theorem toNat_toLower (upper : character.isUpper = true) :
    character.toLower.toNat = character.toNat + 32 := by
  have bounds := isUpper_iff.mp upper
  have distance : ('a'.val - 'A'.val).toNat = 32 := by decide
  have moved : character.toLower.val = character.val + ('a'.val - 'A'.val) := by
    delta Char.toLower
    rw [dif_pos (of_decide_eq_true upper)]
  rw [← Char.toNat_val, moved, UInt32.toNat_add, distance, Char.toNat_val]
  omega

theorem toNat_toUpper (lower : character.isLower = true) :
    character.toUpper.toNat = character.toNat - 32 := by
  have bounds := isLower_iff.mp lower
  have within := (Bool.and_eq_true_iff.mp lower).imp of_decide_eq_true of_decide_eq_true
  -- The capital letters stand before the others, so adding the distance goes around.
  have distance : ('A'.val - 'a'.val).toNat = 2 ^ 32 - 32 := by decide
  have moved : character.toUpper.val = character.val + ('A'.val - 'a'.val) := by
    delta Char.toUpper
    rw [dif_pos within]
  rw [← Char.toNat_val, moved, UInt32.toNat_add, distance, Char.toNat_val]
  omega

theorem toLower (ascii : character.toNat < 0x80) :
    character.toLower.toNat < 0x80 ∧ character.toLower.isUpper = false := by
  cases upper : character.isUpper with
  | false => rwa [toLower_eq_self upper, and_iff_left upper]
  | true =>
      have bounds := isUpper_iff.mp upper
      rw [← Bool.not_eq_true, isUpper_iff, toNat_toLower upper]
      omega

theorem toLower_toUpper (lower : character.isLower = true) :
    character.toUpper.toNat < 0x80 ∧ character.toUpper.isUpper = true ∧
      character.toUpper.toLower = character := by
  have bounds := isLower_iff.mp lower
  have number := toNat_toUpper lower
  have upper : character.toUpper.isUpper = true := isUpper_iff.mpr (by omega)
  refine ⟨by omega, upper, Char.toNat_inj.mp ?_⟩
  rw [toNat_toLower upper, number]
  omega

end Letters

theorem map_toLower_eq_self (plain : ∀ character ∈ characters, character.isUpper = false) :
    characters.map Char.toLower = characters :=
  (List.map_congr_left fun character mem => toLower_eq_self (plain character mem)).trans
    (List.map_id _)

theorem append {left right : List Char} (first : Ascii left) (second : Ascii right) :
    Ascii (left ++ right) :=
  fun character mem => (List.mem_append.mp mem).elim (first character) (second character)

theorem flatMap {words : List (List Char)} {form : List Char → List Char}
    (each : ∀ word ∈ words, Ascii (form word)) : Ascii (words.flatMap form) := by
  intro character mem
  obtain ⟨word, among, within⟩ := List.mem_flatMap.mp mem
  exact each word among character within

/-- The characters of ASCII are put in lower case one by one, whatever stands around them. -/
theorem rewriteBetween_lowerFormBetween (ascii : Ascii characters) (before : List Char) :
    Text.rewriteBetween Text.lowerFormBetween before characters =
      characters.map Char.toLower := by
  induction characters generalizing before with
  | nil => rfl
  | cons character characters ih =>
      obtain ⟨small, smaller⟩ := List.forall_mem_cons.mp ascii
      have different : (character == 'Σ') = false := by
        rw [beq_eq_false_iff_ne]
        rintro rfl
        exact absurd small (by decide)
      rw [Text.rewriteBetween, ih smaller, Text.lowerFormBetween, different, List.map_cons]
      simp [Text.lowerForm, small]

end Ascii

namespace snakeCase

/-- A stretch without capital letters stays as it is. -/
theorem go_append_of_plain {word : List Char} (plain : ∀ character ∈ word, character.isUpper = false)
    (rest : List Char) (previous : Option Char) :
    go previous (word ++ rest) = word ++ go (word.getLast?.or previous) rest := by
  induction word generalizing previous with
  | nil => rfl
  | cons character word ih =>
      obtain ⟨small, smaller⟩ := List.forall_mem_cons.mp plain
      have last : (character :: word).getLast?.or previous = word.getLast?.or (some character) := by
        rcases word.eq_nil_or_concat with rfl | ⟨front, final, rfl⟩
        · rfl
        · simp [List.getLast?_cons]
      rw [List.cons_append, go, ih smaller, last]
      simp [small]

theorem go_eq_self {word : List Char} (plain : ∀ character ∈ word, character.isUpper = false)
    (previous : Option Char) : go previous word = word := by
  simpa [go] using go_append_of_plain plain [] previous

/-- Parting words only puts underscores in. -/
theorem ascii_go {characters : List Char} (ascii : Ascii characters) (previous : Option Char) :
    Ascii (go previous characters) := by
  induction characters generalizing previous with
  | nil => exact ascii
  | cons character characters ih =>
      obtain ⟨small, smaller⟩ := List.forall_mem_cons.mp ascii
      have behind : Ascii (character :: go (some character) characters) :=
        List.forall_mem_cons.mpr ⟨small, ih smaller _⟩
      rw [go]
      split
      · exact List.forall_mem_cons.mpr ⟨by decide, behind⟩
      · exact behind

end snakeCase

theorem snakeCase_of_ascii {name : String} (ascii : Ascii name.toList) :
    snakeCase name = String.ofList ((snakeCase.go none name.toList).map Char.toLower) := by
  rw [snakeCase, Text.lower, String.toList_ofList,
    (snakeCase.ascii_go ascii none).rewriteBetween_lowerFormBetween]

/-- A name of ASCII without capital letters has no words to part. -/
theorem snakeCase_eq_self {name : String} (ascii : Ascii name.toList)
    (plain : ∀ character ∈ name.toList, character.isUpper = false) : snakeCase name = name := by
  rw [snakeCase_of_ascii ascii, snakeCase.go_eq_self plain, Ascii.map_toLower_eq_self plain,
    String.ofList_toList]

theorem snakeCase_snakeCase {name : String} (ascii : Ascii name.toList) :
    snakeCase (snakeCase name) = snakeCase name := by
  have parts := snakeCase.ascii_go ascii none
  refine snakeCase_eq_self ?_ ?_
  · rw [snakeCase_of_ascii ascii, String.toList_ofList]
    intro character mem
    obtain ⟨before, among, rfl⟩ := List.mem_map.mp mem
    exact (Ascii.toLower (parts before among)).1
  · rw [snakeCase_of_ascii ascii, String.toList_ofList]
    intro character mem
    obtain ⟨before, among, rfl⟩ := List.mem_map.mp mem
    exact (Ascii.toLower (parts before among)).2

/-- That a character is a letter in lower case or a digit, of which the words of ordinary names are. -/
def Plain (character : Char) : Prop :=
  character.isLower = true ∨ character.isDigit = true

instance (character : Char) : Decidable (Plain character) :=
  inferInstanceAs (Decidable (_ ∨ _))

namespace Plain

variable {character : Char}

theorem toNat_lt (plain : Plain character) : character.toNat < 0x80 := by
  rcases plain with lower | digit
  · exact (Ascii.isLower_iff.mp lower).2.trans_lt (by decide)
  · exact (Char.isDigit_iff_toNat.mp digit).2.trans_lt (by decide)

theorem isUpper_eq_false (plain : Plain character) : character.isUpper = false := by
  rw [← Bool.not_eq_true, Ascii.isUpper_iff]
  rcases plain with lower | digit
  · have bounds := Ascii.isLower_iff.mp lower
    omega
  · have last : character.toNat ≤ 57 := (Char.isDigit_iff_toNat.mp digit).2
    omega

theorem map_toLower {characters : List Char} (plain : ∀ character ∈ characters, Plain character) :
    characters.map Char.toLower = characters :=
  Ascii.map_toLower_eq_self fun character mem => (plain character mem).isUpper_eq_false

end Plain

/-- A word with its first letter as a capital. -/
def capital : List Char → List Char
  | [] => []
  | letter :: rest => letter.toUpper :: rest

/-- That a word starts with a letter in lower case and goes on with such letters and digits. -/
inductive Lettered : List Char → Prop
  | intro {letter : Char} {rest : List Char} (lower : letter.isLower = true)
      (plain : ∀ character ∈ rest, Plain character) : Lettered (letter :: rest)

namespace Lettered

variable {word : List Char}

theorem plain (lettered : Lettered word) : ∀ character ∈ word, Plain character := by
  rcases lettered with ⟨lower, plain⟩
  exact List.forall_mem_cons.mpr ⟨.inl lower, plain⟩

theorem ascii_capital (lettered : Lettered word) : Ascii (capital word) := by
  rcases lettered with ⟨lower, plain⟩
  exact List.forall_mem_cons.mpr ⟨(Ascii.toLower_toUpper lower).1,
    fun character mem => (plain character mem).toNat_lt⟩

theorem map_toLower_capital (lettered : Lettered word) :
    (capital word).map Char.toLower = word := by
  rcases lettered with ⟨lower, plain⟩
  rw [capital, List.map_cons, (Ascii.toLower_toUpper lower).2.2]
  exact congrArg _ (Plain.map_toLower plain)

/-- After a letter in lower case or a digit, the capital letter of a word starts the word. -/
theorem go_capital_append (lettered : Lettered word) {before : Char} (plain : Plain before)
    (rest : List Char) :
    ∃ last, snakeCase.go (some before) (capital word ++ rest) =
        '_' :: capital word ++ snakeCase.go (some last) rest ∧
      (2 ≤ word.length → Plain last) := by
  rcases lettered with @⟨letter, tail, lower, small⟩
  obtain ⟨-, upper, -⟩ := Ascii.toLower_toUpper lower
  have starts : (letter.toUpper.isUpper &&
      ((some before).map fun before => before.isLower || before.isDigit).getD false) = true := by
    simpa [upper, Plain] using plain
  have run : snakeCase.go (some before) (capital (letter :: tail) ++ rest) =
      '_' :: letter.toUpper :: (tail ++
        snakeCase.go (tail.getLast?.or (some letter.toUpper)) rest) := by
    rw [capital, List.cons_append, snakeCase.go, if_pos starts,
      snakeCase.go_append_of_plain fun character mem => (small character mem).isUpper_eq_false]
  rcases final : tail.getLast? with _ | last
  · refine ⟨letter.toUpper, by simpa [final, capital] using run, ?_⟩
    simp [List.getLast?_eq_none_iff.mp final]
  · exact ⟨last, by simpa [final, capital] using run,
      fun _ => small last (List.mem_of_getLast? final)⟩

/-- After a letter in lower case or a digit, every word that starts with a capital letter is parted
from the one before it, if none but the last is a capital letter alone. -/
theorem go_flatMap_capital {words : List (List Char)} (lettered : ∀ word ∈ words, Lettered word)
    (long : ∀ word ∈ words.dropLast, 2 ≤ word.length) {before : Char} (plain : Plain before) :
    snakeCase.go (some before) (words.flatMap capital) =
      words.flatMap fun word => '_' :: capital word := by
  induction words generalizing before with
  | nil => rfl
  | cons word words ih =>
      obtain ⟨here, later⟩ := List.forall_mem_cons.mp lettered
      obtain ⟨last, run, still⟩ := here.go_capital_append plain (words.flatMap capital)
      rw [List.flatMap_cons, List.flatMap_cons, run]
      rcases words with _ | ⟨next, words⟩
      · rfl
      · rw [List.dropLast_cons_cons] at long
        obtain ⟨longHere, longLater⟩ := List.forall_mem_cons.mp long
        rw [ih later longLater (still longHere)]

end Lettered

/-- The words of an ordinary name. The later ones start with a letter, and all of these but the last
go on after it. -/
structure WordedName where
  /-- The word that the name starts with. -/
  first : String
  /-- The words that follow. -/
  later : List String
  first_ne : first ≠ ""
  first_plain : ∀ character ∈ first.toList, Plain character
  later_lettered : ∀ word ∈ later, Lettered word.toList
  later_long : ∀ word ∈ later.dropLast, 2 ≤ word.length

namespace WordedName

variable (name : WordedName)

/-- The name with underscores between its words. -/
def parted : String :=
  "_".intercalate (name.first :: name.later)

/-- The name with its words in one, every later one starting with a capital letter. -/
def camelCase : String :=
  name.first ++ String.join (name.later.map fun word => String.ofList (capital word.toList))

theorem toList_parted :
    name.parted.toList = name.first.toList ++
      (name.later.map String.toList).flatMap fun word => '_' :: word := by
  rw [parted, String.toList_intercalate, List.map_cons]
  generalize name.first.toList = first
  induction name.later generalizing first with
  | nil => simp
  | cons word later ih =>
      rw [List.map_cons, List.intercalate_cons_cons, ih]
      simp

theorem toList_camelCase :
    name.camelCase.toList = name.first.toList ++ (name.later.map String.toList).flatMap capital := by
  simp [camelCase, String.toList_join, List.flatMap_map]

theorem plain_of_mem {word : String} (mem : word ∈ name.first :: name.later) :
    ∀ character ∈ word.toList, Plain character := by
  rcases List.mem_cons.mp mem with rfl | among
  · exact name.first_plain
  · exact (name.later_lettered word among).plain

theorem lettered_of_mem {word : List Char} (mem : word ∈ name.later.map String.toList) :
    Lettered word := by
  obtain ⟨word, among, rfl⟩ := List.mem_map.mp mem
  exact name.later_lettered word among

/-- The name with underscores is of ASCII and has no capital letters. -/
theorem small_of_mem_parted {character : Char} (mem : character ∈ name.parted.toList) :
    character.toNat < 0x80 ∧ character.isUpper = false := by
  have small {character : Char} (plain : Plain character) :
      character.toNat < 0x80 ∧ character.isUpper = false :=
    ⟨plain.toNat_lt, plain.isUpper_eq_false⟩
  rw [toList_parted, List.mem_append, List.mem_flatMap] at mem
  rcases mem with start | ⟨characters, among, mem⟩
  · exact small (name.first_plain character start)
  · obtain ⟨word, later, rfl⟩ := List.mem_map.mp among
    rcases List.mem_cons.mp mem with rfl | within
    · decide
    · exact small (name.plain_of_mem (List.mem_cons_of_mem _ later) character within)

theorem ascii_camelCase : Ascii name.camelCase.toList := by
  rw [toList_camelCase]
  exact .append (fun character mem => (name.first_plain character mem).toNat_lt)
    (.flatMap fun word mem => (name.lettered_of_mem mem).ascii_capital)

/-- The capital letters tell where the words start. -/
theorem go_camelCase :
    snakeCase.go none name.camelCase.toList = name.first.toList ++
      (name.later.map String.toList).flatMap fun word => '_' :: capital word := by
  have nonempty : name.first.toList ≠ [] := mt String.toList_eq_nil_iff.mp name.first_ne
  have long : ∀ word ∈ (name.later.map String.toList).dropLast, 2 ≤ word.length := by
    intro word mem
    rw [← List.map_dropLast] at mem
    obtain ⟨word, among, rfl⟩ := List.mem_map.mp mem
    exact name.later_long word among
  rw [toList_camelCase, snakeCase.go_append_of_plain fun character mem =>
    (name.first_plain character mem).isUpper_eq_false, List.getLast?_eq_some_getLast nonempty,
    Option.some_or, Lettered.go_flatMap_capital (fun word => name.lettered_of_mem) long
      (name.first_plain _ (List.getLast_mem nonempty))]

theorem snakeCase_camelCase : snakeCase name.camelCase = name.parted := by
  have later : ((name.later.map String.toList).flatMap fun word => '_' :: capital word).map
      Char.toLower = (name.later.map String.toList).flatMap fun word => '_' :: word := by
    rw [List.map_flatMap]
    refine List.flatMap_congr fun word mem => ?_
    rw [List.map_cons, (name.lettered_of_mem mem).map_toLower_capital]
    rfl
  rw [snakeCase_of_ascii name.ascii_camelCase, go_camelCase, List.map_append,
    Plain.map_toLower name.first_plain, later,
    ← toList_parted, String.ofList_toList]

theorem snakeCase_parted : snakeCase name.parted = name.parted :=
  snakeCase_eq_self (fun _ mem => (name.small_of_mem_parted mem).1)
    fun _ mem => (name.small_of_mem_parted mem).2

/-- Both spellings of a name reach the same members. Parting the words of the second spelling gives
the first, which it leaves as it is, and doing so twice comes to the same as once for any name of
ASCII. So a handler that has neither spelling stand for another name finds the members of the first
under either, when the class has members under the first and none under the second. -/
theorem spellings_reach_same :
    snakeCase name.camelCase = name.parted ∧ snakeCase name.parted = name.parted ∧
      (∀ text : String, Ascii text.toList → snakeCase (snakeCase text) = snakeCase text) ∧
      ∀ {engine : Engine} {adaptor : Adaptor} {session between : Session} {id : ℕ}
        {registry : Registry} {cls : ClassId} {view : View},
        engine.world.Declared →
        (engine.registryOf adaptor).runFrom session = (.ok id, between) →
        between.registries[id]? = some registry →
        registry.Reached engine.world →
        (RegistryM.runOn registry (Registry.viewOf engine.world cls)).1 = .ok view →
        adaptor.aliases.lookup name.parted = none →
        adaptor.aliases.lookup name.camelCase = none →
        (view.get name.parted).size ≠ 0 →
        (view.get name.camelCase).size = 0 →
        ((engine.resolveIndex adaptor cls name.parted).runFrom session).1 =
            .ok (view.get name.parted) ∧
          ((engine.resolveIndex adaptor cls name.camelCase).runFrom session).1 =
            .ok (view.get name.parted) := by
  refine ⟨name.snakeCase_camelCase, name.snakeCase_parted, fun _ => snakeCase_snakeCase, ?_⟩
  intro engine adaptor session between id registry cls view declared given there reached answers
    ownParted ownCamel present absent
  have shows : between.Shows engine.world id cls view := ⟨registry, there, reached, answers⟩
  obtain ⟨_, parted⟩ := Engine.runFrom_resolveIndex declared given shows name.parted
  obtain ⟨_, camel⟩ := Engine.runFrom_resolveIndex declared given shows name.camelCase
  rw [parted, camel]
  simp [Adaptor.memberName, ownParted, ownCamel, present, absent, name.snakeCase_camelCase]

/-- A name of three words. -/
def sortByKey : WordedName where
  first := "sort"
  later := ["by", "key"]
  first_ne := by decide
  first_plain := List.all_iff_forall_prop.mp (by decide)
  later_lettered := List.forall_mem_cons.mpr
    ⟨.intro (by decide) (List.all_iff_forall_prop.mp (by decide)), List.forall_mem_singleton.mpr
      (.intro (by decide) (List.all_iff_forall_prop.mp (by decide)))⟩
  later_long := by decide

/-- A class with a method of this name. -/
def sorting : World :=
  World.addClass {}
    { name := "K"
      entries := [("sort_by_key", .method
        { qualifiedName := "K.sort_by_key"
          parameters := some [{ name := "self" }]
          code := .body .echo })] }

/-- A session with one registry that only has the standard coercions. -/
def sortingSession : Session where
  registries := #[{ table := .standard }]

/-- The numbers of members that the view has under the two spellings. -/
def sortingSizes : Option (ℕ × ℕ) :=
  match (RegistryM.runOn { table := .standard } (Registry.viewOf sorting (.declared "K"))).1 with
  | .ok view => some ((view.get "sort_by_key").size, (view.get "sortByKey").size)
  | .error _ => none

theorem spellings_reach_sortByKey :
    sortByKey.parted = "sort_by_key" ∧ sortByKey.camelCase = "sortByKey" ∧
      sortingSizes = some (1, 0) ∧
      ∃ index : Index, index.size = 1 ∧
        ((sorting.engine.resolveIndex (.object (some 0)) (.declared "K") "sort_by_key").runFrom
            sortingSession).1 = .ok index ∧
          ((sorting.engine.resolveIndex (.object (some 0)) (.declared "K") "sortByKey").runFrom
            sortingSession).1 = .ok index := by
  have parted : sortByKey.parted = "sort_by_key" := by decide +kernel
  have camel : sortByKey.camelCase = "sortByKey" := by decide +kernel
  have sizes : sortingSizes = some (1, 0) := by decide +kernel
  have declared : sorting.engine.world.Declared := .cls .start _ (by decide) (by decide) (by decide)
  have reached : ({ table := .standard } : Registry).Reached sorting.engine.world := ⟨.standard, [], rfl⟩
  obtain ⟨view, shows⟩ := reached.shows declared (.declared "K")
  have counts : (view.get "sort_by_key").size = 1 ∧ (view.get "sortByKey").size = 0 := by
    have answers : (RegistryM.runOn { table := .standard }
        (Registry.viewOf sorting (.declared "K"))).1 = .ok view := shows.answers
    simpa [sortingSizes, answers] using sizes
  obtain ⟨-, -, -, reach⟩ := spellings_reach_same sortByKey
  rw [parted, camel] at reach
  have found := @reach sorting.engine (.object (some 0)) sortingSession sortingSession 0
    { table := .standard } (.declared "K") view declared rfl rfl reached shows.answers (by decide)
    (by decide) (by simp [counts.1]) counts.2
  exact ⟨parted, camel, sizes, view.get "sort_by_key", counts.1, found⟩

end WordedName

end MemberDispatch
