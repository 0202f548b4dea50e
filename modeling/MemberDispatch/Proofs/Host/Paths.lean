import MemberDispatch.Proofs.Class.Priority
import MemberDispatch.Proofs.Routine.Lasting
import MemberDispatch.Text.Quoted

/-!
# Reading paths

With the formatters that every session starts with, texts show between quotes and other values between
braces, with the name of their class and their text between quotes. What each argument of a path shows can be
read from the path, so that paths of one member are the same only for arguments that show the same.

Doubling the backslashes of a text first and escaping its double quotes then leaves no quote without a
backslash of its own. So the quote that ends an enclosed text can be told from those inside, and the text
can be read back whatever follows it.
-/

namespace MemberDispatch

namespace Text

/-- The text up to the quote that ends it, and what follows. -/
def readEnclosed? : List Char → Option (List Char × List Char)
  | [] => none
  | '"' :: rest => some ([], rest)
  | '\\' :: character :: rest =>
      (readEnclosed? rest).map fun (text, rest) => (character :: text, rest)
  | character :: rest => (readEnclosed? rest).map fun (text, rest) => (character :: text, rest)

/-- How a character shows inside an enclosed text. -/
def enclosedForm (character : Char) : List Char :=
  if character = '\\' ∨ character = '"' then ['\\', character] else [character]

/-- The two substitutions escape every character by itself. -/
theorem substitute_substitute (characters : List Char) :
    substitute '"' ['\\', '"'] (substitute '\\' ['\\', '\\'] characters) =
      characters.flatMap enclosedForm := by
  unfold substitute
  rw [List.flatMap_assoc]
  congr 1
  funext character
  by_cases backslash : character = '\\'
  · subst backslash
    rfl
  · have kept : (character == '\\') = false := beq_false_of_ne backslash
    by_cases quote : character = '"'
    · subst quote
      rfl
    · simp [enclosedForm, backslash, quote]

theorem toList_enclosed (text : String) :
    (enclosed text).toList = '"' :: (text.toList.flatMap enclosedForm ++ ['"']) := by
  rw [enclosed, String.toList_ofList, substitute_substitute]
  rfl

theorem readEnclosed_form (character : Char) (rest : List Char) :
    readEnclosed? (enclosedForm character ++ rest) =
      (readEnclosed? rest).map fun (text, rest) => (character :: text, rest) := by
  unfold enclosedForm
  split
  · rfl
  · rename_i plain
    obtain ⟨backslash, quote⟩ := not_or.mp plain
    simp [readEnclosed?, backslash]

/-- An enclosed text is read back, and what follows it is left. -/
theorem readEnclosed_flatMap (characters rest : List Char) :
    readEnclosed? (characters.flatMap enclosedForm ++ '"' :: rest) = some (characters, rest) := by
  induction characters with
  | nil => rfl
  | cons character characters ih =>
      rw [List.flatMap_cons, List.append_assoc, readEnclosed_form, ih]
      rfl

end Text

/-- What an argument shows in a path: a text, or a class and the text of a value. -/
inductive Shown
  | quoted (text : String)
  | described (cls text : String)
  deriving DecidableEq, Repr

namespace Shown

def written : Shown → String
  | quoted text => Text.enclosed text
  | described cls text => "\x7b" ++ cls ++ ":" ++ Text.enclosed text ++ "\x7d"

/-- What the first of some arguments shows, and the rest of the path. -/
def read? : List Char → Option (Shown × List Char)
  | '"' :: rest => (Text.readEnclosed? rest).map fun (text, rest) => (quoted (.ofList text), rest)
  | '\x7b' :: rest =>
      let cls := rest.takeWhile (· != ':')
      match rest.dropWhile (· != ':') with
      | ':' :: '"' :: rest => match Text.readEnclosed? rest with
        | some (text, '\x7d' :: rest) => some (described (.ofList cls) (.ofList text), rest)
        | _ => none
      | _ => none
  | _ => none

/-- What up to so many arguments show, each behind a point. -/
def readAll? : ℕ → List Char → Option (List Shown)
  | _, [] => some []
  | bound + 1, '.' :: rest => do
      let (shown, rest) ← read? rest
      let others ← readAll? bound rest
      return shown :: others
  | _, _ => none

/-- What the arguments of a path show behind the name of the member. -/
def readPath? (name path : String) : Option (List Shown) :=
  let arguments := path.toList.drop name.length
  readAll? arguments.length arguments

/-- That no class is described by a name with a colon. -/
def Plain : Shown → Prop
  | quoted _ => True
  | described cls _ => ':' ∉ cls.toList

variable {shown : Shown}

/-- An argument is read back from what it is written as, whatever follows. -/
theorem read_written (plain : shown.Plain) (rest : List Char) :
    read? (shown.written.toList ++ rest) = some (shown, rest) := by
  cases shown with
  | quoted text =>
      simp only [written, Text.toList_enclosed, List.cons_append, List.append_assoc, List.nil_append,
        read?]
      rw [Text.readEnclosed_flatMap, Option.map_some, String.ofList_toList]
  | described cls text =>
      have name : ∀ character ∈ cls.toList, (character != ':') = true := by
        intro character mem
        apply bne_iff_ne.mpr
        rintro rfl
        exact plain mem
      have shape : (described cls text).written.toList ++ rest = '\x7b' :: (cls.toList ++
          ':' :: '"' :: (text.toList.flatMap Text.enclosedForm ++ '"' :: '\x7d' :: rest)) := by
        simp [written, Text.toList_enclosed]
      rw [shape, read?]
      simp only [List.takeWhile_append_of_pos name, List.dropWhile_append_of_pos name]
      simp [Text.readEnclosed_flatMap]

/-- Each argument takes some of the path, so that its length bounds their number. -/
theorem readAll_written {arguments : List Shown} (plain : ∀ shown ∈ arguments, shown.Plain)
    (bound : ℕ) (enough : arguments.length ≤ bound) :
    readAll? bound (arguments.flatMap fun shown => '.' :: shown.written.toList) = some arguments := by
  induction arguments generalizing bound with
  | nil => cases bound <;> rfl
  | cons shown arguments ih =>
      obtain ⟨bound, rfl⟩ := Nat.exists_eq_add_of_le' (Nat.le_trans (Nat.succ_le_succ (Nat.zero_le _)) enough)
      have others := ih (fun other mem => plain other (.tail _ mem)) bound (Nat.le_of_succ_le_succ enough)
      rw [List.flatMap_cons, List.cons_append, readAll?, read_written (plain shown (.head _))]
      simp [others]

theorem toList_intercalate_cons (first : String) (others : List String) :
    (".".intercalate (first :: others)).toList =
      first.toList ++ others.flatMap fun text => '.' :: text.toList := by
  rw [String.toList_intercalate]
  induction others generalizing first with
  | nil => simp [List.intercalate]
  | cons second others ih =>
      rw [List.flatMap_cons, List.cons_append, ← ih second]
      simp [List.intercalate]

/-- What the arguments of a path show is read from the path. -/
theorem readPath_intercalate {arguments : List Shown} (plain : ∀ shown ∈ arguments, shown.Plain)
    (name : String) :
    readPath? name (".".intercalate (name :: arguments.map written)) = some arguments := by
  have behind : (".".intercalate (name :: arguments.map written)).toList.drop name.length =
      arguments.flatMap fun shown => '.' :: shown.written.toList := by
    rw [toList_intercalate_cons, ← String.length_toList, List.drop_left, List.flatMap_map]
  have enough : arguments.length ≤
      (arguments.flatMap fun shown => '.' :: shown.written.toList).length := by
    rw [List.length_flatMap]
    apply Nat.le_trans _ (List.length_le_sum_of_one_le _ _)
    · simp
    · simp
  unfold readPath?
  rw [behind]
  exact readAll_written plain _ enough

end Shown

open Act

/-- That values show by the formatters that every session starts with. -/
structure Session.ShowsPlainly (world : World) (session : Session) : Prop where
  entries : session.formatters.entries = [(.object, .described), (.builtin .text, .quoted)]
  remembers : session.formatters.Remembers world.linearization

/-- That a value is one of the session, and that the name of its class has no colon, as no identifier has. -/
structure Session.Identifies (session : Session) (value : Value) : Prop where
  present : ∀ address, value = .object address → address < session.objects.size
  identifier : ':' ∉ (value.classOf session.objects).name.toList

/-- The session in which the formatter of a class was looked up. -/
def Session.lookingUp (session : Session) (world : World) (cls : ClassId) : Session :=
  { session with formatters := (session.formatters.lookup world.linearization cls).2 }

namespace Engine

variable {engine : Engine} {session between after : Session} {value : Value} {values : List Value}

def heldText (engine : Engine) (value : Value) : Act String := do
  match ← contentOf value with
  | .text text => return text
  | other => engine.text other

theorem runFrom_shownBy_quoted (engine : Engine) (cls : ClassId) (value : Value) (session : Session) :
    (engine.shownBy cls value (some .quoted)).runFrom session =
      (do return Text.enclosed (← engine.heldText value) : Act String).runFrom session := by
  unfold heldText
  rw [bind_assoc]
  change (contentOf value >>= _).runFrom session = _
  rw [runFrom_bind, runFrom_bind]
  rcases (contentOf value).runFrom session with ⟨fault | content, after⟩
  · rfl
  · cases content <;> rfl

/-- What a value is shown as: a text as the text that it holds, any other value as its class and its text. -/
inductive Presents (engine : Engine) (session : Session) (value : Value) (after : Session) : Shown → Prop
  | quoted {text : String}
      (isText : .builtin .text ∈ engine.world.linearization (value.classOf session.objects))
      (run : (engine.heldText value).runFrom
        (session.lookingUp engine.world (value.classOf session.objects)) = (.ok text, after)) :
      Presents engine session value after (.quoted text)
  | described {text : String}
      (other : .builtin .text ∉ engine.world.linearization (value.classOf session.objects))
      (run : (engine.text value).runFrom
        (session.lookingUp engine.world (value.classOf session.objects)) = (.ok text, after)) :
      Presents engine session value after (.described (value.classOf session.objects).name text)

/-- What values are shown as one after the other. -/
inductive PresentsAll (engine : Engine) : Session → List Value → List Shown → Session → Prop
  | nil (session : Session) : PresentsAll engine session [] [] session
  | cons {session between after : Session} {value : Value} {values : List Value} {shown : Shown}
      {others : List Shown} (first : engine.Presents session value between shown)
      (rest : PresentsAll engine between values others after) :
      PresentsAll engine session (value :: values) (shown :: others) after

theorem PresentsAll.length {shown : List Shown} (presents : engine.PresentsAll session values shown after) :
    values.length = shown.length := by
  induction presents with
  | nil => rfl
  | cons _ _ ih => exact congrArg (· + 1) ih

end Engine

section Formatters

variable {world : World} {session after : Session} {value : Value} {cls : ClassId}

theorem Session.ShowsPlainly.last (plainly : session.ShowsPlainly world)
    (lasts : session.Lasts world after) : after.ShowsPlainly world :=
  ⟨lasts.entries.trans plainly.entries, lasts.remembers plainly.remembers⟩

theorem Session.Identifies.last (identifies : session.Identifies value)
    (lasts : session.Lasts world after) : after.Identifies value := by
  have same := lasts.classOf_eq identifies.present
  refine ⟨fun address here => ?_, same ▸ identifies.identifier⟩
  exact Nat.lt_of_lt_of_le (identifies.present address here) lasts.objects

/-- A text is quoted, as its class comes before that of all values, and any other value is described. -/
theorem Session.ShowsPlainly.formatter (declared : world.Declared) (plainly : session.ShowsPlainly world)
    {formatter : Formatter}
    (found : (session.formatters.lookup world.linearization cls).1 = some formatter) :
    .builtin .text ∈ world.linearization cls ∧ formatter = .quoted ∨
      .builtin .text ∉ world.linearization cls ∧ formatter = .described := by
  rw [(DispatchMap.lookup_eq_rule plainly.remembers cls).1, DispatchMap.rule, plainly.entries] at found
  have only (other : ClassId) (apart : other ≠ .builtin .text) (below : other ≠ .object) :
      List.lookup other [(.object, Formatter.described), (.builtin .text, .quoted)] = none := by
    simp [lookup_cons, apart, below]
  have apart : ClassId.builtin .text ≠ .object := by simp
  by_cases isText : .builtin .text ∈ world.linearization cls
  · left
    have quoted : (world.linearization cls).findSome? (List.lookup ·
        [(.object, Formatter.described), (.builtin .text, .quoted)]) = some .quoted :=
      declared.findSome_linearization rfl only isText (List.mem_cons_of_mem _ List.mem_cons_self)
        apart
    rw [quoted] at found
    exact ⟨isText, (Option.some.inj found).symm⟩
  · right
    refine ⟨isText, ?_⟩
    obtain ⟨ancestor, above, entry⟩ := List.exists_of_findSome?_eq_some found
    by_cases same : ancestor = .builtin .text
    · exact absurd (same ▸ above) isText
    · by_cases below : ancestor = .object
      · rw [below] at entry
        exact (Option.some.inj entry).symm
      · rw [only ancestor same below] at entry
        cases entry

end Formatters

section Runs

variable {engine : Engine} (lasting : engine.Lasting) (declared : engine.world.Declared)

include lasting declared

omit lasting in
/-- An argument that shows by the first formatters is written as what it presents. -/
theorem Engine.presents_of_renderArgument {session after : Session} {value : Value} {text : String}
    (plainly : session.ShowsPlainly engine.world) (identifies : session.Identifies value)
    (run : (engine.renderArgument value).runFrom session = (.ok text, after)) :
    ∃ shown : Shown, text = shown.written ∧ shown.Plain ∧
      engine.Presents session value after shown := by
  rw [runFrom_renderArgument] at run
  change (engine.shownBy _ value (session.formatters.lookup engine.world.linearization _).1).runFrom
    (session.lookingUp engine.world (value.classOf session.objects)) = _ at run
  rcases found : (session.formatters.lookup engine.world.linearization
    (value.classOf session.objects)).1 with _ | formatter
  · rw [found] at run
    cases run
  · rw [found] at run
    rcases plainly.formatter declared found with ⟨isText, rfl⟩ | ⟨other, rfl⟩
    · rw [runFrom_shownBy_quoted] at run
      obtain ⟨text, between, held, ends⟩ := exists_of_runFrom_bind run
      cases ends
      exact ⟨.quoted text, rfl, trivial, .quoted isText held⟩
    · obtain ⟨text, between, told, ends⟩ := exists_of_runFrom_bind run
      cases ends
      exact ⟨.described _ text, rfl, identifies.identifier, .described other told⟩

/-- Arguments that show by the first formatters are written as what they present. -/
theorem Engine.presentsAll_of_mapM {session after : Session} {values : List Value}
    {texts : List String} (plainly : session.ShowsPlainly engine.world)
    (identifies : ∀ value ∈ values, session.Identifies value)
    (run : (values.mapM engine.renderArgument).runFrom session = (.ok texts, after)) :
    ∃ shown : List Shown, texts = shown.map Shown.written ∧ (∀ one ∈ shown, one.Plain) ∧
      engine.PresentsAll session values shown after := by
  induction values generalizing session texts with
  | nil =>
      cases run
      exact ⟨[], rfl, nofun, .nil _⟩
  | cons value values ih =>
      rw [List.mapM_cons] at run
      obtain ⟨text, between, first, rest⟩ := exists_of_runFrom_bind run
      obtain ⟨others, last, behind, ends⟩ := exists_of_runFrom_bind rest
      cases ends
      have lasts : session.Lasts engine.world between := by
        have lasts := lasting.renderArgument value session
        rw [first] at lasts
        exact lasts
      obtain ⟨shown, rfl, plain, presents⟩ :=
        presents_of_renderArgument declared plainly (identifies value (.head _)) first
      obtain ⟨more, rfl, plains, presentsAll⟩ := ih (plainly.last lasts)
        (fun other mem => (identifies other (.tail _ mem)).last lasts) behind
      exact ⟨shown :: more, rfl, List.forall_mem_cons.mpr ⟨plain, plains⟩, .cons presents presentsAll⟩

/-- A path of arguments that show by the first formatters tells what they present. -/
theorem Engine.readPath_of_renderPath {session after : Session} {name path : String}
    {values : List Value} (plainly : session.ShowsPlainly engine.world)
    (identifies : ∀ value ∈ values, session.Identifies value)
    (run : (engine.renderPath name values).runFrom session = (.ok path, after)) :
    ∃ shown, Shown.readPath? name path = some shown ∧ engine.PresentsAll session values shown after := by
  obtain ⟨texts, between, renders, ends⟩ := exists_of_runFrom_bind run
  cases ends
  obtain ⟨shown, rfl, plain, presents⟩ :=
    presentsAll_of_mapM lasting declared plainly identifies renders
  exact ⟨shown, Shown.readPath_intercalate plain name, presents⟩

end Runs

def numberedSession : Session where
  objects := #[{ cls := .builtin .int, content := .scalar (.int 3) }]

end MemberDispatch
