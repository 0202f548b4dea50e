import Mathlib.Data.Nat.Notation
import MemberDispatch.CommandLine.Literal

/-!
# What literals describe

A literal describes plain data: numbers, texts, byte strings, constants, and collections of such. Each
reader gives plain data if those that it calls with less fuel do; so all of them do.
-/

namespace MemberDispatch

/-- Data as a literal can describe it. -/
inductive Term.Plain : Term → Prop
  | none : Plain .none
  | bool (value : Bool) : Plain (.bool value)
  | int (value : Int) : Plain (.int value)
  | float (value : Float) : Plain (.float value)
  | complex (real imaginary : Float) : Plain (.complex real imaginary)
  | text (value : String) : Plain (.text value)
  | bytes (value : List UInt8) : Plain (.bytes value)
  | list {items : List Term} (each : ∀ item ∈ items, Plain item) : Plain (.list items)
  | tuple {items : List Term} (each : ∀ item ∈ items, Plain item) : Plain (.tuple items)
  | set {items : List Term} (each : ∀ item ∈ items, Plain item) : Plain (.set items)
  | dict {entries : List (Term × Term)} (keys : ∀ entry ∈ entries, Plain entry.1)
      (values : ∀ entry ∈ entries, Plain entry.2) : Plain (.dict entries)

namespace Literal

variable {α β : Type}

/-- That whatever was read is of a kind. -/
def Reads (property : α → Prop) (reading : Option α) : Prop :=
  ∀ result, reading = some result → property result

namespace Reads

variable {property : α → Prop} {following : β → Prop}

theorem nothing : Reads property none := by
  rintro _ ⟨⟩

theorem pure {result : α} (holds : property result) : Reads property (some result) := by
  rintro _ ⟨⟩
  exact holds

theorem bind {reading : Option α} {next : α → Option β} (first : Reads property reading)
    (second : ∀ result, property result → Reads following (next result)) :
    Reads following (reading >>= next) := by
  intro result read
  rcases Option.bind_eq_some_iff.mp read with ⟨middle, given, rest⟩
  exact second middle (first middle given) result rest

theorem map {reading : Option α} {change : α → β}
    (holds : ∀ result, following (change result)) : Reads following (reading.map change) := by
  intro result read
  rcases Option.map_eq_some_iff.mp read with ⟨middle, -, rfl⟩
  exact holds middle

end Reads

theorem plain_negated {value : Term} (plain : value.Plain) : (negated value).Plain := by
  cases plain with
  | int value => exact .int _
  | float value => exact .float _
  | complex real imaginary => exact .complex _ _
  | none => exact .none
  | bool value => exact .bool value
  | text value => exact .text value
  | bytes value => exact .bytes value
  | list each => exact .list each
  | tuple each => exact .tuple each
  | set each => exact .set each
  | dict keys values => exact .dict keys values

theorem reads_withImaginary (negative : Bool) (left right : Term) :
    Reads Term.Plain (withImaginary? negative left right) := by
  intro sum read
  unfold withImaginary? withImaginary?.add at read
  split at read
  · cases read
    split
    · exact .complex _ _
    · exact .complex _ _
  · cases read
    split
    · exact .complex _ _
    · exact .complex _ _
  · cases read

theorem reads_wholeNumber (characters : List Char) :
    Reads Term.Plain (wholeNumber? characters) := by
  unfold wholeNumber?
  split
  · exact .pure (.int _)
  · exact .nothing

/-- What a reader gives is plain data. -/
abbrev ReadsPlain (reading : Reading) : Prop :=
  Reads (fun read => read.1.Plain) reading

theorem reads_number (characters : List Char) : ReadsPlain (readNumber characters) := by
  have finish {value : Option Term} (plain : Reads Term.Plain value) (length : ℕ) :
      ReadsPlain (
        if ((characters.drop length).head?.map isWordCharacter).getD false then none
        else value.map fun value => (value, .number, characters.drop length)) := by
    split
    · exact .nothing
    · intro result read
      rcases Option.map_eq_some_iff.mp read with ⟨value, given, rfl⟩
      exact plain value given
  have pointed (read : List Char) :
      Reads Term.Plain ((pointedNumber? read).map .float) := .map fun _ => .float _
  have imaginary (read : List Char) :
      Reads Term.Plain ((pointedNumber? read).map fun number => .complex 0.0 number) :=
    .map fun _ => .complex _ _
  unfold readNumber
  extract_lets _ whole places length read
  split
  · split
    · exact .nothing
    · exact finish (reads_wholeNumber _) _
  · split
    · exact .nothing
    · split
      · split
        · exact finish (imaginary _) _
        · split
          · exact finish (reads_wholeNumber _) _
          · exact finish (pointed _) _
      · split
        · exact finish (reads_wholeNumber _) _
        · exact finish (pointed _) _

theorem reads_text (inBrackets : Bool) (characters : List Char) :
    ReadsPlain (readText inBrackets characters) := by
  unfold readText
  have pieces : Reads (fun _ => True) (readTexts inBrackets (characters.length + 1) none characters) :=
    fun _ _ => trivial
  refine pieces.bind ?_
  rintro ⟨bytes, read, rest⟩ -
  refine .pure ?_
  dsimp only
  split
  · exact .bytes _
  · exact .text _

theorem reads_name (depth : ℕ) (characters : List Char) :
    ReadsPlain (readName depth characters) := by
  unfold readName
  dsimp only
  split
  · exact .pure .none
  · exact .pure (.bool true)
  · exact .pure (.bool false)
  · split
    · split
      · split
        · exact .pure (.set (List.forall_mem_nil _))
        · exact .nothing
      · exact .nothing
    · exact .nothing
  · exact .nothing

/-- The readers of collections give plain data on so much fuel. -/
structure ReadersPlain (fuel : ℕ) : Prop where
  value (depth : ℕ) (characters : List Char) : ReadsPlain (readValue depth fuel characters)
  signed (depth : ℕ) (characters : List Char) : ReadsPlain (readSigned depth fuel characters)
  group (depth : ℕ) (characters : List Char) :
    Reads (fun read => ∀ item ∈ read.1, item.1.Plain) (readGroup depth fuel characters)
  items (depth : ℕ) (closing : Char) (characters : List Char) :
    Reads (fun read => ∀ item ∈ read.1, item.Plain) (readItems depth closing fuel characters)
  braces (depth : ℕ) (characters : List Char) : ReadsPlain (readBraces depth fuel characters)
  entries (depth : ℕ) (characters : List Char) :
    Reads (fun read => ∀ entry ∈ read.1, entry.1.Plain ∧ entry.2.Plain)
      (readEntries depth fuel characters)

namespace ReadersPlain

variable {fuel : ℕ}

theorem zero : ReadersPlain 0 where
  value _ _ := .nothing
  signed _ _ := .nothing
  group _ _ := .nothing
  items _ _ _ := .nothing
  braces _ _ := .nothing
  entries _ _ := .nothing

section Steps

variable (plain : ReadersPlain fuel)

include plain

theorem value_succ (depth : ℕ) (characters : List Char) :
    ReadsPlain (readValue depth (fuel + 1) characters) := by
  unfold readValue
  refine (plain.signed depth _).bind ?_
  rintro ⟨left, form, rest⟩ left_plain
  dsimp only
  split
  · split
    · refine (plain.signed depth _).bind ?_
      rintro ⟨right, form, rest⟩ right_plain
      dsimp only
      split
      · exact .nothing
      · refine (reads_withImaginary _ left right).bind ?_
        intro sum sum_plain
        exact .pure sum_plain
    · exact .pure left_plain
  · exact .pure left_plain

theorem signed_succ (depth : ℕ) (characters : List Char) :
    ReadsPlain (readSigned depth (fuel + 1) characters) := by
  unfold readSigned
  split
  · split
    next value rest given => exact .pure (plain_negated (plain.signed depth _ (value, .number, rest) given))
    · exact .nothing
  · split
    next value rest given => exact .pure (plain.signed depth _ (value, .number, rest) given)
    · exact .nothing
  · split
    · exact .nothing
    · refine (plain.group (depth + 1) _).bind ?_
      rintro ⟨items, isTuple, rest⟩ items_plain
      dsimp only
      split
      · exact .pure (items_plain _ List.mem_cons_self)
      · refine .pure (.tuple ?_)
        intro item mem
        rcases List.mem_map.mp mem with ⟨read, among, rfl⟩
        exact items_plain read among
  · split
    · exact .nothing
    · refine (plain.items (depth + 1) _ _).bind ?_
      rintro ⟨items, rest⟩ items_plain
      exact .pure (.list items_plain)
  · split
    · exact .nothing
    · exact plain.braces (depth + 1) _
  · split
    · exact reads_number _
    · intro result read
      rcases Option.or_eq_some_iff.mp read with text | ⟨-, name⟩
      · exact reads_text _ _ result text
      · exact reads_name _ _ result name
  · exact .nothing

theorem group_succ (depth : ℕ) (characters : List Char) :
    Reads (fun read => ∀ item ∈ read.1, item.1.Plain) (readGroup depth (fuel + 1) characters) := by
  unfold readGroup
  split
  · exact .nothing
  · exact .pure (List.forall_mem_nil _)
  · rename_i same _
    cases same
    refine (plain.value depth _).bind ?_
    rintro ⟨value, form, rest⟩ value_plain
    dsimp only
    split
    · exact .pure (List.forall_mem_singleton.mpr value_plain)
    · refine (plain.items depth _ _).bind ?_
      rintro ⟨items, rest⟩ items_plain
      refine .pure (List.forall_mem_cons.mpr ⟨value_plain, ?_⟩)
      intro item mem
      rcases List.mem_map.mp mem with ⟨read, among, rfl⟩
      exact items_plain read among
    · exact .nothing

theorem items_succ (depth : ℕ) (closing : Char) (characters : List Char) :
    Reads (fun read => ∀ item ∈ read.1, item.Plain)
      (readItems depth closing (fuel + 1) characters) := by
  unfold readItems
  split
  · split
    · exact .pure (List.forall_mem_nil _)
    · refine (plain.value depth _).bind ?_
      rintro ⟨value, form, rest⟩ value_plain
      dsimp only
      split
      · refine (plain.items depth closing _).bind ?_
        rintro ⟨items, rest⟩ items_plain
        exact .pure (List.forall_mem_cons.mpr ⟨value_plain, items_plain⟩)
      · split
        · exact .pure (List.forall_mem_singleton.mpr value_plain)
        · exact .nothing
      · exact .nothing
  · exact .nothing

theorem braces_succ (depth : ℕ) (characters : List Char) :
    ReadsPlain (readBraces depth (fuel + 1) characters) := by
  unfold readBraces
  split
  · exact .nothing
  · exact .pure (.dict (List.forall_mem_nil _) (List.forall_mem_nil _))
  · rename_i same _
    cases same
    refine (plain.value depth _).bind ?_
    rintro ⟨first, form, rest⟩ first_plain
    dsimp only
    split
    · refine (plain.entries depth _).bind ?_
      rintro ⟨entries, rest⟩ entries_plain
      exact .pure (.dict (fun entry mem => (entries_plain entry mem).1)
        fun entry mem => (entries_plain entry mem).2)
    · refine (plain.items depth _ _).bind ?_
      rintro ⟨items, rest⟩ items_plain
      exact .pure (.set (List.forall_mem_cons.mpr ⟨first_plain, items_plain⟩))
    · exact .pure (.set (List.forall_mem_singleton.mpr first_plain))
    · exact .nothing

theorem entries_succ (depth : ℕ) (characters : List Char) :
    Reads (fun read => ∀ entry ∈ read.1, entry.1.Plain ∧ entry.2.Plain)
      (readEntries depth (fuel + 1) characters) := by
  unfold readEntries
  split
  · exact .nothing
  · exact .pure (List.forall_mem_nil _)
  · rename_i same _
    cases same
    refine (plain.value depth _).bind ?_
    rintro ⟨key, form, rest⟩ key_plain
    dsimp only
    split
    · refine (plain.value depth _).bind ?_
      rintro ⟨value, form, rest⟩ value_plain
      dsimp only
      split
      · refine (plain.entries depth _).bind ?_
        rintro ⟨entries, rest⟩ entries_plain
        exact .pure (List.forall_mem_cons.mpr ⟨⟨key_plain, value_plain⟩, entries_plain⟩)
      · exact .pure (List.forall_mem_singleton.mpr ⟨key_plain, value_plain⟩)
      · exact .nothing
    · exact .nothing

theorem succ : ReadersPlain (fuel + 1) where
  value := plain.value_succ
  signed := plain.signed_succ
  group := plain.group_succ
  items := plain.items_succ
  braces := plain.braces_succ
  entries := plain.entries_succ

end Steps

theorem any (fuel : ℕ) : ReadersPlain fuel := by
  induction fuel with
  | zero => exact .zero
  | succ fuel ih => exact ih.succ

end ReadersPlain

theorem reads_bare (fuel count : ℕ) (characters : List Char) :
    Reads (fun read => ∀ value ∈ read.1, value.Plain) (readBare fuel count characters) := by
  induction count generalizing characters with
  | zero => exact .nothing
  | succ count ih =>
      unfold readBare
      refine ((ReadersPlain.any fuel).value 0 characters).bind ?_
      rintro ⟨value, form, rest⟩ value_plain
      dsimp only
      split
      · split
        · exact .pure (List.forall_mem_singleton.mpr value_plain)
        · refine (ih _).bind ?_
          rintro ⟨values, isTuple⟩ values_plain
          exact .pure (List.forall_mem_cons.mpr ⟨value_plain, values_plain⟩)
      · split
        · exact .pure (List.forall_mem_singleton.mpr value_plain)
        · exact .nothing

/-- A text that is a literal describes plain data. -/
theorem plain_of_read {text : String} {term : Term} (read : read? text = some term) :
    term.Plain := by
  suffices reads : Reads Term.Plain (read? text) from reads term read
  unfold read?
  dsimp only
  split
  · exact .nothing
  · refine (reads_bare _ _ _).bind ?_
    rintro ⟨values, isTuple⟩ values_plain
    dsimp only
    split
    · exact .pure (values_plain _ List.mem_cons_self)
    · exact .pure (.tuple values_plain)

end Literal

end MemberDispatch
