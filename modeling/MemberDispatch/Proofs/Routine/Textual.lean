import MemberDispatch.Intrinsic.Texts
import MemberDispatch.Library.Textual
import MemberDispatch.Proofs.Routine.Numeric

/-!
# Routines of texts

The members of texts and the functions of the provider for texts keep to every routine that the
operations of their engine keep to.
-/

namespace MemberDispatch

namespace Act.Routine

variable (routine : Act.Routine)

/-- What there is, or else something other. -/
theorem orElse {α : Type} {work? : Option (Act α)} {other : Act α}
    (each : ∀ work, work? = some work → routine.Of work) (kept : routine.Of other) :
    routine.Of (work?.getD other) := by
  cases work? with
  | some work => exact each work rfl
  | none => exact kept

section Written

theorem integerOfBytes (base : ℤ) (bytes : List UInt8) :
    routine.Of (Written.integerOfBytes base bytes) := by
  unfold Written.integerOfBytes
  split
  · exact routine.pure _
  · exact routine.throw _
  · exact routine.throw _

theorem realText (text : String) : routine.Of (Written.real text) := by
  unfold Written.real
  split
  · exact routine.pure _
  · exact routine.throw _

theorem realOfBytes (bytes : List UInt8) (shown : String) :
    routine.Of (Written.realOfBytes bytes shown) := by
  unfold Written.realOfBytes
  split
  · exact routine.pure _
  · exact routine.throw _

end Written

section Arguments

theorem encoding (name : String) : routine.Of (Argument.encoding name) := by
  unfold Argument.encoding
  split
  · exact routine.pure _
  · exact routine.throw _

theorem namedText (operation name default : String) (value : Option Value) :
    routine.Of (Argument.namedText operation name default value) := by
  unfold Argument.namedText
  split
  · exact routine.pure _
  · exact routine.textArgument _ _

theorem encodingPair (operation : String) (isNeeded : Bool) (arguments : List Value) :
    routine.Of (Argument.encodingPair operation isNeeded arguments) := by
  unfold Argument.encodingPair
  refine routine.bind (routine.namedText _ _ _ _) ?_
  intro name
  refine routine.bind (routine.namedText _ _ _ _) ?_
  intro word
  exact routine.ite (routine.bind (routine.encoding _) fun _ => routine.pure _) (routine.pure _)

theorem fillingCharacter (value : Option Value) : routine.Of (Engine.fillingCharacter value) := by
  unfold Engine.fillingCharacter
  split
  · exact routine.pure _
  · refine routine.bind (routine.textArgument _ _) ?_
    intro text
    split
    · exact routine.pure _
    · exact routine.throw _

theorem cutCharacters (name : String) (value : Option Value) :
    routine.Of (Engine.cutCharacters name value) := by
  unfold Engine.cutCharacters
  split
  · exact routine.pure _
  · exact routine.pure _
  · exact routine.bind (routine.textArgument _ _) fun _ => routine.pure _

theorem textItems (position : ℕ) (items : List Value) :
    routine.Of (Engine.textItems position items) := by
  induction items generalizing position with
  | nil => exact routine.pure _
  | cons item items ih =>
      exact routine.bind (routine.textArgument _ _) fun _ =>
        routine.bind (ih _) fun _ => routine.pure _

theorem boundOf (value : Value) : routine.Of (Engine.boundOf value) := by
  unfold Engine.boundOf
  split
  · exact routine.pure _
  · refine routine.bind (routine.contentOf _) ?_
    intro content
    split
    · exact routine.pure _
    · exact routine.throw _

end Arguments

section Parts

theorem makeTexts (texts : List (List Char)) : routine.Of (Engine.makeTexts texts) :=
  routine.makeList _

theorem splitText (fromRight : Bool) (characters : List Char) (arguments : List Value) :
    routine.Of (Engine.splitText fromRight characters arguments) := by
  unfold Engine.splitText
  refine routine.bind (routine.sizeOr _ _) ?_
  intro limit
  split
  · exact routine.makeTexts _
  · exact routine.bind (routine.textArgument _ _) fun _ =>
      routine.ite (routine.throw _) (routine.makeTexts _)

theorem partitionText (fromRight : Bool) (characters : List Char) (argument : Value) :
    routine.Of (Engine.partitionText fromRight characters argument) := by
  unfold Engine.partitionText
  refine routine.bind (routine.textArgument _ _) fun separator => routine.ite (routine.throw _) ?_
  extract_lets whole cut
  clear_value cut
  split
  · exact routine.pure _
  · exact routine.ite (routine.pure _) (routine.pure _)

theorem stretch {α : Type} (items : List α) (start stop : Value) :
    routine.Of (Engine.stretch items start stop) :=
  routine.bind (routine.boundOf _) fun _ => routine.bind (routine.boundOf _) fun _ => routine.pure _

theorem stretchOf (sequence start stop : Value) :
    routine.Of (Engine.stretchOf sequence start stop) := by
  unfold Engine.stretchOf
  refine routine.bind (routine.contentOf sequence) ?_
  intro content
  split
  · exact routine.bind (routine.stretch _ _ _) fun _ => routine.pure _
  · exact routine.bind (routine.stretch _ _ _) fun _ => routine.pure _
  · exact routine.bind (routine.stretch _ _ _) fun _ => routine.pure _
  refine routine.bind (routine.listItems sequence) ?_
  intro items
  refine routine.bind (routine.bytes sequence) ?_
  intro bytes
  refine routine.bind (routine.dictEntries sequence) ?_
  intro entries
  split
  · exact routine.bind (routine.stretch _ _ _) fun _ => routine.makeList _
  · exact routine.bind (routine.stretch _ _ _) fun _ => routine.makeByteArray _
  · exact routine.throw _
  · exact routine.bind (routine.className _) fun _ => routine.throw _

/-- A part of a text by whole numbers, if it is one. -/
theorem textPart {name : String} {characters : List Char} {first : ℤ} {second : Option ℤ}
    {work : Act Value} (part : Engine.textPart? name characters first second = some work) :
    routine.Of work := by
  unfold Engine.textPart? at part
  split at part
  · cases part
    split
    · exact routine.pure _
    · exact routine.bind (routine.integerText _) fun _ =>
        routine.bind (routine.integerText _) fun _ => routine.throw _
  · cases part
    exact routine.pure _
  · cases part
    exact routine.pure _
  · cases part
    exact routine.pure _
  · rcases Option.map_eq_some_iff.mp part with ⟨stop, -, rfl⟩
    exact routine.pure _

theorem escapedQuery (value : Value) : routine.Of (Engine.escapedQuery value) := by
  unfold Engine.escapedQuery
  refine routine.bind (routine.contentOf value) ?_
  intro content
  split
  · exact routine.pure _
  · refine routine.bind (routine.bytes value) ?_
    intro bytes
    split
    · exact routine.pure _
    · exact routine.throw _

theorem capitalized (value : Value) : routine.Of (Engine.capitalized value) := by
  unfold Engine.capitalized
  refine routine.bind (routine.contentOf value) ?_
  intro content
  split
  · exact routine.pure _
  · refine routine.bind (routine.bytes value) fun bytes => routine.ite (routine.throw _) ?_
    exact routine.bind (routine.className _) fun _ => routine.throw _

end Parts

end Act.Routine

namespace Engine.Keeps

variable {routine : Act.Routine} {engine : Engine} (keeps : engine.Keeps routine.toHabit)

include keeps

section Members

theorem joinTexts (separator : String) (argument : Value) :
    routine.Of (engine.joinTexts separator argument) := by
  unfold Engine.joinTexts
  refine routine.bind (keeps.items argument) ?_
  intro items
  split
  · exact routine.throw _
  · exact routine.bind (routine.textItems _ _) fun _ => routine.pure _

theorem translateCharacter (table : Value) (character : Char) :
    routine.Of (engine.translateCharacter table character) := by
  unfold Engine.translateCharacter
  refine routine.bind (routine.attempt (keeps.operate _ _)) ?_
  intro outcome
  split
  · exact routine.ite (routine.pure _) (routine.throw _)
  · exact routine.pure _
  · refine routine.bind (routine.contentOf _) ?_
    intro content
    split
    · exact routine.pure _
    · split
      · exact routine.ite (routine.pure _) (routine.throw _)
      · exact routine.throw _

theorem textOperation (name text : String) (arguments : List Value) :
    routine.Of (engine.textOperation name text arguments) := by
  have argument (value : Value) (complaint : String → String) (work : String → Act Value)
      (each : ∀ text, routine.Of (work text)) : routine.Of (Argument.text value complaint >>= work) :=
    routine.bind (routine.textArgument _ _) each
  have filled (work : ℤ → Char → List Char) : routine.Of (do
      let width ← Argument.width (Argument.atOrNone arguments 0)
      Engine.textOf (work width (← fillingCharacter (Argument.at? arguments 1)))) :=
    routine.bind (routine.width _) fun _ =>
      routine.bind (routine.fillingCharacter _) fun _ => routine.pure _
  have cut (work : (Char → Bool) → List Char) : routine.Of (do
      Engine.textOf (work (← cutCharacters name (Argument.at? arguments 0)))) :=
    routine.bind (routine.cutCharacters _ _) fun _ => routine.pure _
  unfold Engine.textOperation
  dsimp only
  split
  · refine routine.bind (routine.encodingPair _ _ _) ?_
    intro pair
    split
    · exact routine.pure _
    · exact routine.throw _
  · exact argument _ _ _ fun _ => argument _ _ _ fun _ =>
      routine.bind (routine.sizeOr _ _) fun _ => routine.pure _
  · exact routine.splitText _ _ _
  · exact routine.splitText _ _ _
  · exact keeps.joinTexts _ _
  · exact filled _
  · exact filled _
  · exact filled _
  · exact routine.bind (routine.width _) fun _ => routine.pure _
  · exact routine.bind (routine.smallOr _ _) fun _ => routine.pure _
  · exact routine.bind (routine.smallOr _ _) fun _ => routine.makeTexts _
  · exact routine.partitionText _ _ _
  · exact routine.partitionText _ _ _
  · exact cut _
  · exact cut _
  · exact cut _
  · exact argument _ _ _ fun _ => routine.pure _
  · exact argument _ _ _ fun _ => routine.pure _
  · exact routine.bind (routine.mapM (keeps.translateCharacter _) _) fun _ => routine.pure _
  · exact routine.throw _

theorem textMember (name text : String) (arguments : List Value) :
    routine.Of (engine.textMember name text arguments) := by
  unfold Engine.textMember
  split
  · exact routine.pure _
  · exact routine.pure _
  · exact keeps.textOperation _ _ _

end Members

section Functions

theorem atLeastZero (value : Value) : routine.Of (engine.atLeastZero value) :=
  keeps.pick _ _ _

theorem strictStretch (sequence start stop : Value) :
    routine.Of (engine.strictStretch sequence start stop) := by
  have length : routine.Of (engine.operate .length [sequence]) := keeps.operate _ _
  unfold Engine.strictStretch
  extract_lets rest
  have goes_on (stop : Value) : routine.Of (rest stop) := by
    unfold rest
    extract_lets isOutside
    have outside : routine.Of isOutside := by
      refine routine.bind (keeps.compares _ _ _) fun below => routine.ite (routine.pure _) ?_
      refine routine.bind length fun _ => routine.bind (keeps.compares _ _ _) ?_
      intro above
      exact routine.ite (routine.pure _) (keeps.compares _ _ _)
    refine routine.bind outside fun isOutside => routine.ite ?_ (routine.stretchOf _ _ _)
    refine routine.bind (keeps.text _) fun first => routine.bind (keeps.text _) ?_
    intro last
    exact routine.bind length fun _ => routine.bind (keeps.text _) fun _ => routine.throw _
  split
  · exact routine.bind length goes_on
  · exact routine.bind (routine.pure _) goes_on

theorem partOf (name : String) (sequence first second : Value) :
    routine.Of (engine.partOf name sequence first second) := by
  unfold Engine.partOf
  split
  · exact keeps.strictStretch _ _ _
  · exact routine.bind (keeps.atLeastZero _) fun _ => routine.stretchOf _ _ _
  · exact routine.bind (keeps.atLeastZero _) fun _ => routine.stretchOf _ _ _
  · refine routine.bind (keeps.compares _ _ _) fun positive => routine.ite ?_ (routine.pure _)
    exact routine.bind (keeps.operate _ _) fun _ =>
      routine.bind (keeps.combine _ _ _) fun _ => routine.stretchOf _ _ _
  · refine routine.bind (keeps.atLeastZero _) ?_
    intro start
    exact routine.bind (keeps.atLeastZero _) fun _ =>
      routine.bind (keeps.combine _ _ _) fun _ => routine.stretchOf _ _ _

theorem replacing (value : Value) (changes : List (String × String)) :
    routine.Of (engine.replacing value changes) := by
  induction changes generalizing value with
  | nil => exact routine.pure _
  | cons change changes ih => exact routine.bind (keeps.callMember _ _ _) fun _ => ih _

theorem escapedHtml (value : Value) : routine.Of (engine.escapedHtml value) := by
  unfold Engine.escapedHtml
  refine routine.bind (routine.contentOf value) ?_
  intro content
  split
  · exact routine.pure _
  · exact keeps.replacing _ _

theorem escapedXml (value : Value) : routine.Of (engine.escapedXml value) := by
  unfold Engine.escapedXml
  refine routine.bind (routine.contentOf value) ?_
  intro content
  split
  · exact routine.pure _
  · exact keeps.replacing _ _

theorem parsedInteger (value base : Value) : routine.Of (engine.parsedInteger value base) := by
  unfold Engine.parsedInteger
  refine routine.bind (keeps.callMember _ _ _) ?_
  intro stripped
  refine routine.bind (routine.integer base) ?_
  intro base
  refine routine.bind (routine.contentOf stripped) ?_
  intro content
  refine routine.bind (routine.bytes stripped) ?_
  intro bytes
  split
  · exact routine.bind (routine.writtenInteger _ _) fun _ => routine.pure _
  · exact routine.bind (routine.integerOfBytes _ _) fun _ => routine.pure _
  · exact routine.throw _

theorem parsedReal (value : Value) : routine.Of (engine.parsedReal value) :=
  routine.bind (keeps.callMember _ _ _) fun _ => keeps.call _ _

theorem textFunction (name : String) (arguments : List Value) :
    routine.Of (engine.textFunction name arguments) := by
  unfold Engine.textFunction
  dsimp only
  split
  · exact routine.capitalized _
  · exact keeps.escapedHtml _
  · exact keeps.escapedXml _
  · exact routine.escapedQuery _
  · exact keeps.parsedInteger _ _
  · exact keeps.parsedReal _
  · refine routine.orElse (fun work part => ?_) (keeps.partOf _ _ _ _)
    split at part
    · exact routine.textPart part
    · exact routine.textPart part
    · cases part

end Functions

end Engine.Keeps

end MemberDispatch
