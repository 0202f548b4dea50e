import MemberDispatch.Proofs.Routine.Basic
import MemberDispatch.Value.Operate

/-!
# Routines among values

What values hold, keys, numbers and sequences: all of it looks at objects and makes new ones at most, so
it keeps to every routine.
-/

namespace MemberDispatch

namespace Act.Routine

variable (routine : Act.Routine)

section Contents

theorem bytes (value : Value) : routine.Of (Engine.bytes? value) := by
  unfold Engine.bytes?
  split
  · exact routine.pure _
  · refine routine.bind (routine.objectAt _) ?_
    intro object
    split
    all_goals exact routine.pure _
  · exact routine.pure _

theorem setItems (value : Value) : routine.Of (Engine.setItems? value) := by
  unfold Engine.setItems?
  split
  · exact routine.pure _
  · refine routine.bind (routine.objectAt _) ?_
    intro object
    split
    all_goals exact routine.pure _
  · exact routine.pure _

theorem listItems (value : Value) : routine.Of (Engine.listItems? value) := by
  unfold Engine.listItems?
  split
  · refine routine.bind (routine.objectAt _) ?_
    intro object
    split
    all_goals exact routine.pure _
  · exact routine.pure _

theorem dictEntries (value : Value) : routine.Of (Engine.dictEntries? value) := by
  unfold Engine.dictEntries?
  split
  · refine routine.bind (routine.objectAt _) ?_
    intro object
    split
    all_goals exact routine.pure _
  · exact routine.pure _

theorem bytesArgument (value : Value) : routine.Of (Argument.bytes value) := by
  unfold Argument.bytes
  refine routine.bind (routine.bytes value) ?_
  intro bytes
  split
  · exact routine.pure _
  · exact routine.bind (routine.className value) fun _ => routine.throw _

end Contents

section Keys

variable (engine : Engine)

theorem requireKey (value : Value) : routine.Of (engine.requireKey value) := by
  unfold Engine.requireKey
  refine routine.bind routine.get ?_
  intro session
  split
  · exact routine.throw _
  · split
    · exact routine.throw _
    · exact routine.pure _

theorem hasKey (key : Value) (keys : List Value) : routine.Of (engine.hasKey key keys) :=
  routine.bind routine.get fun _ => routine.pure _

theorem distinctKeys (values : List Value) : routine.Of (engine.distinctKeys values) := by
  unfold Engine.distinctKeys
  refine routine.foldlM (fun kept value => ?_) _ _
  refine routine.bind (routine.requireKey engine value) fun _ => ?_
  exact routine.bind (routine.hasKey engine value kept) fun _ => routine.pure _

theorem isSubset (left right : List Value) : routine.Of (engine.isSubset left right) :=
  routine.bind routine.get fun _ => routine.pure _

theorem compareSets (comparison : Comparison) (left right : List Value) :
    routine.Of (engine.compareSets comparison left right) :=
  routine.bind (routine.isSubset engine _ _) fun _ =>
    routine.bind (routine.isSubset engine _ _) fun _ => routine.pure _

theorem updateEntries (entries : List (Value × Value)) (key value : Value) :
    routine.Of (engine.updateEntries entries key value) := by
  unfold Engine.updateEntries
  refine routine.bind routine.get ?_
  intro session
  dsimp only
  split
  · exact routine.pure _
  · exact routine.pure _

end Keys

section Numbers

theorem compareNumbers (comparison : Comparison) (left right : Value) :
    routine.Of (Engine.compareNumbers comparison left right) := by
  unfold Engine.compareNumbers
  split
  · exact routine.pure _
  · dsimp only
    split
    · exact routine.throw _
    · exact routine.pure _

theorem floatOfInt (number : ℤ) : routine.Of (Act.floatOfInt number) := by
  unfold Act.floatOfInt
  split
  · exact routine.pure _
  · exact routine.throw _

theorem floatOfRatio (numerator : ℤ) (denominator : ℕ) :
    routine.Of (Act.floatOfRatio numerator denominator) := by
  unfold Act.floatOfRatio
  split
  · exact routine.pure _
  · exact routine.throw _

theorem floatPower (base exponent : Float) :
    routine.Of (Arithmetic.floatPower base exponent) := by
  unfold Arithmetic.floatPower
  split
  · exact routine.throw _
  · split
    · exact routine.pure _
    · dsimp only
      split
      · exact routine.throw _
      · exact routine.pure _

theorem ofInts (operator : BinaryOperator) (left right : ℤ) :
    routine.Of (Arithmetic.ofInts operator left right) := by
  have power : routine.Of (do
      Arithmetic.floatPower (← Act.floatOfInt left) (← Act.floatOfInt right)) :=
    routine.bind (routine.floatOfInt _) fun _ => routine.bind (routine.floatOfInt _) fun _ =>
      routine.floatPower _ _
  unfold Arithmetic.ofInts
  cases operator
  case trueDiv =>
    dsimp only
    split
    · exact routine.throw _
    · split
      · exact routine.pure _
      · exact routine.bind (routine.floatOfRatio _ _) fun _ => routine.pure _
  case pow =>
    dsimp only
    split
    · exact routine.pure _
    · exact power
  case shiftLeft =>
    dsimp only
    split
    · exact routine.throw _
    · split
      · exact routine.pure _
      · split
        · exact routine.throw _
        · split
          · exact routine.throw _
          · exact routine.pure _
  case floorDiv | mod | shiftRight =>
    dsimp only
    split
    · exact routine.throw _
    · exact routine.pure _
  all_goals exact routine.pure _

theorem ofBools (operator : BinaryOperator) (left right : Bool) :
    routine.Of (Arithmetic.ofBools operator left right) := by
  unfold Arithmetic.ofBools
  split
  · exact routine.pure _
  · exact routine.pure _
  · exact routine.pure _
  · exact routine.ofInts _ _ _

theorem ofFloats (operator : BinaryOperator) (left right : Float) :
    routine.Of (Arithmetic.ofFloats operator left right) := by
  unfold Arithmetic.ofFloats
  cases operator
  case trueDiv | floorDiv | mod =>
    dsimp only
    split
    · exact routine.throw _
    · exact routine.pure _
  case pow => exact routine.floatPower _ _
  all_goals exact routine.pure _

theorem ofDecimals (operator : BinaryOperator) (left right : Decimal) :
    routine.Of (Arithmetic.ofDecimals operator left right) := by
  unfold Arithmetic.ofDecimals
  cases operator
  case pow =>
    dsimp only
    split
    · exact routine.ofDecimal _
    · exact routine.throw _
  case add | sub | mul | trueDiv | floorDiv | mod => exact routine.ofDecimal _
  all_goals exact routine.pure _

theorem ofRatios (operator : BinaryOperator) (left right : Rat) :
    routine.Of (Arithmetic.ofRatios operator left right) := by
  have raised : routine.Of (Arithmetic.raiseRatio left right.num) := by
    unfold Arithmetic.raiseRatio
    split
    · exact routine.throw _
    · exact routine.pure _
  unfold Arithmetic.ofRatios
  cases operator
  case trueDiv =>
    unfold Arithmetic.divideRatios
    dsimp only
    split
    · exact routine.throw _
    · exact routine.pure _
  case floorDiv | mod =>
    dsimp only
    split
    · exact routine.throw _
    · exact routine.pure _
  case pow =>
    dsimp only
    split
    · exact raised
    · exact routine.bind (routine.floatOfRatio _ _) fun _ =>
        routine.bind (routine.floatOfRatio _ _) fun _ => routine.floatPower _ _
  all_goals exact routine.pure _

theorem ofNumbers (operator : BinaryOperator) (left right : Value) :
    routine.Of (Arithmetic.ofNumbers operator left right) := by
  unfold Arithmetic.ofNumbers
  split
  · exact routine.ofBools _ _ _
  · exact routine.ofFloats _ _ _
  · exact routine.ofDecimals _ _ _
  · split
    · exact routine.ofDecimals _ _ _
    · exact routine.pure _
  · split
    · exact routine.ofDecimals _ _ _
    · exact routine.pure _
  · split
    · exact routine.ofInts _ _ _
    · split
      · split
        · exact routine.pure _
        · exact routine.ofRatios _ _ _
      · split
        · exact routine.pure _
        · exact routine.ofRatios _ _ _
      · exact routine.ofRatios _ _ _
      · split
        · exact routine.pure _
        · refine routine.bind (routine.toFloat _) ?_
          intro first
          refine routine.bind (routine.toFloat _) ?_
          intro second
          split
          · exact routine.ofFloats _ _ _
          · exact routine.pure _

end Numbers

section Sequences

theorem isSequence (value : Value) : routine.Of (Engine.isSequence value) := by
  unfold Engine.isSequence
  refine routine.bind (routine.contentOf value) ?_
  intro content
  split
  any_goals exact routine.pure _
  refine routine.bind (routine.objectAt _) ?_
  intro object
  split
  all_goals exact routine.pure _

theorem joinSequences (left right : Value) : routine.Of (Engine.joinSequences left right) := by
  unfold Engine.joinSequences
  refine routine.bind (routine.classOf right) ?_
  intro cls
  refine routine.bind (routine.contentOf left) ?_
  intro content
  split
  · refine routine.bind (routine.contentOf right) ?_
    intro other
    split
    · exact routine.pure _
    · exact routine.throw _
  · refine routine.bind (routine.contentOf right) ?_
    intro other
    split
    · exact routine.pure _
    · exact routine.throw _
  · refine routine.bind (routine.bytes right) ?_
    intro other
    split
    · exact routine.pure _
    · exact routine.throw _
  · refine routine.bind (routine.objectAt _) ?_
    intro object
    split
    · refine routine.bind (routine.listItems right) ?_
      intro other
      split
      · exact routine.makeList _
      · exact routine.throw _
    · refine routine.bind (routine.bytes right) ?_
      intro other
      split
      · exact routine.makeByteArray _
      · exact routine.throw _
    · exact routine.pure _
  · exact routine.pure _

theorem repeatItems {α : Type} (items : List α) (count : ℤ) (tooLong : Option String) :
    routine.Of (Engine.repeatItems items count tooLong) := by
  have rest : routine.Of (do
      Act.requireRoom (items.length * count.toNat)
      if items.isEmpty then return [] else return Engine.repeated items count) := by
    refine routine.bind (routine.requireRoom _) fun _ => ?_
    split
    · exact routine.pure _
    · exact routine.pure _
  unfold Engine.repeatItems
  dsimp only
  split
  · split
    · exact routine.bind (routine.throw _) fun _ => rest
    · exact rest
  · exact rest

theorem repeatSequence (sequence : Value) (count : ℤ) (counter : ClassId) :
    routine.Of (Engine.repeatSequence sequence count counter) := by
  unfold Engine.repeatSequence
  split
  · exact routine.throw _
  · refine routine.bind (routine.contentOf sequence) ?_
    intro content
    split
    · exact routine.bind (routine.repeatItems _ _ _) fun _ => routine.pure _
    · exact routine.bind (routine.repeatItems _ _ _) fun _ => routine.pure _
    · exact routine.bind (routine.repeatItems _ _ _) fun _ => routine.pure _
    · refine routine.bind (routine.objectAt _) ?_
      intro object
      split
      · exact routine.bind (routine.repeatItems _ _ _) fun _ => routine.makeList _
      · exact routine.bind (routine.repeatItems _ _ _) fun _ => routine.makeByteArray _
      · exact routine.pure _
    · exact routine.pure _

theorem combineSets (engine : Engine) (operator : BinaryOperator) (left : Value)
    (leftItems rightItems : List Value) :
    routine.Of (engine.combineSets operator left leftItems rightItems) := by
  unfold Engine.combineSets
  refine routine.bind routine.get ?_
  intro session
  refine routine.bind (routine.contentOf left) ?_
  intro content
  split
  · exact routine.pure _
  · exact routine.makeSet _
  · exact routine.pure _

theorem unsupported {α : Type} (operator : BinaryOperator) (left right : Value) :
    routine.Of (Engine.unsupported operator left right : Act α) :=
  routine.bind (routine.classOf left) fun _ =>
    routine.bind (routine.classOf right) fun _ => routine.throw _

theorem combineSequences (operator : BinaryOperator) (left right : Value) :
    routine.Of (Engine.combineSequences operator left right) := by
  have repeats (sequence count : Value) (number : ℤ) : routine.Of (do
      Engine.repeatSequence sequence number (← Act.classOf count)) :=
    routine.bind (routine.classOf count) fun _ => routine.repeatSequence _ _ _
  have refuses (count : Value) (complaint : ClassId → String) : routine.Of (do
      Act.typeError (complaint (← Act.classOf count)) : Act Value) :=
    routine.bind (routine.classOf count) fun _ => routine.throw _
  unfold Engine.combineSequences
  refine routine.bind (routine.isSequence left) ?_
  intro leftIs
  refine routine.bind (routine.isSequence right) ?_
  intro rightIs
  split
  · split
    · exact routine.joinSequences _ _
    · exact routine.unsupported _ _ _
  · split
    · refine routine.bind (routine.contentOf right) ?_
      intro content
      split
      · exact repeats left right _
      · exact refuses right _
    · split
      · refine routine.bind (routine.contentOf left) ?_
        intro content
        split
        · exact repeats right left _
        · exact refuses left _
      · exact routine.unsupported _ _ _
  · exact routine.unsupported _ _ _

theorem firstAnswer {attempts : List (Act Value)} (each : ∀ attempt ∈ attempts, routine.Of attempt) :
    routine.Of (Engine.firstAnswer attempts) := by
  induction attempts with
  | nil => exact routine.pure _
  | cons attempt attempts ih =>
      rcases List.forall_mem_cons.mp each with ⟨here, behind⟩
      unfold Engine.firstAnswer
      refine routine.bind here ?_
      intro answer
      split
      · exact ih behind
      · exact routine.pure _

theorem itemAt {α : Type} (items : List α) (index : ℤ) (complaint : String) :
    routine.Of (Engine.itemAt items index complaint) := by
  unfold Engine.itemAt
  split
  · exact routine.throw _
  · split
    · exact routine.pure _
    · exact routine.throw _

theorem indexOf (value : Value) (complaint : String → String) :
    routine.Of (Engine.indexOf value complaint) := by
  unfold Engine.indexOf
  refine routine.bind (routine.contentOf value) ?_
  intro content
  split
  · exact routine.pure _
  · exact routine.bind (routine.classOf value) fun _ => routine.throw _

theorem bytesContain (bytes : List UInt8) (value : Value) :
    routine.Of (Engine.bytesContain bytes value) := by
  unfold Engine.bytesContain
  refine routine.bind (routine.contentOf value) ?_
  intro content
  split
  · split
    · exact routine.throw _
    · exact routine.pure _
  · refine routine.bind (routine.bytes value) ?_
    intro run
    split
    · exact routine.pure _
    · exact routine.bind (routine.classOf value) fun _ => routine.throw _

theorem checkedLength (value : Value) : routine.Of (Engine.checkedLength value) := by
  unfold Engine.checkedLength
  refine routine.bind (routine.contentOf value) ?_
  intro content
  split
  · split
    · exact routine.throw _
    · split
      · exact routine.throw _
      · exact routine.pure _
  · exact routine.bind (routine.classOf value) fun _ => routine.throw _

end Sequences

section Templates

theorem formatInteger (place : Percent.Place) (width : ℕ) (number : ℤ) :
    routine.Of (Engine.formatInteger place width number) := by
  unfold Engine.formatInteger
  extract_lets mark shown
  have ends (digits : List Char) : routine.Of (shown digits) := routine.pure _
  split
  · exact routine.bind (routine.pure _) ends
  · exact routine.bind (routine.pure _) ends
  · exact routine.bind (routine.pure _) ends
  · exact routine.bind (routine.integerText _) fun _ => routine.bind (routine.pure _) ends

theorem takeAmount (amount : Percent.Amount) (arguments : List Value) :
    routine.Of (Engine.takeAmount amount arguments) := by
  unfold Engine.takeAmount
  split
  · exact routine.pure _
  · exact routine.pure _
  · split
    · exact routine.throw _
    · split
      · exact routine.pure _
      · exact routine.throw _

theorem fillBytes (template : Value) (bytes : List UInt8) (value : Value) :
    routine.Of (Engine.fillBytes template bytes value) := by
  unfold Engine.fillBytes
  refine routine.bind (routine.contentOf value) ?_
  intro content
  refine routine.bind (routine.dictEntries value) ?_
  intro entries
  refine routine.bind (routine.listItems value) ?_
  intro items
  refine routine.ite ?_ (routine.throw _)
  refine routine.bind (routine.contentOf template) ?_
  intro made
  split
  · exact routine.pure _
  · exact routine.makeByteArray _

end Templates

end Act.Routine

end MemberDispatch
