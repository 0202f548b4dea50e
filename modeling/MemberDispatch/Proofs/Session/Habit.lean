import Mathlib.Data.Int.Notation
import Mathlib.Data.Nat.Notation
import MemberDispatch.Member.Use
import MemberDispatch.Proofs.Session.Run

/-!
# Habits of work

A habit is a way of working on a session that work keeps to if each of its steps does: to leave
something alone, say. Finding a member for arguments and using it keep to every habit that the
operations of their engine keep to.
-/

namespace MemberDispatch

/-- What holds of work if it holds of its steps. -/
structure Act.Habit where
  Of : {α : Type} → Act α → Prop
  pure {α : Type} (result : α) : Of (Pure.pure result : Act α)
  throw {α : Type} (fault : Fault) : Of (MonadExcept.throw fault : Act α)
  bind {α β : Type} {work : Act α} {next : α → Act β} (first : Of work)
    (second : ∀ result, Of (next result)) : Of (work >>= next)
  attempt {α : Type} {work : Act α} (kept : Of work) : Of (Act.attempt work)
  /-- Looking at the objects. -/
  look {α : Type} (read : Array Object → α) :
    Of (get >>= fun session => Pure.pure (read session.objects) : Act α)

namespace Act.Habit

variable (habit : Act.Habit) {α : Type}

theorem classOf (value : Value) : habit.Of (Act.classOf value) :=
  habit.look value.classOf

theorem contentOf (value : Value) : habit.Of (Act.contentOf value) :=
  habit.look value.content

theorem objectAt (address : ℕ) : habit.Of (Act.objectAt address) :=
  habit.look fun objects => (objects[address]?).getD default

theorem isInstance (hierarchy : Hierarchy) (value : Value) (cls : ClassId) :
    habit.Of (Act.isInstance hierarchy value cls) :=
  habit.bind (habit.classOf value) fun _ => habit.pure _

theorem integerText (number : ℤ) : habit.Of (Act.integerText number) := by
  unfold Act.integerText
  split
  · exact habit.pure _
  · exact habit.throw _

theorem writtenInteger (base : ℤ) (text : String) :
    habit.Of (Written.integer base text) := by
  unfold Written.integer
  split
  · exact habit.pure _
  · exact habit.throw _

theorem toFloat (value : Value) : habit.Of (Arithmetic.toFloat? value) := by
  have floatOfInt (number : ℤ) : habit.Of (Act.floatOfInt number) := by
    unfold Act.floatOfInt
    split
    · exact habit.pure _
    · exact habit.throw _
  unfold Arithmetic.toFloat?
  split
  · exact habit.pure _
  · refine habit.bind ?_ fun number => habit.pure _
    unfold Act.floatOfRatio
    split
    · exact habit.pure _
    · exact habit.throw _
  · split
    · exact habit.bind (floatOfInt _) fun number => habit.pure _
    · exact habit.pure _

theorem realOf (value : Value) : habit.Of (Engine.realOf value) := by
  unfold Engine.realOf
  refine habit.bind (habit.contentOf value) fun content => ?_
  split
  · split
    · exact habit.throw _
    · exact habit.pure _
  · refine habit.bind (habit.toFloat _) fun number => ?_
    split
    · exact habit.pure _
    · exact habit.bind (habit.classOf value) fun cls => habit.throw _

theorem carriedText (value : Value) : habit.Of (Engine.carriedText value) := by
  unfold Engine.carriedText
  refine habit.bind ?_ fun bytes => ?_
  · unfold Engine.bytes?
    split
    · exact habit.pure _
    · refine habit.bind (habit.objectAt _) fun object => ?_
      split
      all_goals exact habit.pure _
    · exact habit.pure _
  · split
    · exact habit.pure _
    · split
      · exact habit.pure _
      · exact habit.throw _

theorem ifSuccessful {work : Act (Option α)} (kept : habit.Of work) :
    habit.Of (Engine.ifSuccessful work) := by
  unfold Engine.ifSuccessful
  refine habit.bind (habit.attempt kept) fun outcome => ?_
  split
  · exact habit.pure _
  · split
    · exact habit.throw _
    · exact habit.pure _

end Act.Habit

/-- That the operations of an engine besides its property steps keep to a habit. -/
structure Engine.Keeps (engine : Engine) (habit : Act.Habit) : Prop where
  call (callable : Callable) (arguments : List Value) : habit.Of (engine.call callable arguments)
  text (value : Value) : habit.Of (engine.text value)
  display (value : Value) : habit.Of (engine.display value)
  operate (operator : Operator) (operands : List Value) :
    habit.Of (engine.operate operator operands)

namespace Engine.Keeps

variable {habit : Act.Habit} {engine : Engine} (keeps : engine.Keeps habit)

include keeps

section Comparing

theorem isTrue (value : Value) : habit.Of (engine.isTrue value) := by
  unfold Engine.isTrue
  refine habit.bind (habit.contentOf value) fun content => ?_
  split
  any_goals exact habit.pure _
  refine habit.bind (habit.objectAt _) fun object => ?_
  split
  any_goals exact habit.pure _
  refine habit.bind (habit.classOf value) fun cls => ?_
  split
  · refine habit.bind (keeps.operate _ _) fun length => ?_
    split
    · exact habit.pure _
    · exact habit.pure _
  · exact habit.pure _

theorem compares (comparison : Comparison) (left right : Value) :
    habit.Of (engine.compares comparison left right) :=
  habit.bind (keeps.operate _ _) fun result => keeps.isTrue result

theorem inRange (width : Width) (value : Value) : habit.Of (engine.inRange width value) := by
  unfold Engine.inRange
  split
  · exact habit.pure _
  · split
    · refine habit.bind (keeps.compares _ _ _) fun above => ?_
      split
      · exact keeps.compares _ _ _
      · exact habit.pure _
    · exact habit.throw _

theorem isOfWidth (width : Width) (value : Value) :
    habit.Of (engine.isOfWidth width value) := by
  unfold Engine.isOfWidth
  refine habit.bind (habit.isInstance _ _ _) fun isInstance => ?_
  split
  · exact habit.pure _
  · split
    · exact keeps.inRange width value
    · split
      · exact habit.bind (keeps.operate _ _) fun length => keeps.compares _ _ _
      · exact habit.pure _

theorem isOfKey (key : TypeKey) (value : Value) : habit.Of (engine.isOfKey key value) := by
  unfold Engine.isOfKey
  split
  · exact habit.pure _
  · exact keeps.isOfWidth _ _
  · exact habit.isInstance _ _ _

end Comparing

section Converting

theorem toInteger (value : Value) : habit.Of (engine.toInteger value) := by
  unfold Engine.toInteger
  refine habit.bind (habit.contentOf value) fun content => ?_
  dsimp only
  split
  -- A number that is not whole is complained of with its text.
  iterate 3
    · split
      · exact habit.pure _
      · exact habit.bind (keeps.text value) fun text => habit.throw _
  · split
    · exact habit.pure _
    · exact habit.bind (keeps.text value) fun text => habit.writtenInteger _ _

theorem toReal (value : Value) : habit.Of (engine.toReal value) := by
  unfold Engine.toReal
  refine habit.bind (habit.contentOf value) fun content => ?_
  split
  any_goals exact habit.realOf _
  refine habit.bind (keeps.text value) fun text => ?_
  unfold Written.real
  split
  · exact habit.pure _
  · exact habit.throw _

theorem toTruth (value : Value) : habit.Of (engine.toTruth value) := by
  unfold Engine.toTruth
  refine habit.bind (habit.contentOf value) fun content => ?_
  split
  · exact keeps.operate _ _
  · exact habit.pure _
  · refine habit.bind (keeps.text _) fun text => ?_
    split
    · exact habit.pure _
    · exact habit.bind (habit.writtenInteger _ _) fun number => habit.pure _

theorem toDecimal (value : Value) : habit.Of (engine.toDecimal value) := by
  unfold Engine.toDecimal
  refine habit.bind (habit.contentOf value) fun content => ?_
  split
  · exact habit.pure _
  · refine habit.bind (keeps.text value) fun text => ?_
    split
    · exact habit.pure _
    · exact habit.throw _

theorem spoken (value : Value) : habit.Of (engine.spoken value) := by
  have plain : habit.Of (engine.text value >>= fun text => Pure.pure (Value.text text)) :=
    habit.bind (keeps.text value) fun text => habit.pure _
  unfold Engine.spoken
  split
  · refine habit.bind (habit.objectAt _) fun object => ?_
    split
    · refine habit.bind (keeps.call _ _) fun answer => ?_
      refine habit.bind (habit.isInstance _ _ _) fun isText => ?_
      split
      · exact habit.pure _
      · exact habit.bind (habit.classOf _) fun cls => habit.throw _
    · exact plain
  · exact plain

theorem toCharacter (value : Value) : habit.Of (engine.toCharacter value) := by
  unfold Engine.toCharacter
  have single (result : Value) : habit.Of (do
      if ← engine.compares .eq (← engine.operate .length [result]) (.int 1) then return result
      else throw (.conversion (.notOneCharacter (← engine.display result)))) := by
    refine habit.bind (keeps.operate _ _) fun length => ?_
    refine habit.bind (keeps.compares _ _ _) fun isSingle => ?_
    split
    · exact habit.pure _
    · exact habit.bind (keeps.display _) fun shown => habit.throw _
  refine habit.bind (habit.isInstance _ _ _) fun isText => ?_
  dsimp only
  split
  · exact habit.bind (habit.pure _) fun result => single result
  · exact habit.bind (keeps.spoken value) fun result => single result

theorem toWidth (width : Width) (value : Value) : habit.Of (engine.toWidth width value) := by
  unfold Engine.toWidth
  refine habit.bind (keeps.toInteger value) fun number => ?_
  refine habit.bind (keeps.inRange width _) fun inRange => ?_
  split
  · exact habit.pure _
  · exact habit.bind (habit.integerText number) fun text => habit.throw _

theorem coerce (coercion : Coercion) (value : Value) :
    habit.Of (engine.coerce coercion value) := by
  cases coercion with
  | char => exact keeps.toCharacter value
  | int => exact habit.bind (keeps.toInteger value) fun _ => habit.pure _
  | float => exact habit.bind (keeps.toReal value) fun _ => habit.pure _
  | bool => exact keeps.toTruth value
  | decimal => exact habit.bind (keeps.toDecimal value) fun _ => habit.pure _
  | text => exact keeps.spoken value
  | bytes => exact habit.bind (keeps.text value) fun _ => habit.pure _
  | width width => exact keeps.toWidth width value
  | body body => exact keeps.call _ _
  | callable callable => exact keeps.call _ _

theorem convert (converter : Converter) (value : Value) :
    habit.Of (engine.convert converter value) := by
  unfold Engine.convert
  split
  · exact habit.throw _
  · refine habit.bind (keeps.isOfKey _ _) fun isOfKey => ?_
    split
    · exact habit.pure _
    · split
      · exact habit.bind (habit.classOf _) fun cls => habit.throw _
      · exact habit.bind (habit.carriedText _) fun carried => keeps.coerce _ _

end Converting

section Choosing

theorem convertAll (converters : List Converter) (arguments : List Value) :
    habit.Of (engine.convertAll converters arguments) := by
  induction converters generalizing arguments with
  | nil => exact habit.pure _
  | cons converter converters ih =>
      cases arguments with
      | nil => exact habit.pure _
      | cons argument arguments =>
          exact habit.bind (keeps.convert converter argument) fun first =>
            habit.bind (ih arguments) fun others => habit.pure _

theorem allOfTargets (converters : List Converter) (arguments : List Value) :
    habit.Of (engine.allOfTargets converters arguments) := by
  induction converters generalizing arguments with
  | nil => exact habit.pure _
  | cons converter converters ih =>
      cases arguments with
      | nil => exact habit.pure _
      | cons argument arguments =>
          refine habit.bind (keeps.isOfKey _ _) fun isOfKey => ?_
          split
          · exact ih arguments
          · exact habit.pure _

theorem convertFor (member : Member) (arguments : List Value) (extras : ℤ) :
    habit.Of (engine.convertFor? member arguments extras) := by
  unfold Engine.convertFor?
  dsimp only
  split
  · exact habit.pure _
  · refine habit.ifSuccessful ?_
    split
    · exact habit.bind (keeps.convertAll _ _) fun _ => habit.pure _
    · split
      · refine habit.bind (keeps.convertAll _ _) fun converted => ?_
        refine habit.bind (keeps.allOfTargets _ _) fun suit => ?_
        split
        · exact habit.pure _
        · exact habit.pure _
      · split
        · refine habit.bind (keeps.allOfTargets _ _) fun suit => ?_
          split
          · refine habit.bind (keeps.allOfTargets _ _) fun suit => ?_
            split
            · exact habit.pure _
            · exact habit.pure _
          · exact habit.pure _
        · exact habit.pure _

theorem choose (index : Index) (onlyPublic : Bool) (required : ClassId) (arguments : List Value)
    (extras : ℤ) : habit.Of (engine.choose index onlyPublic required arguments extras) := by
  unfold Engine.choose
  induction index.candidates arguments.length with
  | nil => exact habit.pure _
  | cons member members ih =>
      unfold Engine.chooseAmong
      split
      · refine habit.bind (keeps.convertFor _ _ _) fun converted => ?_
        split
        · exact habit.pure _
        · exact ih
      · exact ih

theorem use (member : Member) (value : Value) (arguments : List Value) :
    habit.Of (engine.use member value arguments) := by
  unfold Engine.use
  split
  · exact habit.throw _
  all_goals exact keeps.call _ _

end Choosing

end Engine.Keeps

end MemberDispatch
