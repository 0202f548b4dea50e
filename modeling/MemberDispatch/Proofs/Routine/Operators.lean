import MemberDispatch.Proofs.Routine.Values

/-!
# Routines of operators

Attributes, comparisons and operators keep to every routine that the operations of their engine keep
to.
-/

namespace MemberDispatch

namespace Engine.Keeps

variable {routine : Act.Routine} {engine : Engine} (keeps : engine.Keeps routine.toHabit)

include keeps

section Attributes

theorem attributeOf (value : Value) (name : String) :
    routine.Of (engine.attributeOf value name) := by
  have missing {α : Type} (cls : ClassId) : routine.Of (Act.noAttribute cls name : Act α) :=
    routine.throw _
  have own : routine.Of (Act.attributesOf value) := by
    unfold Act.attributesOf
    split
    · exact routine.bind (routine.objectAt _) fun _ => routine.pure _
    · exact routine.pure _
  unfold Engine.attributeOf
  refine routine.bind (routine.classOf value) fun cls => routine.bind own ?_
  intro attributes
  dsimp only
  split
  · split
    · exact routine.pure _
    · exact missing _
  · split
    · split
      · exact keeps.call _ _
      · refine routine.bind (routine.contentOf value) ?_
        intro content
        split
        · exact routine.pure _
        · exact missing _
    · exact routine.throw _
    · refine routine.bind (routine.contentOf value) ?_
      intro content
      split
      · exact routine.pure _
      · exact routine.pure _
      · exact missing _
    · split
      · exact routine.pure _
      · split
        · exact routine.pure _
        · exact routine.pure _
        · exact routine.pure _
        · exact routine.make _
        · exact missing _

theorem callMember (value : Value) (name : String) (arguments : List Value) :
    routine.Of (engine.callMember value name arguments) := by
  unfold Engine.callMember
  refine routine.bind (keeps.attributeOf value name) ?_
  intro found
  split
  · exact keeps.call _ _
  · exact keeps.call _ _
  · exact keeps.call _ _
  · exact routine.bind (routine.classOf _) fun _ => routine.throw _

theorem displayAll (values : List Value) : routine.Of (engine.displayAll values) := by
  induction values with
  | nil => exact routine.pure _
  | cons value values ih =>
      unfold Engine.displayAll
      exact routine.bind (keeps.display value) fun _ => routine.bind ih fun _ => routine.pure _

end Attributes

section Comparisons

theorem sameOrEqual (left right : Value) : routine.Of (engine.sameOrEqual left right) :=
  routine.ite (routine.pure _) (keeps.compares _ _ _)

theorem compareItems (comparison : Comparison) (left right : List Value) :
    routine.Of (engine.compareItems comparison left right) := by
  induction left generalizing right with
  | nil => exact routine.pure _
  | cons first lefts ih =>
      cases right with
      | nil => exact routine.pure _
      | cons second rights =>
          unfold Engine.compareItems
          refine routine.bind (keeps.sameOrEqual first second) ?_
          intro same
          refine routine.ite (ih rights) ?_
          split
          · exact routine.pure _
          · exact routine.pure _
          · exact keeps.operate _ _

theorem compareSequences (comparison : Comparison) (left right : List Value) :
    routine.Of (engine.compareSequences comparison left right) :=
  routine.ite (routine.pure _) (keeps.compareItems _ _ _)

theorem sameEntries (left right : List (Value × Value)) :
    routine.Of (engine.sameEntries left right) := by
  unfold Engine.sameEntries
  refine routine.ite (routine.pure _) (routine.foldlM ?_ _ _)
  rintro same ⟨key, value⟩
  refine routine.ite (routine.pure _) (routine.bind routine.get fun session => ?_)
  dsimp only
  split
  · exact routine.pure _
  · exact keeps.sameOrEqual _ _

theorem compareBuiltin (comparison : Comparison) (left right : Value) :
    routine.Of (engine.compareBuiltin comparison left right) := by
  unfold Engine.compareBuiltin
  refine routine.bind (routine.contentOf left) ?_
  intro leftContent
  refine routine.bind (routine.contentOf right) ?_
  intro rightContent
  refine routine.ite (routine.compareNumbers _ _ _) ?_
  split
  · exact routine.pure _
  · exact keeps.compareSequences _ _ _
  refine routine.bind (routine.listItems left) ?_
  intro leftItems
  refine routine.bind (routine.listItems right) ?_
  intro rightItems
  split
  · exact keeps.compareSequences _ _ _
  refine routine.bind (routine.setItems left) ?_
  intro leftItems
  refine routine.bind (routine.setItems right) ?_
  intro rightItems
  split
  · exact routine.bind (routine.compareSets _ _ _ _) fun _ => routine.pure _
  refine routine.bind (routine.bytes left) ?_
  intro leftBytes
  refine routine.bind (routine.bytes right) ?_
  intro rightBytes
  split
  · exact routine.pure _
  refine routine.bind (routine.dictEntries left) ?_
  intro leftEntries
  refine routine.bind (routine.dictEntries right) ?_
  intro rightEntries
  split
  · split
    · exact routine.bind (keeps.sameEntries _ _) fun _ => routine.pure _
    · exact routine.bind (keeps.sameEntries _ _) fun _ => routine.pure _
    · exact routine.pure _
  · exact routine.ite (routine.pure _) (routine.ite (routine.pure _) (routine.pure _))

theorem compareFrom (comparison : Comparison) (left right : Value) :
    routine.Of (engine.compareFrom comparison left right) := by
  unfold Engine.compareFrom
  refine routine.bind (routine.classOf left) ?_
  intro cls
  split
  · exact keeps.call _ _
  · split
    · refine routine.bind (keeps.call _ _) ?_
      intro answer
      split
      · exact routine.pure _
      · exact routine.bind (keeps.isTrue _) fun _ => routine.pure _
    · exact keeps.compareBuiltin _ _ _

theorem compareWith (comparison : Comparison) (left right : Value) :
    routine.Of (engine.compareWith comparison left right) := by
  unfold Engine.compareWith
  refine routine.bind (routine.classOf left) ?_
  intro leftClass
  refine routine.bind (routine.classOf right) ?_
  intro rightClass
  extract_lets rightFirst last rest
  have ends (answer : Value) : routine.Of (last answer) := by
    dsimp only [last]
    split
    · split
      · exact routine.pure _
      · exact routine.pure _
      · exact routine.throw _
    · exact routine.pure _
  have goes_on (answer : Value) : routine.Of (rest answer) := by
    dsimp only [rest]
    split
    · refine routine.bind (keeps.compareFrom _ _ _) ?_
      intro second
      split
      · exact routine.ite (routine.bind (routine.pure _) ends)
          (routine.bind (keeps.compareFrom _ _ _) ends)
      · exact routine.pure _
    · exact routine.pure _
  exact routine.ite (routine.bind (keeps.compareFrom _ _ _) goes_on)
    (routine.bind (routine.pure _) goes_on)

end Comparisons

section Templates

theorem formatPlace (place : Percent.Place) (width : ℕ) (precision : Option ℕ) (value : Value) :
    routine.Of (engine.formatPlace place width precision value) := by
  unfold Engine.formatPlace
  dsimp only
  refine routine.ite (routine.bind (keeps.text value) fun _ => routine.pure _) ?_
  refine routine.ite (routine.bind (keeps.display value) fun _ => routine.pure _) ?_
  refine routine.ite (routine.bind (routine.contentOf value) fun content => ?_) ?_
  · split
    · split
      · exact routine.formatInteger _ _ _
      · exact routine.ite (routine.throw _) (routine.throw _)
    · split
      · exact routine.formatInteger _ _ _
      · exact routine.bind (routine.classOf _) fun _ => routine.throw _
  refine routine.ite (routine.bind (routine.contentOf value) fun content => ?_) ?_
  · split
    · exact routine.formatInteger _ _ _
    · exact routine.bind (routine.classOf _) fun _ => routine.throw _
  refine routine.ite (routine.bind (routine.contentOf value) fun content => ?_) ?_
  · refine routine.bind (routine.toFloat _) ?_
    intro number
    split
    · exact routine.pure _
    · exact routine.bind (routine.classOf _) fun _ => routine.throw _
  refine routine.ite (routine.bind (routine.contentOf value) fun content => ?_) (routine.throw _)
  split
  · exact routine.ite (routine.pure _) (routine.throw _)
  · split
    · exact routine.ite (routine.throw _) (routine.pure _)
    · exact routine.throw _

theorem fillPieces (mapping : Option (List (Value × Value))) (pieces : List Percent.Piece)
    (arguments : List Value) : routine.Of (engine.fillPieces mapping pieces arguments) := by
  induction pieces generalizing arguments with
  | nil => exact routine.pure _
  | cons piece pieces ih =>
      cases piece with
      | literal text => exact routine.bind (ih arguments) fun _ => routine.pure _
      | place place =>
          unfold Engine.fillPieces
          refine routine.bind (routine.takeAmount _ _) ?_
          intro width
          refine routine.bind (routine.takeAmount _ _) ?_
          intro precision
          refine routine.ite (routine.bind (ih _) fun _ => routine.pure _) ?_
          extract_lets rest
          have shows (taken : Value × List Value) : routine.Of (rest taken) :=
            routine.bind (keeps.formatPlace _ _ _ _) fun _ =>
              routine.bind (ih _) fun _ => routine.pure _
          split
          · split
            · exact routine.bind (routine.throw _) shows
            · refine routine.bind routine.get ?_
              intro session
              dsimp only
              split
              · exact routine.bind (routine.pure _) shows
              · exact routine.bind (routine.throw _) shows
          · split
            · exact routine.bind (routine.throw _) shows
            · exact routine.bind (routine.pure _) shows

theorem fillTemplate (template : String) (value : Value) :
    routine.Of (engine.fillTemplate template value) := by
  unfold Engine.fillTemplate
  split
  · exact routine.throw _
  · refine routine.bind (routine.contentOf value) ?_
    intro content
    refine routine.bind (routine.dictEntries value) ?_
    intro mapping
    refine routine.bind (routine.listItems value) ?_
    intro items
    refine routine.bind (routine.bytes value) ?_
    intro bytes
    refine routine.bind (keeps.fillPieces _ _ _) ?_
    intro filled
    exact routine.ite (routine.pure _) (routine.throw _)

end Templates

section Operators

theorem combineBuiltin (operator : BinaryOperator) (left right : Value) :
    routine.Of (engine.combineBuiltin operator left right) := by
  unfold Engine.combineBuiltin
  refine routine.bind (routine.contentOf left) ?_
  intro leftContent
  refine routine.bind (routine.contentOf right) ?_
  intro rightContent
  refine routine.ite (routine.bind (routine.classOf right) fun _ => routine.throw _) ?_
  refine routine.ite (routine.ofNumbers _ _ _) ?_
  refine routine.bind (routine.bytes left) ?_
  intro bytes
  split
  · exact keeps.fillTemplate _ _
  · exact routine.fillBytes _ _ _
  refine routine.bind (routine.setItems left) ?_
  intro leftItems
  refine routine.bind (routine.setItems right) ?_
  intro rightItems
  split
  · exact routine.combineSets _ _ _ _ _
  refine routine.bind (routine.dictEntries left) ?_
  intro leftEntries
  refine routine.bind (routine.dictEntries right) ?_
  intro rightEntries
  split
  · refine routine.bind (routine.foldlM ?_ _ _) fun entries => routine.makeDict _
    rintro entries ⟨key, value⟩
    exact routine.updateEntries _ _ _ _
  · exact routine.pure _

theorem combineWith (operator : BinaryOperator) (left right : Value) :
    routine.Of (engine.combineWith operator left right) := by
  have asked (function : FunctionDecl) (first second : Value) :
      ∀ attempt ∈ [engine.call (.plain function) [first, second]], routine.Of attempt :=
    List.forall_mem_singleton.mpr (keeps.call _ _)
  have builtin : ∀ attempt ∈ [engine.combineBuiltin operator left right], routine.Of attempt :=
    List.forall_mem_singleton.mpr (keeps.combineBuiltin _ _ _)
  unfold Engine.combineWith
  refine routine.bind (routine.classOf left) ?_
  intro leftClass
  refine routine.bind (routine.classOf right) ?_
  intro rightClass
  extract_lets ofLeft ofRight askLeft askRight askBuiltin rightFirst attempts
  clear_value ofLeft ofRight
  have left_keeps : ∀ attempt ∈ askLeft, routine.Of attempt := by
    dsimp only [askLeft]
    split
    · exact asked _ _ _
    · exact builtin
  have right_keeps : ∀ attempt ∈ askRight, routine.Of attempt := by
    dsimp only [askRight]
    split
    · exact asked _ _ _
    · exact List.forall_mem_nil _
  have builtin_keeps : ∀ attempt ∈ askBuiltin, routine.Of attempt := by
    dsimp only [askBuiltin]
    split
    · exact builtin
    · exact List.forall_mem_nil _
  have each : ∀ attempt ∈ attempts, routine.Of attempt := by
    dsimp only [attempts]
    split
    · exact List.forall_mem_append.mpr ⟨List.forall_mem_append.mpr ⟨right_keeps, left_keeps⟩,
        builtin_keeps⟩
    · exact List.forall_mem_append.mpr ⟨List.forall_mem_append.mpr ⟨left_keeps, right_keeps⟩,
        builtin_keeps⟩
  refine routine.bind (routine.firstAnswer each) ?_
  intro answer
  split
  · exact routine.combineSequences _ _ _
  · exact routine.pure _

theorem items (value : Value) : routine.Of (engine.items? value) := by
  unfold Engine.items?
  refine routine.bind (routine.classOf value) ?_
  intro cls
  split
  · refine routine.bind (keeps.call _ _) ?_
    intro answer
    exact routine.bind (routine.classOf _) fun _ => routine.throw _
  · refine routine.bind (routine.contentOf value) ?_
    intro content
    split
    any_goals exact routine.pure _
    refine routine.bind (routine.objectAt _) ?_
    intro object
    split
    all_goals exact routine.pure _

theorem itemsOf (value : Value) : routine.Of (engine.itemsOf value) := by
  unfold Engine.itemsOf
  refine routine.bind (keeps.items value) ?_
  intro items
  split
  · exact routine.pure _
  · exact routine.bind (routine.classOf _) fun _ => routine.throw _

theorem anyEqual (value : Value) (items : List Value) :
    routine.Of (engine.anyEqual value items) := by
  induction items with
  | nil => exact routine.pure _
  | cons item items ih =>
      exact routine.bind (keeps.sameOrEqual _ _) fun _ => routine.ite (routine.pure _) ih

theorem contains (collection value : Value) : routine.Of (engine.contains collection value) := by
  unfold Engine.contains
  refine routine.bind (routine.classOf collection) ?_
  intro cls
  split
  · refine routine.bind (keeps.call _ _) ?_
    intro answer
    exact routine.bind (keeps.isTrue _) fun _ => routine.pure _
  refine routine.bind (routine.contentOf collection) ?_
  intro content
  split
  · refine routine.bind (routine.contentOf value) ?_
    intro part
    split
    · exact routine.pure _
    · exact routine.bind (routine.classOf value) fun _ => routine.throw _
  refine routine.bind (routine.setItems collection) ?_
  intro items
  refine routine.bind (routine.dictEntries collection) ?_
  intro entries
  refine routine.bind (routine.bytes collection) ?_
  intro bytes
  split
  · refine routine.bind (routine.setItems value) ?_
    intro others
    refine routine.ite ?_ ?_
    · exact routine.bind (routine.hasKey engine value _) fun _ => routine.pure _
    · exact routine.bind (routine.requireKey engine value) fun _ =>
        routine.bind (routine.hasKey engine value _) fun _ => routine.pure _
  · refine routine.bind (routine.requireKey engine value) fun _ => ?_
    exact routine.bind (routine.hasKey engine value _) fun _ => routine.pure _
  · exact routine.bind (routine.bytesContain _ _) fun _ => routine.pure _
  · refine routine.bind (keeps.items collection) ?_
    intro items
    split
    · exact routine.bind (keeps.anyEqual _ _) fun _ => routine.pure _
    · exact routine.throw _

theorem itemOf (collection key : Value) : routine.Of (engine.itemOf collection key) := by
  unfold Engine.itemOf
  refine routine.bind (routine.classOf collection) ?_
  intro cls
  dsimp only
  split
  · exact keeps.call _ _
  refine routine.bind (routine.contentOf collection) ?_
  intro content
  split
  · exact routine.bind (routine.indexOf _ _) fun _ =>
      routine.bind (routine.itemAt _ _ _) fun _ => routine.pure _
  · exact routine.bind (routine.indexOf _ _) fun _ => routine.itemAt _ _ _
  · exact routine.bind (routine.indexOf _ _) fun _ =>
      routine.bind (routine.itemAt _ _ _) fun _ => routine.pure _
  · refine routine.bind (routine.objectAt _) ?_
    intro object
    split
    · exact routine.bind (routine.indexOf _ _) fun _ => routine.itemAt _ _ _
    · exact routine.bind (routine.indexOf _ _) fun _ =>
        routine.bind (routine.itemAt _ _ _) fun _ => routine.pure _
    · refine routine.bind (routine.requireKey engine key) fun _ => ?_
      refine routine.bind routine.get ?_
      intro session
      split
      · exact routine.pure _
      · exact routine.bind (keeps.display key) fun _ => routine.throw _
    · exact routine.throw _
  · exact routine.throw _

theorem lengthOf (collection : Value) : routine.Of (engine.lengthOf collection) := by
  unfold Engine.lengthOf
  refine routine.bind (routine.classOf collection) ?_
  intro cls
  split
  · exact routine.bind (keeps.call _ _) fun _ => routine.checkedLength _
  refine routine.bind (routine.contentOf collection) ?_
  intro content
  split
  any_goals exact routine.pure _
  · refine routine.bind (routine.objectAt _) ?_
    intro object
    split
    any_goals exact routine.pure _
    exact routine.throw _
  · exact routine.throw _

theorem signed (sign : Sign) (value : Value) : routine.Of (engine.signed sign value) := by
  unfold Engine.signed
  refine routine.bind (routine.classOf value) ?_
  intro cls
  split
  · exact keeps.call _ _
  refine routine.bind (routine.contentOf value) ?_
  intro content
  split
  any_goals exact routine.pure _
  any_goals exact routine.ofDecimal _
  split
  any_goals exact routine.pure _
  exact routine.throw _

/-- An operator keeps to every routine that the operations of its engine keep to. -/
theorem operateWith (operator : Operator) (operands : List Value) :
    routine.Of (engine.operateWith operator operands) := by
  unfold Engine.operateWith
  split
  · exact keeps.compareWith _ _ _
  · exact keeps.combineWith _ _ _
  · exact keeps.contains _ _
  · exact keeps.itemOf _ _
  · exact keeps.signed _ _
  · exact keeps.signed _ _
  · exact keeps.signed _ _
  · exact keeps.signed _ _
  · exact keeps.lengthOf _
  · exact routine.throw _

end Operators

end Engine.Keeps

end MemberDispatch
