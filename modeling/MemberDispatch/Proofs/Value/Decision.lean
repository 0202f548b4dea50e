import Mathlib.Data.Nat.Notation
import MemberDispatch.Machine
import MemberDispatch.Proofs.Session.Run

/-!
# What operators answer

A function that defines an operator may decline and say that the operator is not implemented for its
operands. The operator itself never does: when everyone who was asked has declined, a comparison
falls back to identity or is refused, and an operator that computes joins or repeats sequences or is
refused.
-/

namespace MemberDispatch

/-- That a value is an answer and not the refusal to give one. -/
def Value.Answers (value : Value) : Prop :=
  value ≠ .notImplemented

/-- That an operator is one that functions may decline: a comparison, or one that computes a third
value from two. -/
inductive Operator.Declinable : Operator → Prop
  | compare (comparison : Comparison) : Declinable (.compare comparison)
  | binary (operator : BinaryOperator) : Declinable (.binary operator)

/-- That the operators themselves give answers only. -/
def Engine.Decides (engine : Engine) : Prop :=
  ∀ operator : Operator, operator.Declinable → ∀ operands : List Value,
    (engine.call (.operation operator) operands).Gives Value.Answers

namespace Engine

/-- Asking someone else where the first one declines. -/
theorem gives_ifDeclined (asked : Act Value) {next : Act Value} (falls : next.Gives Value.Answers) :
    Act.Gives Value.Answers (do
      match ← asked with
      | .notImplemented => next
      | answer => return answer) := by
  refine .bind fun answer => ?_
  split
  · exact falls
  · rename_i declined
    exact .pure declined

/-- A comparison that both operands decline is one of identities, or refused. -/
theorem gives_answer_compareWith (engine : Engine) (comparison : Comparison) (left right : Value) :
    (engine.compareWith comparison left right).Gives Value.Answers := by
  unfold compareWith
  refine .bind fun leftClass => .bind fun rightClass => ?_
  dsimp only
  -- Whoever is asked first, the same is left when nobody answers.
  split
  all_goals
    refine gives_ifDeclined _ (gives_ifDeclined _ (gives_ifDeclined _ ?_))
    cases comparison with
    | eq | ne => exact .pure nofun
    | _ => exact .throw _

/-- The sequences that can be joined and repeated, by what they are made of. -/
inductive IsSequence (objects : Array Object) (value : Value) : Prop
  | text {text : String} (made : value.content objects = .text text)
  | bytes {bytes : List UInt8} (made : value.content objects = .bytes bytes)
  | tuple {items : List Value} (made : value.content objects = .tuple items)
  | list {address : ℕ} {items : List Value} (made : value.content objects = .object address)
      (holds : (objects[address]?.getD default).content = .list items)
  | byteArray {address : ℕ} {bytes : List UInt8} (made : value.content objects = .object address)
      (holds : (objects[address]?.getD default).content = .byteArray bytes)

section Sequences

variable {value result : Value} {session after : Session}

theorem runFrom_contentOf (value : Value) (session : Session) :
    (Act.contentOf value).runFrom session = (.ok (value.content session.objects), session) :=
  rfl

theorem runFrom_objectAt (address : ℕ) (session : Session) :
    (Act.objectAt address).runFrom session =
      (.ok (session.objects[address]?.getD default), session) :=
  rfl

/-- Asking whether a value is a sequence changes nothing. -/
theorem isSequence_of_run {found : Bool}
    (seen : (isSequence value).runFrom session = (.ok found, after)) :
    after = session ∧ (found = true → IsSequence session.objects value) := by
  unfold isSequence at seen
  rw [Act.runFrom_bind_of_ok (runFrom_contentOf value session)] at seen
  split at seen
  · rename_i made
    cases seen
    exact ⟨rfl, fun _ => .text made⟩
  · rename_i made
    cases seen
    exact ⟨rfl, fun _ => .bytes made⟩
  · rename_i made
    cases seen
    exact ⟨rfl, fun _ => .tuple made⟩
  · rename_i address made
    rw [Act.runFrom_bind_of_ok (runFrom_objectAt address session)] at seen
    split at seen
    · rename_i holds
      cases seen
      exact ⟨rfl, fun _ => .list made holds⟩
    · rename_i holds
      cases seen
      exact ⟨rfl, fun _ => .byteArray made holds⟩
    · cases seen
      exact ⟨rfl, nofun⟩
  · cases seen
    exact ⟨rfl, nofun⟩

theorem gives_allocate (object : Object) : (Act.allocate object).Gives Value.Answers := by
  unfold Act.allocate
  exact .bind fun session => .bind fun _ => .pure nofun

/-- Joining to a sequence gives one of its kind, or is refused. -/
theorem answers_of_joinSequences (sequence : IsSequence session.objects value) {other : Value}
    (joined : (joinSequences value other).runFrom session = (.ok result, after)) :
    result.Answers := by
  unfold joinSequences at joined
  obtain ⟨otherClass, between, named, joined⟩ := Act.exists_of_runFrom_bind joined
  cases named
  rw [Act.runFrom_bind_of_ok (runFrom_contentOf value session)] at joined
  cases sequence with
  | text made | tuple made | bytes made =>
      simp only [made] at joined
      refine Act.Gives.bind (fun others => ?_) _ _ _ joined
      split
      · exact .pure nofun
      · exact .throw _
  | list made holds | byteArray made holds =>
      simp only [made] at joined
      rw [Act.runFrom_bind_of_ok (runFrom_objectAt _ session)] at joined
      simp only [holds] at joined
      refine Act.Gives.bind (fun others => ?_) _ _ _ joined
      split
      · exact gives_allocate _
      · exact .throw _

/-- Repeating a sequence gives one of its kind, or is refused. -/
theorem answers_of_repeatSequence (sequence : IsSequence session.objects value) {count : Int}
    {counter : ClassId}
    (repeated : (repeatSequence value count counter).runFrom session = (.ok result, after)) :
    result.Answers := by
  unfold repeatSequence at repeated
  split at repeated
  · cases repeated
  · rw [Act.runFrom_bind_of_ok (runFrom_contentOf value session)] at repeated
    cases sequence with
    | text made | tuple made | bytes made =>
        simp only [made] at repeated
        exact Act.Gives.bind (fun _ => .pure nofun) _ _ _ repeated
    | list made holds | byteArray made holds =>
        simp only [made] at repeated
        rw [Act.runFrom_bind_of_ok (runFrom_objectAt _ session)] at repeated
        simp only [holds] at repeated
        exact Act.Gives.bind (fun _ => gives_allocate _) _ _ _ repeated

/-- A sequence is repeated a whole number of times, or not at all. -/
theorem answers_of_repeatBy (sequence : IsSequence session.objects value) {other : Value}
    {complaint : ClassId → String}
    (repeated : (do
      match (← Act.contentOf other).int? with
      | some count => do repeatSequence value count (← Act.classOf other)
      | none => Act.typeError (complaint (← Act.classOf other))).runFrom session =
        (.ok result, after)) :
    result.Answers := by
  rw [Act.runFrom_bind_of_ok (runFrom_contentOf other session)] at repeated
  split at repeated
  · rw [Act.runFrom_bind_of_ok (Act.runFrom_classOf other session)] at repeated
    exact answers_of_repeatSequence sequence repeated
  · cases repeated

end Sequences

theorem gives_combineSequences (operator : BinaryOperator) (left right : Value) :
    (combineSequences operator left right).Gives Value.Answers := by
  unfold combineSequences
  intro session result after combined
  obtain ⟨leftIs, between, leftSeen, rest⟩ := Act.exists_of_runFrom_bind combined
  obtain ⟨rightIs, last, rightSeen, run⟩ := Act.exists_of_runFrom_bind rest
  obtain ⟨rfl, leftKnown⟩ := isSequence_of_run leftSeen
  obtain ⟨rfl, rightKnown⟩ := isSequence_of_run rightSeen
  have refused (operator : BinaryOperator) :
      (unsupported operator left right : Act Value).Gives Value.Answers := by
    unfold unsupported
    exact .bind fun _ => .bind fun _ => .throw _
  cases operator with
  | add =>
      simp only at run
      split at run
      · rename_i isLeft
        exact answers_of_joinSequences (leftKnown isLeft) run
      · exact refused _ _ _ _ run
  | mul =>
      simp only at run
      split at run
      · rename_i isLeft
        exact answers_of_repeatBy (leftKnown isLeft) run
      · split at run
        · rename_i isRight
          exact answers_of_repeatBy (rightKnown isRight) run
        · exact refused _ _ _ _ run
  | _ => exact refused _ _ _ _ run

theorem gives_answer_combineWith (engine : Engine) (operator : BinaryOperator)
    (left right : Value) : (engine.combineWith operator left right).Gives Value.Answers := by
  unfold combineWith
  refine .bind fun leftClass => .bind fun rightClass => ?_
  exact gives_ifDeclined _ (gives_combineSequences operator left right)

theorem gives_answer_operate (world : World) (level : ℕ) {operator : Operator}
    (declinable : operator.Declinable) (operands : List Value) :
    ((machine world level).operate operator operands).Gives Value.Answers := by
  cases level with
  | zero => exact .throw _
  | succ level =>
      rcases operands with _ | ⟨left, _ | ⟨right, _ | ⟨third, others⟩⟩⟩
      case cons.cons.nil =>
        cases declinable with
        | compare comparison => exact gives_answer_compareWith _ comparison left right
        | binary operator => exact gives_answer_combineWith _ operator left right
      all_goals
        cases declinable <;> exact .throw _

/-- The operators of machines give answers only. -/
theorem decides_machine (world : World) (level : ℕ) : (machine world level).Decides := by
  intro operator declinable operands
  cases level with
  | zero => exact .throw _
  | succ level => exact gives_answer_operate world level declinable operands

end Engine

end MemberDispatch
