import MemberDispatch.Machine
import MemberDispatch.Proofs.Class.Dispatch
import MemberDispatch.Proofs.Index.Landing

/-!
# Whether values differ

Where no class defines inequality, asking whether a value differs from another one is answered with a
truth value, whatever the classes define otherwise. So the converter of truth values gives nothing else,
and what a standard converter gives is always of its target.
-/

namespace MemberDispatch

/-- The answers to a question about two values: a truth value, or that the question is not
understood. -/
inductive Value.Verdict : Value → Prop
  | truth (value : Bool) : Verdict (.bool value)
  | declined : Verdict .notImplemented

namespace Engine

variable {engine : Engine}

theorem gives_compareItems (engine : Engine) (lefts rights : List Value) :
    (engine.compareItems .ne lefts rights).Gives Value.Verdict := by
  induction lefts generalizing rights with
  | nil =>
      unfold compareItems
      exact .pure (.truth _)
  | cons left lefts ih =>
      cases rights with
      | nil =>
          unfold compareItems
          exact .pure (.truth _)
      | cons right rights =>
          unfold compareItems
          refine .bind fun same => ?_
          cases same with
          | true => exact ih rights
          | false => exact .pure (.truth _)

theorem gives_compareSequences (engine : Engine) (lefts rights : List Value) :
    (engine.compareSequences .ne lefts rights).Gives Value.Verdict := by
  unfold compareSequences
  split
  · exact .pure (.truth _)
  · exact engine.gives_compareItems lefts rights

/-- Numbers are always compared with a truth value, if at all. -/
theorem gives_truth_of_numbers (left right : Value) :
    (compareNumbers .ne left right).Gives fun answer => ∃ truth, answer = .bool truth := by
  unfold compareNumbers
  dsimp only
  split
  · exact .pure ⟨_, rfl⟩
  · split
    · exact .throw _
    · exact .pure ⟨_, rfl⟩

theorem gives_compareNumbers (left right : Value) :
    (compareNumbers .ne left right).Gives Value.Verdict := by
  intro session answer after run
  obtain ⟨truth, rfl⟩ := gives_truth_of_numbers left right session answer after run
  exact .truth truth

theorem gives_compareBuiltin (engine : Engine) (left right : Value) :
    (engine.compareBuiltin .ne left right).Gives Value.Verdict := by
  unfold compareBuiltin
  refine .bind fun leftContent => .bind fun rightContent => ?_
  split
  · exact gives_compareNumbers leftContent rightContent
  · split
    · exact .pure (.truth _)
    · exact engine.gives_compareSequences _ _
    · refine .bind fun leftItems => .bind fun rightItems => ?_
      split
      · exact engine.gives_compareSequences _ _
      · refine .bind fun leftSet => .bind fun rightSet => ?_
        split
        · exact .bind fun _ => .pure (.truth _)
        · refine .bind fun leftBytes => .bind fun rightBytes => ?_
          split
          · exact .pure (.truth _)
          · refine .bind fun leftEntries => .bind fun rightEntries => ?_
            split
            · exact .bind fun _ => .pure (.truth _)
            · split
              · exact .pure (.truth _)
              · split
                · exact .pure (.truth _)
                · exact .pure .declined

/-- What a class that does not define inequality says to it. -/
theorem verdict_of_compareFrom {left right answer : Value} {session after : Session}
    (undefined : engine.declaredMethod? (left.classOf session.objects) "__ne__" = none)
    (run : (engine.compareFrom .ne left right).runFrom session = (.ok answer, after)) :
    answer.Verdict := by
  unfold compareFrom at run
  have ownless : engine.declaredMethod? (left.classOf session.objects) Comparison.ne.memberName =
      none := undefined
  rw [Act.runFrom_bind_of_ok (Act.runFrom_classOf left session), ownless] at run
  dsimp only at run
  split at run
  · refine Act.Gives.bind (fun asked => ?_) session answer after run
    split
    · exact .pure .declined
    · exact .bind fun _ => .pure (.truth _)
  · exact engine.gives_compareBuiltin left right session answer after run

theorem gives_compareFrom (undefined : ∀ cls, engine.declaredMethod? cls "__ne__" = none)
    (left right : Value) : (engine.compareFrom .ne left right).Gives Value.Verdict :=
  fun _ _ _ run => verdict_of_compareFrom (undefined _) run

/-- Where the last who is asked declines, the answer is whether the operands are one and the same. -/
theorem gives_truth_of_last {last : Act Value} (verdicts : last.Gives Value.Verdict)
    (left right : Value) :
    Act.Gives (fun answer => ∃ truth, answer = .bool truth) (do
      match ← last with
      | .notImplemented => return .bool (!Value.identical left right)
      | answer => return answer) := by
  refine verdicts.bindOf fun answer verdict => ?_
  cases verdict with
  | truth value => exact .pure ⟨value, rfl⟩
  | declined => exact .pure ⟨_, rfl⟩

theorem gives_truth_of_both (undefined : ∀ cls, engine.declaredMethod? cls "__ne__" = none)
    {last : Act Value} (verdicts : last.Gives Value.Verdict) (left right : Value) :
    Act.Gives (fun answer => ∃ truth, answer = .bool truth) (do
      match ← engine.compareFrom .ne left right with
      | .notImplemented => match ← last with
        | .notImplemented => return .bool (!Value.identical left right)
        | answer => return answer
      | answer => return answer) := by
  refine (engine.gives_compareFrom undefined left right).bindOf fun answer verdict => ?_
  cases verdict with
  | truth value => exact .pure ⟨value, rfl⟩
  | declined => exact gives_truth_of_last verdicts left right

/-- Whether two values differ is answered with a truth value where no class defines inequality. -/
theorem gives_compareWith (undefined : ∀ cls, engine.declaredMethod? cls "__ne__" = none)
    (left right : Value) :
    (engine.compareWith .ne left right).Gives fun answer => ∃ truth, answer = .bool truth := by
  have asked := engine.gives_compareFrom undefined
  unfold compareWith
  refine .bind fun leftClass => .bind fun rightClass => ?_
  dsimp only
  split
  · refine (asked right left).bindOf fun answer verdict => ?_
    cases verdict with
    | truth value => exact .pure ⟨value, rfl⟩
    | declined => exact gives_truth_of_both undefined (.pure .declined) left right
  · exact gives_truth_of_both undefined (asked right left) left right

theorem declaredMethod?_eq_none {name : String}
    (undefined : ∀ owner function, (name, .method function) ∉ engine.world.entries (.declared owner))
    (cls : ClassId) : engine.declaredMethod? cls name = none := by
  unfold declaredMethod?
  split
  · rename_i owner function found
    obtain ⟨ancestor, _, own⟩ := List.exists_of_findSome?_eq_some found
    obtain ⟨entry, present, same⟩ := Option.map_eq_some_iff.mp own
    cases same
    exact absurd (mem_of_lookup present) (undefined owner function)
  · rfl

/-- Machines of a world in which no class defines inequality make truth values of objects that are
numbers. -/
theorem speaksTruly_machine {world : World}
    (undefined : ∀ owner function, ("__ne__", .method function) ∉ world.entries (.declared owner))
    (level : ℕ) : (machine world level).SpeaksTruly := by
  rintro argument answer after ⟨address, before, _, _, asked⟩
  cases level with
  | zero => cases asked
  | succ level =>
      have sees : (machine world level).world = world := by cases level <;> rfl
      have ownless := (machine world level).declaredMethod?_eq_none (sees ▸ undefined)
      exact gives_compareWith ownless argument (.int 0) before answer after asked

theorem accepts_of_convert_machine {world : World}
    (undefined : ∀ owner function, ("__ne__", .method function) ∉ world.entries (.declared owner))
    {level : ℕ} {converter : Converter} (standard : converter.Standard) {argument value : Value}
    {session after : Session}
    (converted : ((machine world level).convert converter argument).runFrom session =
      (.ok value, after)) :
    (machine world level).Accepts converter.target value after := by
  have truly := speaksTruly_machine undefined level
  exact accepts_of_admits (admits_of_convert standard converted) fun _ => truly

end Engine

end MemberDispatch
