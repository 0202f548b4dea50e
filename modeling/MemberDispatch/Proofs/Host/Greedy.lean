import MemberDispatch.Host
import MemberDispatch.Proofs.Session.Discretion

/-!
# Greedy evaluation

What a chain of property steps means without any pending call. A step names a member of the value.
Of the steps behind it the member takes as many for arguments as any overload accepts, at once, and
the others are applied to the result. A pending call comes to the same by looking for a member anew
with every argument, which is what `resume` does with the steps that are still to come.
-/

namespace MemberDispatch

/-- The complaint over a step that no member answers. -/
def noAnswer : Fault :=
  .say .keyError "no member answers"

namespace Engine

variable (engine : Engine)

/-- The member of an index that takes the first values of a list, in place of one that takes fewer. -/
def widen (index : Index) (onlyPublic : Bool) (returns : ClassId) (values : List Value)
    (fit : Option Selection) (count : ℕ) : Act (Option Selection) := do
  let found ← engine.choose index onlyPublic returns (values.take count) 0
  return (found.map fun choice => ⟨choice.member, choice.arguments, count⟩) <|> fit

/-- The member of an index that takes the most of the values that follow, none of them beyond the
largest number of arguments of any member. -/
def largestFit (index : Index) (onlyPublic : Bool) (returns : ClassId) (following : List Value) :
    Act (Option Selection) :=
  (List.range (min index.maxArity following.length + 1)).foldlM
    (engine.widen index onlyPublic returns following) none

/-- Applies property steps to a value, each with as many of the following ones as it can take. Which
handler answers to values of a class is given. -/
def greedy (adaptors : ClassId → Option Adaptor) : Value → List Value → Act Value
  | value, [] => return value
  | value, prop :: following => do
      let cls ← Act.classOf value
      let name ← engine.text prop
      match adaptors cls with
      | none => throw noAnswer
      | some adaptor => do
          let index ← engine.resolveIndex adaptor cls name
          if index.size == 0 then throw noAnswer
          else match ← engine.largestFit index adaptor.onlyPublic adaptor.returns following with
            | none => throw noAnswer
            | some fit => do
                let result ← engine.use fit.member value fit.arguments
                greedy adaptors result (following.drop fit.consumed)
termination_by _ props => props.length

/-- What is known of a call that collects arguments: where it looks for a member, the arguments so
far and the latest member found. -/
structure Search where
  target : Value
  index : Index
  onlyPublic : Bool
  returns : ClassId
  arguments : List Value
  selection : Option Selection

/-- The member for all arguments so far, if there is one. -/
def seek (search : Search) : Act (Option Selection) := do
  let found ← engine.choose search.index search.onlyPublic search.returns search.arguments 0
  return found.map fun choice => ⟨choice.member, choice.arguments, search.arguments.length⟩

/-- Looks for a member for all arguments so far and keeps an earlier one if there is none. -/
def renew (search : Search) : Act Search := do
  let found ← engine.seek search
  return { search with selection := found <|> search.selection }

variable (adaptors : ClassId → Option Adaptor)

/-- Uses the member found on a value, and applies the arguments behind its own to the result. -/
def complete (target : Value) (selection : Option Selection) (arguments : List Value) :
    Act Value :=
  match selection with
  | none => throw noAnswer
  | some fit => do
      let result ← engine.use fit.member target fit.arguments
      engine.greedy adaptors result (arguments.drop fit.consumed)

/-- Goes on with a call that collects arguments: as long as any member could take one more, the next
step is one. -/
def resume (search : Search) : List Value → Act Value
  | [] => engine.complete adaptors search.target search.selection search.arguments
  | prop :: following =>
      if search.arguments.length < search.index.maxArity then do
        let search ← engine.renew { search with arguments := search.arguments ++ [prop] }
        resume search following
      else
        engine.complete adaptors search.target search.selection
          (search.arguments ++ prop :: following)

variable {engine adaptors}

theorem greedy_nil (value : Value) : engine.greedy adaptors value [] = pure value := by
  rw [greedy]

theorem greedy_cons (value prop : Value) (following : List Value) :
    engine.greedy adaptors value (prop :: following) = (do
      let cls ← Act.classOf value
      let name ← engine.text prop
      match adaptors cls with
      | none => throw noAnswer
      | some adaptor => do
          let index ← engine.resolveIndex adaptor cls name
          if index.size == 0 then throw noAnswer
          else do
            let largest ← engine.largestFit index adaptor.onlyPublic adaptor.returns following
            engine.complete adaptors value largest following) := by
  rw [greedy]
  rfl

/-- A call that any member could give one more argument takes the next step for one. -/
theorem resume_of_room {search : Search} (room : search.arguments.length < search.index.maxArity)
    (prop : Value) (following : List Value) :
    engine.resume adaptors search (prop :: following) = (do
      let search ← engine.renew { search with arguments := search.arguments ++ [prop] }
      engine.resume adaptors search following) := by
  rw [resume, if_pos room]

/-- A call that has as many arguments as any member takes is complete. -/
theorem resume_of_full {search : Search}
    (full : ¬ search.arguments.length < search.index.maxArity) (following : List Value) :
    engine.resume adaptors search following =
      engine.complete adaptors search.target search.selection (search.arguments ++ following) := by
  cases following with
  | nil => rw [resume, List.append_nil]
  | cons prop following => rw [resume, if_neg full]

theorem renew_eq_widen (search : Search) (prop : Value) (following : List Value) :
    engine.renew { search with arguments := search.arguments ++ [prop] } = (do
      let fit ← engine.widen search.index search.onlyPublic search.returns
        (search.arguments ++ prop :: following) search.selection (search.arguments.length + 1)
      return { search with arguments := search.arguments ++ [prop], selection := fit }) := by
  have first : (search.arguments ++ prop :: following).take (search.arguments.length + 1) =
      search.arguments ++ [prop] := by
    simp [List.take_append, List.take_of_length_le]
  simp only [renew, seek, widen, first, List.length_append, List.length_singleton, bind_assoc, pure_bind]

/-- Looking on with one more argument at a time finds the member that takes the most. -/
theorem resume_eq (search : Search) (following : List Value)
    (within : search.arguments.length ≤ search.index.maxArity) :
    engine.resume adaptors search following = (do
      let all := search.arguments ++ following
      let counts := List.range' (search.arguments.length + 1)
        (min search.index.maxArity all.length - search.arguments.length)
      let largest ← counts.foldlM
        (engine.widen search.index search.onlyPublic search.returns all) search.selection
      engine.complete adaptors search.target largest all) := by
  -- By induction on what follows. The numbers of arguments that are tried begin one later each time.
  induction following generalizing search with
  | nil =>
      have none_left : min search.index.maxArity search.arguments.length -
          search.arguments.length = 0 := by omega
      simp only [resume, List.append_nil, none_left, List.range'_zero, List.foldlM_nil, pure_bind]
  | cons prop following ih =>
      rw [resume]
      split
      · rename_i room
        have more : min search.index.maxArity (search.arguments ++ prop :: following).length -
            search.arguments.length =
              min search.index.maxArity (search.arguments ++ [prop] ++ following).length -
                (search.arguments ++ [prop]).length + 1 := by
          simp only [List.length_append, List.length_cons, List.length_nil]
          omega
        simp only [renew_eq_widen search prop following, bind_assoc, pure_bind, more,
          List.range'_succ, List.foldlM_cons]
        refine congrArg _ (funext fun fit => ?_)
        rw [ih _ (by rw [List.length_append]; exact room)]
        simp only [List.append_assoc, List.singleton_append, List.length_append,
          List.length_singleton]
      · rename_i full
        have none_left : min search.index.maxArity (search.arguments ++ prop :: following).length -
            search.arguments.length = 0 := by omega
        simp only [none_left, List.range'_zero, List.foldlM_nil, pure_bind]

/-- Taking the most at once comes to starting a call without arguments and going on with it. -/
theorem largestFit_eq_resume (value : Value) (index : Index) (onlyPublic : Bool)
    (returns : ClassId) (following : List Value) :
    (do
      let largest ← engine.largestFit index onlyPublic returns following
      engine.complete adaptors value largest following) = (do
      let search ← engine.renew ⟨value, index, onlyPublic, returns, [], none⟩
      engine.resume adaptors search following) := by
  rw [largestFit, List.range_eq_range', List.range'_succ, List.foldlM_cons]
  simp only [renew, seek, widen, List.take_zero, bind_assoc, pure_bind]
  refine congrArg _ (funext fun found => ?_)
  rw [resume_eq _ _ (Nat.zero_le _)]
  rfl

/-- With the name of a step and the handler known, what is left is to look for members. -/
theorem runFrom_greedy_cons {value prop : Value} {adaptor : Adaptor} {name : String}
    {session : Session} (named : (engine.text prop).runFrom session = (.ok name, session))
    (answers : adaptors (value.classOf session.objects) = some adaptor) (following : List Value) :
    (engine.greedy adaptors value (prop :: following)).runFrom session = (do
      let index ← engine.resolveIndex adaptor (value.classOf session.objects) name
      if index.size == 0 then throw noAnswer
      else do
        let search ← engine.renew ⟨value, index, adaptor.onlyPublic, adaptor.returns, [], none⟩
        engine.resume adaptors search following).runFrom session := by
  rw [greedy_cons, Act.runFrom_bind_of_ok (Act.runFrom_classOf _ _), Act.runFrom_bind_of_ok named,
    answers]
  simp only [largestFit_eq_resume]

/-- No handler answers to the value. -/
theorem runFrom_greedy_cons_of_none {value prop : Value} {name : String} {session : Session}
    (named : (engine.text prop).runFrom session = (.ok name, session))
    (unanswered : adaptors (value.classOf session.objects) = none) (following : List Value) :
    (engine.greedy adaptors value (prop :: following)).runFrom session =
      (.error noAnswer, session) := by
  rw [greedy_cons, Act.runFrom_bind_of_ok (Act.runFrom_classOf _ _), Act.runFrom_bind_of_ok named,
    unanswered]
  rfl

end Engine

end MemberDispatch
