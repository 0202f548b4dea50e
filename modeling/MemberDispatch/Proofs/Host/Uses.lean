import MemberDispatch.Proofs.Host.Answers

/-!
# Uses of members

Greedy evaluation uses at most one member for each step. Whatever is counted over a session, if only
using members adds to it, and every use at most one, then evaluation adds at most as much as there
are steps.
-/

namespace MemberDispatch

open Act

/-- That only using members adds to a count over what lasts of a session, and a use at most one. -/
structure Setting.Counts (setting : Setting) (count : Session → ℕ) : Prop where
  resolveIndex {session : Session} (inside : session.lasting ∈ setting.sessions) (adaptor : Adaptor)
    (cls : ClassId) (name : String) :
    count ((setting.core.resolveIndex adaptor cls name).runFrom session).2.lasting ≤
      count session.lasting
  choose {session : Session} (inside : session.lasting ∈ setting.sessions) {index : Index}
    (known : index ∈ setting.indexes) (onlyPublic : Bool) (returns : ClassId)
    {arguments : List Value} (steps : ∀ argument ∈ arguments, argument ∈ setting.steps) :
    count ((setting.core.choose index onlyPublic returns arguments 0).runFrom session).2.lasting ≤
      count session.lasting
  use {session : Session} (inside : session.lasting ∈ setting.sessions) {index : Index}
    (known : index ∈ setting.indexes) {fit : Selection} (knows : setting.Knows index fit)
    {target : Value} (aimed : target ∈ setting.targets) :
    count ((setting.core.use fit.member target fit.arguments).runFrom session).2.lasting ≤
      count session.lasting + 1

namespace Setting

variable {setting : Setting} (closed : setting.Closed) {count : Session → ℕ}
  (counts : setting.Counts count)

/-- That evaluating as many steps as a bound allows adds at most one for each. -/
def Frugal (setting : Setting) (count : Session → ℕ) (bound : ℕ) : Prop :=
  ∀ ⦃session value⦄ (props : List Value), session.lasting ∈ setting.sessions →
    value ∈ setting.targets → ¬ setting.core.hierarchy.OfCalls (value.classOf session.objects) →
      (∀ prop ∈ props, prop ∈ setting.steps) → props.length ≤ bound →
        count ((setting.core.greedy setting.adaptors value props).runFrom session).2.lasting ≤
          count session.lasting + props.length

variable {session : Session} {search : Engine.Search} {bound : ℕ}
  (frugal : setting.Frugal count bound) (inside : session.lasting ∈ setting.sessions)
  (sound : search.Sound setting)

include counts in
theorem Counts.seek (inside : session.lasting ∈ setting.sessions)
    (sound : search.Sound setting) :
    count ((setting.core.seek search).runFrom session).2.lasting ≤ count session.lasting := by
  have chooses := counts.choose inside sound.index search.onlyPublic search.returns sound.arguments
  unfold Engine.seek
  rw [runFrom_bind]
  rcases run : (setting.core.choose search.index search.onlyPublic search.returns
    search.arguments 0).runFrom session with ⟨fault | found, after⟩
  all_goals rw [run] at chooses
  · exact chooses
  · exact chooses

include closed counts in
/-- Renewing a search adds nothing. -/
theorem count_renew {following : List Value} {limit : ℕ}
    (inside : session.lasting ∈ setting.sessions) (sound : search.Sound setting)
    (resumes : ∀ found after, after.lasting ∈ setting.sessions →
      ({ search with selection := found <|> search.selection } : Engine.Search).Sound setting →
        count ((setting.core.resume setting.adaptors
          { search with selection := found <|> search.selection } following).runFrom
            after).2.lasting ≤ count after.lasting + limit) :
    count ((do
      let search ← setting.core.renew search
      setting.core.resume setting.adaptors search following).runFrom session).2.lasting ≤
        count session.lasting + limit := by
  have seeks := counts.seek inside sound
  obtain ⟨still, renewed, -⟩ := sound.seek closed inside
  simp only [Engine.renew, bind_assoc, pure_bind]
  rw [runFrom_bind]
  rcases sought : (setting.core.seek search).runFrom session with ⟨fault | found, after⟩
  all_goals rw [sought] at seeks still renewed; dsimp only at seeks still ⊢
  · omega
  · have others := resumes found after still (renewed found rfl)
    omega

include closed counts frugal inside sound

theorem count_complete {all : List Value} (steps : ∀ prop ∈ all, prop ∈ setting.steps)
    (short : all.length ≤ bound) :
    count ((setting.core.complete setting.adaptors search.target search.selection all).runFrom
      session).2.lasting ≤ count session.lasting + 1 + all.length := by
  rcases chosen : search.selection with _ | fit
  · change count session.lasting ≤ _
    omega
  have knows := sound.knows fit chosen
  obtain ⟨still, given⟩ := closed.use inside sound.index knows sound.target
  have uses := counts.use inside sound.index knows sound.target
  unfold Engine.complete
  dsimp only
  rw [runFrom_bind]
  rcases used : (setting.core.use fit.member search.target fit.arguments).runFrom session with
    ⟨fault | result, after⟩
  all_goals rw [used] at still given uses; dsimp only at still given uses ⊢
  · omega
  · obtain ⟨aimed, other⟩ := given result rfl
    have behind : (all.drop fit.consumed).length ≤ all.length :=
      List.length_drop ▸ Nat.sub_le _ _
    have others := frugal (all.drop fit.consumed) still aimed other
      (fun prop mem => steps prop (List.mem_of_mem_drop mem)) (Nat.le_trans behind short)
    omega

theorem count_resume {following : List Value} (steps : ∀ prop ∈ following, prop ∈ setting.steps)
    (short : search.arguments.length + following.length ≤ bound) :
    count ((setting.core.resume setting.adaptors search following).runFrom session).2.lasting ≤
      count session.lasting + 1 + (search.arguments.length + following.length) := by
  induction following generalizing search session with
  | nil =>
      unfold Engine.resume
      exact count_complete closed counts frugal inside sound sound.arguments short
  | cons prop following ih =>
      by_cases room : search.arguments.length < search.index.maxArity
      · have total : (search.arguments ++ [prop]).length + following.length =
            search.arguments.length + (prop :: following).length := by
          simp only [List.length_append, List.length_cons, List.length_nil]
          omega
        have later : ∀ other ∈ following, other ∈ setting.steps :=
          fun other mem => steps other (List.mem_cons_of_mem _ mem)
        rw [Engine.resume_of_room room, Nat.add_assoc, ← total]
        refine count_renew closed counts inside (sound.feed (steps prop List.mem_cons_self))
          fun found after within fed => ?_
        rw [← Nat.add_assoc]
        exact ih within fed later (total ▸ short)
      · rw [Engine.resume_of_full room]
        have all : ∀ argument ∈ search.arguments ++ prop :: following, argument ∈ setting.steps := by
          intro argument mem
          rcases List.mem_append.mp mem with mem | mem
          · exact sound.arguments argument mem
          · exact steps argument mem
        have completes := count_complete closed counts frugal inside sound all
          (List.length_append ▸ short)
        rw [List.length_append] at completes
        exact completes

omit frugal inside sound

/-- Each step uses at most one member: of the steps behind the first one, those that do not become
its arguments are as many as are left to count. -/
theorem frugal_greedy (bound : ℕ) : setting.Frugal count bound := by
  -- By induction on a bound for the number of steps: a member that is used takes steps off the front, and
  -- the ones behind them are fewer.
  induction bound with
  | zero =>
      intro session value props inside aimed other steps short
      obtain rfl : props = [] := List.eq_nil_of_length_eq_zero (Nat.le_zero.mp short)
      rw [Engine.greedy_nil]
      exact Nat.le_refl _
  | succ bound ih =>
      intro session value props inside aimed other steps short
      cases props with
      | nil =>
          rw [Engine.greedy_nil]
          exact Nat.le_refl _
      | cons prop props =>
          obtain ⟨name, named⟩ := closed.text inside (steps prop List.mem_cons_self)
          have following : ∀ other ∈ props, other ∈ setting.steps :=
            fun other mem => steps other (List.mem_cons_of_mem _ mem)
          rw [List.length_cons] at short ⊢
          rcases answers : setting.adaptors (value.classOf session.objects) with _ | adaptor
          · rw [Engine.runFrom_greedy_cons_of_none named answers]
            dsimp only
            omega
          have resolves := counts.resolveIndex inside adaptor (value.classOf session.objects) name
          obtain ⟨still, indexes⟩ := closed.resolveIndex inside aimed answers
            (steps prop List.mem_cons_self) named
          rw [Engine.runFrom_greedy_cons named answers, runFrom_bind]
          rcases run : (setting.core.resolveIndex adaptor (value.classOf session.objects)
            name).runFrom session with ⟨fault | index, after⟩
          all_goals rw [run] at resolves still indexes; dsimp only at resolves still ⊢
          · omega
          · split
            · change count after.lasting ≤ _
              omega
            · have known : index ∈ setting.indexes := indexes index rfl
              have limit : count after.lasting + (1 + props.length) ≤
                  count session.lasting + (props.length + 1) := by omega
              refine Nat.le_trans (count_renew closed counts still
                (.start aimed known adaptor.onlyPublic adaptor.returns) ?_) limit
              intro found last within fed
              have others := count_resume closed counts ih within fed following
                (by rw [List.length_nil]; omega)
              rw [List.length_nil] at others
              omega

end Setting

end MemberDispatch
