import MemberDispatch.Proofs.Host.Faults

/-!
# Chains of property steps

A chain of steps is carried out one step after the other, and a pending call that it ends in is asked
for its outcome, and so on while calls give one another. If each step fails with a documented fault or
with one of a description, so does the chain.
-/

namespace MemberDispatch

open Act

theorem world_machine (world : World) (level : ℕ) : (machine world level).world = world := by
  cases level with
  | zero => rfl
  | succ level => rfl

/-- That an engine leaves sessions in order, and that its steps too fail with documented faults or with
those of descriptions. -/
structure Engine.Attends (engine : Engine) (scope : Scope) : Prop extends engine.Tends scope where
  stepping (host : ℕ) {target argument : Value} (aimed : target ∈ scope.values)
    (given : argument ∈ scope.values) :
    Upholds engine.world scope scope.values scope.allowed (engine.step host target argument none)

namespace Engine

variable {engine : Engine} {scope : Scope}

/-- The engine of a level attends if it and the one below leave sessions in order: its steps are those
that the one below takes. -/
theorem attends_machine {world : World} {level : ℕ} (declared : world.Declared)
    (tends : (machine world (level + 1)).Tends scope) (below : (machine world level).Tends scope) :
    (machine world (level + 1)).Attends scope where
  toTends := tends
  stepping host _ _ aimed given := by
    have stepped := below.stepWith ((world_machine world level).symm ▸ declared) host aimed given
      none
    rw [world_machine] at stepped
    exact stepped

namespace Attends

variable (attends : engine.Attends scope)

include attends

theorem stepAll (host : ℕ) {value : Value} (known : value ∈ scope.values) {props : List Value}
    (given : ∀ prop ∈ props, prop ∈ scope.values) :
    Upholds engine.world scope scope.values scope.allowed (engine.stepAll host value props) := by
  induction props generalizing value with
  | nil => exact upholds_pure known
  | cons prop props ih =>
      rcases List.forall_mem_cons.mp given with ⟨here, behind⟩
      refine (attends.stepping host known here).bind ?_
      intro result reached
      exact ih reached behind

theorem outcomeOf (fuel : ℕ) {value : Value} (known : value ∈ scope.values) :
    Upholds engine.world scope scope.values scope.allowed (engine.outcomeOf fuel value) := by
  induction fuel generalizing value with
  | zero => exact upholds_pure known
  | succ fuel ih =>
      unfold Engine.outcomeOf
      split
      · refine (attends.toTends.resolve _).bind ?_
        intro result reached
        exact ih reached
      · exact upholds_pure known

/-- Evaluating a chain of steps fails with a documented fault or with one of a description. -/
theorem evaluate (host : ℕ) {value : Value} (known : value ∈ scope.values) {props : List Value}
    (given : ∀ prop ∈ props, prop ∈ scope.values) :
    Upholds engine.world scope scope.values scope.allowed (engine.evaluate host value props) := by
  unfold Engine.evaluate
  refine (attends.stepAll host known given).bind ?_
  intro result reached session order
  exact attends.outcomeOf (callBound session.calls) reached session order

end Attends

end Engine

end MemberDispatch
