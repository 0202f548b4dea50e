import MemberDispatch.Machine
import MemberDispatch.Proofs.Host.Setting

/-!
# Nested engines

The property steps of an engine are those of an engine of a level below. So they are for the machines
of a world, and for any engine whose steps are nested anew. Where the other operations of an engine
are discreet, its members leave calls and hosts alone everywhere.
-/

namespace MemberDispatch

/-- Engines whose property steps are those of the one below. -/
def IsTower (engines : ℕ → Engine) : Prop :=
  ∀ level, (engines (level + 1)).step = (engines level).stepWith

/-- The machines of a world from a level on are a tower. -/
theorem isTower_machine (world : World) (lowest : ℕ) :
    IsTower fun level => machine world (lowest + level) :=
  fun _ => rfl

namespace Engine

/-- The engine with property steps nested to a depth. -/
def nested (engine : Engine) : ℕ → Engine
  | 0 => { engine with step := fun _ _ _ _ => throw tooDeep }
  | depth + 1 => { engine with step := (engine.nested depth).stepWith }

theorem isTower_nested (engine : Engine) : IsTower engine.nested :=
  fun _ => rfl

section Steps

variable (engine : Engine) (step : ℕ → Value → Value → Option String → Act Value)

theorem convertAll_of_step (converters : List Converter) (arguments : List Value) :
    ({ engine with step } : Engine).convertAll converters arguments =
      engine.convertAll converters arguments := by
  induction converters generalizing arguments with
  | nil => rfl
  | cons converter converters ih =>
      cases arguments with
      | nil => rfl
      | cons argument arguments =>
          simp only [convertAll, ih]
          rfl

theorem allOfTargets_of_step (converters : List Converter) (arguments : List Value) :
    ({ engine with step } : Engine).allOfTargets converters arguments =
      engine.allOfTargets converters arguments := by
  induction converters generalizing arguments with
  | nil => rfl
  | cons converter converters ih =>
      cases arguments with
      | nil => rfl
      | cons argument arguments =>
          simp only [allOfTargets, ih]
          rfl

/-- Finding a member involves no property steps. -/
theorem choose_of_step (index : Index) (onlyPublic : Bool) (returns : ClassId)
    (arguments : List Value) (extras : ℤ) :
    ({ engine with step } : Engine).choose index onlyPublic returns arguments extras =
      engine.choose index onlyPublic returns arguments extras := by
  unfold choose
  induction index.candidates arguments.length with
  | nil => rfl
  | cons member members ih =>
      simp only [chooseAmong, convertFor?, convertAll_of_step, allOfTargets_of_step, ih]

end Steps

end Engine

/-- The setting in which anything may come up. -/
def Setting.everywhere (engine : Engine) (adaptors : ClassId → Option Adaptor) (host : ℕ) :
    Setting where
  core := engine
  adaptors
  host
  sessions := Set.univ
  targets := Set.univ
  steps := Set.univ
  converted := Set.univ
  indexes := Set.univ

namespace Engine

variable {engine : Engine} (adaptors : ClassId → Option Adaptor) (host : ℕ)

theorem Discreet.follows (discreet : engine.Discreet) (depth : ℕ) :
    (engine.nested depth).Follows (Setting.everywhere engine adaptors host) := by
  have stepped : ∃ step, engine.nested depth = { engine with step } := by
    cases depth with
    | zero => exact ⟨_, rfl⟩
    | succ depth => exact ⟨_, rfl⟩
  obtain ⟨step, same⟩ := stepped
  rw [same]
  refine ⟨rfl, fun {session} _ {prop} _ => discreet.text prop session, ?_, ?_⟩
  · intro session _ index _ onlyPublic returns arguments _
    rw [choose_of_step]
    exact discreet.choose index onlyPublic returns arguments 0 session
  · intro session _ index _ fit _ target _
    exact discreet.use fit.member target fit.arguments session

/-- With texts that can be had without a consequence and members that give no pending calls, nothing
leads out of the widest setting. -/
theorem closed_everywhere
    (text : ∀ prop session, ∃ name, (engine.text prop).runFrom session = (.ok name, session))
    (call : ∀ callable arguments session result after,
      (engine.call callable arguments).runFrom session = (.ok result, after) →
        ¬ engine.hierarchy.OfCalls (result.classOf after.objects)) :
    (Setting.everywhere engine adaptors host).Closed where
  text _ _ _ := text _ _
  resolveIndex _ _ _ _ _ _ _ _ _ := ⟨trivial, fun _ _ => trivial⟩
  choose _ _ _ _ _ _ _ := ⟨trivial, fun _ _ _ _ => trivial⟩
  use {session} _ index _ fit _ target _ := by
    refine ⟨trivial, fun result given => ⟨trivial, ?_⟩⟩
    rcases used : (engine.use fit.member target fit.arguments).runFrom session with ⟨outcome, after⟩
    change ((engine.use fit.member target fit.arguments).runFrom session).1 = _ at given
    change ¬ engine.hierarchy.OfCalls (result.classOf
      ((engine.use fit.member target fit.arguments).runFrom session).2.objects)
    rw [used] at given ⊢
    obtain rfl : outcome = .ok result := given
    unfold Engine.use at used
    dsimp only at used
    split at used
    · cases used
    all_goals exact call _ _ _ _ _ used

end Engine

end MemberDispatch
