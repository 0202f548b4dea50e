import Mathlib.Data.Set.Defs
import MemberDispatch.Proofs.Host.Greedy
import MemberDispatch.Proofs.Host.Serving

/-!
# Settings

What evaluation takes for granted of the members that it finds and uses: they leave the pending calls
and the hosts alone, the texts of steps can be had without a consequence, and no member gives a
pending call. All of this is asked only where an evaluation can come: a setting says in which
sessions and with which values that is, and is closed under what is done there.
-/

namespace MemberDispatch

/-- What lasts of a session: all but pending calls, hosts, events and the formatters that were
remembered. -/
def Session.lasting (session : Session) : Session :=
  { session with calls := #[], hosts := #[], events := #[], formatters := {} }

/-- Where an evaluation takes place and what may come up in it. -/
structure Setting where
  /-- The engine of the members. -/
  core : Engine
  /-- The handler that answers to values of a class. -/
  adaptors : ClassId → Option Adaptor
  host : ℕ
  /-- What may last of a session. -/
  sessions : Set Session
  /-- What steps are applied to. -/
  targets : Set Value
  steps : Set Value
  /-- What steps are converted to when they become arguments. -/
  converted : Set Value
  /-- Where members are looked for. -/
  indexes : Set Index

namespace Setting

variable (setting : Setting)

/-- What a member was found to take is known. -/
structure Knows (index : Index) (fit : Selection) : Prop where
  member : fit.member ∈ index.members
  arguments : ∀ argument ∈ fit.arguments, argument ∈ setting.converted

/-- That nothing leads out of the setting, that texts of steps can be had without a consequence and
that no member gives a pending call. -/
structure Closed : Prop where
  text {session : Session} (inside : session.lasting ∈ setting.sessions) {prop : Value}
    (step : prop ∈ setting.steps) :
    ∃ name, (setting.core.text prop).runFrom session = (.ok name, session)
  resolveIndex {session : Session} (inside : session.lasting ∈ setting.sessions) {target : Value}
    (aimed : target ∈ setting.targets) {adaptor : Adaptor}
    (answers : setting.adaptors (target.classOf session.objects) = some adaptor) {prop : Value}
    (step : prop ∈ setting.steps) {name : String}
    (named : (setting.core.text prop).runFrom session = (.ok name, session)) :
    let resolved := (setting.core.resolveIndex adaptor (target.classOf session.objects) name).runFrom
      session
    resolved.2.lasting ∈ setting.sessions ∧
      ∀ index, resolved.1 = .ok index → index ∈ setting.indexes
  choose {session : Session} (inside : session.lasting ∈ setting.sessions) {index : Index}
    (known : index ∈ setting.indexes) (onlyPublic : Bool) (returns : ClassId)
    {arguments : List Value} (steps : ∀ argument ∈ arguments, argument ∈ setting.steps) :
    let chosen := (setting.core.choose index onlyPublic returns arguments 0).runFrom session
    chosen.2.lasting ∈ setting.sessions ∧
      ∀ choice, chosen.1 = .ok (some choice) →
        ∀ argument ∈ choice.arguments, argument ∈ setting.converted
  use {session : Session} (inside : session.lasting ∈ setting.sessions) {index : Index}
    (known : index ∈ setting.indexes) {fit : Selection} (knows : setting.Knows index fit)
    {target : Value} (aimed : target ∈ setting.targets) :
    let used := (setting.core.use fit.member target fit.arguments).runFrom session
    used.2.lasting ∈ setting.sessions ∧
      ∀ result, used.1 = .ok result → result ∈ setting.targets ∧
        ¬ setting.core.hierarchy.OfCalls (result.classOf used.2.objects)

end Setting

/-- That the members of an engine do in a setting what those of its core do, amid any pending calls
and hosts. -/
structure Engine.Follows (engine : Engine) (setting : Setting) : Prop where
  world : engine.world = setting.core.world
  text {session : Session} (inside : session.lasting ∈ setting.sessions) {prop : Value}
    (step : prop ∈ setting.steps) :
    Act.RunsAs (engine.text prop) (setting.core.text prop) session
  choose {session : Session} (inside : session.lasting ∈ setting.sessions) {index : Index}
    (known : index ∈ setting.indexes) (onlyPublic : Bool) (returns : ClassId)
    {arguments : List Value} (steps : ∀ argument ∈ arguments, argument ∈ setting.steps) :
    Act.RunsAs (engine.choose index onlyPublic returns arguments 0)
      (setting.core.choose index onlyPublic returns arguments 0) session
  use {session : Session} (inside : session.lasting ∈ setting.sessions) {index : Index}
    (known : index ∈ setting.indexes) {fit : Selection} (knows : setting.Knows index fit)
    {target : Value} (aimed : target ∈ setting.targets) :
    Act.RunsAs (engine.use fit.member target fit.arguments)
      (setting.core.use fit.member target fit.arguments) session

namespace Engine

variable {engine : Engine} {setting : Setting}

section Choosing

/-- What passes a trial that may fail is a fault that no handler of ordinary faults catches. -/
theorem escapes_of_ifSuccessful {α : Type} {work : Act (Option α)} {session : Session}
    {fault : Fault} (failed : ((ifSuccessful work).runFrom session).1 = .error fault) :
    fault.escapes = true := by
  simp only [ifSuccessful, Act.runFrom_bind, Act.runFrom_attempt] at failed
  rcases outcome : (work.runFrom session).1 with cause | result
  all_goals rw [outcome] at failed
  · dsimp only at failed
    split at failed
    · rename_i escapes
      cases failed
      exact escapes
    · cases failed
  · cases failed

theorem escapes_of_convertFor {member : Member} {arguments : List Value} {extras : ℤ}
    {session : Session} {fault : Fault}
    (failed : ((engine.convertFor? member arguments extras).runFrom session).1 = .error fault) :
    fault.escapes = true := by
  unfold convertFor? at failed
  dsimp only at failed
  split at failed
  · cases failed
  · exact escapes_of_ifSuccessful failed

/-- Finding a member gives one of the index, or fails with a fault that no handler of ordinary faults
catches. -/
theorem choose_spec (index : Index) (onlyPublic : Bool) (returns : ClassId)
    (arguments : List Value) (session : Session) :
    (∀ choice, ((engine.choose index onlyPublic returns arguments 0).runFrom session).1 =
        .ok (some choice) → choice.member ∈ index.members) ∧
      ∀ fault, ((engine.choose index onlyPublic returns arguments 0).runFrom session).1 =
        .error fault → fault.escapes = true := by
  have among : ∀ member ∈ index.candidates arguments.length, member ∈ index.members := by
    intro member mem
    unfold Index.candidates Snapshot.candidates at mem
    dsimp only at mem
    split at mem
    · exact List.mem_of_mem_drop (List.mem_of_mem_take mem)
    · cases mem
  unfold Engine.choose
  generalize index.candidates arguments.length = candidates at among
  -- By induction on the candidates; each is tried in the session that the one before it left.
  induction candidates generalizing session with
  | nil => exact ⟨by rintro _ ⟨⟩, by rintro _ ⟨⟩⟩
  | cons member candidates ih =>
      have others := fun session => ih session fun other mem => among other (List.mem_cons_of_mem _ mem)
      unfold chooseAmong
      split
      · rw [Act.runFrom_bind]
        rcases converting : (engine.convertFor? member arguments 0).runFrom session with
          ⟨cause | converted, after⟩
        · refine ⟨by rintro _ ⟨⟩, fun _ failed => ?_⟩
          cases failed
          exact escapes_of_convertFor (congrArg Prod.fst converting)
        · cases converted with
          | none => exact others after
          | some converted =>
              refine ⟨fun _ found => ?_, by rintro _ ⟨⟩⟩
              cases found
              exact among member List.mem_cons_self
      · exact others session

end Choosing

section Resolving

theorem resolveIndex_congr {other : Engine} (same : engine.world = other.world) (adaptor : Adaptor)
    (cls : ClassId) (name : String) :
    engine.resolveIndex adaptor cls name = other.resolveIndex adaptor cls name := by
  simp only [Engine.resolveIndex, Engine.registryOf, same]

theorem discreet_resolveIndex (engine : Engine) (adaptor : Adaptor) (cls : ClassId)
    (name : String) : Act.Discreet (engine.resolveIndex adaptor cls name) := by
  unfold Engine.resolveIndex
  refine Act.Discreet.bind ?_ fun registry => ?_
  · unfold Engine.registryOf
    split
    · exact Act.discreet_pure _
    · exact Act.discreet_sharedRegistry _
  · refine (Act.discreet_onRegistry _ _).bind fun index => ?_
    dsimp only
    split
    · exact Act.discreet_onRegistry _ _
    · exact Act.discreet_pure _

theorem Follows.resolveIndex (follows : engine.Follows setting) (adaptor : Adaptor) (cls : ClassId)
    (name : String) (session : Session) :
    Act.RunsAs (engine.resolveIndex adaptor cls name)
      (setting.core.resolveIndex adaptor cls name) session := by
  rw [resolveIndex_congr follows.world]
  exact discreet_resolveIndex _ _ _ _ session

end Resolving

end Engine

end MemberDispatch
