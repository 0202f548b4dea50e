import MemberDispatch.Machine
import MemberDispatch.Proofs.Index.Stretches
import MemberDispatch.Proofs.Session.Run

/-!
# The first fit

Looking for a member is a scan of all members of a name in their order. Every member that is
considered is tried on the arguments as they were given: what earlier members made of them is lost,
although what their coercions did to the session is not. A trial ends in one of three ways. The
arguments fit, or they do not and the scan goes on, or a fault escapes and ends the scan. The
relations below describe a trial and a scan without the table of arities, and they determine the
outcome of the search.
-/

namespace MemberDispatch

namespace Engine

section Trials

variable (engine : Engine)

/-- That arguments convert one after the other, and to what. -/
inductive Converts : List Converter → List Value → Session → List Value → Session → Prop
  | done (session : Session) : Converts [] [] session [] session
  | next {converter : Converter} {converters : List Converter} {argument value : Value}
      {arguments values : List Value} {session between after : Session}
      (first : (engine.convert converter argument).runFrom session = (.ok value, between))
      (others : Converts converters arguments between values after) :
      Converts (converter :: converters) (argument :: arguments) session (value :: values) after

/-- That the conversion of an argument fails, after those in front of it converted. -/
inductive BreaksOff : List Converter → List Value → Session → Fault → Session → Prop
  | here {converter : Converter} {converters : List Converter} {argument : Value}
      {arguments : List Value} {session after : Session} {fault : Fault}
      (failed : (engine.convert converter argument).runFrom session = (.error fault, after)) :
      BreaksOff (converter :: converters) (argument :: arguments) session fault after
  | later {converter : Converter} {converters : List Converter} {argument value : Value}
      {arguments : List Value} {session between after : Session} {fault : Fault}
      (first : (engine.convert converter argument).runFrom session = (.ok value, between))
      (others : BreaksOff converters arguments between fault after) :
      BreaksOff (converter :: converters) (argument :: arguments) session fault after

/-- That arguments are of the targets of their converters as they are. -/
inductive Suits : List Converter → List Value → Session → Session → Prop
  | done (session : Session) : Suits [] [] session session
  | next {converter : Converter} {converters : List Converter} {argument : Value}
      {arguments : List Value} {session between after : Session}
      (first : (engine.isOfKey converter.target argument).runFrom session = (.ok true, between))
      (others : Suits converters arguments between after) :
      Suits (converter :: converters) (argument :: arguments) session after

/-- That an argument is not of the target of its converter as it is, or that finding this out
fails with a fault. -/
inductive Unsuited : List Converter → List Value → Session → Option Fault → Session → Prop
  | other {converter : Converter} {converters : List Converter} {argument : Value}
      {arguments : List Value} {session after : Session}
      (tested : (engine.isOfKey converter.target argument).runFrom session = (.ok false, after)) :
      Unsuited (converter :: converters) (argument :: arguments) session none after
  | failed {converter : Converter} {converters : List Converter} {argument : Value}
      {arguments : List Value} {session after : Session} {fault : Fault}
      (failed :
        (engine.isOfKey converter.target argument).runFrom session = (.error fault, after)) :
      Unsuited (converter :: converters) (argument :: arguments) session (some fault) after
  | later {converter : Converter} {converters : List Converter} {argument : Value}
      {arguments : List Value} {session between after : Session} {cause : Option Fault}
      (first : (engine.isOfKey converter.target argument).runFrom session = (.ok true, between))
      (others : Unsuited converters arguments between cause after) :
      Unsuited (converter :: converters) (argument :: arguments) session cause after

variable (lead : ℕ) (arguments : List Value)

/-- That arguments fit a member: the leading ones convert and the others suit as they are. -/
inductive Fits (member : Member) (session : Session) (values : List Value) (after : Session) : Prop
  | intro {between : Session}
      (converted : engine.Converts (member.converters.take lead) (arguments.take lead) session
        values between)
      (suited : engine.Suits (member.converters.drop lead) (arguments.drop lead) between after)

/-- That arguments do not fit a member. The cause is a fault, unless an argument is just not of its
target. -/
inductive Misfits (member : Member) (session : Session) :
    Option Fault → Session → Prop
  | unconverted {fault : Fault} {after : Session}
      (broken : engine.BreaksOff (member.converters.take lead) (arguments.take lead) session fault
        after) :
      Misfits member session (some fault) after
  | unsuited {values : List Value} {between after : Session} {cause : Option Fault}
      (converted : engine.Converts (member.converters.take lead) (arguments.take lead) session
        values between)
      (unsuited : engine.Unsuited (member.converters.drop lead) (arguments.drop lead) between cause
        after) :
      Misfits member session cause after

variable (onlyPublic : Bool) (required : ClassId)

/-- Whether a member is tried on arguments at all. -/
def Considers (member : Member) : Prop :=
  member.arity = arguments.length ∧ member.isAccessible onlyPublic = true ∧
    member.produces engine.hierarchy required = true

/-- That a scan passes over members: each is not considered, or the arguments do not fit it. -/
inductive PassesOver : List Member → Session → Session → Prop
  | done (session : Session) : PassesOver [] session session
  | skip {member : Member} {members : List Member} {session after : Session}
      (ineligible : ¬engine.Considers arguments onlyPublic required member)
      (others : PassesOver members session after) :
      PassesOver (member :: members) session after
  | refuse {member : Member} {members : List Member} {session between after : Session}
      {cause : Option Fault}
      (eligible : engine.Considers arguments onlyPublic required member)
      (misfit : engine.Misfits lead arguments member session cause between)
      (ordinary : ∀ fault ∈ cause, fault.escapes = false)
      (others : PassesOver members between after) :
      PassesOver (member :: members) session after

/-- What a scan of ordered members comes to: the first one that the arguments fit, nothing where
there is none, or the fault that ended it. -/
inductive FirstFit (ordered : List Member) (session : Session) :
    Except Fault (Option Choice) → Session → Prop
  | found {earlier later : List Member} {member : Member} {values : List Value}
      {between after : Session}
      (split : ordered = earlier ++ member :: later)
      (passed : engine.PassesOver lead arguments onlyPublic required earlier session between)
      (eligible : engine.Considers arguments onlyPublic required member)
      (fits : engine.Fits lead arguments member between values after) :
      FirstFit ordered session (.ok (some ⟨member, values ++ arguments.drop lead⟩)) after
  | missing {after : Session}
      (passed : engine.PassesOver lead arguments onlyPublic required ordered session after) :
      FirstFit ordered session (.ok none) after
  | stopped {earlier later : List Member} {member : Member} {fault : Fault}
      {between after : Session}
      (split : ordered = earlier ++ member :: later)
      (passed : engine.PassesOver lead arguments onlyPublic required earlier session between)
      (eligible : engine.Considers arguments onlyPublic required member)
      (misfit : engine.Misfits lead arguments member between (some fault) after)
      (escapes : fault.escapes = true) :
      FirstFit ordered session (.error fault) after

end Trials

variable {engine : Engine}

section Conversions

variable {converters : List Converter} {arguments values : List Value}
  {session after : Session} {fault : Fault}

theorem Converts.run (converts : engine.Converts converters arguments session values after) :
    (engine.convertAll converters arguments).runFrom session = (.ok values, after) := by
  induction converts with
  | done session => rfl
  | next first others ih => simp [convertAll, Act.runFrom_bind, Act.runFrom_map, first, ih]

theorem BreaksOff.run (breaks : engine.BreaksOff converters arguments session fault after) :
    (engine.convertAll converters arguments).runFrom session = (.error fault, after) := by
  induction breaks with
  | here failed => simp [convertAll, Act.runFrom_bind, failed]
  | later first others ih => simp [convertAll, Act.runFrom_bind, Act.runFrom_map, first, ih]

theorem convertAll_cases (engine : Engine) (same : converters.length = arguments.length)
    (session : Session) :
    (∃ values after, engine.Converts converters arguments session values after) ∨
      ∃ fault after, engine.BreaksOff converters arguments session fault after := by
  induction converters generalizing arguments session with
  | nil =>
      obtain rfl := List.length_eq_zero_iff.mp same.symm
      exact .inl ⟨[], session, .done session⟩
  | cons converter converters ih =>
      cases arguments with
      | nil => simp at same
      | cons argument arguments =>
          rcases first : (engine.convert converter argument).runFrom session with ⟨outcome, between⟩
          cases outcome with
          | error fault => exact .inr ⟨fault, between, .here first⟩
          | ok value =>
              rcases ih (by simpa using same) between with
                ⟨values, after, others⟩ | ⟨fault, after, others⟩
              · exact .inl ⟨value :: values, after, .next first others⟩
              · exact .inr ⟨fault, after, .later first others⟩

end Conversions

section Tests

variable {converters : List Converter} {arguments : List Value} {session after : Session}
  {cause : Option Fault}

theorem Suits.run (suits : engine.Suits converters arguments session after) :
    (engine.allOfTargets converters arguments).runFrom session = (.ok true, after) := by
  induction suits with
  | done session => rfl
  | next first others ih => simp [allOfTargets, Act.runFrom_bind, first, ih]

/-- The outcome of a test of arguments that fails for a cause. -/
def testOutcome : Option Fault → Except Fault Bool
  | none => .ok false
  | some fault => .error fault

theorem Unsuited.run (unsuited : engine.Unsuited converters arguments session cause after) :
    (engine.allOfTargets converters arguments).runFrom session = (testOutcome cause, after) := by
  induction unsuited with
  | other tested => simp [allOfTargets, Act.runFrom_bind, tested, testOutcome]
  | failed failed => simp [allOfTargets, Act.runFrom_bind, failed, testOutcome]
  | later first others ih => simp [allOfTargets, Act.runFrom_bind, first, ih]

theorem allOfTargets_cases (engine : Engine) (same : converters.length = arguments.length)
    (session : Session) :
    (∃ after, engine.Suits converters arguments session after) ∨
      ∃ cause after, engine.Unsuited converters arguments session cause after := by
  induction converters generalizing arguments session with
  | nil =>
      obtain rfl := List.length_eq_zero_iff.mp same.symm
      exact .inl ⟨session, .done session⟩
  | cons converter converters ih =>
      cases arguments with
      | nil => simp at same
      | cons argument arguments =>
          rcases first : (engine.isOfKey converter.target argument).runFrom session with
            ⟨_ | _ | _, between⟩
          · exact .inr ⟨_, between, .failed first⟩
          · exact .inr ⟨none, between, .other first⟩
          · rcases ih (by simpa using same) between with ⟨after, others⟩ | ⟨cause, after, others⟩
            · exact .inl ⟨after, .next first others⟩
            · exact .inr ⟨cause, after, .later first others⟩

end Tests

section Candidates

variable {member : Member} {arguments values : List Value} {extras : ℕ} {session after : Session}
  {cause : Option Fault}

/-- The outcome of a trial that fails for a cause. -/
def trialOutcome : Option Fault → Except Fault (Option (List Value))
  | none => .ok none
  | some fault => if fault.escapes then .error fault else .ok none

/-- Trying a member on as many arguments as it takes. -/
theorem convertFor_eq (bounded : extras ≤ arguments.length)
    (takes : member.arity = arguments.length) :
    engine.convertFor? member arguments extras = ifSuccessful do
      let converted ← engine.convertAll (member.converters.take (arguments.length - extras))
        (arguments.take (arguments.length - extras))
      if ← engine.allOfTargets (member.converters.drop (arguments.length - extras))
          (arguments.drop (arguments.length - extras)) then
        return some (converted ++ arguments.drop (arguments.length - extras))
      else return none := by
  have not_negative : ¬(extras : ℤ) < 0 := by omega
  have within : (extras : ℤ) ≤ (arguments.length : ℕ) := by omega
  simp only [convertFor?, takes, bne_self_eq_false, Bool.false_eq_true, if_false, not_negative,
    within, if_true, Int.toNat_natCast]

theorem Fits.run (bounded : extras ≤ arguments.length) (takes : member.arity = arguments.length)
    (fits : engine.Fits (arguments.length - extras) arguments member session values after) :
    (engine.convertFor? member arguments extras).runFrom session =
      (.ok (some (values ++ arguments.drop (arguments.length - extras))), after) := by
  rcases fits with ⟨converted, suited⟩
  simp [convertFor_eq bounded takes, ifSuccessful, Act.runFrom_bind, converted.run, suited.run]

theorem Misfits.run (bounded : extras ≤ arguments.length) (takes : member.arity = arguments.length)
    (misfits : engine.Misfits (arguments.length - extras) arguments member session cause after) :
    (engine.convertFor? member arguments extras).runFrom session =
      (trialOutcome cause, after) := by
  rw [convertFor_eq bounded takes]
  cases misfits with
  | unconverted broken =>
      simp only [ifSuccessful, Act.runFrom_bind, Act.runFrom_attempt, broken.run, trialOutcome]
      split <;> rfl
  | unsuited converted unsuited =>
      simp only [ifSuccessful, Act.runFrom_bind, Act.runFrom_attempt, converted.run, unsuited.run]
      cases cause with
      | none => rfl
      | some fault =>
          simp only [testOutcome, trialOutcome]
          split <;> rfl

/-- Arguments fit a member that takes as many, or they misfit it. -/
theorem fits_or_misfits (engine : Engine) (takes : member.arity = arguments.length) (lead : ℕ)
    (session : Session) :
    (∃ values after, engine.Fits lead arguments member session values after) ∨
      ∃ cause after, engine.Misfits lead arguments member session cause after := by
  have leading : (member.converters.take lead).length = (arguments.take lead).length := by
    simpa [Member.arity] using congrArg (min lead) takes
  have trailing : (member.converters.drop lead).length = (arguments.drop lead).length := by
    simpa [Member.arity] using congrArg (· - lead) takes
  rcases convertAll_cases engine leading session with
    ⟨values, between, converted⟩ | ⟨fault, after, broken⟩
  · rcases allOfTargets_cases engine trailing between with
      ⟨after, suited⟩ | ⟨cause, after, unsuited⟩
    · exact .inl ⟨values, after, .intro converted suited⟩
    · exact .inr ⟨cause, after, .unsuited converted unsuited⟩
  · exact .inr ⟨some fault, after, .unconverted broken⟩

end Candidates

section Scans

variable {onlyPublic : Bool} {required : ClassId} {arguments : List Value} {extras : ℕ}
  {member : Member} {members : List Member} {session between after : Session}
  {outcome : Except Fault (Option Choice)}

/-- The search among ordered members, where those that take as many arguments as given are tried. -/
def scan (engine : Engine) (onlyPublic : Bool) (required : ClassId) (arguments : List Value)
    (extras : ℕ) (ordered : List Member) : Act (Option Choice) :=
  engine.chooseAmong onlyPublic required arguments extras
    (ordered.filter fun member => member.arity == arguments.length)

theorem choose_eq_scan (index : Index) :
    engine.choose index onlyPublic required arguments extras =
      engine.scan onlyPublic required arguments extras
        (index.accepted.mergeSort Member.notAfter) := by
  rw [choose, scan, Index.candidates_eq_filter, Index.members_eq_mergeSort]

theorem scan_cons_of_not_considers
    (ineligible : ¬engine.Considers arguments onlyPublic required member) :
    engine.scan onlyPublic required arguments extras (member :: members) =
      engine.scan onlyPublic required arguments extras members := by
  simp only [scan, List.filter_cons]
  by_cases takes : member.arity = arguments.length
  · have hidden : ¬(member.isAccessible onlyPublic && member.produces engine.hierarchy required) =
        true := by
      simpa [Considers, takes] using ineligible
    simp only [takes, beq_self_eq_true, if_true, chooseAmong, if_neg hidden]
  · simp only [beq_eq_false_iff_ne.mpr takes, Bool.false_eq_true, if_false]

theorem scan_cons_of_considers
    (eligible : engine.Considers arguments onlyPublic required member) :
    engine.scan onlyPublic required arguments extras (member :: members) =
      engine.convertFor? member arguments extras >>= fun
        | some converted => pure (some ⟨member, converted⟩)
        | none => engine.scan onlyPublic required arguments extras members := by
  rcases eligible with ⟨takes, accessible, produces⟩
  have kept : (member.arity == arguments.length) = true := beq_iff_eq.mpr takes
  have shown : (member.isAccessible onlyPublic && member.produces engine.hierarchy required) =
      true := by rw [accessible, produces, Bool.and_self]
  rw [scan, List.filter_cons, if_pos kept, chooseAmong, if_pos shown]
  rfl

theorem PassesOver.run (bounded : extras ≤ arguments.length)
    (passes : engine.PassesOver (arguments.length - extras) arguments onlyPublic required members
      session between) (rest : List Member) :
    (engine.scan onlyPublic required arguments extras (members ++ rest)).runFrom session =
      (engine.scan onlyPublic required arguments extras rest).runFrom between := by
  induction passes with
  | done session => rfl
  | skip ineligible others ih => rw [List.cons_append, scan_cons_of_not_considers ineligible, ih]
  | @refuse member members session between after cause eligible misfit ordinary others ih =>
      have trial : (engine.convertFor? member arguments extras).runFrom session =
          (.ok none, between) := by
        rw [misfit.run bounded eligible.1]
        cases cause with
        | none => rfl
        | some fault => simp [trialOutcome, ordinary fault rfl]
      rw [List.cons_append, scan_cons_of_considers eligible, Act.runFrom_bind_of_ok trial, ih]

theorem FirstFit.run {ordered : List Member} (bounded : extras ≤ arguments.length)
    (first : engine.FirstFit (arguments.length - extras) arguments onlyPublic required ordered
      session outcome after) :
    (engine.scan onlyPublic required arguments extras ordered).runFrom session =
      (outcome, after) := by
  cases first with
  | found split passed eligible fits =>
      rw [split, passed.run bounded, scan_cons_of_considers eligible,
        Act.runFrom_bind_of_ok (fits.run bounded eligible.1)]
      rfl
  | missing passed =>
      have finished := passed.run bounded []
      rw [List.append_nil] at finished
      rw [finished]
      rfl
  | stopped split passed eligible misfit escapes =>
      have trial := misfit.run bounded eligible.1
      simp only [trialOutcome, escapes, if_true] at trial
      rw [split, passed.run bounded, scan_cons_of_considers eligible,
        Act.runFrom_bind_of_error trial]

/-- Passing over one member in front of a scan leaves its outcome. -/
theorem FirstFit.cons {lead : ℕ}
    (passed : ∀ {others : List Member} {last : Session},
      engine.PassesOver lead arguments onlyPublic required others between last →
      engine.PassesOver lead arguments onlyPublic required (member :: others) session last)
    (first : engine.FirstFit lead arguments onlyPublic required members between outcome after) :
    engine.FirstFit lead arguments onlyPublic required (member :: members) session outcome
      after := by
  cases first with
  | found split others eligible fits =>
      exact .found (by rw [split, List.cons_append]) (passed others) eligible fits
  | missing others => exact .missing (passed others)
  | stopped split others eligible misfit escapes =>
      exact .stopped (by rw [split, List.cons_append]) (passed others) eligible misfit escapes

theorem exists_firstFit (engine : Engine) (onlyPublic : Bool) (required : ClassId) (lead : ℕ)
    (arguments : List Value) (ordered : List Member) (session : Session) :
    ∃ outcome after,
      engine.FirstFit lead arguments onlyPublic required ordered session outcome after := by
  induction ordered generalizing session with
  | nil => exact ⟨_, _, .missing (.done session)⟩
  | cons member members ih =>
      by_cases eligible : engine.Considers arguments onlyPublic required member
      · rcases fits_or_misfits engine eligible.1 lead session with
          ⟨values, after, fits⟩ | ⟨cause, between, misfit⟩
        · exact ⟨_, _, .found (List.nil_append _).symm (.done session) eligible fits⟩
        · by_cases ordinary : ∀ fault ∈ cause, fault.escapes = false
          · obtain ⟨outcome, after, first⟩ := ih between
            exact ⟨outcome, after, first.cons (.refuse eligible misfit ordinary)⟩
          · push Not at ordinary
            obtain ⟨fault, mem, escapes⟩ := ordinary
            obtain rfl := Option.mem_def.mp mem
            exact ⟨_, _, .stopped (List.nil_append _).symm (.done session) eligible misfit
              (by simpa using escapes)⟩
      · obtain ⟨outcome, after, first⟩ := ih session
        exact ⟨outcome, after, first.cons (.skip eligible)⟩

end Scans

/-- A member that runs nothing, with converters for its arguments. -/
def blankMember (converters : List Converter) : Member :=
  { name := "f", converters, returns := .object, role := .abstract }

/-- Members in order of rank: the first refuses a text in front, the second takes it. -/
def rankedMembers : List Member :=
  [blankMember [⟨1, .cls (.builtin .text), none⟩, ⟨0, .cls (.builtin .int), none⟩],
    blankMember [⟨0, .cls (.builtin .int), none⟩, ⟨0, .cls (.builtin .int), none⟩]]

end Engine

end MemberDispatch
