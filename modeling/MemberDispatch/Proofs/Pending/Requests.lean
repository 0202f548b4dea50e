import MemberDispatch.Proofs.Pending.Turn

/-!
# What requests bring to a pending call

Of the requests that a call serves, those up to its conclusion bring it arguments: up to the first one
for its outcome or its text, and no more than as many as any member takes. Of the searches for members
that the arguments lead to, the latest one that found something counts.
-/

namespace MemberDispatch

namespace Request

def isAccept : Request → Bool
  | accept _ => true
  | _ => false

/-- The arguments that a call takes up to its conclusion, no more than a bound. -/
def taken : ℕ → List Request → List Value
  | bound + 1, accept argument :: requests => argument :: taken bound requests
  | bound + 1, lockedText :: requests => taken (bound + 1) requests
  | _, _ => []

@[simp]
theorem taken_zero (requests : List Request) : taken 0 requests = [] := by
  cases requests <;> rfl

@[simp]
theorem taken_nil (bound : ℕ) : taken bound [] = [] := by
  cases bound <;> rfl

/-- That requests conclude a call: one of them makes it, or the arguments come to a bound. -/
def Concluded (bound : ℕ) (requests : List Request) : Prop :=
  resolve ∈ requests ∨ text ∈ requests ∨ bound ≤ requests.countP isAccept

theorem Concluded.append {bound : ℕ} {requests : List Request} (concluded : Concluded bound requests)
    (more : List Request) : Concluded bound (requests ++ more) := by
  rcases concluded with mem | mem | full
  · exact .inl (List.mem_append_left _ mem)
  · exact .inr (.inl (List.mem_append_left _ mem))
  · refine .inr (.inr (Nat.le_trans full ?_))
    rw [List.countP_append]
    exact Nat.le_add_right _ _

theorem concluded_accept_cons {bound : ℕ} {argument : Value} {requests : List Request} :
    Concluded (bound + 1) (accept argument :: requests) ↔ Concluded bound requests := by
  simp [Concluded, List.countP_cons, isAccept]

theorem concluded_lockedText_cons {bound : ℕ} {requests : List Request} :
    Concluded bound (lockedText :: requests) ↔ Concluded bound requests := by
  simp [Concluded, isAccept]

/-- Once it is concluded, a call takes no more arguments. -/
theorem taken_append_of_concluded {bound : ℕ} {requests : List Request}
    (concluded : Concluded bound requests) (more : List Request) :
    taken bound (requests ++ more) = taken bound requests := by
  induction requests generalizing bound with
  | nil =>
      have none : bound = 0 := by simpa [Concluded] using concluded
      rw [none, taken_zero, taken_zero]
  | cons request requests ih =>
      cases bound with
      | zero => rw [taken_zero, taken_zero]
      | succ bound =>
          cases request with
          | accept argument =>
              exact congrArg (argument :: ·) (ih (concluded_accept_cons.mp concluded))
          | lockedText => exact ih (concluded_lockedText_cons.mp concluded)
          | resolve => rfl
          | text => rfl

/-- Up to its conclusion a call takes every argument. -/
theorem taken_append {bound : ℕ} {requests : List Request} (collects : ¬ Concluded bound requests)
    (more : List Request) :
    taken bound (requests ++ more) =
      taken bound requests ++ taken (bound - requests.countP isAccept) more := by
  induction requests generalizing bound with
  | nil =>
      rw [taken_nil]
      rfl
  | cons request requests ih =>
      cases bound with
      | zero => exact absurd (.inr (.inr (Nat.zero_le _))) collects
      | succ bound =>
          cases request with
          | accept argument =>
              have rest := ih (fun concluded => collects (concluded_accept_cons.mpr concluded))
              rw [List.countP_cons_of_pos rfl, Nat.add_sub_add_right]
              exact congrArg (argument :: ·) rest
          | lockedText => exact ih (fun concluded => collects (concluded_lockedText_cons.mpr concluded))
          | resolve => exact absurd (.inl List.mem_cons_self) collects
          | text => exact absurd (.inr (.inl List.mem_cons_self)) collects

/-- What is no argument adds none. -/
theorem taken_concat {request : Request} (other : request.isAccept = false) (bound : ℕ)
    (requests : List Request) : taken bound (requests ++ [request]) = taken bound requests := by
  by_cases concluded : Concluded bound requests
  · exact taken_append_of_concluded concluded _
  · have none : ∀ rest, taken rest [request] = [] := by
      intro rest
      cases request with
      | accept argument => cases other
      | _ => cases rest <;> rfl
    rw [taken_append concluded, none, List.append_nil]

/-- One more argument is taken if the call is not concluded. -/
theorem taken_concat_accept {bound : ℕ} {requests : List Request}
    (collects : ¬ Concluded bound requests) (argument : Value) :
    taken bound (requests ++ [accept argument]) = taken bound requests ++ [argument] := by
  have room : requests.countP isAccept < bound :=
    Nat.lt_of_not_le fun full => collects (.inr (.inr full))
  obtain ⟨rest, left⟩ := Nat.exists_eq_add_of_lt room
  have one : taken (bound - requests.countP isAccept) [accept argument] = [argument] := by
    have positive : bound - requests.countP isAccept = rest + 1 := by omega
    rw [positive]
    exact congrArg (argument :: ·) (taken_nil rest)
  rw [taken_append collects, one]

theorem length_taken_le (bound : ℕ) (requests : List Request) :
    (taken bound requests).length ≤ requests.countP isAccept := by
  induction requests generalizing bound with
  | nil => simp
  | cons request requests ih =>
      cases bound with
      | zero => simp
      | succ bound =>
          cases request with
          | accept argument =>
              rw [List.countP_cons_of_pos rfl]
              exact Nat.succ_le_succ (ih bound)
          | lockedText => exact ih (bound + 1)
          | resolve => exact Nat.zero_le _
          | text => exact Nat.zero_le _

theorem length_taken {bound : ℕ} {requests : List Request} (collects : ¬ Concluded bound requests) :
    (taken bound requests).length = requests.countP isAccept := by
  induction requests generalizing bound with
  | nil => simp
  | cons request requests ih =>
      cases bound with
      | zero => exact absurd (.inr (.inr (Nat.zero_le _))) collects
      | succ bound =>
          cases request with
          | accept argument =>
              have rest := ih fun concluded => collects (concluded_accept_cons.mpr concluded)
              rw [List.countP_cons_of_pos rfl]
              exact congrArg (· + 1) rest
          | lockedText => exact ih fun concluded => collects (concluded_lockedText_cons.mpr concluded)
          | resolve => exact absurd (.inl List.mem_cons_self) collects
          | text => exact absurd (.inr (.inl List.mem_cons_self)) collects

theorem concluded_concat_accept {bound : ℕ} {requests : List Request}
    (collects : ¬ Concluded bound requests) (argument : Value) :
    Concluded bound (requests ++ [accept argument]) ↔
      bound ≤ (taken bound requests).length + 1 := by
  have neither : resolve ∉ requests ∧ text ∉ requests :=
    ⟨fun mem => collects (.inl mem), fun mem => collects (.inr (.inl mem))⟩
  rw [length_taken collects]
  simp [Concluded, neither.1, neither.2, isAccept]

theorem concluded_concat_lockedText {bound : ℕ} {requests : List Request} :
    Concluded bound (requests ++ [lockedText]) ↔ Concluded bound requests := by
  simp [Concluded, isAccept]

end Request

/-- That a call has nothing yet but what it is started with. -/
structure PendingCall.Blank (call : PendingCall) : Prop where
  arguments : call.arguments = []
  phase : call.phase = .seeded
  selection : call.selection = none
  result : call.result = .unset
  fault : call.fault = none
  unlocked : call.locked = false

theorem PendingCall.Blank.unresolved {call : PendingCall} (blank : call.Blank) :
    call.phase ≠ .resolved := by
  rw [blank.phase]
  exact nofun

theorem PendingCall.Blank.finding {call : PendingCall} (blank : call.Blank) (found : Option Choice) :
    call.finding found = { call with
      selection := found.map fun choice =>
        ⟨choice.member, choice.arguments, call.arguments.length⟩ } := by
  unfold PendingCall.finding
  rw [blank.selection]
  cases found <;> rfl

/-- That a selection is the latest of what was found for numbers of arguments up to a count. -/
structure Latest (found : ℕ → Option Choice) (count : ℕ) (selection : Option Selection) : Prop where
  within : ∀ fit, selection = some fit →
    fit.consumed ≤ count ∧ found fit.consumed = some ⟨fit.member, fit.arguments⟩ ∧
      ∀ more, fit.consumed < more → more ≤ count → found more = none
  nowhere : selection = none → ∀ fewer ≤ count, found fewer = none

theorem Latest.congr {found others : ℕ → Option Choice} {count : ℕ} {selection : Option Selection}
    (latest : Latest found count selection) (same : ∀ fewer ≤ count, found fewer = others fewer) :
    Latest others count selection := by
  refine ⟨fun fit chosen => ?_, fun unfit fewer le => ?_⟩
  · obtain ⟨le, here, beyond⟩ := latest.within fit chosen
    exact ⟨le, same _ le ▸ here, fun more lt le => same _ le ▸ beyond more lt le⟩
  · exact same _ le ▸ latest.nowhere unfit fewer le

theorem Latest.succ {found : ℕ → Option Choice} {count : ℕ} {selection : Option Selection}
    (latest : Latest found count selection) :
    Latest found (count + 1)
      (((found (count + 1)).map fun choice => ⟨choice.member, choice.arguments, count + 1⟩) <|>
        selection) := by
  rcases new : found (count + 1) with _ | choice
  · refine ⟨fun fit chosen => ?_, fun unfit fewer le => ?_⟩
    · obtain ⟨le, here, beyond⟩ := latest.within fit chosen
      refine ⟨Nat.le_succ_of_le le, here, fun more lt le => ?_⟩
      rcases Nat.le_succ_iff.mp le with le | rfl
      · exact beyond more lt le
      · exact new
    · rcases Nat.le_succ_iff.mp le with le | rfl
      · exact latest.nowhere unfit fewer le
      · exact new
  · refine ⟨fun fit chosen => ?_, fun unfit => (nomatch unfit)⟩
    cases chosen
    exact ⟨Nat.le_refl _, new, fun more lt le => absurd lt (Nat.not_lt.mpr le)⟩

theorem Latest.zero {found : ℕ → Option Choice} :
    Latest found 0 ((found 0).map fun choice => ⟨choice.member, choice.arguments, 0⟩) := by
  rcases first : found 0 with _ | choice
  · refine ⟨fun _ chosen => (nomatch chosen), fun _ fewer le => ?_⟩
    obtain rfl := Nat.le_zero.mp le
    exact first
  · refine ⟨fun fit chosen => ?_, fun unfit => (nomatch unfit)⟩
    cases chosen
    exact ⟨Nat.le_refl _, first, fun more lt le => absurd lt (Nat.not_lt.mpr le)⟩

end MemberDispatch
