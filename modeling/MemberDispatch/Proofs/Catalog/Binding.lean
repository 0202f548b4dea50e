import Mathlib.Data.List.Sort
import MemberDispatch.Calling
import MemberDispatch.Catalog

/-!
# Arguments by position

Whether a call that gives nothing but positions can be bound to the parameters of a function. The
arguments are handed to one parameter after the other. A parameter for the remaining ones takes all
that are left, and what no argument reaches needs a default. The numbers of arguments for which a
catalog offers a function are found by counting instead, and they are the same ones.
-/

namespace MemberDispatch

namespace Parameter

/-- Whether a number of arguments, all given by position, can be bound to parameters. -/
def filledBy : List Parameter → ℕ → Bool
  | [], count => count == 0
  | parameter :: parameters, count =>
      match parameter.kind, count with
      | .positionalOnly, 0 | .positional, 0 => !parameter.isRequired && filledBy parameters 0
      | .positionalOnly, count + 1 | .positional, count + 1 => filledBy parameters count
      | .remainingPositional, _ => filledBy parameters 0
      | .keywordOnly, count => !parameter.isRequired && filledBy parameters count
      | .remainingKeyword, count => filledBy parameters count

/-- That parameters stand as a function declares them: those that take positions come first, and
among these the ones with defaults come last. -/
def Ordered (parameters : List Parameter) : Prop :=
  parameters.Pairwise fun first second => second.takesPosition = true →
    first.takesPosition = true ∧ (second.isRequired = true → first.isRequired = true)

variable {parameter : Parameter} {parameters : List Parameter} {count : ℕ}

/-- Behind a parameter that takes no position there is none that does. -/
theorem Ordered.filter_eq_nil (ordered : Ordered (parameter :: parameters))
    (apart : parameter.takesPosition = false) :
    (parameter :: parameters).filter takesPosition = [] := by
  rw [List.filter_eq_nil_iff]
  intro other mem
  rcases List.mem_cons.mp mem with rfl | behind
  · simp [apart]
  · intro takes
    have before := ((List.pairwise_cons.mp ordered).1 other behind takes).1
    rw [apart] at before
    cases before

theorem Ordered.tail (ordered : Ordered (parameter :: parameters)) : Ordered parameters :=
  (List.pairwise_cons.mp ordered).2

/-- The first argument goes to the first parameter that takes one. -/
theorem filledBy_cons (takes : parameter.takesPosition = true) (count : ℕ) :
    filledBy (parameter :: parameters) (count + 1) = filledBy parameters count := by
  have kinds : parameter.kind = .positional ∨ parameter.kind = .positionalOnly := by
    simpa [takesPosition] using takes
  rcases kinds with kind | kind <;> simp [filledBy, kind]

/-- Counting says the same as handing out the arguments. -/
theorem Ordered.filledBy_iff (ordered : Ordered parameters) (count : ℕ) :
    filledBy parameters count = true ↔
      ((parameters.filter takesPosition).length < count →
        ∃ other ∈ parameters, other.kind = .remainingPositional) ∧
      (∀ other ∈ (parameters.filter takesPosition).drop count, other.isRequired = false) ∧
      ∀ other ∈ parameters, other.kind = .keywordOnly → other.isRequired = false := by
  induction parameters generalizing count with
  | nil => simp [filledBy]
  | cons parameter parameters ih =>
      have ih := ih ordered.tail
      -- Parameters that take positions come first, so behind one that does not, no other does.
      by_cases takes : parameter.takesPosition = true
      · have kinds : parameter.kind = .positional ∨ parameter.kind = .positionalOnly := by
          simpa [takesPosition] using takes
        have other : parameter.kind ≠ .remainingPositional ∧ parameter.kind ≠ .keywordOnly := by
          rcases kinds with kind | kind <;> simp [kind]
        rw [List.filter_cons_of_pos takes]
        cases count with
        | zero =>
            have default : filledBy (parameter :: parameters) 0 =
                (!parameter.isRequired && filledBy parameters 0) := by
              rcases kinds with kind | kind <;> simp [filledBy, kind]
            simp [default, ih, other, and_assoc]
        | succ count => simp [filledBy_cons takes, ih, other]
      · have none := ordered.filter_eq_nil (by simpa using takes)
        have others : parameters.filter takesPosition = [] := by
          rwa [List.filter_cons_of_neg takes] at none
        simp only [others, List.length_nil, List.drop_nil, List.not_mem_nil, false_imp_iff,
          implies_true, true_and] at ih
        rw [none]
        rcases kind : parameter.kind with _ | _ | _ | _ | _
        case positionalOnly | positional => simp [takesPosition, kind] at takes
        case keywordOnly =>
          simp only [filledBy, kind, Bool.and_eq_true, Bool.not_eq_true', ih]
          simp [kind, and_left_comm]
        case remainingPositional | remainingKeyword => simp [filledBy, kind, ih]

/-- A parameter that only a keyword can fill and that needs to be filled. -/
def needsKeyword (parameters : List Parameter) : Bool :=
  parameters.any fun parameter => parameter.kind == .keywordOnly && parameter.isRequired

theorem needsKeyword_eq_false_iff : needsKeyword parameters = false ↔
    ∀ other ∈ parameters, other.kind = .keywordOnly → other.isRequired = false := by
  simp [needsKeyword]

theorem Ordered.filledBy_eq_false (ordered : Ordered parameters)
    (needs : needsKeyword parameters = true) (count : ℕ) : filledBy parameters count = false := by
  rw [Bool.eq_false_iff]
  intro filled
  rw [needsKeyword_eq_false_iff.mpr ((ordered.filledBy_iff count).mp filled).2.2] at needs
  cases needs

/-- Enough arguments for all parameters without a default leave none of these behind. -/
theorem Ordered.required_le_iff (ordered : Ordered parameters)
    (positional : ∀ other ∈ parameters, other.takesPosition = true) (count : ℕ) :
    (parameters.filter isRequired).length ≤ count ↔
      ∀ other ∈ parameters.drop count, other.isRequired = false := by
  induction parameters generalizing count with
  | nil => simp
  | cons parameter parameters ih =>
      cases count with
      | zero => simp [List.filter_eq_nil_iff]
      | succ count =>
          have others : ∀ other ∈ parameters, other.takesPosition = true :=
            fun other mem => positional other (List.mem_cons_of_mem _ mem)
          have ih := ih ordered.tail others count
          by_cases required : parameter.isRequired = true
          · simp [List.filter_cons_of_pos required, ih]
          · have defaults : ∀ other ∈ parameters, other.isRequired = false := by
              intro other mem
              have before := (List.pairwise_cons.mp ordered).1 other mem (others other mem)
              rw [Bool.eq_false_iff]
              exact fun needs => required (before.2 needs)
            have none : parameters.filter isRequired = [] := by
              simpa [List.filter_eq_nil_iff] using defaults
            rw [List.filter_cons_of_neg required, none]
            simpa using fun other mem => defaults other (List.mem_of_mem_drop mem)

end Parameter

namespace FunctionDecl

open Parameter

variable {parameters : List Parameter} {count : ℕ}

theorem mem_arities_iff :
    count ∈ arities parameters ↔
      (parameters.filter isRequired).length ≤ count ∧ count ≤ parameters.length := by
  rw [arities, List.range_eq_range', List.drop_range', List.mem_range'_1]
  have counted := List.length_filter_le isRequired parameters
  omega

/-- The numbers of arguments for which a catalog offers a function are those that can be bound. -/
theorem arities_eq_filter (ordered : Ordered parameters)
    (free : needsKeyword parameters = false) :
    arities (parameters.filter takesPosition) =
      (List.range ((parameters.filter takesPosition).length + 1)).filter (filledBy parameters) := by
  have ascending (items : List ℕ) (sublist : items.Sublist
      (List.range ((parameters.filter takesPosition).length + 1))) : items.Pairwise (· < ·) :=
    List.pairwise_lt_range.sublist sublist
  have offered : (arities (parameters.filter takesPosition)).Pairwise (· < ·) :=
    ascending _ (List.drop_sublist _ _)
  refine offered.eq_of_mem_iff (ascending _ List.filter_sublist) fun count => ?_
  have required := Ordered.required_le_iff (ordered.filter _)
    (fun _ mem => (List.mem_filter.mp mem).2) count
  rw [mem_arities_iff, required, List.mem_filter, List.mem_range, ordered.filledBy_iff]
  have named := needsKeyword_eq_false_iff.mp free
  constructor
  · rintro ⟨defaults, within⟩
    exact ⟨by omega, fun more => absurd within (by omega), defaults, named⟩
  · rintro ⟨within, -, defaults, -⟩
    exact ⟨defaults, by omega⟩

theorem positional?_false : positional? parameters false =
    if needsKeyword parameters then none else some (parameters.filter takesPosition) :=
  rfl

section Running

variable {function : FunctionDecl} {arguments : List Value}

/-- What a call binds the arguments to, if they can be bound: they come first, and the defaults of the
parameters that they do not reach come behind them. -/
theorem bind_of_filledBy (known : function.parameters = some parameters)
    (ordered : Ordered parameters) (filled : filledBy parameters arguments.length = true) :
    function.bind arguments = do
      let positional := parameters.filter takesPosition
      let defaults ← (positional.drop arguments.length).mapM fun parameter =>
        Act.make (parameter.default.getD .none)
      return arguments.take positional.length ++ defaults := by
  obtain ⟨room, defaults, named⟩ := (ordered.filledBy_iff _).mp filled
  have fits : (decide (arguments.length > (parameters.filter takesPosition).length) &&
      !parameters.any fun parameter => parameter.kind == .remainingPositional) = false := by
    simpa using room
  have given : (((parameters.filter takesPosition).drop arguments.length).filter
      isRequired).isEmpty = true := by
    simpa [List.filter_eq_nil_iff] using defaults
  have keywords : (parameters.filter fun parameter =>
      parameter.kind == .keywordOnly && parameter.isRequired).isEmpty = true := by
    simpa [List.filter_eq_nil_iff] using named
  simp only [bind, known, Option.getD_some, fits, given, keywords, Bool.not_true,
    Bool.false_eq_true, if_false]

/-- A call with arguments that cannot be bound is refused. -/
theorem bind_of_not_filledBy (known : function.parameters = some parameters)
    (ordered : Ordered parameters) (unfilled : filledBy parameters arguments.length = false) :
    ∃ text, function.bind arguments = Act.typeError text := by
  simp only [bind, known, Option.getD_some]
  split
  · exact ⟨_, rfl⟩
  rename_i fits
  split
  · exact ⟨_, rfl⟩
  rename_i given
  split
  · exact ⟨_, rfl⟩
  rename_i keywords
  rw [(ordered.filledBy_iff _).mpr ⟨?_, ?_, ?_⟩] at unfilled
  · cases unfilled
  · simpa using fits
  · simpa [List.filter_eq_nil_iff] using given
  · simpa [List.filter_eq_nil_iff] using keywords

end Running

end FunctionDecl

/-- The ways in which a function is a member of a class. -/
inductive Way
  | method
  | staticMethod
  | classMethod
  | constructor
  deriving DecidableEq

namespace Way

open Parameter

/-- How many arguments a call gives in front of those of the caller: the value, the class or the new
instance. -/
def given : Way → ℕ
  | .staticMethod => 0
  | _ => 1

/-- The least number of arguments with which a member of this kind is offered. -/
def least : Way → ℕ
  | .method => 0
  | _ => 1

/-- The parameters that the caller fills by position. -/
def named (way : Way) (parameters : List Parameter) : List Parameter :=
  (parameters.drop way.given).filter takesPosition

/-- Whether the parameters have a place for the value or the new instance, where there is one. -/
def receives : Way → List Parameter → Bool
  | .staticMethod, _ | .classMethod, _ => true
  | _, first :: _ => first.takesPosition
  | _, [] => false

/-- The numbers of arguments with which a caller can use the member, as far as they are named. -/
def counts (way : Way) (parameters : List Parameter) : List ℕ :=
  if way.receives parameters then
    (List.range ((way.named parameters).length + 1)).filter fun count =>
      decide (way.least ≤ count) && filledBy parameters (count + way.given)
  else []

/-- The parameters that a catalog sees callers fill. -/
def positional? (way : Way) (parameters : Option (List Parameter)) : Option (List Parameter) :=
  match way with
  | .method | .constructor => parameters.bind (FunctionDecl.positional? · true)
  | .staticMethod => parameters.bind (FunctionDecl.positional? · false)
  | .classMethod => (CatalogBuilder.withoutClass parameters).bind (FunctionDecl.positional? · false)

variable {parameters : List Parameter} {way : Way}

/-- Nobody can use a member that needs to be given an argument by keyword. -/
theorem counts_eq_nil (ordered : Ordered parameters) (needs : needsKeyword parameters = true) :
    way.counts parameters = [] := by
  simp [counts, ordered.filledBy_eq_false needs]

/-- The numbers of arguments from some number on that can be bound to parameters, as far as they are
named. -/
def fillable (least : ℕ) (parameters : List Parameter) : List ℕ :=
  (List.range ((parameters.filter takesPosition).length + 1)).filter fun count =>
    decide (least ≤ count) && filledBy parameters count

theorem counts_cons {first : Parameter} {rest : List Parameter}
    (takes : first.takesPosition = true) (bound : way.given = 1) :
    way.counts (first :: rest) = fillable way.least rest := by
  have receives : way.receives (first :: rest) = true := by
    cases way <;> first | rfl | exact takes
  simp [counts, receives, fillable, named, bound, filledBy_cons takes]

/-- Either no caller can fill parameters, or a catalog sees callers fill those that they fill and
counts with how many arguments they can do it. -/
theorem fillable_cases (ordered : Ordered parameters) (least : ℕ) :
    (FunctionDecl.positional? parameters false = none ∧ fillable least parameters = []) ∨
      FunctionDecl.positional? parameters false = some (parameters.filter takesPosition) ∧
        fillable least parameters =
          (FunctionDecl.arities (parameters.filter takesPosition)).filter (least ≤ ·) := by
  rcases needs : needsKeyword parameters with _ | _
  · refine .inr ⟨by simp [FunctionDecl.positional?_false, needs], ?_⟩
    rw [FunctionDecl.arities_eq_filter ordered needs, List.filter_filter]
    rfl
  · refine .inl ⟨by simp [FunctionDecl.positional?_false, needs], ?_⟩
    simp [fillable, ordered.filledBy_eq_false needs]

/-- The same for the members of a class, which are given an argument in front. -/
theorem positional?_cases (way : Way) (ordered : Ordered parameters) :
    (way.positional? (some parameters) = none ∧ way.counts parameters = []) ∨
      way.positional? (some parameters) = some (way.named parameters) ∧
        way.counts parameters =
          (FunctionDecl.arities (way.named parameters)).filter (way.least ≤ ·) := by
  cases way with
  | staticMethod => exact fillable_cases ordered 1
  | method | constructor =>
      cases parameters with
      | nil => exact .inl ⟨rfl, rfl⟩
      | cons first rest =>
          by_cases takes : first.takesPosition = true
          · rw [counts_cons takes rfl]
            have visible : FunctionDecl.positional? (first :: rest) true =
                FunctionDecl.positional? rest false := by
              simp [FunctionDecl.positional?, takes]
            simp only [positional?, Option.bind_some, visible]
            exact fillable_cases ordered.tail _
          · refine .inl ⟨?_, ?_⟩
            · simp [positional?, FunctionDecl.positional?, takes]
            · simp [counts, receives, takes]
  | classMethod =>
      cases parameters with
      | nil => exact .inl ⟨rfl, rfl⟩
      | cons first rest =>
          by_cases takes : first.takesPosition = true
          · rw [counts_cons takes rfl]
            simp only [positional?, CatalogBuilder.withoutClass, takes, if_true, Option.bind_some]
            exact fillable_cases ordered.tail _
          · -- No parameter takes positions then, and so there is nothing for a caller to fill.
            have none := ordered.filter_eq_nil (by simpa using takes)
            have named : Way.classMethod.named (first :: rest) = [] := by
              rwa [List.filter_cons_of_neg takes] at none
            have unoffered : Way.classMethod.counts (first :: rest) = [] := by
              simp [counts, named, least]
            have empty : (FunctionDecl.arities []).filter (Way.classMethod.least ≤ ·) = [] := rfl
            rw [unoffered, named, empty]
            have visible : Way.classMethod.positional? (some (first :: rest)) =
                FunctionDecl.positional? (first :: rest) false := by
              simp [positional?, CatalogBuilder.withoutClass, takes]
            rw [visible, FunctionDecl.positional?_false, none]
            rcases needsKeyword (first :: rest) with _ | _
            · exact .inr ⟨rfl, rfl⟩
            · exact .inl ⟨rfl, rfl⟩

end Way

end MemberDispatch
