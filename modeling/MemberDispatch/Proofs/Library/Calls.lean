import Mathlib.Data.Int.Notation
import MemberDispatch.Calling
import MemberDispatch.Catalog
import MemberDispatch.Proofs.Session.Run

/-!
# Calling the functions of the providers

A function of a provider can be called as one of the class itself, with the defaults of its parameters
in place of arguments that were left out. Given plain whole numbers and texts, it is a function of
these, and neither the session nor the operators of an engine have a say in it.
-/

namespace MemberDispatch

namespace Engine

/-- Calls the function that a class has under a name. -/
def callStatic (engine : Engine) (cls : BuiltinClass) (name : String) (arguments : List Value) :
    Act Value :=
  match (engine.world.entries (.builtin cls)).lookup name with
  | some (.staticMethod function) => engine.callWith (.plain function) arguments
  | _ => Act.noAttribute (.builtin .type) name

/-- Calling the function gives the result, in every session, and leaves the session as it is. -/
def Gives (engine : Engine) (cls : BuiltinClass) (name : String) (arguments : List Value)
    (result : Value) : Prop :=
  ∀ session, (engine.callStatic cls name arguments).runFrom session = (.ok result, session)

/-- Calling the function fails with a fault of the kind, in every session, and leaves the session as
it is. -/
def Refuses (engine : Engine) (cls : BuiltinClass) (name : String) (arguments : List Value)
    (kind : FaultKind) : Prop :=
  ∀ session, ∃ text,
    (engine.callStatic cls name arguments).runFrom session = (.error (.say kind text), session)

section Outcomes

variable {engine : Engine} {cls : BuiltinClass} {name : String} {arguments : List Value}
  {result other : Value} {kind otherKind : FaultKind}

theorem Gives.unique (gives : engine.Gives cls name arguments result)
    (gives_other : engine.Gives cls name arguments other) : result = other := by
  have runs := gives {}
  rw [gives_other {}] at runs
  cases runs
  rfl

theorem Refuses.unique (refuses : engine.Refuses cls name arguments kind)
    (refuses_other : engine.Refuses cls name arguments otherKind) : kind = otherKind := by
  rcases refuses {} with ⟨text, run⟩
  rcases refuses_other {} with ⟨other_text, run_other⟩
  rw [run] at run_other
  cases run_other
  rfl

theorem not_refuses_of_gives (gives : engine.Gives cls name arguments result)
    (kind : FaultKind) : ¬ engine.Refuses cls name arguments kind := by
  intro refuses
  rcases refuses {} with ⟨text, run⟩
  rw [gives {}] at run
  cases run

end Outcomes

variable (engine : Engine)

section Division

variable (dividend divisor : ℤ)

theorem callStatic_div :
    engine.callStatic .numberFunctions "div" [.int dividend, .int divisor] =
      Act.ofInteger (IntegerFunctions.divide dividend divisor) :=
  rfl

theorem callStatic_divide :
    engine.callStatic .numberFunctions "divide" [.int dividend, .int divisor] =
      Act.ofInteger (IntegerFunctions.divide dividend divisor) :=
  rfl

theorem callStatic_mod :
    engine.callStatic .numberFunctions "mod" [.int dividend, .int divisor] =
      Act.ofInteger (IntegerFunctions.remainder dividend divisor) :=
  rfl

theorem callStatic_floor_div :
    engine.callStatic .mathFunctions "floor_div" [.int dividend, .int divisor] =
      Act.ofInteger (IntegerFunctions.floorDivide dividend divisor) :=
  rfl

theorem callStatic_floor_mod :
    engine.callStatic .mathFunctions "floor_mod" [.int dividend, .int divisor] =
      Act.ofInteger (IntegerFunctions.floorRemainder dividend divisor) :=
  rfl

end Division

section Parts

variable (text : String)

theorem callStatic_leftstr (count : ℤ) :
    engine.callStatic .stringFunctions "leftstr" [.text text, .int count] =
      ofCharacters (Slice.left text.toList count) :=
  rfl

theorem callStatic_rightstr (count : ℤ) :
    engine.callStatic .stringFunctions "rightstr" [.text text, .int count] =
      ofCharacters (Slice.right text.toList count) :=
  rfl

/-- The arguments for a part of a text. The position that it ends before may be left out. -/
def partArguments (text : String) (first : ℤ) : Option ℤ → List Value
  | none => [.text text, .int first]
  | some last => [.text text, .int first, .int last]

theorem callStatic_substr (first : ℤ) (last : Option ℤ) :
    engine.callStatic .stringFunctions "substr" (partArguments text first last) =
      ofCharacters (Slice.lenient text.toList first last) := by
  cases last with
  | none => rfl
  | some last => rfl

theorem callStatic_substring (first : ℤ) (last : Option ℤ) :
    engine.callStatic .stringFunctions "substring" (partArguments text first last) =
      match Slice.strict text.toList first last with
      | .ok characters => ofCharacters characters
      | .error issue => (do
          let start ← Act.integerText issue.start
          let stop ← Act.integerText issue.stop
          throw (.say .indexError
            ("begin " ++ start ++ ", end " ++ stop ++ ", length " ++ toString issue.length))) := by
  cases last with
  | none => rfl
  | some last => rfl

end Parts

end Engine

end MemberDispatch
