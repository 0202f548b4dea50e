import MemberDispatch.Calling
import MemberDispatch.Host

/-!
# Machines

The engine that sessions run on. The engine of a level performs its operations over the engine of the
level below, so every operation ends: at the bottom there is only the complaint that the recursion
goes too deep.
-/

namespace MemberDispatch

/-- The complaint over a recursion that goes too deep. -/
def tooDeep : Fault :=
  .say .recursion "maximum recursion depth exceeded"

/-- The engine of a level. -/
def machine (world : World) : Nat → Engine
  | 0 =>
      { world
        call := fun _ _ => throw tooDeep
        text := fun _ => throw tooDeep
        display := fun _ => throw tooDeep
        operate := fun _ _ => throw tooDeep
        step := fun _ _ _ _ => throw tooDeep }
  | level + 1 =>
      { world
        call := fun callable arguments => (machine world level).callWith callable arguments
        text := fun value => match value with
          | .pending id => (machine world level).callText id
          | value => (machine world level).textWith value
        display := fun value => (machine world level).displayWith value
        operate := fun operator operands => (machine world level).operateWith operator operands
        step := fun host target prop name =>
          (machine world level).stepWith host target prop name }

/-- The number of levels of a session's engine. -/
def recursionLimit : Nat := 1000

/-- The engine of a session. -/
def World.engine (world : World) : Engine :=
  machine world recursionLimit

end MemberDispatch
