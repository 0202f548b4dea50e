import MemberDispatch.Value.Operate
import MemberDispatch.Width

/-!
# Ranges of values

Whether a value lies in the range of a width. Any value that can be compared with whole numbers has
an answer, not only whole numbers.
-/

namespace MemberDispatch

namespace Engine

/-- Whether a number lies in the range of a width, by the order that the value defines. -/
def inRange (engine : Engine) (width : Width) (value : Value) : Act Bool := do
  if width.bits == 0 then return true
  else match width.least?, width.greatest? with
    | some least, some greatest => do
        if ← engine.compares .le (.int least) value then
          engine.compares .le value (.int greatest)
        else return false
    | _, _ => Act.valueError "negative shift count"

/-- The value, if it lies in the range of a width. -/
def narrowed (engine : Engine) (width : Width) (value : Value) : Act Value := do
  if ← engine.inRange width value then return value
  else throw (.say .overflow (width.name ++ " overflow: " ++ (← engine.text value)))

end Engine

end MemberDispatch
