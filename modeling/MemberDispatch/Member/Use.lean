import MemberDispatch.Converter.Convert
import MemberDispatch.Member.Index

/-!
# Using members

Finding the member that takes given arguments and running it. A candidate is passed over when one of
its converters fails, unless the interpreter itself gave up.
-/

namespace MemberDispatch

/-- The member that takes some arguments, with the arguments converted for it. -/
structure Choice where
  member : Member
  arguments : List Value

namespace Engine

def convertAll (engine : Engine) : List Converter → List Value → Act (List Value)
  | converter :: converters, argument :: arguments => do
      let first ← engine.convert converter argument
      let others ← engine.convertAll converters arguments
      return first :: others
  | _, _ => return []

/-- Whether all arguments are of the targets of their converters as they are. -/
def allOfTargets (engine : Engine) : List Converter → List Value → Act Bool
  | converter :: converters, argument :: arguments => do
      if ← engine.isOfKey converter.target argument then engine.allOfTargets converters arguments
      else return false
  | _, _ => return true

/-- The outcome of an attempt that may fail, or nothing if it failed in an ordinary way. -/
def ifSuccessful {α : Type} (work : Act (Option α)) : Act (Option α) := do
  match ← Act.attempt work with
  | .ok result => return result
  | .error fault => if fault.escapes then throw fault else return none

/-- Arguments converted for a member, if they fit. The last `extras` of them are not converted and
must be of their targets as they are. More extras than arguments count round from the last one; a
count beyond twice the arguments, or a negative one, fits nothing. -/
def convertFor? (engine : Engine) (member : Member) (arguments : List Value) (extras : Int) :
    Act (Option (List Value)) := do
  let count := arguments.length
  if count != member.arity then return none
  else
    ifSuccessful do
      if extras < 0 then
        -- The conversions are made all the same, and may fail.
        let _ ← engine.convertAll member.converters arguments
        return none
      else if extras ≤ count then
        let lead := count - extras.toNat
        let converted ← engine.convertAll (member.converters.take lead) (arguments.take lead)
        let rest := arguments.drop lead
        if ← engine.allOfTargets (member.converters.drop lead) rest then
          return some (converted ++ rest)
        else return none
      else if extras ≤ 2 * count then
        -- Counted round, the last arguments are tested twice.
        let lead := 2 * count - extras.toNat
        if ← engine.allOfTargets (member.converters.drop lead) (arguments.drop lead) then
          if ← engine.allOfTargets member.converters arguments then return some arguments
          else return none
        else return none
      else return none

/-- The first of several members that takes the arguments. -/
def chooseAmong (engine : Engine) (onlyPublic : Bool) (required : ClassId) (arguments : List Value)
    (extras : Int) : List Member → Act (Option Choice)
  | [] => return none
  | member :: members => do
      if member.isAccessible onlyPublic && member.produces engine.hierarchy required then
        match ← engine.convertFor? member arguments extras with
        | some converted => return some ⟨member, converted⟩
        | none => engine.chooseAmong onlyPublic required arguments extras members
      else engine.chooseAmong onlyPublic required arguments extras members

/-- The first member of an index, in order, that takes the arguments. -/
def choose (engine : Engine) (index : Index) (onlyPublic : Bool) (required : ClassId)
    (arguments : List Value) (extras : Int) : Act (Option Choice) :=
  engine.chooseAmong onlyPublic required arguments extras (index.candidates arguments.length)

/-- Uses a member on a value. Surplus arguments are left aside. -/
def use (engine : Engine) (member : Member) (value : Value) (arguments : List Value) : Act Value :=
  let own := arguments.take member.arity
  match member.role with
  | .abstract => throw (.raised .notImplemented .silent)
  | .field getter => engine.call getter [value]
  | .method callable => engine.call callable (value :: own)
  | .static function => engine.call function.callable own
  | .injected function position =>
      engine.call function.callable (own.insertIdx (min position own.length) value)

end Engine

end MemberDispatch
