import MemberDispatch.Display
import MemberDispatch.Member.Use
import MemberDispatch.Text.Slice

/-!
# Pending calls

A call that collects its arguments one step at a time. Every argument starts the search for a member
anew over all arguments so far, and a member found takes the place of the one found before. With as
many arguments as any candidate takes, or when asked for its outcome, the call is made with the
latest member; arguments beyond those that the member takes become property steps on its result. The
outcome, a value or a failure, is kept and further arguments are refused.
-/

namespace MemberDispatch

namespace Act

/-- Makes a pending call and gives its number. -/
def addCall (call : PendingCall) : Act Nat := do
  let id := (← get).calls.size
  modify fun session => { session with calls := session.calls.push call }
  return id

def callAt (id : Nat) : Act PendingCall := do
  match ← callAt? id with
  | some call => return call
  | none => throw (.say .system "no such pending call")

/-- The members that a pending call chooses from. It leaves no snapshot in an index of the session, which
no answer of that index shows. -/
def candidatesOf (call : PendingCall) : Act Index := do
  match call.index with
  | .fixed index => return index
  | .kept name => return (((← get).indexes.lookup name).getD .closed).index

end Act

def Engine.failure (engine : Engine) (failure : Failure) (target : Value) (path reason : String)
    (origin : Option Fault) : Act PropertyFault := do
  let shown ← engine.display target
  let name := (← Act.classOf target).name
  return { failure, target, targetText := name ++ "(" ++ shown ++ ")", path, reason, origin }

namespace Engine

/-- The member for the arguments so far, if there is one. -/
def selectionOf (engine : Engine) (call : PendingCall) : Act (Option Selection) := do
  let index ← Act.candidatesOf call
  let found ← engine.choose index call.onlyPublic call.returns call.arguments 0
  return found.map fun choice => ⟨choice.member, choice.arguments, call.arguments.length⟩

def startCall (engine : Engine) (call : PendingCall) : Act Nat := do
  let selection ← engine.selectionOf call
  Act.addCall { call with selection }

/-- The path of a pending call with its first arguments. A negative count leaves out as many
arguments at the end. -/
def callPath (engine : Engine) (call : PendingCall) (count : Option Int) : Act String :=
  engine.renderPath call.name (Slice.upTo call.arguments count)

/-- Applies the arguments behind the member's own as property steps, and gives the result and how
many arguments were used when it came or failed. -/
def applyRest (engine : Engine) (host : Nat) :
    Nat → Value → List Value → Act (Except (Fault × Nat) Value)
  | _, result, [] => return .ok result
  | used, result, argument :: arguments => do
      match ← Act.attempt (engine.step host result argument none) with
      | .ok next => engine.applyRest host (used + 1) next arguments
      | .error fault => return .error (fault, used + 1)

/-- Uses the selected member and applies the remaining arguments. -/
def runSelection (engine : Engine) (call : PendingCall) (selection : Selection) :
    Act (Except (Fault × Nat) Value) := do
  match ← Act.attempt (engine.use selection.member call.target selection.arguments) with
  | .error fault => return .error (fault, selection.consumed)
  | .ok result =>
      engine.applyRest call.host selection.consumed result
        (call.arguments.drop selection.consumed)

/-- Makes the call with the latest member. -/
def perform (engine : Engine) (call : PendingCall) : Act Value := do
  let cls := (← Act.classOf call.target).name
  match call.selection with
  | none => do
      let path ← engine.callPath call none
      Act.report (.noOverload (Text.quoted call.name) cls path)
      throw (.property (← engine.failure .noMatch call.target (← engine.callPath call none)
        "no overload accepts the arguments" none))
  | some selection => match ← engine.runSelection call selection with
    | .ok result => return result
    | .error (fault, used) =>
        if fault.escapes then throw fault
        else do
          let path ← engine.callPath call (some used)
          Act.report (.failedInvocation path cls fault.display)
          throw (.property (← engine.failure .invocation call.target path
            (fault.kind.name ++ ": " ++ fault.message) (some fault)))

/-- Makes the call unless its outcome is there, keeps the outcome and gives it. A fault that is no
failure of a property step is passed on without being kept. -/
def settle (engine : Engine) (id : Nat) : Act Value := do
  let call ← Act.callAt id
  if call.phase != .resolved then
    -- A call that is asked again while it is made has this phase already, and is not made twice.
    Act.changeCall id fun call => { call with phase := .resolved }
    match ← Act.attempt (engine.perform { call with phase := .resolved }) with
    | .ok result => Act.changeCall id fun call => { call with result }
    | .error (.property fault) =>
        Act.changeCall id fun call => { call with fault := some (.property fault) }
    | .error fault => throw fault
  let call ← Act.callAt id
  match call.fault with
  | some fault => throw fault
  | none => return call.result

/-- Runs work on a pending call while its text does not wait for it. -/
def whileLocked {α : Type} (id : Nat) (work : Act α) : Act α := do
  Act.changeCall id fun call => { call with locked := true }
  let outcome ← Act.attempt work
  Act.changeCall id fun call => { call with locked := false }
  match outcome with
  | .ok result => return result
  | .error fault => throw fault

/-- Gives a pending call its next argument. The result is the call itself while more arguments could
matter, and its outcome otherwise. -/
def accept (engine : Engine) (id : Nat) (argument : Value) : Act Value :=
  whileLocked id do
    let call ← Act.callAt id
    if call.phase == .resolved then do
      let path ← engine.callPath call none
      throw (.alreadyResolved path (← engine.display argument))
    else do
      let call := { call with arguments := call.arguments ++ [argument], phase := .accumulating }
      Act.changeCall id fun _ => call
      let found ← engine.selectionOf call
      if found.isSome then
        Act.changeCall id fun call => { call with selection := found }
      if call.arguments.length < (← Act.candidatesOf call).maxArity then return .pending id
      else engine.settle id

/-- The outcome of a pending call, which is made now if it was not. -/
def resolve (engine : Engine) (id : Nat) : Act Value :=
  whileLocked id (engine.settle id)

/-- The text of a pending call: that of its outcome, or its path while someone is at work on it. -/
def callText (engine : Engine) (id : Nat) : Act String := do
  let call ← Act.callAt id
  if call.locked then return "locked:" ++ (← engine.callPath call none)
  else whileLocked id do engine.text (← engine.settle id)

end Engine

end MemberDispatch
