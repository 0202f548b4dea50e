import MemberDispatch.Member.LazyIndex
import MemberDispatch.Registry

/-!
# Sessions

The state of a session: objects, pending calls, hosts with their handlers, registries and what was
reported. Work on a session may fail, and what it did before it failed remains.
-/

namespace MemberDispatch

/-- How far a pending call is. -/
inductive Phase
  | seeded | accumulating | resolved
  deriving DecidableEq, Repr

def Phase.name : Phase → String
  | .seeded => "seeded"
  | .accumulating => "accumulating"
  | .resolved => "resolved"

/-- The member that a call would use, with converted arguments and how many it takes. -/
structure Selection where
  member : Member
  arguments : List Value
  consumed : Nat

/-- The members that a call chooses from: fixed, or an index of the session that may grow. -/
inductive IndexSource
  | fixed (index : Index)
  | kept (name : String)

/-- A call that collects its arguments one step at a time. -/
structure PendingCall where
  host : Nat
  target : Value
  name : String
  index : IndexSource
  onlyPublic : Bool := true
  returns : ClassId := .object
  arguments : List Value := []
  phase : Phase := .seeded
  selection : Option Selection := none
  result : Value := .unset
  fault : Option Fault := none
  /-- Whether someone is at work on the call, so that its text must not wait for it. -/
  locked : Bool := false

/-- A handler that looks members up in a registry. -/
structure Adaptor where
  /-- The name of the handler's class. -/
  name : String
  /-- The registry, or the shared one where none is given. -/
  registry : Option Nat
  onlyPublic : Bool := true
  returns : ClassId := .object
  /-- Other names of members. -/
  aliases : List (String × String) := []

/-- What answers property steps on values of a class. -/
inductive Handler
  | adaptor (adaptor : Adaptor)
  /-- Answers the step itself, under a tag. -/
  | echo (tag : String)
  /-- Gives the step to a pending call as its next argument. -/
  | arguments

/-- How values of a class show in a path. -/
inductive Formatter
  | described
  | quoted
  | fixed (text : String)

/-- A registry with handlers for classes. -/
structure Host where
  registry : Nat
  handlers : DispatchMap Handler := {}

/-- The state of a session. -/
structure Session where
  objects : Array Object := #[]
  calls : Array PendingCall := #[]
  hosts : Array Host := #[]
  registries : Array Registry := #[]
  /-- The registry that handlers without one of their own share. -/
  shared : Option Nat := none
  formatters : DispatchMap Formatter :=
    { entries := [(.object, .described), (.builtin .text, .quoted)] }
  /-- Indexes under names. -/
  indexes : List (String × LazyIndex) := []
  /-- Pending calls under names. -/
  kept : List (String × Nat) := []
  /-- Objects under names. -/
  references : List (String × Value) := []
  /-- The objects being displayed, which show in short where they hold themselves. -/
  displaying : List Nat := []
  events : Array Event := #[]

instance : Inhabited Registry := ⟨{}⟩

/-- What a registry starts with. -/
inductive RegistryContent
  /-- The standard coercions and the built-in providers. -/
  | providers
  /-- The standard coercions. -/
  | coercions
  | nothing
  /-- Whatever the shared registry has. -/
  | shared

/-- Work on a session. -/
abbrev Act := ExceptT Fault (StateM Session)

namespace Act

def report (event : Event) : Act Unit :=
  modify fun session => { session with events := session.events.push event }

def allocate (object : Object) : Act Value := do
  let address := (← get).objects.size
  modify fun session => { session with objects := session.objects.push object }
  return .object address

def makeList (items : List Value) : Act Value :=
  allocate { cls := .builtin .list, content := .list items }

def makeSet (items : List Value) : Act Value :=
  allocate { cls := .builtin .set, content := .set (Value.inSetOrder items) }

def makeFrozenSet (items : List Value) : Act Value :=
  return .frozenSet (Value.inSetOrder items)

def makeDict (entries : List (Value × Value)) : Act Value :=
  allocate { cls := .builtin .dict, content := .dict entries }

def makeByteArray (bytes : List UInt8) : Act Value :=
  allocate { cls := .builtin .byteArray, content := .byteArray bytes }

def objectAt (address : Nat) : Act Object := do
  return ((← get).objects[address]?).getD default

def changeObject (address : Nat) (change : Object → Object) : Act Unit :=
  modify fun session => { session with objects := session.objects.modify address change }

/-- Changes the content of the object at an address. -/
def setContent (address : Nat) (content : Content) : Act Unit :=
  changeObject address fun object => { object with content }

def setAttribute (address : Nat) (name : String) (value : Value) : Act Unit :=
  changeObject address fun object =>
    { object with attributes := putEntry name value object.attributes }

def classOf (value : Value) : Act ClassId := do
  return value.classOf (← get).objects

/-- What a value is made of. -/
def contentOf (value : Value) : Act Value := do
  return value.content (← get).objects

def isInstance (hierarchy : Hierarchy) (value : Value) (cls : ClassId) : Act Bool := do
  return hierarchy.isSubclass (← classOf value) cls

def callAt? (id : Nat) : Act (Option PendingCall) := do
  return (← get).calls[id]?

def changeCall (id : Nat) (change : PendingCall → PendingCall) : Act Unit :=
  modify fun session => { session with calls := session.calls.modify id change }

/-- The outcome of work, as a value. -/
def attempt {α : Type} (work : Act α) : Act (Except Fault α) :=
  ExceptT.mk (do return .ok (← work.run))

def onRegistry {α : Type} (id : Nat) (work : RegistryM α) : Act α := do
  let session ← get
  match session.registries[id]? with
  | none => throw (.say .system "no such registry")
  | some registry =>
      let (outcome, registry, events) := work.runOn registry
      set { session with
        registries := session.registries.set! id registry
        events := session.events ++ events }
      match outcome with
      | .ok result => return result
      | .error issue => throw (.configuration issue)

/-- Makes a registry by work on one without any content and gives its number. What the work reported
remains when it fails, but no registry. -/
def addRegistry (work : RegistryM Unit) : Act Nat := do
  let session ← get
  let (outcome, registry, events) := work.runOn {}
  set { session with events := session.events ++ events }
  match outcome with
  | .error issue => throw (.configuration issue)
  | .ok _ =>
      modify fun session => { session with registries := session.registries.push registry }
      return session.registries.size

/-- The shared registry, made with the built-in providers on first use. -/
def sharedRegistry (world : World) : Act Nat := do
  match (← get).shared with
  | some id => return id
  | none => do
      let id ← addRegistry (Registry.prepare world)
      modify fun session => { session with shared := some id }
      return id

/-- Makes the shared registry anew. -/
def resetShared (world : World) : Act Nat := do
  modify fun session => { session with shared := none }
  sharedRegistry world

/-- Makes a registry of some content, or finds the shared one, and gives its number. -/
def openRegistry (world : World) : RegistryContent → Act Nat
  | .providers => addRegistry (Registry.prepare world)
  | .coercions => addRegistry Registry.installStandardCoercions
  | .nothing => addRegistry (return)
  | .shared => sharedRegistry world

end Act

/-- A fault of the operations of values. -/
def Act.typeError {α : Type} (text : String) : Act α :=
  throw (.typeError text)

/-- Refuses to make something of more parts than any memory holds. -/
def Act.requireRoom (count : Nat) : Act Unit := do
  if count ≥ twoTo 40 then throw (.raised .memory .silent)

/-- A fault over a value out of place. -/
def Act.valueError {α : Type} (text : String) : Act α :=
  throw (.valueError text)

end MemberDispatch
