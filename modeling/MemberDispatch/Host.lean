import MemberDispatch.PendingCall
import MemberDispatch.Text.LetterCase

/-!
# Hosts

A host sends every property step to the handler for the class of the value. Most handlers look the
property up among the members of the value, under its own name, an alias or its name with words
parted by underscores; a member that takes arguments gives a pending call, whose handler hands it
the following steps as arguments.
-/

namespace MemberDispatch

/-- A name of words that start with capital letters, with the words parted by underscores and in
lower case. A word starts after a letter in lower case or a digit of ASCII. -/
def snakeCase (name : String) : String :=
  Text.lower (String.ofList (go none name.toList))
where
  /-- Goes on after a character. -/
  go (previous : Option Char) : List Char → List Char
    | [] => []
    | character :: rest =>
        let startsWord := character.isUpper &&
          (previous.map fun before => before.isLower || before.isDigit).getD false
        if startsWord then '_' :: character :: go (some character) rest
        else character :: go (some character) rest

namespace Adaptor

/-- The names under which any value also shows some of its members. -/
def objectAliases : List (String × String) :=
  [("asList", "to_list"), ("toList", "to_list"), ("asSortedList", "to_sorted_list"),
    ("toSortedList", "to_sorted_list"), ("asSet", "to_set"), ("toSet", "to_set"),
    ("asSortedSet", "to_sorted_set"), ("toSortedSet", "to_sorted_set"), ("equals", "__eq__"),
    ("length", "__len__"), ("size", "__len__")]

/-- The names under which texts show some of their members besides. -/
def textAliases : List (String × String) :=
  objectAliases ++ [("url-encode", "escape_url"), ("xml-encode", "escape_xml")]

/-- A handler without aliases. -/
def plain (registry : Option Nat) : Adaptor :=
  { name := "InvokeAdaptor", registry }

/-- A handler for any value. -/
def object (registry : Option Nat) : Adaptor :=
  { name := "ObjectAdaptor", registry, aliases := objectAliases }

/-- A handler for numbers, which never shows private members. -/
def number (registry : Option Nat) : Adaptor :=
  { name := "NumberAdaptor", registry, aliases := objectAliases }

/-- A handler for texts. -/
def text (registry : Option Nat) : Adaptor :=
  { name := "StringAdaptor", registry, aliases := textAliases }

/-- The member name that a name stands for. -/
def memberName (adaptor : Adaptor) (name : String) : String :=
  (adaptor.aliases.lookup name).getD name

def display (adaptor : Adaptor) : String :=
  adaptor.name ++ "(only_public=" ++ (if adaptor.onlyPublic then "True" else "False") ++ ")"

end Adaptor

/-- The handlers that a host starts with. -/
def Host.standard (registry : Nat) : Host :=
  let number := Handler.adaptor (.number (some registry))
  let handlers : DispatchMap Handler :=
    { entries := [(.object, .adaptor (.object (some registry))), (.builtin .number, number),
        (.builtin .int, number), (.builtin .float, number), (.builtin .decimal, number),
        (.builtin .text, .adaptor (.text (some registry)))] }
  { registry, handlers }

namespace Act

/-- Makes a host over a registry and gives its number. -/
def addHost (registry : Nat) : Act Nat := do
  let id := (← get).hosts.size
  modify fun session => { session with hosts := session.hosts.push (.standard registry) }
  return id

def hostAt (id : Nat) : Act Host := do
  match (← get).hosts[id]? with
  | some host => return host
  | none => throw (.say .system "no such host")

def registerHandler (host : Nat) (cls : ClassId) (handler : Handler) : Act Unit :=
  modify fun session =>
    { session with
      hosts := session.hosts.modify host fun host =>
        { host with handlers := host.handlers.register cls handler } }

/-- Registers a handler with a host unless the class itself has one. -/
def ensureHandler (host : Nat) (cls : ClassId) (handler : Handler) : Act Unit := do
  unless (← hostAt host).handlers.contains cls do registerHandler host cls handler

def handlerFor (hierarchy : Hierarchy) (host : Nat) (cls : ClassId) : Act Handler := do
  let (found, handlers) := (← hostAt host).handlers.lookup hierarchy.linearization cls
  modify fun session =>
    { session with hosts := session.hosts.modify host fun host => { host with handlers } }
  match found with
  | some handler => return handler
  | none => throw (.raised .keyError (.missing cls.display))

end Act

namespace Engine

/-- The registry that a handler looks members up in. -/
def registryOf (engine : Engine) (adaptor : Adaptor) : Act Nat :=
  match adaptor.registry with
  | some registry => return registry
  | none => Act.sharedRegistry engine.world

/-- The members that a handler finds under a name: those of the name it stands for or, if there are
none, of that name with its words parted. -/
def resolveIndex (engine : Engine) (adaptor : Adaptor) (cls : ClassId) (name : String) :
    Act Index := do
  let registry ← engine.registryOf adaptor
  let lookUp (name : String) : Act Index :=
    Act.onRegistry registry (Registry.lookup engine.world cls name)
  let memberName := adaptor.memberName name
  let index ← lookUp memberName
  let parted := snakeCase memberName
  if index.size == 0 && parted != memberName then lookUp parted else return index

/-- What a handler answers to a property step. -/
def adapt (engine : Engine) (adaptor : Adaptor) (host : Nat) (target : Value) (name : String) :
    Act Value := do
  let cls ← Act.classOf target
  let index ← engine.resolveIndex adaptor cls name
  if index.size == 0 then do
    Act.report (.unknownMember (Text.quoted name) cls.name)
    throw (.property (← engine.failure .noMatch target name "unknown member" none))
  else do
    let id ← engine.startCall
      { host, target, name, index := .fixed index, onlyPublic := adaptor.onlyPublic,
        returns := adaptor.returns }
    if index.maxArity == 0 then engine.resolve id
    else do
      Act.ensureHandler host (.builtin .pendingCall) .arguments
      return .pending id

/-- What any handler answers to a property step. -/
def handle (engine : Engine) (handler : Handler) (host : Nat) (target prop : Value)
    (name : String) : Act Value := do
  match handler with
  | .adaptor adaptor => engine.adapt adaptor host target name
  | .echo tag => Act.makeList [.text "handler", .text tag, target, prop, .text name]
  | .arguments => match target with
    | .pending id => engine.accept id prop
    | _ => Act.noAttribute (← Act.classOf target) "accept"

/-- Applies a property step to a value. Without a name of its own, the step has the text of the
property for its name. -/
def stepWith (engine : Engine) (host : Nat) (target prop : Value) (name : Option String) :
    Act Value := do
  let handler ← Act.handlerFor engine.hierarchy host (← Act.classOf target)
  let name ← match name with
    | some name => pure name
    | none => engine.text prop
  engine.handle handler host target prop name

/-- Applies property steps one after the other. -/
def stepAll (engine : Engine) (host : Nat) : Value → List Value → Act Value
  | value, [] => return value
  | value, prop :: props => do
      engine.stepAll host (← engine.step host value prop none) props

/-- The outcome of a value: while it is a pending call, that of the call. At most `fuel` calls that
give one another are followed. -/
def outcomeOf (engine : Engine) : Nat → Value → Act Value
  | 0, value => return value
  | fuel + 1, value => match value with
    | .pending id => do engine.outcomeOf fuel (← engine.resolve id)
    | value => return value

/-- How many pending calls can give one another in a row: every one of them gives another one only
once, and every argument that one holds can become one more. -/
def callBound (calls : Array PendingCall) : Nat :=
  (calls.toList.map fun call => call.arguments.length + 1).foldl (· + ·) 0

/-- Applies property steps to a value and gives the outcome. -/
def evaluate (engine : Engine) (host : Nat) (value : Value) (props : List Value) : Act Value := do
  let result ← engine.stepAll host value props
  engine.outcomeOf (callBound (← get).calls) result

end Engine

end MemberDispatch
