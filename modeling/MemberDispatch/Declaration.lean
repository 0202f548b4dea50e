import MemberDispatch.Annotation

/-!
# Declarations

What a session declares before it starts: functions, classes and modules. A class keeps its own
members in order, which is the order in which its catalog lists them.
-/

namespace MemberDispatch

/-- How an argument reaches a parameter. -/
inductive ParameterKind
  | positionalOnly
  | positional
  | keywordOnly
  | remainingPositional
  | remainingKeyword
  deriving DecidableEq, Repr

/-- A parameter of a function. -/
structure Parameter where
  name : String
  type : Annotation := .missing
  default : Option Term := none
  kind : ParameterKind := .positional

namespace Parameter

/-- Whether an argument given by position can reach the parameter. -/
def takesPosition (parameter : Parameter) : Bool :=
  parameter.kind == .positional || parameter.kind == .positionalOnly

/-- Whether a call must give the parameter. -/
def isRequired (parameter : Parameter) : Bool :=
  parameter.default.isNone

end Parameter

/-- The conversions that bodies and configurations name. -/
inductive CoercionName
  | char | int | float | bool | decimal | text | bytes
  deriving DecidableEq, Repr

/-- Where an attribute of a made object comes from. -/
inductive AttributeSource
  | argument (position : Nat) (conversion : Option CoercionName)
  | constant (term : Term) (conversion : Option CoercionName)

/-- What a declared function does with its arguments. -/
inductive Body
  /-- Answers its own name followed by the arguments. -/
  | echo
  | constant (term : Term)
  | argument (position : Nat)
  | attribute (position : Nat) (name : String)
  /-- Adds one to an attribute and answers the sum. -/
  | increment (position : Nat) (name : String)
  | make (className : String) (attributes : List (String × AttributeSource))
  | convert (conversion : CoercionName) (position : Nat)
  | raise (kind : String) (message : String)
  | notImplemented
  /-- Answers the text of the pending call kept under that name. -/
  | showPending (name : String)
  /-- Stores each argument after the first as the attribute of that name. -/
  | setUp (names : List String)

/-- What runs when a function is called: a declared body, an operation of a built-in class, or a
function of one of the built-in providers or modules. -/
inductive Code
  | body (body : Body)
  | intrinsic (owner : BuiltinClass) (name : String)
  | library (owner : BuiltinClass) (name : String)
  /-- A function of one of the built-in modules. -/
  | ofModule (moduleName name : String)

/-- A function. Without parameters it cannot be inspected. -/
structure FunctionDecl where
  /-- The name under which the function shows. -/
  qualifiedName : String
  /-- The member name that the function asks for instead of its own. -/
  exposedName : Option String := none
  parameters : Option (List Parameter)
  /-- The declared result, if one is declared. -/
  result : Annotation := .missing
  code : Code

/-- Parameters behind one that receives the value or the class that a function belongs to. Where the
first of them takes positions only, so does the receiving one. -/
def Parameter.behind (name : String) (parameters : List Parameter) : List Parameter :=
  let kind := match parameters with
    | first :: _ => if first.kind == .positionalOnly then .positionalOnly else .positional
    | [] => .positional
  { name, kind } :: parameters

/-- The function of a class that stores every argument given by position as the attribute of that
name. -/
def FunctionDecl.initializer (className : String) (parameters : List Parameter) : FunctionDecl :=
  { qualifiedName := className ++ ".__init__"
    parameters := some (Parameter.behind "self" parameters)
    code := .body (.setUp ((parameters.filter Parameter.takesPosition).map (·.name))) }

/-- An entry of a class. -/
inductive Entry
  | method (function : FunctionDecl)
  | staticMethod (function : FunctionDecl)
  | classMethod (function : FunctionDecl)
  | property (getter : Option FunctionDecl)
  /-- A field that the class lays out itself. -/
  | slot
  | value (term : Term)

/-- A declared class. -/
structure ClassDecl where
  name : String
  bases : List ClassId := [.object]
  /-- The class, then its ancestors in the order in which members are sought. -/
  linearization : List ClassId := []
  entries : List (String × Entry) := []
  annotations : List (String × Annotation) := []
  /-- Whether subclasses can be registered without deriving from the class. -/
  isAbstract : Bool := false
  /-- The classes registered as subclasses. -/
  registered : List ClassId := []

/-- An entry of a module. -/
inductive ModuleEntry
  /-- A function; `own` unless it belongs to another module. -/
  | function (own : Bool) (function : FunctionDecl)
  | cls (id : ClassId)
  | value (term : Term)

/-- A declared module. -/
structure ModuleDecl where
  name : String
  /-- The names it offers, where it restricts them. -/
  offered : Option (List String)
  entries : List (String × ModuleEntry)

/-- Sets the value under a key, in its place if the key is there and at the end otherwise. -/
def putEntry {β : Type} (key : String) (value : β) : List (String × β) → List (String × β)
  | [] => [(key, value)]
  | (first, old) :: rest =>
      if first == key then (key, value) :: rest else (first, old) :: putEntry key value rest

/-- The class with an entry under a name, in the place of an earlier one. -/
def ClassDecl.put (cls : ClassDecl) (name : String) (entry : Entry) : ClassDecl :=
  { cls with entries := putEntry name entry cls.entries }

/-- The class with a declared type for a name. -/
def ClassDecl.annotate (cls : ClassDecl) (name : String) (type : Annotation) : ClassDecl :=
  { cls with annotations := putEntry name type cls.annotations }

end MemberDispatch
