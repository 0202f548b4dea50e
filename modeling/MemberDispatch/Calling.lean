import MemberDispatch.Intrinsic.Collections
import MemberDispatch.Library.Modules
import MemberDispatch.Member.Use
import MemberDispatch.Number.FractionText

/-!
# Calling

How arguments reach the parameters of a declared function, what its body does with them, and how an
instance of a class is made.
-/

namespace MemberDispatch

/-- Names in quotes as an enumeration. -/
def enumeration (names : List String) : String :=
  match names.map (fun name => "'" ++ name ++ "'") with
  | [] => ""
  | [only] => only
  | [first, second] => first ++ " and " ++ second
  | shown => ", ".intercalate shown.dropLast ++ ", and " ++ shown.getLastD ""

namespace FunctionDecl

/-- The complaint over arguments that were not given. -/
def missingText (function : FunctionDecl) (kind : String) (names : List String) : String :=
  function.qualifiedName ++ "() missing " ++ toString names.length ++ " required " ++ kind ++
    " argument" ++ (if names.length == 1 then "" else "s") ++ ": " ++ enumeration names

/-- The complaint over more arguments than parameters. -/
def surplusText (function : FunctionDecl) (parameters : List Parameter) (given : Nat) : String :=
  let required := (parameters.filter Parameter.isRequired).length
  let taken :=
    if required == parameters.length then toString parameters.length
    else "from " ++ toString required ++ " to " ++ toString parameters.length
  function.qualifiedName ++ "() takes " ++ taken ++ " positional argument" ++
    (if parameters.length == 1 && required == parameters.length then "" else "s") ++ " but " ++
    toString given ++ (if given == 1 then " was" else " were") ++ " given"

/-- The values of the parameters that take positions: the arguments, then the defaults. -/
def bind (function : FunctionDecl) (arguments : List Value) : Act (List Value) := do
  let parameters := function.parameters.getD []
  let positional := parameters.filter Parameter.takesPosition
  let takesMore := parameters.any fun parameter => parameter.kind == .remainingPositional
  let missing := (positional.drop arguments.length).filter Parameter.isRequired
  let missingNamed := parameters.filter fun parameter =>
    parameter.kind == .keywordOnly && parameter.isRequired
  if arguments.length > positional.length && !takesMore then
    Act.typeError (function.surplusText positional arguments.length)
  else if !missing.isEmpty then
    Act.typeError (function.missingText "positional" (missing.map (·.name)))
  else if !missingNamed.isEmpty then
    Act.typeError (function.missingText "keyword-only" (missingNamed.map (·.name)))
  else do
    let defaults ← (positional.drop arguments.length).mapM fun parameter =>
      Act.make (parameter.default.getD .none)
    return arguments.take positional.length ++ defaults

end FunctionDecl

namespace Engine

def setAttributeOf (value : Value) (name : String) (content : Value) : Act Unit := do
  match value with
  | .object address => Act.setAttribute address name content
  | _ => Act.noAttribute (← Act.classOf value) name

def bodyArgument (arguments : List Value) (position : Nat) : Act Value :=
  match arguments[position]? with
  | some argument => return argument
  | none => throw (.say .indexError "tuple index out of range")

/-- The attributes of a made object, from the arguments of a body. -/
def madeAttributes (engine : Engine) (arguments : List Value) :
    List (String × AttributeSource) → Act (List (String × Value))
  | [] => return []
  | (name, source) :: sources => do
      let (value, conversion) ← match source with
        | .argument position conversion => do
            pure (← bodyArgument arguments position, conversion)
        | .constant term conversion => do pure (← Act.make term, conversion)
      let value ← match conversion with
        | none => pure value
        | some conversion => engine.coerce (.ofName conversion) value
      let others ← engine.madeAttributes arguments sources
      return (name, value) :: others

/-- Stores arguments behind the first one as its attributes. -/
def storeArguments (target : Value) : List String → List Value → Act Unit
  | name :: names, argument :: arguments => do
      setAttributeOf target name argument
      storeArguments target names arguments
  | _, _ => return

def runBody (engine : Engine) (name : String) (body : Body) (arguments : List Value) :
    Act Value := do
  match body with
  | .echo => Act.makeList (.text name :: arguments)
  | .constant term => Act.make term
  | .argument position => bodyArgument arguments position
  | .attribute position name => engine.attributeOf (← bodyArgument arguments position) name
  | .increment position name => do
      let target ← bodyArgument arguments position
      let old ← engine.attributeOf target name
      let new ← engine.operate (.binary .add) [old, .int 1]
      setAttributeOf target name new
      return new
  | .make className attributes => do
      let attributes ← engine.madeAttributes arguments attributes
      Act.allocate { cls := .declared className, attributes }
  | .convert conversion position => do
      engine.coerce (.ofName conversion) (← bodyArgument arguments position)
  | .raise kind message => throw (.say (FaultKind.ofName kind) message)
  | .notImplemented => return .notImplemented
  | .showPending name => do return .text (← engine.text (← Act.make (.pending name)))
  | .setUp names => do
      storeArguments (← bodyArgument arguments 0) names (arguments.drop 1)
      return .none

/-- The built-in class that a class derives its content from. -/
def contentClass (engine : Engine) (cls : ClassId) : BuiltinClass :=
  ((engine.hierarchy.linearization cls).findSome? fun
    | .builtin kind => some kind
    | .declared _ => none).getD .object

/-- The fraction that a value is exactly or that its text says. -/
def fractionOf (engine : Engine) (value : Value) : Act Value := do
  match ← Act.contentOf value with
  | .text text => match readFraction text with
    | .ok ratio => return .fraction ratio
    | .error .malformed => Act.valueError ("Invalid literal for Fraction: " ++ Text.quoted text)
    | .error (.zeroDenominator numerator) =>
        throw (.say .zeroDivision ("Fraction(" ++ (← Act.integerText numerator) ++ ", 0)"))
  | .float _ => engine.fractionOfFloat value
  | .decimal _ => engine.fractionOfDecimal value
  | content => match content.rational? with
    | some ratio => return .fraction ratio
    | none => Act.typeError "argument should be a string or a Rational instance"

/-- The value of a built-in class that a value converts to. -/
def builtinOf (engine : Engine) (kind : BuiltinClass) (arguments : List Value) : Act Value := do
  match kind, arguments with
  | .int, [] => return .int 0
  | .int, [value] => match ← Act.contentOf value with
    | .float number => match (Binary64.ofFloat number).truncate? with
      | some whole => return .int whole
      | none => return .int (← Act.ofReal (RealFunctions.toInteger Binary64.truncate? number))
    | .decimal number => match number.truncate? with
      | some whole => return .int whole
      | none => Act.unbounded number
    | .fraction ratio => return .int (Int.tdiv ratio.num ratio.den)
    | .text text => return .int (← Written.integer 10 text)
    | content => match content.int?, ← bytes? value with
      | some number, _ => return .int number
      | none, some bytes => return .int (← Written.integerOfBytes 10 bytes)
      | none, none =>
          Act.typeError ("int() argument must be a string, a bytes-like object or a real number, " ++
            "not '" ++ (← Argument.className value) ++ "'")
  | .float, [] => return .float 0.0
  | .float, [value] => match ← Act.contentOf value with
    | .text text => return .float (← Written.real text)
    | .float number => return .float number
    | .int _ | .bool _ | .decimal _ | .fraction _ => return .float (← realOf value)
    | _ => match ← bytes? value with
      | some bytes => return .float (← Written.realOfBytes bytes (← engine.display value))
      | none =>
          Act.typeError ("float() argument must be a string or a real number, not '" ++
            (← Argument.className value) ++ "'")
  | .bool, [] => return .bool false
  | .bool, [value] => return .bool (← engine.isTrue value)
  | .text, [] => return .text ""
  | .text, [value] => engine.spoken value
  | .list, [] => Act.makeList []
  | .list, [value] => do
      let items ← engine.itemsOf value
      engine.announced value
      Act.makeList items
  | .tuple, [] => return .tuple []
  | .tuple, [value] => do
      let items ← engine.itemsOf value
      engine.announced value
      return .tuple items
  | .set, [] => Act.makeSet []
  | .set, [value] => do Act.makeSet (← engine.distinctKeys (← engine.itemsOf value))
  | .frozenSet, [] => return .frozenSet []
  | .frozenSet, [value] => do
      Act.makeFrozenSet (← engine.distinctKeys (← engine.itemsOf value))
  | .decimal, [] => return .decimal (.ofInt 0)
  | .decimal, [value] => match ← Act.contentOf value with
    | .decimal number => return .decimal number
    | .float number => return .decimal (.ofFloat number)
    | .text text => match Decimal.read text with
      | .ok number => return .decimal number
      | .error signal => throw (.ofSignal signal)
    | content => match content.int? with
      | some number => return .decimal (.ofInt number)
      | none =>
          Act.typeError ("conversion from " ++ (← Act.classOf value).name ++
            " to Decimal is not supported")
  | .fraction, [] => return .fraction 0
  | .fraction, [value] => engine.fractionOf value
  | .type, [value] => return .cls (← Act.classOf value)
  | kind, _ => Act.typeError (kind.name ++ "() takes no arguments")

/-- Makes an instance of a class. A declared class sets it up itself; where it does not, it takes
only what the built-in class that it derives from takes. -/
def construct (engine : Engine) (cls : ClassId) (arguments : List Value) : Act Value := do
  match cls with
  | .builtin kind => engine.builtinOf kind arguments
  | .declared _ => do
      let initializer? := match engine.world.entryAlong? cls "__init__" with
        | some (_, .method function) => some function
        | _ => none
      let content : Content ← match engine.contentClass cls with
        | .object =>
            if initializer?.isNone && !arguments.isEmpty then
              Act.typeError (cls.name ++ "() takes no arguments")
            else pure .plain
        | kind => do
            -- A list that a class sets up itself starts empty.
            let arguments :=
              if initializer?.isSome && kind == .list then [] else arguments
            match ← engine.builtinOf kind arguments with
            | .object address => pure (← Act.objectAt address).content
            | value => pure (.scalar value)
      let made ← Act.allocate { cls, content }
      match initializer? with
      | some function => do
          let _ ← engine.call (.plain function) (made :: arguments)
          return made
      | none => return made

def callFunction (engine : Engine) (function : FunctionDecl) (arguments : List Value) :
    Act Value := do
  match function.code with
  | .body body => do
      engine.runBody function.qualifiedName body (← function.bind arguments)
  | .intrinsic owner name => engine.intrinsicFunction owner name arguments
  | .library owner name => engine.libraryFunction owner name (← function.bind arguments)
  | .ofModule moduleName name => do
      let arguments ← if function.parameters.isSome then function.bind arguments else pure arguments
      engine.moduleFunction moduleName name arguments

def callWith (engine : Engine) (callable : Callable) (arguments : List Value) : Act Value :=
  match callable with
  | .plain function => engine.callFunction function arguments
  | .bound cls function => match function.code with
    | .body _ => engine.callFunction function (.cls cls :: arguments)
    | _ => engine.callFunction function arguments
  | .operation operator => engine.operate operator arguments
  | .attribute name => match arguments with
    | value :: _ => engine.attributeOf value name
    | [] => Act.typeError "attrgetter expected 1 argument, got 0"
  | .construct cls => engine.construct cls arguments
  | .tagged tag body => engine.runBody tag body arguments

end Engine

end MemberDispatch
