import MemberDispatch.Class.Hierarchy
import MemberDispatch.Member.ValueIndex
import MemberDispatch.Value

/-!
# Faults

Why an operation fails. A fault is a cause; `Fault.message` is its wording and `Fault.kind` the
word for its kind. Three kinds mean that the interpreter itself gave up; they are never taken for
the failure of a candidate or of a member.
-/

namespace MemberDispatch

/-- The kinds of faults that members and the operations of values raise. -/
inductive FaultKind
  | typeError | valueError | keyError | indexError | attributeError | nameError
  | zeroDivision | overflow | arithmetic | floatingPoint
  | unicodeDecode | unicodeEncode | assertion | runtime | notImplemented | stopIteration
  | lookup | io | fileNotFound | importFailure | moduleNotFound
  | memory | recursion | system | isDirectory
  | decimalSignal (signal : DecimalSignal)
  | jsonDecode | tomlDecode | yamlScan | yamlParse | yamlCompose
  | dispatch | conversion | configuration | adaptorState | noSuchProperty | noMatch | invocation
  | noSuchId
  | keyboardInterrupt | systemExit | generatorExit
  | other (name : String)
  deriving DecidableEq, Repr

namespace FaultKind

def name : FaultKind → String
  | .typeError => "TypeError"
  | .valueError => "ValueError"
  | .keyError => "KeyError"
  | .indexError => "IndexError"
  | .attributeError => "AttributeError"
  | .nameError => "NameError"
  | .zeroDivision => "ZeroDivisionError"
  | .overflow => "OverflowError"
  | .arithmetic => "ArithmeticError"
  | .floatingPoint => "FloatingPointError"
  | .unicodeDecode => "UnicodeDecodeError"
  | .unicodeEncode => "UnicodeEncodeError"
  | .assertion => "AssertionError"
  | .runtime => "RuntimeError"
  | .notImplemented => "NotImplementedError"
  | .stopIteration => "StopIteration"
  | .lookup => "LookupError"
  | .io => "OSError"
  | .fileNotFound => "FileNotFoundError"
  | .isDirectory => "IsADirectoryError"
  | .importFailure => "ImportError"
  | .moduleNotFound => "ModuleNotFoundError"
  | .memory => "MemoryError"
  | .recursion => "RecursionError"
  | .system => "SystemError"
  | .decimalSignal .divisionByZero => "DivisionByZero"
  | .decimalSignal .overflow => "Overflow"
  | .decimalSignal _ => "InvalidOperation"
  | .jsonDecode => "JSONDecodeError"
  | .tomlDecode => "TOMLDecodeError"
  | .yamlScan => "ScannerError"
  | .yamlParse => "ParserError"
  | .yamlCompose => "ComposerError"
  | .dispatch => "DispatchError"
  | .conversion => "ConversionError"
  | .configuration => "ConfigurationError"
  | .adaptorState => "AdaptorStateError"
  | .noSuchProperty => "NoSuchPropertyError"
  | .noMatch => "NoMatchError"
  | .invocation => "InvocationError"
  | .noSuchId => "NoSuchId"
  | .keyboardInterrupt => "KeyboardInterrupt"
  | .systemExit => "SystemExit"
  | .generatorExit => "GeneratorExit"
  | .other name => name

/-- The kinds that a session can name. -/
def nameable : List FaultKind :=
  [.typeError, .valueError, .keyError, .indexError, .attributeError, .nameError, .zeroDivision,
    .overflow, .arithmetic, .floatingPoint, .assertion, .runtime, .notImplemented, .stopIteration,
    .lookup, .io, .fileNotFound, .importFailure, .moduleNotFound, .memory, .recursion, .system,
    .dispatch, .conversion, .configuration, .adaptorState, .keyboardInterrupt, .systemExit,
    .generatorExit]

def ofName (name : String) : FaultKind :=
  (nameable.find? fun kind => kind.name == name).getD (.other name)

/-- Whether the interpreter itself gave up. -/
def isFatal : FaultKind → Bool
  | .memory | .recursion | .system => true
  | _ => false

/-- Whether the kind stands outside the ordinary faults, which handlers of all faults catch. -/
def isExit : FaultKind → Bool
  | .keyboardInterrupt | .systemExit | .generatorExit => true
  | _ => false

def isOwn : FaultKind → Bool
  | .dispatch | .conversion | .configuration | .adaptorState | .noSuchProperty | .noMatch
  | .invocation => true
  | _ => false

end FaultKind

/-- Why a value is not converted. -/
inductive ConversionIssue
  | absent (target : String)
  | mismatch (cls target : String)
  | notOneCharacter (shown : String)
  | notWhole (text : String)
  | outOfRange (width text : String)
  deriving DecidableEq, Repr

def ConversionIssue.message : ConversionIssue → String
  | .absent target => "None is not a valid " ++ target
  | .mismatch cls target => cls ++ " is not a " ++ target
  | .notOneCharacter shown => "expected a single character, got " ++ shown
  | .notWhole text => text ++ " is not an exact integer"
  | .outOfRange width text => width ++ " overflow: " ++ text

/-- What is wrong with a registration, a name or a configuration. -/
inductive ConfigurationIssue
  | ambiguousValue (issue : AmbiguousValue)
  | converterKey (shown : String)
  | converterNotCallable (key shown : String)
  | namedConverterNotCallable (shown : String)
  | valueType (shown : String)
  | provider (shown : String)
  | notMapping (cls : String)
  | unknownKeys (keys : List String)
  | sectionNotMapping (shown : String)
  | notClass (shownName shown : String)
  | notDottedName (shown : String)
  | malformedName (shown : String)
  | cannotImport (shownModule shownName : String)
  | noAttribute (shownName shownAttribute : String)
  | fileNotMapping (path : String)
  deriving DecidableEq, Repr

def ConfigurationIssue.message : ConfigurationIssue → String
  | .ambiguousValue issue => issue.message
  | .converterKey shown => "Converter key must be a class or ParamType, got " ++ shown
  | .converterNotCallable key shown => "Converter for " ++ key ++ " is not callable: " ++ shown
  | .namedConverterNotCallable shown => "Converter " ++ shown ++ " is not callable"
  | .valueType shown => "Value type must be a class, got " ++ shown
  | .provider shown => "Function provider must be a class or module, got " ++ shown
  | .notMapping cls => "Config must be a mapping, got " ++ cls
  | .unknownKeys keys => "Unknown config keys: " ++ ", ".intercalate keys
  | .sectionNotMapping shown => "Config section " ++ shown ++ " must be a mapping"
  | .notClass shownName shown => shownName ++ " is not a class: " ++ shown
  | .notDottedName shown => "Expected a dotted name, got " ++ shown
  | .malformedName shown => "Malformed name " ++ shown ++ "; use 'module:qualname'"
  | .cannotImport shownModule shownName => "Cannot import " ++ shownModule ++ " for " ++ shownName
  | .noAttribute shownName shownAttribute =>
      "Cannot resolve " ++ shownName ++ ": no attribute " ++ shownAttribute
  | .fileNotMapping path => "Config file " ++ path ++ " must contain a mapping"

/-- What a fault says besides its kind. -/
inductive Detail
  | silent
  | message (text : String)
  /-- Something that was not found, as it is displayed. -/
  | missing (shown : String)
  /-- The reasons why a decimal operation stopped. -/
  | signal (signal : DecimalSignal)
  /-- Bytes that encode no text. -/
  | undecodable (encoding : String) (bytes : List UInt8) (start stop : Nat) (reason : String)
  /-- A text that has no bytes. -/
  | unencodable (encoding : String) (text : String) (start stop : Nat) (reason : String)
  /-- A number and a text. -/
  | numbered (number : Nat) (text : String)
  deriving DecidableEq, Repr

/-- How a property step failed. -/
inductive Failure
  | noSuchProperty | noMatch | invocation
  deriving DecidableEq, Repr

def Failure.kind : Failure → FaultKind
  | .noSuchProperty => .noSuchProperty
  | .noMatch => .noMatch
  | .invocation => .invocation

/-- The names of the kinds that a failure belongs to, from its own one on. -/
def Failure.lineage (failure : Failure) : List String :=
  let common := ["NoSuchPropertyError", "DispatchError", "Exception", "BaseException", "object"]
  if failure == .noSuchProperty then common else failure.kind.name :: common

/-- The failure of a property step on a target: the path that was attempted, the reason and the
fault behind it. -/
structure PropertyFailure (Origin : Type) where
  failure : Failure
  target : Value
  /-- The name of the target's class and the display of the target. -/
  targetText : String
  path : String
  reason : String
  /-- What was raised by what failed, if that raised anything. -/
  origin : Option Origin := none

def PropertyFailure.message {Origin : Type} (fault : PropertyFailure Origin) : String :=
  let message := "no such property or can't access: " ++ fault.targetText ++ "." ++ fault.path
  if fault.reason.isEmpty then message else message ++ ": " ++ fault.reason

/-- Why an operation fails. -/
inductive Fault
  | conversion (issue : ConversionIssue)
  | configuration (issue : ConfigurationIssue)
  /-- A call that has its outcome already was given another argument. -/
  | alreadyResolved (path argument : String)
  | property (fault : PropertyFailure Fault)
  | raised (kind : FaultKind) (detail : Detail)

/-- The failure of a property step with the fault behind it. -/
abbrev PropertyFault := PropertyFailure Fault

namespace Fault

def kind : Fault → FaultKind
  | .conversion _ => .conversion
  | .configuration _ => .configuration
  | .alreadyResolved _ _ => .adaptorState
  | .property fault => fault.failure.kind
  | .raised kind _ => kind

/-- Whether the interpreter itself gave up. -/
def isFatal (fault : Fault) : Bool :=
  fault.kind.isFatal

/-- Whether a handler of ordinary faults passes the fault on. -/
def escapes (fault : Fault) : Bool :=
  fault.kind.isFatal || fault.kind.isExit

/-- A fault with a message. -/
def say (kind : FaultKind) (text : String) : Fault :=
  .raised kind (.message text)

/-- A value of the wrong type. -/
def typeError (text : String) : Fault :=
  say .typeError text

/-- A value that is out of place. -/
def valueError (text : String) : Fault :=
  say .valueError text

/-- The stop of a decimal operation. -/
def ofSignal (signal : DecimalSignal) : Fault :=
  .raised (.decimalSignal signal) (.signal signal)

/-- The display of the signals that stopped a decimal operation. -/
def signalText (signal : DecimalSignal) : String :=
  "[<class 'decimal." ++ signal.name ++ "'>]"

def message : Fault → String
  | .conversion issue => issue.message
  | .configuration issue => issue.message
  | .alreadyResolved path argument => path ++ " already resolved; cannot accept " ++ argument
  | .property fault => fault.message
  | .raised kind detail => match detail with
    | .silent => ""
    | .message text => if kind == .keyError then Text.quoted text else text
    | .missing shown => shown
    | .signal signal => signalText signal
    | .undecodable encoding bytes start stop reason =>
        if stop == start + 1 then
          let byte := ((bytes[start]?).getD 0).toNat
          "'" ++ encoding ++ "' codec can't decode byte 0x" ++
            String.ofList (Text.hexDigits 2 byte) ++ " in position " ++ toString start ++ ": " ++
            reason
        else
          "'" ++ encoding ++ "' codec can't decode bytes in position " ++ toString start ++ "-" ++
            toString (stop - 1) ++ ": " ++ reason
    | .unencodable encoding text start stop reason =>
        if stop == start + 1 then
          let escape := match text.toList.drop start with
            | character :: _ => String.ofList (Text.numericEscape character.toNat)
            | [] => ""
          "'" ++ encoding ++ "' codec can't encode character '" ++ escape ++ "' in position " ++
            toString start ++ ": " ++ reason
        else
          "'" ++ encoding ++ "' codec can't encode characters in position " ++ toString start ++
            "-" ++ toString (stop - 1) ++ ": " ++ reason
    | .numbered number text => "(" ++ toString number ++ ", " ++ Text.quoted text ++ ")"

def display (fault : Fault) : String :=
  let arguments := match fault with
    | .raised _ .silent => ""
    | .raised _ (.message text) => Text.quoted text
    | .raised _ (.missing shown) => shown
    | .raised _ (.signal signal) => signalText signal
    | .raised _ (.undecodable encoding bytes start stop reason) =>
        Text.quoted encoding ++ ", " ++ Text.quotedBytes bytes ++ ", " ++ toString start ++ ", " ++
          toString stop ++ ", " ++ Text.quoted reason
    | .raised _ (.unencodable encoding text start stop reason) =>
        Text.quoted encoding ++ ", " ++ Text.quoted text ++ ", " ++ toString start ++ ", " ++
          toString stop ++ ", " ++ Text.quoted reason
    | .raised _ (.numbered number text) => toString number ++ ", " ++ Text.quoted text
    | other => Text.quoted other.message
  fault.kind.name ++ "(" ++ arguments ++ ")"

end Fault

/-- The word for the kind of the fault behind the failure of a property step. -/
def PropertyFailure.cause (fault : PropertyFault) : Option String :=
  fault.origin.map fun origin => origin.kind.name

end MemberDispatch
