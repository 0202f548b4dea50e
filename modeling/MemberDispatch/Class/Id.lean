/-!
# Classes

A class is one of the built-in classes or is declared by name. This file names the built-in
classes and gives their place among each other: direct bases, linearization and virtual
subclasses.
-/

namespace MemberDispatch

/-- The built-in classes. -/
inductive BuiltinClass
  | object | type | noneType
  | bool | int | float | complex | decimal | fraction
  | text | bytes | byteArray | tuple | list | dict | set | frozenSet
  | number | complexNumber | realNumber | rationalNumber | integralNumber
  | iterable | mapping | sequence | sized | hashable | callable
  | reversible | container | collection
  | objectFunctions | numberFunctions | mathFunctions | stringFunctions
  | pendingCall
  | boundMethod | function | builtinFunction | methodDescriptor | moduleType | notImplementedType
  deriving DecidableEq, Repr, Inhabited

/-- A class: built in, or declared under a name. -/
inductive ClassId
  | builtin (kind : BuiltinClass)
  | declared (name : String)
  deriving DecidableEq, Repr, Inhabited

namespace BuiltinClass

/-- The name under which messages mention the class. -/
def name : BuiltinClass → String
  | .object => "object"
  | .type => "type"
  | .noneType => "NoneType"
  | .bool => "bool"
  | .int => "int"
  | .float => "float"
  | .complex => "complex"
  | .decimal => "Decimal"
  | .fraction => "Fraction"
  | .text => "str"
  | .bytes => "bytes"
  | .byteArray => "bytearray"
  | .tuple => "tuple"
  | .list => "list"
  | .dict => "dict"
  | .set => "set"
  | .frozenSet => "frozenset"
  | .number => "Number"
  | .complexNumber => "Complex"
  | .realNumber => "Real"
  | .rationalNumber => "Rational"
  | .integralNumber => "Integral"
  | .iterable => "Iterable"
  | .mapping => "Mapping"
  | .sequence => "Sequence"
  | .sized => "Sized"
  | .hashable => "Hashable"
  | .callable => "Callable"
  | .reversible => "Reversible"
  | .container => "Container"
  | .collection => "Collection"
  | .objectFunctions => "ObjectFunctions"
  | .numberFunctions => "NumberFunctions"
  | .mathFunctions => "MathFunctions"
  | .stringFunctions => "StringFunctions"
  | .pendingCall => "ArgsAdaptor"
  | .boundMethod => "method"
  | .function => "function"
  | .builtinFunction => "builtin_function_or_method"
  | .methodDescriptor => "method_descriptor"
  | .moduleType => "module"
  | .notImplementedType => "NotImplementedType"

/-- The built-in classes that sessions can name. -/
def nameable : List BuiltinClass :=
  [.object, .int, .bool, .float, .text, .bytes, .byteArray, .list, .tuple, .dict, .set, .frozenSet,
    .type, .noneType, .decimal, .fraction, .number, .complexNumber, .realNumber, .rationalNumber,
    .integralNumber, .iterable, .mapping, .sequence, .sized, .hashable, .callable,
    .objectFunctions, .numberFunctions, .mathFunctions, .stringFunctions, .pendingCall]

/-- The module that shows in front of the class's name where it is displayed, if any does. -/
def moduleName? : BuiltinClass → Option String
  | .decimal => some "decimal"
  | .fraction => some "fractions"
  | .number | .complexNumber | .realNumber | .rationalNumber | .integralNumber => some "numbers"
  | .iterable | .mapping | .sequence | .sized | .hashable | .callable
  | .reversible | .container | .collection => some "collections.abc"
  | .objectFunctions => some "dynaprop.functions.objects"
  | .numberFunctions | .mathFunctions => some "dynaprop.functions.numbers"
  | .stringFunctions => some "dynaprop.functions.strings"
  | .pendingCall => some "dynaprop.adaptor"
  | _ => none

def bases : BuiltinClass → List BuiltinClass
  | .object => []
  | .bool => [.int]
  | .fraction => [.rationalNumber]
  | .complexNumber => [.number]
  | .realNumber => [.complexNumber]
  | .rationalNumber => [.realNumber]
  | .integralNumber => [.rationalNumber]
  | .mapping => [.collection]
  | .sequence => [.reversible, .collection]
  | .reversible => [.iterable]
  | .collection => [.sized, .iterable, .container]
  | _ => [.object]

/-- The class, then its ancestors in the order in which members are sought. -/
def linearization : BuiltinClass → List BuiltinClass
  | .object => [.object]
  | .bool => [.bool, .int, .object]
  | .complexNumber => [.complexNumber, .number, .object]
  | .realNumber => [.realNumber, .complexNumber, .number, .object]
  | .rationalNumber => [.rationalNumber, .realNumber, .complexNumber, .number, .object]
  | .integralNumber =>
      [.integralNumber, .rationalNumber, .realNumber, .complexNumber, .number, .object]
  | .fraction => [.fraction, .rationalNumber, .realNumber, .complexNumber, .number, .object]
  | .mapping => [.mapping, .collection, .sized, .iterable, .container, .object]
  | .sequence => [.sequence, .reversible, .collection, .sized, .iterable, .container, .object]
  | .reversible => [.reversible, .iterable, .object]
  | .collection => [.collection, .sized, .iterable, .container, .object]
  | kind => [kind, .object]

/-- Whether subclasses of the class can be registered without deriving from it. -/
def isAbstract : BuiltinClass → Bool
  | .number | .complexNumber | .realNumber | .rationalNumber | .integralNumber
  | .iterable | .mapping | .sequence | .sized | .hashable | .callable
  | .reversible | .container | .collection | .fraction => true
  | _ => false

/-- The classes registered as subclasses of an abstract class. -/
def registered : BuiltinClass → List BuiltinClass
  | .number => [.decimal]
  | .complexNumber => [.complex]
  | .realNumber => [.float]
  | .integralNumber => [.int]
  | .mapping => [.dict]
  | .sequence => [.tuple, .text, .bytes, .list, .byteArray]
  | _ => []

/-- The built-in classes deriving directly from an abstract class. -/
def derived : BuiltinClass → List BuiltinClass
  | .number => [.complexNumber]
  | .complexNumber => [.realNumber]
  | .realNumber => [.rationalNumber]
  | .rationalNumber => [.integralNumber, .fraction]
  | .iterable => [.reversible, .collection]
  | .sized | .container => [.collection]
  | .collection => [.mapping, .sequence]
  | .reversible => [.sequence]
  | _ => []

/-- The members that make a class a subclass of the abstract class by itself. -/
def defining : BuiltinClass → List String
  | .iterable => ["__iter__"]
  | .sized => ["__len__"]
  | .hashable => ["__hash__"]
  | .callable => ["__call__"]
  | .container => ["__contains__"]
  | .reversible => ["__reversed__", "__iter__"]
  | .collection => ["__len__", "__iter__", "__contains__"]
  | _ => []

/-- Whether a built-in class itself provides one of the members that define abstract classes. A
class that withdraws a member answers `some false`. -/
def provides? (kind : BuiltinClass) (member : String) : Option Bool :=
  let isContainer : Bool := match kind with
    | .text | .bytes | .byteArray | .list | .tuple | .dict | .set | .frozenSet => true
    | _ => false
  if member == "__iter__" then
    if isContainer || kind == .iterable || kind == .sequence then some true else none
  else if member == "__len__" then
    if isContainer || kind == .sized then some true else none
  else if member == "__contains__" then
    if isContainer || kind == .container || kind == .mapping || kind == .sequence then some true
    else none
  else if member == "__reversed__" then
    match kind with
    | .list | .dict | .sequence | .reversible => some true
    | .mapping => some false
    | _ => none
  else if member == "__hash__" then
    match kind with
    | .list | .dict | .set | .byteArray | .mapping | .complexNumber | .number => some false
    | .object | .fraction | .text | .bytes | .tuple | .frozenSet | .int | .float | .decimal =>
        some true
    | _ => none
  else if member == "__call__" then
    match kind with
    | .type | .function | .boundMethod | .builtinFunction | .methodDescriptor | .callable =>
        some true
    | _ => none
  else none

/-- The name by which operators mention the class in their complaints. -/
def operandName : BuiltinClass → String
  | .decimal => "decimal.Decimal"
  | kind => kind.name

end BuiltinClass

namespace ClassId

/-- The class of all values. -/
abbrev object : ClassId := .builtin .object

def name : ClassId → String
  | .builtin kind => kind.name
  | .declared name => name

/-- The module that shows in front of the name of a declared class. -/
def declaredModule : String := "w"

/-- The name of the class behind its module, which built-in classes have none of. -/
def qualifiedName : ClassId → String
  | .builtin kind => match kind.moduleName? with
    | some moduleName => moduleName ++ "." ++ kind.name
    | none => kind.name
  | .declared name => declaredModule ++ "." ++ name

def display (cls : ClassId) : String :=
  "<class '" ++ cls.qualifiedName ++ "'>"

/-- The name by which operators mention the class in their complaints. -/
def operandName : ClassId → String
  | .builtin kind => kind.operandName
  | .declared name => name

end ClassId

end MemberDispatch
