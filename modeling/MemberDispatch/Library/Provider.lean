import MemberDispatch.Class.Intrinsic

/-!
# The built-in providers

The functions that every session may offer as members of values: arithmetic for numbers, functions
for texts and conversions to collections for all values. Several functions may ask for the same
member name and are then told apart by their parameters.
-/

namespace MemberDispatch

/-- A function of a built-in provider. -/
structure ProvidedFunction where
  name : String
  exposedName : Option String := none
  parameters : List Parameter
  result : Annotation

namespace ProvidedFunction

def int : Annotation := .cls (.builtin .int)

def float : Annotation := .cls (.builtin .float)

def decimal : Annotation := .cls (.builtin .decimal)

def text : Annotation := .cls (.builtin .text)

/-- Any value. -/
def object : Annotation := .cls .object

def list : Annotation := .cls (.builtin .list)

def set : Annotation := .cls (.builtin .set)

/-- A signed 8-bit number. -/
def int8 : Annotation := .ofWidth .int8

/-- A signed 16-bit number. -/
def int16 : Annotation := .ofWidth .int16

/-- A signed 32-bit number. -/
def int32 : Annotation := .ofWidth .int32

/-- A signed 64-bit number. -/
def int64 : Annotation := .ofWidth .int64

/-- A parameter that must be given. -/
def required (name : String) (type : Annotation) : Parameter :=
  { name, type }

/-- A parameter that may be left out. -/
def defaulted (name : String) (type : Annotation) (value : Term) : Parameter :=
  { name, type, default := some value }

/-- A type that admits no value besides its own. -/
def optional (type : Annotation) : Annotation :=
  .pipe [type, .none]

def collectionFunctions : List (String × ProvidedFunction) := [
  ("to_list", ⟨"to_list", none,
    [required "value" object], list⟩),
  ("to_sorted_list", ⟨"to_sorted_list", none,
    [required "value" object], list⟩),
  ("to_set", ⟨"to_set", none,
    [required "value" object], set⟩),
  ("to_sorted_set", ⟨"to_sorted_set", none,
    [required "value" object], list⟩)]

/-- Arithmetic on whole, floating-point and decimal numbers. -/
def arithmeticFunctions : List (String × ProvidedFunction) := [
  ("add", ⟨"add", none,
    [required "v1" int, required "v2" int], int⟩),
  ("sub", ⟨"sub", none,
    [required "v1" int, required "v2" int], int⟩),
  ("subtract", ⟨"sub", none,
    [required "v1" int, required "v2" int], int⟩),
  ("mul", ⟨"mul", none,
    [required "v1" int, required "v2" int], int⟩),
  ("div", ⟨"div", none,
    [required "v1" int, required "v2" int], int⟩),
  ("divide", ⟨"div", none,
    [required "v1" int, required "v2" int], int⟩),
  ("mod", ⟨"mod", none,
    [required "v1" int, required "v2" int], int⟩),
  ("inc", ⟨"inc", none,
    [required "v" int], int⟩),
  ("dec", ⟨"dec", none,
    [required "v" int], int⟩),
  ("negate", ⟨"negate", none,
    [required "v" int], int⟩),
  ("compare", ⟨"compare", none,
    [required "v1" int, required "v2" int], int⟩),
  ("and_", ⟨"and_", some "and",
    [required "v1" int, required "v2" int], int⟩),
  ("or_", ⟨"or_", some "or",
    [required "v1" int, required "v2" int], int⟩),
  ("xor_", ⟨"xor_", some "xor",
    [required "v1" int, required "v2" int], int⟩),
  ("not_", ⟨"not_", some "not",
    [required "v" int], int⟩),
  ("and_not", ⟨"and_not", none,
    [required "v1" int, required "v2" int], int⟩),
  ("shift_left", ⟨"shift_left", none,
    [required "v" int, required "count" int32], int⟩),
  ("shift_right", ⟨"shift_right", none,
    [required "v" int, required "count" int32], int⟩),
  ("shift_right_unsigned", ⟨"shift_right_unsigned", none,
    [required "v" int, required "count" int32], int⟩),
  ("to_byte_exact", ⟨"to_byte_exact", none,
    [required "v" int], int8⟩),
  ("to_short_exact", ⟨"to_short_exact", none,
    [required "v" int], int16⟩),
  ("add_float", ⟨"add_float", some "add",
    [required "v1" float, required "v2" float], float⟩),
  ("sub_float", ⟨"sub_float", some "sub",
    [required "v1" float, required "v2" float], float⟩),
  ("subtract_float", ⟨"subtract_float", some "subtract",
    [required "v1" float, required "v2" float], float⟩),
  ("mul_float", ⟨"mul_float", some "mul",
    [required "v1" float, required "v2" float], float⟩),
  ("div_float", ⟨"div_float", some "div",
    [required "v1" float, required "v2" float], float⟩),
  ("divide_float", ⟨"divide_float", some "divide",
    [required "v1" float, required "v2" float], float⟩),
  ("mod_float", ⟨"mod_float", some "mod",
    [required "v1" float, required "v2" float], float⟩),
  ("inc_float", ⟨"inc_float", some "inc",
    [required "v" float], float⟩),
  ("dec_float", ⟨"dec_float", some "dec",
    [required "v" float], float⟩),
  ("negate_float", ⟨"negate_float", some "negate",
    [required "v" float], float⟩),
  ("compare_float", ⟨"compare_float", some "compare",
    [required "v1" float, required "v2" float], int⟩),
  ("add_decimal", ⟨"add_decimal", some "add",
    [required "v1" decimal, required "v2" decimal], decimal⟩),
  ("sub_decimal", ⟨"sub_decimal", some "sub",
    [required "v1" decimal, required "v2" decimal], decimal⟩),
  ("subtract_decimal", ⟨"subtract_decimal", some "subtract",
    [required "v1" decimal, required "v2" decimal], decimal⟩),
  ("mul_decimal", ⟨"mul_decimal", some "mul",
    [required "v1" decimal, required "v2" decimal], decimal⟩),
  ("div_decimal", ⟨"div_decimal", some "div",
    [required "v1" decimal, required "v2" decimal], decimal⟩),
  ("divide_decimal", ⟨"divide_decimal", some "divide",
    [required "v1" decimal, required "v2" decimal], decimal⟩),
  ("mod_decimal", ⟨"mod_decimal", some "mod",
    [required "v1" decimal, required "v2" decimal], decimal⟩),
  ("negate_decimal", ⟨"negate_decimal", some "negate",
    [required "v" decimal], decimal⟩),
  ("compare_decimal", ⟨"compare_decimal", some "compare",
    [required "v1" decimal, required "v2" decimal], int⟩)]

def mathFunctions : List (String × ProvidedFunction) := [
  ("abs", ⟨"abs", none,
    [required "v" int], int⟩),
  ("max", ⟨"max", none,
    [required "v1" int, required "v2" int], int⟩),
  ("min", ⟨"min", none,
    [required "v1" int, required "v2" int], int⟩),
  ("signum", ⟨"signum", none,
    [required "v" int], int⟩),
  ("pow", ⟨"pow", none,
    [required "v" int, required "exponent" int], float⟩),
  ("sqrt", ⟨"sqrt", none,
    [required "v" int], float⟩),
  ("cbrt", ⟨"cbrt", none,
    [required "v" int], float⟩),
  ("floor_div", ⟨"floor_div", none,
    [required "v1" int, required "v2" int], int⟩),
  ("floor_mod", ⟨"floor_mod", none,
    [required "v1" int, required "v2" int], int⟩),
  ("add_exact", ⟨"add_exact", none,
    [required "v1" int, required "v2" int], int64⟩),
  ("subtract_exact", ⟨"subtract_exact", none,
    [required "v1" int, required "v2" int], int64⟩),
  ("multiply_exact", ⟨"multiply_exact", none,
    [required "v1" int, required "v2" int], int64⟩),
  ("negate_exact", ⟨"negate_exact", none,
    [required "v" int], int64⟩),
  ("increment_exact", ⟨"increment_exact", none,
    [required "v" int], int64⟩),
  ("decrement_exact", ⟨"decrement_exact", none,
    [required "v" int], int64⟩),
  ("to_int_exact", ⟨"to_int_exact", none,
    [required "v" int], int32⟩),
  ("abs_float", ⟨"abs_float", some "abs",
    [required "v" float], float⟩),
  ("max_float", ⟨"max_float", some "max",
    [required "v1" float, required "v2" float], float⟩),
  ("min_float", ⟨"min_float", some "min",
    [required "v1" float, required "v2" float], float⟩),
  ("signum_float", ⟨"signum_float", some "signum",
    [required "v" float], float⟩),
  ("pow_float", ⟨"pow_float", some "pow",
    [required "v" float, required "exponent" float], float⟩),
  ("sqrt_float", ⟨"sqrt_float", some "sqrt",
    [required "v" float], float⟩),
  ("cbrt_float", ⟨"cbrt_float", some "cbrt",
    [required "v" float], float⟩),
  ("hypot", ⟨"hypot", none,
    [required "v1" float, required "v2" float], float⟩),
  ("exp", ⟨"exp", none,
    [required "v" float], float⟩),
  ("log", ⟨"log", none,
    [required "v" float], float⟩),
  ("log10", ⟨"log10", none,
    [required "v" float], float⟩),
  ("floor", ⟨"floor", none,
    [required "v" float], float⟩),
  ("ceil", ⟨"ceil", none,
    [required "v" float], float⟩),
  ("round", ⟨"round", none,
    [required "v" float], int⟩),
  ("to_degrees", ⟨"to_degrees", none,
    [required "v" float], float⟩),
  ("to_radians", ⟨"to_radians", none,
    [required "v" float], float⟩),
  ("abs_decimal", ⟨"abs_decimal", some "abs",
    [required "v" decimal], decimal⟩),
  ("max_decimal", ⟨"max_decimal", some "max",
    [required "v1" decimal, required "v2" decimal], decimal⟩),
  ("min_decimal", ⟨"min_decimal", some "min",
    [required "v1" decimal, required "v2" decimal], decimal⟩),
  ("signum_decimal", ⟨"signum_decimal", some "signum",
    [required "v" decimal], int⟩),
  ("sqrt_decimal", ⟨"sqrt_decimal", some "sqrt",
    [required "v" decimal], decimal⟩)]

def textFunctions : List (String × ProvidedFunction) := [
  ("substring", ⟨"substring", none,
    [required "value" text, required "begin" int, defaulted "end" (optional int) .none], text⟩),
  ("substr", ⟨"substr", none,
    [required "value" text, required "begin" int, defaulted "end" (optional int) .none], text⟩),
  ("leftstr", ⟨"leftstr", none,
    [required "value" text, required "length" int], text⟩),
  ("rightstr", ⟨"rightstr", none,
    [required "value" text, required "length" int], text⟩),
  ("midstr", ⟨"midstr", none,
    [required "value" text, required "begin" int, required "length" int], text⟩),
  ("word_capitalize", ⟨"word_capitalize", none,
    [required "value" text], text⟩),
  ("escape_html", ⟨"escape_html", none,
    [required "value" text], text⟩),
  ("escape_xml", ⟨"escape_xml", none,
    [required "value" text], text⟩),
  ("escape_url", ⟨"escape_url", none,
    [required "value" text], text⟩),
  ("parse_int", ⟨"parse_int", none,
    [required "value" text, defaulted "radix" int (.int 10)], int⟩),
  ("parse_float", ⟨"parse_float", none,
    [required "value" text], float⟩)]

def entry (owner : BuiltinClass) (provided : ProvidedFunction) : Entry :=
  .staticMethod
    { qualifiedName := owner.name ++ "." ++ provided.name
      exposedName := provided.exposedName
      parameters := some provided.parameters
      result := provided.result
      code := .library owner provided.name }

end ProvidedFunction

namespace BuiltinClass

/-- The functions of a built-in provider, under their own names. -/
def providedFunctions : BuiltinClass → List (String × ProvidedFunction)
  | .objectFunctions => ProvidedFunction.collectionFunctions
  | .numberFunctions => ProvidedFunction.arithmeticFunctions
  | .mathFunctions => ProvidedFunction.mathFunctions
  | .stringFunctions => ProvidedFunction.textFunctions
  | _ => []

/-- All entries of a built-in class that are its own. -/
def allEntries (kind : BuiltinClass) : List (String × Entry) :=
  kind.entries ++ kind.providedFunctions.map fun (name, provided) => (name, provided.entry kind)

end BuiltinClass

/-- The providers that every session starts with: the class of the values and its providers, in
the order of registration. -/
def standardProviders : List (ClassId × List BuiltinClass) :=
  [(.object, [.objectFunctions]),
    (.builtin .int, [.numberFunctions, .mathFunctions]),
    (.builtin .float, [.numberFunctions, .mathFunctions]),
    (.builtin .decimal, [.numberFunctions, .mathFunctions]),
    (.builtin .text, [.stringFunctions])]

end MemberDispatch
