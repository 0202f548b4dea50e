import MemberDispatch.Class.Hierarchy

/-!
# Members of the built-in classes

The members that the built-in classes have of their own, in the order in which they are listed.
Some operations do not say what they take; they cannot be offered as members.
-/

namespace MemberDispatch

/-- A member of a built-in class: how it is reached and how many arguments it must and may
have. -/
inductive Intrinsic
  | method (name : String) (required optional : Nat)
  | classMethod (name : String) (required optional : Nat)
  | staticMethod (name : String) (required optional : Nat)
  /-- A method that does not say what it takes. -/
  | opaqueMethod (name : String)
  /-- A static method that does not say what it takes. -/
  | opaqueStatic (name : String)
  | property (name : String)
  | slot (name : String)

namespace Intrinsic

/-- Parameters of a number of arguments, of which the last `optional` may be left out. -/
def parameters (required optional : Nat) : List Parameter :=
  List.replicate required { name := "", kind := .positionalOnly } ++
    List.replicate optional { name := "", kind := .positionalOnly, default := some .none }

/-- The function of a member of a built-in class. -/
def function (owner : BuiltinClass) (name : String) (parameters : Option (List Parameter)) :
    FunctionDecl :=
  { qualifiedName := owner.name ++ "." ++ name, parameters, code := .intrinsic owner name }

/-- The member as an entry of its class. A method also takes the value it belongs to, and a class
method its class. -/
def entry (owner : BuiltinClass) : Intrinsic → String × Entry
  | .method name required optional =>
      (name, .method (function owner name (some (parameters (required + 1) optional))))
  | .classMethod name required optional =>
      (name, .classMethod (function owner name (some (parameters (required + 1) optional))))
  | .staticMethod name required optional =>
      (name, .staticMethod (function owner name (some (parameters required optional))))
  | .opaqueMethod name => (name, .method (function owner name none))
  | .opaqueStatic name => (name, .staticMethod (function owner name none))
  | .property name => (name, .property (some (function owner name (some (parameters 1 0)))))
  | .slot name => (name, .slot)

end Intrinsic

namespace BuiltinClass

/-- The members of a built-in class of its own. -/
def intrinsics : BuiltinClass → List Intrinsic
  | .object => [
      .method "__lt__" 1 0, .method "__le__" 1 0, .method "__eq__" 1 0, .method "__ne__" 1 0,
      .method "__gt__" 1 0, .method "__ge__" 1 0]
  | .int => [
      .method "__lt__" 1 0, .method "__le__" 1 0, .method "__eq__" 1 0, .method "__ne__" 1 0,
      .method "__gt__" 1 0, .method "__ge__" 1 0, .method "__add__" 1 0, .method "__sub__" 1 0,
      .method "__mul__" 1 0, .method "__mod__" 1 0, .method "__pow__" 1 1, .method "__neg__" 0 0,
      .method "__pos__" 0 0, .method "__abs__" 0 0, .method "__invert__" 0 0,
      .method "__lshift__" 1 0, .method "__rshift__" 1 0, .method "__and__" 1 0,
      .method "__xor__" 1 0, .method "__or__" 1 0, .method "__floordiv__" 1 0,
      .method "__truediv__" 1 0, .opaqueMethod "conjugate", .method "bit_length" 0 0,
      .method "bit_count" 0 0, .method "to_bytes" 0 2, .classMethod "from_bytes" 1 1,
      .method "as_integer_ratio" 0 0, .slot "real", .slot "imag", .slot "numerator",
      .slot "denominator"]
  | .bool => [
      .method "__and__" 1 0, .method "__xor__" 1 0, .method "__or__" 1 0]
  | .float => [
      .method "__lt__" 1 0, .method "__le__" 1 0, .method "__eq__" 1 0, .method "__ne__" 1 0,
      .method "__gt__" 1 0, .method "__ge__" 1 0, .method "__add__" 1 0, .method "__sub__" 1 0,
      .method "__mul__" 1 0, .method "__mod__" 1 0, .method "__pow__" 1 1, .method "__neg__" 0 0,
      .method "__pos__" 0 0, .method "__abs__" 0 0, .method "__floordiv__" 1 0,
      .method "__truediv__" 1 0, .method "conjugate" 0 0, .method "as_integer_ratio" 0 0,
      .classMethod "fromhex" 1 0, .method "hex" 0 0, .method "is_integer" 0 0, .slot "real",
      .slot "imag"]
  | .text => [
      .method "__lt__" 1 0, .method "__le__" 1 0, .method "__eq__" 1 0, .method "__ne__" 1 0,
      .method "__gt__" 1 0, .method "__ge__" 1 0, .method "__mod__" 1 0, .method "__len__" 0 0,
      .method "__getitem__" 1 0, .method "__add__" 1 0, .method "__mul__" 1 0,
      .method "__contains__" 1 0, .method "encode" 0 2, .method "replace" 2 1,
      .method "split" 0 2, .method "rsplit" 0 2, .method "join" 1 0, .method "capitalize" 0 0,
      .method "casefold" 0 0, .method "title" 0 0, .method "center" 1 1, .opaqueMethod "count",
      .method "expandtabs" 0 1, .opaqueMethod "find", .method "partition" 1 0,
      .opaqueMethod "index", .method "ljust" 1 1, .method "lower" 0 0, .method "lstrip" 0 1,
      .opaqueMethod "rfind", .opaqueMethod "rindex", .method "rjust" 1 1, .method "rstrip" 0 1,
      .method "rpartition" 1 0, .method "splitlines" 0 1, .method "strip" 0 1,
      .method "swapcase" 0 0, .method "translate" 1 0, .method "upper" 0 0,
      .opaqueMethod "startswith", .opaqueMethod "endswith", .method "removeprefix" 1 0,
      .method "removesuffix" 1 0, .method "isascii" 0 0, .method "islower" 0 0,
      .method "isupper" 0 0, .method "istitle" 0 0, .method "isspace" 0 0,
      .method "isdecimal" 0 0, .method "isdigit" 0 0, .method "isnumeric" 0 0,
      .method "isalpha" 0 0, .method "isalnum" 0 0, .method "isidentifier" 0 0,
      .method "isprintable" 0 0, .method "zfill" 1 0, .opaqueMethod "format",
      .opaqueMethod "format_map", .opaqueStatic "maketrans"]
  | .bytes => [
      .method "__lt__" 1 0, .method "__le__" 1 0, .method "__eq__" 1 0, .method "__ne__" 1 0,
      .method "__gt__" 1 0, .method "__ge__" 1 0, .method "__mod__" 1 0, .method "__len__" 0 0,
      .method "__getitem__" 1 0, .method "__add__" 1 0, .method "__mul__" 1 0,
      .method "__contains__" 1 0, .opaqueMethod "capitalize", .method "center" 1 1,
      .opaqueMethod "count", .method "decode" 0 2, .opaqueMethod "endswith",
      .method "expandtabs" 0 1, .opaqueMethod "find", .classMethod "fromhex" 1 0,
      .opaqueMethod "hex", .opaqueMethod "index", .opaqueMethod "isalnum",
      .opaqueMethod "isalpha", .opaqueMethod "isascii", .opaqueMethod "isdigit",
      .opaqueMethod "islower", .opaqueMethod "isspace", .opaqueMethod "istitle",
      .opaqueMethod "isupper", .method "join" 1 0, .method "ljust" 1 1, .opaqueMethod "lower",
      .method "lstrip" 0 1, .staticMethod "maketrans" 2 0, .method "partition" 1 0,
      .method "replace" 2 1, .method "removeprefix" 1 0, .method "removesuffix" 1 0,
      .opaqueMethod "rfind", .opaqueMethod "rindex", .method "rjust" 1 1,
      .method "rpartition" 1 0, .method "rsplit" 0 2, .method "rstrip" 0 1, .method "split" 0 2,
      .method "splitlines" 0 1, .opaqueMethod "startswith", .method "strip" 0 1,
      .opaqueMethod "swapcase", .opaqueMethod "title", .method "translate" 1 1,
      .opaqueMethod "upper", .method "zfill" 1 0]
  | .byteArray => [
      .method "__lt__" 1 0, .method "__le__" 1 0, .method "__eq__" 1 0, .method "__ne__" 1 0,
      .method "__gt__" 1 0, .method "__ge__" 1 0, .method "__mod__" 1 0, .method "__len__" 0 0,
      .method "__getitem__" 1 0, .method "__add__" 1 0, .method "__mul__" 1 0,
      .method "__contains__" 1 0, .method "append" 1 0, .opaqueMethod "capitalize",
      .method "center" 1 1, .method "clear" 0 0, .method "copy" 0 0, .opaqueMethod "count",
      .method "decode" 0 2, .opaqueMethod "endswith", .method "expandtabs" 0 1,
      .method "extend" 1 0, .opaqueMethod "find", .classMethod "fromhex" 1 0, .opaqueMethod "hex",
      .opaqueMethod "index", .method "insert" 2 0, .opaqueMethod "isalnum",
      .opaqueMethod "isalpha", .opaqueMethod "isascii", .opaqueMethod "isdigit",
      .opaqueMethod "islower", .opaqueMethod "isspace", .opaqueMethod "istitle",
      .opaqueMethod "isupper", .method "join" 1 0, .method "ljust" 1 1, .opaqueMethod "lower",
      .method "lstrip" 0 1, .staticMethod "maketrans" 2 0, .method "partition" 1 0,
      .method "pop" 0 1, .method "remove" 1 0, .method "replace" 2 1, .method "removeprefix" 1 0,
      .method "removesuffix" 1 0, .method "reverse" 0 0, .opaqueMethod "rfind",
      .opaqueMethod "rindex", .method "rjust" 1 1, .method "rpartition" 1 0, .method "rsplit" 0 2,
      .method "rstrip" 0 1, .method "split" 0 2, .method "splitlines" 0 1,
      .opaqueMethod "startswith", .method "strip" 0 1, .opaqueMethod "swapcase",
      .opaqueMethod "title", .method "translate" 1 1, .opaqueMethod "upper", .method "zfill" 1 0]
  | .list => [
      .method "__lt__" 1 0, .method "__le__" 1 0, .method "__eq__" 1 0, .method "__ne__" 1 0,
      .method "__gt__" 1 0, .method "__ge__" 1 0, .method "__len__" 0 0,
      .opaqueMethod "__getitem__", .method "__add__" 1 0, .method "__mul__" 1 0,
      .method "__contains__" 1 0, .method "clear" 0 0, .method "copy" 0 0, .method "append" 1 0,
      .method "insert" 2 0, .method "extend" 1 0, .method "pop" 0 1, .method "remove" 1 0,
      .method "index" 1 2, .method "count" 1 0, .method "reverse" 0 0, .method "sort" 0 0]
  | .tuple => [
      .method "__lt__" 1 0, .method "__le__" 1 0, .method "__eq__" 1 0, .method "__ne__" 1 0,
      .method "__gt__" 1 0, .method "__ge__" 1 0, .method "__len__" 0 0,
      .method "__getitem__" 1 0, .method "__add__" 1 0, .method "__mul__" 1 0,
      .method "__contains__" 1 0, .method "index" 1 2, .method "count" 1 0]
  | .dict => [
      .method "__lt__" 1 0, .method "__le__" 1 0, .method "__eq__" 1 0, .method "__ne__" 1 0,
      .method "__gt__" 1 0, .method "__ge__" 1 0, .method "__or__" 1 0, .method "__len__" 0 0,
      .opaqueMethod "__getitem__", .method "__contains__" 1 0, .method "get" 1 1,
      .method "setdefault" 1 1, .opaqueMethod "pop", .method "popitem" 0 0, .opaqueMethod "keys",
      .opaqueMethod "items", .opaqueMethod "values", .opaqueMethod "update",
      .classMethod "fromkeys" 1 1, .opaqueMethod "clear", .opaqueMethod "copy"]
  | .set => [
      .method "__lt__" 1 0, .method "__le__" 1 0, .method "__eq__" 1 0, .method "__ne__" 1 0,
      .method "__gt__" 1 0, .method "__ge__" 1 0, .method "__sub__" 1 0, .method "__and__" 1 0,
      .method "__xor__" 1 0, .method "__or__" 1 0, .method "__len__" 0 0,
      .opaqueMethod "__contains__", .opaqueMethod "add", .opaqueMethod "clear",
      .opaqueMethod "copy", .opaqueMethod "discard", .opaqueMethod "difference",
      .opaqueMethod "difference_update", .opaqueMethod "intersection",
      .opaqueMethod "intersection_update", .opaqueMethod "isdisjoint", .opaqueMethod "issubset",
      .opaqueMethod "issuperset", .opaqueMethod "pop", .opaqueMethod "remove",
      .opaqueMethod "symmetric_difference", .opaqueMethod "symmetric_difference_update",
      .opaqueMethod "union", .opaqueMethod "update"]
  | .frozenSet => [
      .method "__lt__" 1 0, .method "__le__" 1 0, .method "__eq__" 1 0, .method "__ne__" 1 0,
      .method "__gt__" 1 0, .method "__ge__" 1 0, .method "__sub__" 1 0, .method "__and__" 1 0,
      .method "__xor__" 1 0, .method "__or__" 1 0, .method "__len__" 0 0,
      .opaqueMethod "__contains__", .opaqueMethod "copy", .opaqueMethod "difference",
      .opaqueMethod "intersection", .opaqueMethod "isdisjoint", .opaqueMethod "issubset",
      .opaqueMethod "issuperset", .opaqueMethod "symmetric_difference", .opaqueMethod "union"]
  | .decimal => [
      .method "__lt__" 1 0, .method "__le__" 1 0, .method "__eq__" 1 0, .method "__ne__" 1 0,
      .method "__gt__" 1 0, .method "__ge__" 1 0, .method "__add__" 1 0, .method "__sub__" 1 0,
      .method "__mul__" 1 0, .method "__mod__" 1 0, .method "__pow__" 1 1, .method "__neg__" 0 0,
      .method "__pos__" 0 0, .method "__abs__" 0 0, .method "__floordiv__" 1 0,
      .method "__truediv__" 1 0, .method "exp" 0 1, .method "ln" 0 1, .method "log10" 0 1,
      .method "next_minus" 0 1, .method "next_plus" 0 1, .method "normalize" 0 1,
      .method "to_integral" 0 2, .method "to_integral_exact" 0 2, .method "to_integral_value" 0 2,
      .method "sqrt" 0 1, .method "compare" 1 1, .method "compare_signal" 1 1, .method "max" 1 1,
      .method "max_mag" 1 1, .method "min" 1 1, .method "min_mag" 1 1, .method "next_toward" 1 1,
      .method "quantize" 1 2, .method "remainder_near" 1 1, .method "fma" 2 1,
      .method "is_canonical" 0 0, .method "is_finite" 0 0, .method "is_infinite" 0 0,
      .method "is_nan" 0 0, .method "is_qnan" 0 0, .method "is_snan" 0 0, .method "is_signed" 0 0,
      .method "is_zero" 0 0, .method "is_normal" 0 1, .method "is_subnormal" 0 1,
      .method "adjusted" 0 0, .method "canonical" 0 0, .method "conjugate" 0 0,
      .method "radix" 0 0, .method "copy_abs" 0 0, .method "copy_negate" 0 0, .method "logb" 0 1,
      .method "logical_invert" 0 1, .method "number_class" 0 1, .method "to_eng_string" 0 1,
      .method "compare_total" 1 1, .method "compare_total_mag" 1 1, .method "copy_sign" 1 1,
      .method "same_quantum" 1 1, .method "logical_and" 1 1, .method "logical_or" 1 1,
      .method "logical_xor" 1 1, .method "rotate" 1 1, .method "scaleb" 1 1, .method "shift" 1 1,
      .classMethod "from_float" 1 0, .method "as_tuple" 0 0, .method "as_integer_ratio" 0 0,
      .slot "real", .slot "imag"]
  | .fraction => [
      .classMethod "from_float" 1 0, .classMethod "from_decimal" 1 0,
      .method "as_integer_ratio" 0 0, .method "limit_denominator" 0 1, .property "numerator",
      .property "denominator", .method "_operator_fallbacks" 1 0, .method "_add" 1 0,
      .method "__add__" 1 0, .method "_sub" 1 0, .method "__sub__" 1 0, .method "_mul" 1 0,
      .method "__mul__" 1 0, .method "_div" 1 0, .method "__truediv__" 1 0,
      .method "_floordiv" 1 0, .method "__floordiv__" 1 0, .method "_divmod" 1 0,
      .method "_mod" 1 0, .method "__mod__" 1 0, .method "__pow__" 1 0, .method "__pos__" 0 0,
      .method "__neg__" 0 0, .method "__abs__" 0 0, .method "__eq__" 1 0, .method "_richcmp" 2 0,
      .method "__lt__" 1 0, .method "__gt__" 1 0, .method "__le__" 1 0, .method "__ge__" 1 0,
      .slot "_denominator", .slot "_numerator"]
  | .rationalNumber => [
      .property "numerator", .property "denominator"]
  | .realNumber => [
      .method "__floordiv__" 1 0, .method "__mod__" 1 0, .method "__lt__" 1 0,
      .method "__le__" 1 0, .property "real", .property "imag", .method "conjugate" 0 0]
  | .complexNumber => [
      .property "real", .property "imag", .method "__add__" 1 0, .method "__neg__" 0 0,
      .method "__pos__" 0 0, .method "__sub__" 1 0, .method "__mul__" 1 0,
      .method "__truediv__" 1 0, .method "__pow__" 1 0, .method "__abs__" 0 0,
      .method "conjugate" 0 0, .method "__eq__" 1 0]
  | _ => []

/-- The entries of a built-in class that are its own. -/
def entries (kind : BuiltinClass) : List (String × Entry) :=
  kind.intrinsics.map (Intrinsic.entry kind)

end BuiltinClass

end MemberDispatch
