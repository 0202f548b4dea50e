import MemberDispatch.Declaration

/-!
# Built-in modules

The modules that every session can take names from: the built-in classes and functions, the classes
of decimal numbers and fractions, mathematics, the filling of paragraphs, and the built-in providers
of members.
-/

namespace MemberDispatch

namespace BuiltinModule

/-- A function of a module that takes values by position. -/
def function (moduleName name : String) (required : Nat) (defaults : List Term)
    (takesNamed : Bool) : String × ModuleEntry :=
  let named : List Parameter := if takesNamed then [{ name := "", kind := .remainingKeyword }] else []
  (name, .function true
    { qualifiedName := name
      parameters := some (List.replicate required { name := "" } ++
        defaults.map (fun value => { name := "", default := some value }) ++ named)
      code := .ofModule moduleName name })

/-- A function of a module that does not say what it takes. -/
def opaqueFunction (moduleName name : String) : String × ModuleEntry :=
  (name, .function true { qualifiedName := name, parameters := none, code := .ofModule moduleName name })

/-- A class of a module under its own name. -/
def ofClass (kind : BuiltinClass) : String × ModuleEntry :=
  (kind.name, .cls (.builtin kind))

/-- The built-in classes and functions. -/
def builtins : ModuleDecl where
  name := "builtins"
  offered := none
  entries :=
    (["abs", "all", "any", "ascii", "bin", "callable", "chr", "hash", "hex", "id", "len", "oct",
      "ord", "repr"].map fun name => function "builtins" name 1 [] false) ++
    (["divmod", "hasattr", "isinstance", "issubclass"].map fun name =>
      function "builtins" name 2 [] false) ++
    (["format", "round"].map fun name => function "builtins" name 1 [.none] false) ++
    [function "builtins" "pow" 2 [.none] false, function "builtins" "sum" 1 [.int 0] false,
      function "builtins" "sorted" 1 [] false] ++
    (["getattr", "iter", "max", "min", "next", "print", "vars", "dir"].map fun name =>
      opaqueFunction "builtins" name) ++
    [BuiltinClass.object, .type, .bool, .int, .float, .complex, .text, .bytes, .byteArray, .tuple,
      .list, .dict, .set, .frozenSet].map ofClass ++
    [("None", .value .none), ("True", .value (.bool true)), ("False", .value (.bool false))]

def decimals : ModuleDecl where
  name := "decimal"
  offered := none
  entries := [ofClass .decimal]

def fractions : ModuleDecl where
  name := "fractions"
  offered := some ["Fraction"]
  entries := [ofClass .decimal, ofClass .fraction]

/-- Mathematical functions and constants. -/
def mathematics : ModuleDecl where
  name := "math"
  offered := none
  entries :=
    let unary (names : List String) := names.map fun name => function "math" name 1 [] false
    let binary (names : List String) := names.map fun name => function "math" name 2 [] false
    unary ["acos", "acosh", "asin", "asinh", "atan"] ++ binary ["atan2"] ++
      unary ["atanh", "cbrt", "ceil"] ++ binary ["copysign"] ++ unary ["cos", "cosh", "degrees"] ++
      binary ["dist"] ++
      unary ["erf", "erfc", "exp", "exp2", "expm1", "fabs", "factorial", "floor"] ++
      binary ["fmod"] ++ unary ["frexp", "fsum", "gamma"] ++
      [function "math" "gcd" 0 [] false, opaqueFunction "math" "hypot"] ++ binary ["isclose"] ++
      unary ["isfinite", "isinf", "isnan", "isqrt"] ++ [function "math" "lcm" 0 [] false] ++
      binary ["ldexp"] ++ unary ["lgamma"] ++ [opaqueFunction "math" "log"] ++
      unary ["log1p", "log10", "log2", "modf"] ++ binary ["pow"] ++ unary ["radians"] ++
      binary ["remainder"] ++ unary ["sin", "sinh", "sqrt", "tan", "tanh", "trunc", "prod"] ++
      [function "math" "perm" 1 [.none] false] ++ binary ["comb", "nextafter"] ++ unary ["ulp"] ++
      [("pi", .value (.float 3.141592653589793)), ("e", .value (.float 2.718281828459045)),
        ("tau", .value (.float 6.283185307179586)), ("inf", .value (.float (1.0 / 0.0))),
        ("nan", .value (.float (0.0 / 0.0)))]

/-- The filling of paragraphs. -/
def textLayout : ModuleDecl where
  name := "textwrap"
  offered := some ["TextWrapper", "wrap", "fill", "dedent", "indent", "shorten"]
  entries :=
    [function "textwrap" "wrap" 1 [.int 70] true, function "textwrap" "fill" 1 [.int 70] true,
      function "textwrap" "shorten" 2 [] true, function "textwrap" "dedent" 1 [] false,
      function "textwrap" "indent" 2 [.none] false]

def served (cls : BuiltinClass) (providers : List BuiltinClass) : Term :=
  .tuple [.cls (.builtin cls), .tuple (providers.map fun provider => .cls (.builtin provider))]

def providers : ModuleDecl where
  name := "dynaprop.functions"
  offered := some ["MathFunctions", "NumberFunctions", "ObjectFunctions", "StringFunctions",
    "DEFAULT_PROVIDERS", "install_default_functions"]
  entries :=
    [ofClass .decimal, ofClass .mathFunctions, ofClass .numberFunctions, ofClass .objectFunctions,
      ofClass .stringFunctions,
      ("DEFAULT_PROVIDERS", .value (.tuple
        [served .object [.objectFunctions], served .int [.numberFunctions, .mathFunctions],
          served .float [.numberFunctions, .mathFunctions],
          served .decimal [.numberFunctions, .mathFunctions], served .text [.stringFunctions]])),
      opaqueFunction "dynaprop.functions" "install_default_functions"]

def all : List ModuleDecl :=
  [builtins, decimals, fractions, mathematics, textLayout, providers]

end BuiltinModule

end MemberDispatch
