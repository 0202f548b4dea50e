import MemberDispatch.Term
import MemberDispatch.Text.Quoted
import MemberDispatch.Number.IntegerText

/-!
# Annotations

What a parameter, a result or a field is declared with. Wrappers such as optional types, bounded
variables and metadata surround a core; `Annotation.typeKey` strips them to the class or the width
that a value is matched with.
-/

namespace MemberDispatch

/-- What accompanies an annotated type. -/
inductive Metadata
  | note (text : String)
  | width (width : Width)
  deriving DecidableEq, Repr

/-- A declared type. -/
inductive Annotation
  /-- Nothing is declared. -/
  | missing
  | any
  /-- The value that stands for no value. -/
  | none
  | cls (id : ClassId)
  | variable (name : String) (bound : Option Annotation)
  | annotated (base : Annotation) (metadata : List Metadata)
  /-- Alternatives, displayed with the operator when `piped`. -/
  | union (piped : Bool) (members : List Annotation)
  /-- A class with parameters, displayed with its own name or, when `aliased`, under another. -/
  | generic (aliased : Option String) (origin : ClassId) (arguments : List Annotation)
  /-- A value shared by all instances of a class. -/
  | shared (type : Option Annotation)
  | literal (values : List Term)
  /-- A type given by name, to be looked up later; `wrapped` inside another annotation. -/
  | named (wrapped : Bool) (name : String)
  /-- Something that is no type. -/
  | value (term : Term)
  deriving Inhabited

namespace Term

/-- Whether two constants are the same. Values made anew each time are never the same. -/
def same : Term → Term → Bool
  | .none, .none => true
  | .bool left, .bool right => left == right
  | .int left, .int right => left == right
  | .text left, .text right => left == right
  | .cls left, .cls right => left == right
  | _, _ => false

mutual

def display : Term → String
  | .none => "None"
  | .bool value => if value then "True" else "False"
  | .int value => toString value
  | .float value => showFloat value
  | .complex real imaginary => showComplex real imaginary
  | .decimal value => "Decimal(" ++ Text.quoted value.text ++ ")"
  | .fraction value => "Fraction(" ++ toString value.num ++ ", " ++ toString value.den ++ ")"
  | .text value => Text.quoted value
  | .bytes value => Text.quotedBytes value
  | .byteArray value => "bytearray(" ++ Text.quotedBytes value ++ ")"
  | .list items => "[" ++ ", ".intercalate (displayAll items) ++ "]"
  | .tuple [] => "()"
  | .tuple [item] => "(" ++ display item ++ ",)"
  | .tuple items => "(" ++ ", ".intercalate (displayAll items) ++ ")"
  | .set [] => "set()"
  | .set items => "\x7b" ++ ", ".intercalate (displayAll items) ++ "\x7d"
  | .frozenSet [] => "frozenset()"
  | .frozenSet items => "frozenset(\x7b" ++ ", ".intercalate (displayAll items) ++ "\x7d)"
  | .dict entries => "\x7b" ++ ", ".intercalate (displayEntries entries) ++ "\x7d"
  | .fresh className attributes =>
      className ++ "(" ++ ", ".intercalate (displayAttributes attributes) ++ ")"
  | .derived _ content => display content
  | .cls id => id.display
  | .moduleNamed name => "<module '" ++ name ++ "'>"
  | .reference name => name
  | .pending name => name

def displayAll : List Term → List String
  | [] => []
  | item :: items => display item :: displayAll items

def displayEntries : List (Term × Term) → List String
  | [] => []
  | (key, value) :: entries => (display key ++ ": " ++ display value) :: displayEntries entries

def displayAttributes : List (String × Term) → List String
  | [] => []
  | (name, value) :: attributes =>
      (name ++ "=" ++ display value) :: displayAttributes attributes

end

end Term

namespace Annotation

/-- The class of the value that stands for no value, as an annotation. -/
abbrev noneType : Annotation := .cls (.builtin .noneType)

/-- The annotation of a width: the class of its values, accompanied by the width. -/
def ofWidth (width : Width) : Annotation :=
  .annotated (.cls width.representation) [.width width]

mutual

/-- Whether two annotations are the same, so that one of them suffices in a union. A variable is
never the same as another one, whatever their names. -/
def same : Annotation → Annotation → Bool
  | .missing, .missing => true
  | .any, .any => true
  | .none, .none => true
  | .cls left, .cls right => left == right
  | .annotated left leftData, .annotated right rightData => left.same right && leftData == rightData
  | .union _ left, .union _ right => sameAll left right
  | .generic leftAlias left leftArguments, .generic rightAlias right rightArguments =>
      leftAlias == rightAlias && left == right && sameAll leftArguments rightArguments
  | .shared (some left), .shared (some right) => left.same right
  | .shared Option.none, .shared Option.none => true
  | .literal left, .literal right =>
      left.length == right.length && (left.zip right).all fun (left, right) => left.same right
  | .named leftWrapped left, .named rightWrapped right => leftWrapped == rightWrapped && left == right
  | .value left, .value right => left.same right
  | _, _ => false

/-- Whether two lists of annotations are the same item by item. -/
def sameAll : List Annotation → List Annotation → Bool
  | [], [] => true
  | left :: lefts, right :: rights => left.same right && sameAll lefts rights
  | _, _ => false

end

/-- The alternatives that an annotation contributes to a union. The value that stands for no value
counts as its class and a name is wrapped. -/
def alternatives : Annotation → List Annotation
  | .union _ members => members
  | .none => [noneType]
  | .named _ name => [.named true name]
  | other => [other]

/-- The annotation as a parameter of another one: the value that stands for no value counts as its
class and a name is wrapped. -/
def asArgument : Annotation → Annotation
  | .none => noneType
  | .named _ name => .named true name
  | other => other

/-- A constant in place of a type: a text is the name of a type. -/
def ofTerm : Term → Annotation
  | .none => .none
  | .cls id => .cls id
  | .text name => .named false name
  | term => .value term

/-- A variable, which no value for a bound leaves without one. -/
def variableWithin (name : String) : Annotation → Annotation
  | .none => .variable name Option.none
  | bound => .variable name (some bound.asArgument)

/-- A literal type of constants, each once. -/
def literalOf (values : List Term) : Annotation :=
  .literal (values.foldl
    (fun kept value => if kept.any value.same then kept else kept ++ [value]) [])

/-- The list without later repetitions. -/
def distinct (annotations : List Annotation) : List Annotation :=
  annotations.foldl
    (fun kept type => if kept.any type.same then kept else kept ++ [type]) []

/-- The union of annotations, flat and without repetitions; a single alternative is no union. -/
def unionOf (piped : Bool) (members : List Annotation) : Annotation :=
  match distinct (members.flatMap alternatives) with
  | [single] => single
  | members => .union piped members

/-- The union with the class of no value. -/
def optional (type : Annotation) : Annotation :=
  unionOf false [type, noneType]

/-- Whether the annotation joins with the operator to a plain union rather than to a wrapped one. -/
def joinsPlainly : Annotation → Bool
  | .none | .missing | .any | .cls _ => true
  | .generic Option.none _ _ => true
  | .union piped _ => piped
  | _ => false

/-- The union that the operator builds of annotations. -/
def pipe : List Annotation → Annotation
  | [single] => single
  | members => unionOf (members.all joinsPlainly) members

def withMetadata (type : Annotation) (metadata : List Metadata) : Annotation :=
  match type with
  | .annotated base first => .annotated base (first ++ metadata)
  | .none => .annotated noneType metadata
  | .named _ name => .annotated (.named true name) metadata
  | base => .annotated base metadata

/-- How metadata shows. -/
def metadataText : Metadata → String
  | .note text => Text.quoted text
  | .width width => width.display

/-- How a class shows inside another annotation. -/
def classText (id : ClassId) : String := id.qualifiedName

mutual

/-- The display of an annotation by itself. -/
def text : Annotation → String
  | .missing => "<class 'inspect._empty'>"
  | .any => "typing.Any"
  | .none => "None"
  | .cls id => id.display
  | .variable name _ => "~" ++ name
  | .annotated base metadata =>
      "typing.Annotated[" ++ innerText base ++ ", " ++
        ", ".intercalate (metadata.map metadataText) ++ "]"
  | .union true members => " | ".intercalate (pipedTexts members)
  | .union false members =>
      match members with
      | [.cls (.builtin .noneType), member] => "typing.Optional[" ++ innerText member ++ "]"
      | [member, .cls (.builtin .noneType)] => "typing.Optional[" ++ innerText member ++ "]"
      | members => "typing.Union[" ++ ", ".intercalate (innerTexts members) ++ "]"
  | .generic aliased origin arguments =>
      aliased.getD origin.qualifiedName ++ "[" ++ ", ".intercalate (innerTexts arguments) ++ "]"
  | .shared Option.none => "typing.ClassVar"
  | .shared (some type) => "typing.ClassVar[" ++ innerText type ++ "]"
  | .literal values => "typing.Literal[" ++ ", ".intercalate (Term.displayAll values) ++ "]"
  | .named false name => Text.quoted name
  | .named true name => "ForwardRef(" ++ Text.quoted name ++ ")"
  | .value term => term.display

/-- The display of an annotation inside another one, where classes show their bare names. -/
def innerText : Annotation → String
  | .cls id => classText id
  | .missing => "inspect._empty"
  | other => text other

/-- The displays of annotations inside another one. -/
def innerTexts : List Annotation → List String
  | [] => []
  | type :: annotations => innerText type :: innerTexts annotations

/-- The displays of the alternatives of a union written with the operator. -/
def pipedTexts : List Annotation → List String
  | [] => []
  | .cls (.builtin .noneType) :: annotations => "None" :: pipedTexts annotations
  | type :: annotations => innerText type :: pipedTexts annotations

end

/-- Why an annotation has no type key. -/
inductive KeyIssue
  | union (type : Annotation)
  | noType (type : Annotation)

def KeyIssue.message : KeyIssue → String
  | .union type => "Cannot infer a type key from union: " ++ type.text
  | .noType type => "Cannot infer a type key from annotation: " ++ type.text

def firstWidth? : List Metadata → Option Width
  | [] => Option.none
  | .width width :: _ => some width
  | .note _ :: metadata => firstWidth? metadata

def isNoneType : Annotation → Bool
  | .cls (.builtin .noneType) => true
  | _ => false

mutual

/-- The class or width that a value is matched with. Nothing declared, anything and a variable
without bound admit every value; metadata with a width stands for that width; wrappers are
transparent; a union must have exactly one alternative besides no value. -/
def typeKey : Annotation → Except KeyIssue TypeKey
  | .missing => .ok .object
  | .any => .ok .object
  | .variable _ Option.none => .ok .object
  | .variable _ (some bound) => bound.typeKey
  | .annotated base metadata => match firstWidth? metadata with
    | some width => .ok (.exact width)
    | Option.none => base.typeKey
  | .union piped members => match soleKey members with
    | some key => key
    | Option.none => .error (.union (.union piped members))
  | .generic _ origin _ => .ok (.cls origin)
  | .cls id =>
      if id == .builtin .noneType then .error (.noType (.cls id)) else .ok (.cls id)
  | other => .error (.noType other)

/-- The key of the only alternative that is not the class of no value, where there is only one. -/
def soleKey : List Annotation → Option (Except KeyIssue TypeKey)
  | [] => Option.none
  | member :: members =>
      if member.isNoneType then soleKey members
      else if members.all isNoneType then some member.typeKey
      else Option.none

end

/-- What a member produces: nothing, or a value of a class. A type that cannot be narrowed to a
class admits every value. -/
def returnClass : Annotation → Option ClassId
  | .none => Option.none
  | type =>
      if type.isNoneType then Option.none
      else match type.typeKey with
        | .ok key => some key.representation
        | .error _ => some .object

/-- What a name stands for among the declared classes and the built-in names. -/
def lookUp? (declared : List String) (name : String) : Option Annotation :=
  let builtins : List BuiltinClass :=
    [.object, .type, .bool, .int, .float, .complex, .text, .bytes, .byteArray, .tuple, .list,
      .dict, .set, .frozenSet]
  if name == "None" then some noneType
  else if declared.contains name then some (.cls (.declared name))
  else (builtins.find? fun kind => kind.name == name).map fun kind => .cls (.builtin kind)

mutual

/-- The annotation with all its names replaced by what they stand for, unless one stands for
nothing. -/
def resolved? (lookUp : String → Option Annotation) : Annotation → Option Annotation
  | .named _ name => lookUp name
  | .annotated base metadata =>
      (base.resolved? lookUp).map fun base => base.withMetadata metadata
  | .union piped members => (resolvedAll? lookUp members).map (unionOf piped)
  | .generic aliased origin arguments =>
      (resolvedAll? lookUp arguments).map (.generic aliased origin)
  | .shared (some type) => (type.resolved? lookUp).map fun type => .shared (some type)
  | other => some other

def resolvedAll? (lookUp : String → Option Annotation) : List Annotation → Option (List Annotation)
  | [] => some []
  | type :: annotations => do
      let first ← type.resolved? lookUp
      let others ← resolvedAll? lookUp annotations
      return first :: others

end

/-- A declared annotation as a hint: the value that stands for no value becomes its class. -/
def hint? (lookUp : String → Option Annotation) : Annotation → Option Annotation
  | .none => some noneType
  | other => other.resolved? lookUp

end Annotation

end MemberDispatch
