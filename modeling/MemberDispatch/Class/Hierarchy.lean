import MemberDispatch.Class.Linearization
import MemberDispatch.Module.Builtin

/-!
# Worlds and class hierarchies

A world holds everything that is declared before a session starts. Of its classes the dispatch
core sees only their hierarchy: the bases of a class, its linearization and which classes count as
its subclasses. A class counts as a subclass of an abstract class also when it was registered as
one, derives from one that was, or has the members that define the abstract class.
-/

namespace MemberDispatch

/-- What the dispatch core knows about classes. -/
structure Hierarchy where
  /-- The direct bases of a class. -/
  bases : ClassId → List ClassId
  /-- The class, then its ancestors in the order in which members are sought. -/
  linearization : ClassId → List ClassId
  /-- Whether the first class counts as a subclass of the second. -/
  isSubclass : ClassId → ClassId → Bool

/-- Whether a value of the class can be passed where the key is declared. A width only matches
itself, never a class. -/
def Hierarchy.assignable (hierarchy : Hierarchy) (key : TypeKey) (cls : ClassId) : Bool :=
  match key with
  | .exact _ => false
  | .cls id => id == cls || hierarchy.isSubclass cls id

/-- Everything that is declared before a session starts. -/
structure World where
  widths : List Width := Width.standard
  classes : List ClassDecl := []
  modules : List ModuleDecl := []

namespace World

def class? (world : World) (name : String) : Option ClassDecl :=
  world.classes.find? fun cls => cls.name == name

/-- The module of all declared classes. -/
def ownModule (world : World) : ModuleDecl where
  name := ClassId.declaredModule
  offered := none
  entries := world.classes.map fun cls => (cls.name, .cls (.declared cls.name))

/-- The declaration of a module: a declared one, that of the declared classes, or a built-in one. -/
def module? (world : World) (name : String) : Option ModuleDecl :=
  (world.modules ++ world.ownModule :: BuiltinModule.all).find? fun module => module.name == name

/-- The class, then its ancestors in the order in which members are sought. -/
def linearization (world : World) : ClassId → List ClassId
  | .builtin kind => kind.linearization.map .builtin
  | .declared name => match world.class? name with
    | some cls => cls.linearization
    | none => [.declared name, .object]

def bases (world : World) : ClassId → List ClassId
  | .builtin kind => kind.bases.map .builtin
  | .declared name => match world.class? name with
    | some cls => cls.bases
    | none => [.object]

/-- The entry of a declared class under a name, its own only. -/
def ownEntry? (world : World) (cls : ClassId) (name : String) : Option Entry :=
  match cls with
  | .builtin _ => none
  | .declared className => (world.class? className).bind fun cls => cls.entries.lookup name

/-- Whether a class itself provides a member, or withdraws it. A class that defines equality keeps
the hash of every object. -/
def provides? (world : World) (cls : ClassId) (member : String) : Option Bool :=
  match cls with
  | .builtin kind => kind.provides? member
  | .declared _ =>
      let definesHash := member == "__hash__" && (world.ownEntry? cls "__eq__").isSome
      if definesHash || (world.ownEntry? cls member).isSome then some true else none

/-- Whether a class has a member, from the first class of its linearization that decides it. -/
def hasMember (world : World) (cls : ClassId) (member : String) : Bool :=
  ((world.linearization cls).findSome? fun ancestor => world.provides? ancestor member).getD false

/-- Whether subclasses of a class can be registered. Classes below an abstract class are abstract
in this sense too. -/
def isAbstract (world : World) (cls : ClassId) : Bool :=
  (world.linearization cls).any fun
    | .builtin kind => kind.isAbstract
    | .declared name => ((world.class? name).map (·.isAbstract)).getD false

/-- The classes registered as subclasses of a class. -/
def registered (world : World) : ClassId → List ClassId
  | .builtin kind => kind.registered.map .builtin
  | .declared name => ((world.class? name).map (·.registered)).getD []

/-- The classes that derive directly from a class. -/
def derived (world : World) (cls : ClassId) : List ClassId :=
  let builtins := match cls with
    | .builtin kind => kind.derived.map ClassId.builtin
    | .declared _ => []
  builtins ++ (world.classes.filter fun candidate => candidate.bases.contains cls).map
    fun candidate => .declared candidate.name

/-- Whether the members of a class make it a subclass of an abstract class. -/
def definesAll (world : World) (cls : ClassId) : ClassId → Bool
  | .builtin kind =>
      !kind.defining.isEmpty && kind.defining.all fun member => world.hasMember cls member
  | .declared _ => false

/-- Whether the first class counts as a subclass of the second, following registered and derived
classes through at most `depth` abstract classes. -/
def isSubclassWithin (world : World) : Nat → ClassId → ClassId → Bool
  | 0, cls, ancestor => (world.linearization cls).contains ancestor
  | depth + 1, cls, ancestor =>
      (world.linearization cls).contains ancestor ||
        (world.isAbstract ancestor &&
          (world.definesAll cls ancestor ||
            (world.registered ancestor).any (fun subclass => world.isSubclassWithin depth cls subclass) ||
            (world.derived ancestor).any fun subclass => world.isSubclassWithin depth cls subclass))

/-- Whether the first class counts as a subclass of the second. -/
def isSubclass (world : World) (cls ancestor : ClassId) : Bool :=
  world.isSubclassWithin (world.classes.length + 8) cls ancestor

def hierarchy (world : World) : Hierarchy where
  bases := world.bases
  linearization := world.linearization
  isSubclass := world.isSubclass

/-- The width of a name; of several, the one declared last. -/
def width? (world : World) (name : String) : Option Width :=
  world.widths.find? fun width => width.name == name

/-- The widths with one more, which takes the place of one of the same name. -/
def addWidth (world : World) (width : Width) : World :=
  { world with
    widths := (putEntry width.name width (world.widths.map fun width => (width.name, width))).map
      (·.2) }

/-- The world with one more class. Its linearization follows from those of its bases; bases whose
orders disagree stand as they are. -/
def addClass (world : World) (cls : ClassDecl) : World :=
  let id := ClassId.declared cls.name
  let linearization := (linearize id cls.bases world.linearization).getD (id :: cls.bases)
  { world with classes := world.classes ++ [{ cls with linearization }] }

/-- The class of a name: a declared one, or one of the built-in classes that sessions can name. -/
def className? (world : World) (name : String) : Option ClassId :=
  if (world.class? name).isSome then some (.declared name)
  else (BuiltinClass.nameable.find? fun kind => kind.name == name).map .builtin

/-- The key of a name: a width, or else a class. -/
def keyOfName? (world : World) (name : String) : Option TypeKey :=
  ((world.width? name).map .exact).or ((world.className? name).map .cls)

/-- What a name stands for in an annotation. -/
def lookUpType? (world : World) (name : String) : Option Annotation :=
  Annotation.lookUp? (world.classes.map (·.name)) name

end World

end MemberDispatch
