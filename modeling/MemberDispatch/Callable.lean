import MemberDispatch.Operator
import MemberDispatch.Declaration

/-!
# Things that can be called

What a member runs: a function, a class method with its class, an operator, the reading of an
attribute, the making of an instance, or a body under a tag.
-/

namespace MemberDispatch

/-- Something that can be called with arguments. -/
inductive Callable
  | plain (function : FunctionDecl)
  | bound (cls : ClassId) (function : FunctionDecl)
  | operation (operator : Operator)
  | attribute (name : String)
  | construct (cls : ClassId)
  | tagged (tag : String) (body : Body)

namespace Callable

/-- The name under which the callable shows. -/
def qualifiedName : Callable → String
  | .plain function => function.qualifiedName
  | .bound _ function => function.qualifiedName
  | .operation operator => operator.memberName
  | .attribute name => name
  | .construct cls => cls.name
  | .tagged tag _ => tag

def display : Callable → String
  | .bound cls function =>
      "<bound method " ++ function.qualifiedName ++ " of " ++ cls.display ++ ">"
  | .construct cls => cls.display
  | callable => "<function " ++ callable.qualifiedName ++ ">"

def classOf : Callable → ClassId
  | .plain function => match function.code with
    | .intrinsic _ _ => .builtin .methodDescriptor
    | .ofModule moduleName _ =>
        .builtin (if moduleName == "builtins" || moduleName == "math" then .builtinFunction
          else .function)
    | _ => .builtin .function
  | .bound _ function => match function.code with
    | .intrinsic _ _ => .builtin .builtinFunction
    | _ => .builtin .boundMethod
  | .construct _ => .builtin .type
  | .operation _ => .builtin .builtinFunction
  | _ => .builtin .function

end Callable

end MemberDispatch
