import MemberDispatch.Member.LazyIndex
import MemberDispatch.Member.Use

/-!
# Requests to an index

What can be asked of an index that sorts when it is read, what it answers and what is left of it. A
search leaves the index the same whether it finds a member, finds none or fails.
-/

namespace MemberDispatch

namespace LazyIndex

/-- What is asked of an index. -/
inductive Request
  | add (member : Member)
  | merge (members : List Member)
  /-- Making the snapshot if it is not there. -/
  | sort
  | find (onlyPublic : Bool) (required : ClassId) (arguments : List Value) (extras : Int)
  | members
  | size
  | maxArity
  | arities
  | display

/-- What an index answers. -/
inductive Answer
  | done
  | count (number : Nat)
  | arities (arities : List Nat)
  | members (members : List Member)
  | found (choice : Option Choice)
  | text (text : String)

/-- The complaint of a closed index that is to take members. -/
def refusal : Fault :=
  .typeError "EMPTY_INDEX is immutable"

end LazyIndex

namespace Engine

/-- What a request to an index comes to, and the index that it leaves. -/
def serveIndex (engine : Engine) (lazy : LazyIndex) :
    LazyIndex.Request → Act LazyIndex.Answer × LazyIndex
  | .add member =>
      if lazy.isClosed then (throw LazyIndex.refusal, lazy)
      else (return .done, lazy.add member)
  | .merge members =>
      if lazy.isClosed then (throw LazyIndex.refusal, lazy)
      else
        let (added, lazy) := lazy.merge members
        (return .count added, lazy)
  | .sort => (return .done, lazy.read.2)
  | .find onlyPublic required arguments extras =>
      let (snapshot, lazy) := lazy.read
      let search := do
        return .found (← engine.chooseAmong onlyPublic required arguments extras
          (snapshot.candidates arguments.length))
      (search, lazy)
  | .members => (return .members lazy.read.1.members, lazy.read.2)
  | .size => (return .count lazy.read.1.size, lazy.read.2)
  | .maxArity => (return .count lazy.read.1.maxArity, lazy.read.2)
  | .arities => (return .arities lazy.read.1.arities, lazy.read.2)
  | .display => (return .text (lazy.read.1.display lazy.index.name), lazy.read.2)

/-- Asks the index of a name in the session. Names without an index share the closed one. -/
def askIndex (engine : Engine) (name : String) (request : LazyIndex.Request) :
    Act LazyIndex.Answer := do
  let lazy := ((← get).indexes.lookup name).getD .closed
  let (answer, left) := engine.serveIndex lazy request
  modify fun session => { session with indexes := putEntry name left session.indexes }
  answer

end Engine

end MemberDispatch
