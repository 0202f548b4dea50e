import MemberDispatch.Attribute
import MemberDispatch.Proofs.Session.Habit
import MemberDispatch.Value.Argument

/-!
# Routines

A routine is a habit that covers all that members of values do by themselves: looking at the session,
making objects, and changing what objects hold. Pending calls are no objects that a routine makes. What
is proved here of making terms, of attributes and of arguments holds of every routine.
-/

namespace MemberDispatch

/-- A habit that making and changing objects keeps to. -/
structure Act.Routine extends Act.Habit where
  get : Of (MonadState.get : Act Session)
  allocate {object : Object} (other : object.cls ≠ .builtin .pendingCall) : Of (Act.allocate object)
  changeObject (address : ℕ) {change : Object → Object}
    (same : ∀ object, (change object).cls = object.cls) : Of (Act.changeObject address change)

namespace Act.Routine

variable (routine : Act.Routine) {α β : Type}

theorem ite {condition : Prop} [Decidable condition] {first second : Act α} (yes : routine.Of first)
    (no : routine.Of second) : routine.Of (if condition then first else second) := by
  split
  · exact yes
  · exact no

/-- What follows unless there is a complaint. -/
theorem orComplain {condition : Prop} [Decidable condition] {fault : Fault} {next : Unit → Act α}
    (kept : ∀ done, routine.Of (next done)) :
    routine.Of (if condition then next () else MonadExcept.throw fault >>= next) :=
  routine.ite (kept ()) (routine.bind (routine.throw fault) kept)

/-- What follows if there is no complaint. -/
theorem complainOr {condition : Prop} [Decidable condition] {fault : Fault} {next : Unit → Act α}
    (kept : ∀ done, routine.Of (next done)) :
    routine.Of (if condition then MonadExcept.throw fault >>= next else next ()) :=
  routine.ite (routine.bind (routine.throw fault) kept) (kept ())

section Objects

/-- An object of any built-in class but that of pending calls. -/
theorem makeBuiltin {kind : BuiltinClass} (other : kind ≠ .pendingCall) (content : Content) :
    routine.Of (Act.allocate { cls := .builtin kind, content }) :=
  routine.allocate fun same => other (ClassId.builtin.inj same)

/-- An object of a declared class. -/
theorem makeDeclared {object : Object} {name : String} (declared : object.cls = .declared name) :
    routine.Of (Act.allocate object) := by
  refine routine.allocate ?_
  intro same
  rw [declared] at same
  cases same

theorem makeList (items : List Value) : routine.Of (Act.makeList items) :=
  routine.makeBuiltin (by decide) _

theorem makeSet (items : List Value) : routine.Of (Act.makeSet items) :=
  routine.makeBuiltin (by decide) _

theorem makeDict (entries : List (Value × Value)) : routine.Of (Act.makeDict entries) :=
  routine.makeBuiltin (by decide) _

theorem makeByteArray (bytes : List UInt8) : routine.Of (Act.makeByteArray bytes) :=
  routine.makeBuiltin (by decide) _

theorem setContent (address : ℕ) (content : Content) : routine.Of (Act.setContent address content) :=
  routine.changeObject address fun _ => rfl

theorem setAttribute (address : ℕ) (name : String) (value : Value) :
    routine.Of (Act.setAttribute address name value) :=
  routine.changeObject address fun _ => rfl

theorem requireRoom (count : ℕ) : routine.Of (Act.requireRoom count) :=
  routine.ite (routine.throw _) (routine.pure _)

theorem ofDecimal (result : Decimal.Result) : routine.Of (Act.ofDecimal result) := by
  unfold Act.ofDecimal
  split
  · exact routine.pure _
  · exact routine.throw _

end Objects

section Sequences

theorem mapM {work : α → Act β} (each : ∀ item, routine.Of (work item)) (items : List α) :
    routine.Of (items.mapM work) := by
  induction items with
  | nil => exact routine.pure _
  | cons item items ih =>
      rw [List.mapM_cons]
      exact routine.bind (each item) fun _ => routine.bind ih fun _ => routine.pure _

theorem foldlM {work : β → α → Act β} (each : ∀ made item, routine.Of (work made item))
    (start : β) (items : List α) : routine.Of (items.foldlM work start) := by
  induction items generalizing start with
  | nil => exact routine.pure _
  | cons item items ih =>
      rw [List.foldlM_cons]
      exact routine.bind (each start item) ih

theorem filterM {test : α → Act Bool} (each : ∀ item, routine.Of (test item)) (items : List α) :
    routine.Of (items.filterM test) := by
  have loop (items kept : List α) : routine.Of (items.filterAuxM test kept) := by
    induction items generalizing kept with
    | nil => exact routine.pure _
    | cons item items ih => exact routine.bind (each item) fun _ => ih _
  exact routine.bind (loop items []) fun _ => routine.pure _

theorem allM {test : α → Act Bool} (each : ∀ item, routine.Of (test item)) (items : List α) :
    routine.Of (items.allM test) := by
  induction items with
  | nil => exact routine.pure _
  | cons item items ih =>
      refine routine.bind (each item) ?_
      intro holds
      cases holds with
      | false => exact routine.pure _
      | true => exact ih

theorem anyM {test : α → Act Bool} (each : ∀ item, routine.Of (test item)) (items : List α) :
    routine.Of (items.anyM test) := by
  induction items with
  | nil => exact routine.pure _
  | cons item items ih =>
      refine routine.bind (each item) ?_
      intro holds
      cases holds with
      | false => exact ih
      | true => exact routine.pure _

end Sequences

section Terms

mutual

theorem make : ∀ term : Term, routine.Of (Act.make term)
  | .none | .bool _ | .int _ | .float _ | .complex _ _ | .decimal _ | .fraction _ | .text _
  | .bytes _ | .cls _ | .moduleNamed _ => routine.pure _
  | .byteArray _ => routine.makeByteArray _
  | .list items => by
      unfold Act.make
      exact routine.bind (make_all items) fun _ => routine.makeList _
  | .tuple items => by
      unfold Act.make
      exact routine.bind (make_all items) fun _ => routine.pure _
  | .set items => by
      unfold Act.make
      exact routine.bind (make_all items) fun _ => routine.makeSet _
  | .frozenSet items => by
      unfold Act.make
      exact routine.bind (make_all items) fun _ => routine.pure _
  | .dict entries => by
      unfold Act.make
      exact routine.bind (make_entries entries) fun _ => routine.makeDict _
  | .fresh className attributes => by
      unfold Act.make
      exact routine.bind (make_attributes attributes) fun _ => routine.makeDeclared rfl
  | .derived className content => by
      unfold Act.make
      refine routine.bind (make content) ?_
      intro value
      dsimp only
      split
      · refine routine.bind (routine.bind routine.get fun _ => routine.pure _) fun _ => ?_
        exact routine.makeDeclared rfl
      · exact routine.bind (routine.pure _) fun _ => routine.makeDeclared rfl
  | .reference name => by
      unfold Act.make
      refine routine.bind routine.get ?_
      intro session
      split
      · exact routine.pure _
      · exact routine.throw _
  | .pending name => by
      unfold Act.make
      refine routine.bind routine.get ?_
      intro session
      split
      · exact routine.pure _
      · exact routine.throw _

theorem make_all : ∀ terms : List Term, routine.Of (Act.makeAll terms)
  | [] => routine.pure _
  | term :: terms => by
      unfold Act.makeAll
      exact routine.bind (make term) fun _ => routine.bind (make_all terms) fun _ => routine.pure _

theorem make_entries : ∀ entries : List (Term × Term), routine.Of (Act.makeEntries entries)
  | [] => routine.pure _
  | (key, value) :: entries => by
      unfold Act.makeEntries
      exact routine.bind (make key) fun _ => routine.bind (make value) fun _ =>
        routine.bind (make_entries entries) fun _ => routine.pure _

theorem make_attributes :
    ∀ attributes : List (String × Term), routine.Of (Act.makeAttributes attributes)
  | [] => routine.pure _
  | (name, value) :: attributes => by
      unfold Act.makeAttributes
      exact routine.bind (make value) fun _ =>
        routine.bind (make_attributes attributes) fun _ => routine.pure _

end

end Terms

section Arguments

theorem className (value : Value) : routine.Of (Argument.className value) :=
  routine.bind (routine.classOf value) fun _ => routine.pure _

theorem textArgument (value : Value) (complaint : String → String) :
    routine.Of (Argument.text value complaint) := by
  unfold Argument.text
  refine routine.bind (routine.contentOf value) ?_
  intro content
  split
  · exact routine.pure _
  · exact routine.bind (routine.className value) fun _ => routine.throw _

theorem integer (value : Value) : routine.Of (Argument.integer value) := by
  unfold Argument.integer
  refine routine.bind (routine.contentOf value) ?_
  intro content
  split
  · exact routine.pure _
  · exact routine.bind (routine.className value) fun _ => routine.throw _

theorem size (value : Value) : routine.Of (Argument.size value) := by
  unfold Argument.size
  exact routine.bind (routine.integer value) fun _ => routine.ite (routine.throw _) (routine.pure _)

theorem width (value : Value) : routine.Of (Argument.width value) := by
  unfold Argument.width
  refine routine.bind (routine.size value) ?_
  intro number
  exact routine.bind (routine.requireRoom _) fun _ => routine.pure _

theorem smallOr (default : ℤ) (value : Option Value) : routine.Of (Argument.smallOr default value) := by
  unfold Argument.smallOr
  split
  · exact routine.pure _
  · exact routine.bind (routine.integer _) fun _ => routine.ite (routine.throw _) (routine.pure _)

theorem sizeOr (default : ℤ) (value : Option Value) : routine.Of (Argument.sizeOr default value) := by
  unfold Argument.sizeOr
  split
  · exact routine.pure _
  · exact routine.size _

end Arguments

end Act.Routine

end MemberDispatch
