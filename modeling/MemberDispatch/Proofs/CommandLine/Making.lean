import MemberDispatch.CommandLine
import MemberDispatch.Proofs.CommandLine.Literals
import MemberDispatch.Proofs.Session.Run

/-!
# Making what a literal describes

The value of a literal can be made unless a key in it is a list, a set or a mapping, or a tuple with
one of these in it. Whether a value can be a key is a matter of the classes of objects, which stay as
they are while other parts of the literal are made.
-/

namespace MemberDispatch

namespace Term

mutual

/-- The kind of collection that keeps what a term describes from being a key. -/
def unhashable? : Term → Option BuiltinClass
  | .list _ => some .list
  | .set _ => some .set
  | .dict _ => some .dict
  | .tuple items => firstUnhashable? items
  | _ => Option.none

/-- The kind of the first collection among several terms that is no key. -/
def firstUnhashable? : List Term → Option BuiltinClass
  | [] => Option.none
  | item :: items => (unhashable? item).or (firstUnhashable? items)

end

mutual

/-- The kind of the collection in a term that stands in the place of a key and is none. Of several,
the first that is met. -/
def unfit? : Term → Option BuiltinClass
  | .list items => firstUnfit? items
  | .tuple items => firstUnfit? items
  | .set items => firstUnfitKey? items
  | .dict entries => firstUnfitPair? entries
  | _ => Option.none

/-- The first of these in several terms. -/
def firstUnfit? : List Term → Option BuiltinClass
  | [] => Option.none
  | item :: items => (unfit? item).or (firstUnfit? items)

/-- The first of these in the items of a set, which are keys themselves. -/
def firstUnfitKey? : List Term → Option BuiltinClass
  | [] => Option.none
  | item :: items => (unfit? item).or ((unhashable? item).or (firstUnfitKey? items))

/-- The first of these in the entries of a mapping. -/
def firstUnfitPair? : List (Term × Term) → Option BuiltinClass
  | [] => Option.none
  | (key, value) :: entries =>
      (unfit? key).or ((unfit? value).or ((unhashable? key).or (firstUnfitPair? entries)))

end

end Term

/-- The complaint over a collection of a kind in the place of a key. -/
def Fault.unhashable (kind : BuiltinClass) : Fault :=
  .typeError ("unhashable type: '" ++ kind.operandName ++ "'")

/-- That a session has the objects of another one, and perhaps more. -/
def Session.Grown (session later : Session) : Prop :=
  ∃ more, later.objects = session.objects ++ more

namespace Session.Grown

variable {session between later : Session}

theorem refl (session : Session) : session.Grown session :=
  ⟨#[], Array.append_empty.symm⟩

theorem trans (first : session.Grown between) (second : between.Grown later) :
    session.Grown later := by
  rcases first with ⟨more, grown⟩
  rcases second with ⟨others, grown_again⟩
  refine ⟨more ++ others, ?_⟩
  rw [grown_again, grown, Array.append_assoc]

end Session.Grown

namespace Act

variable {α β : Type}

/-- That making something fails over a collection that is no key, if there is one in the way, or else
gives a result of a kind. Either way objects are only added. -/
def MakesFrom (session : Session) (unfit : Option BuiltinClass)
    (property : α → Array Object → Prop) (work : Act α) : Prop :=
  match unfit with
  | some kind => ∃ after, work.runFrom session = (.error (.unhashable kind), after) ∧
      session.Grown after
  | none => ∃ result after, work.runFrom session = (.ok result, after) ∧ session.Grown after ∧
      property result after.objects

namespace MakesFrom

variable {session : Session} {unfit other : Option BuiltinClass}
  {property : α → Array Object → Prop} {following : β → Array Object → Prop}

theorem pure {result : α} (holds : property result session.objects) :
    MakesFrom session none property (Pure.pure result) :=
  ⟨result, session, rfl, .refl session, holds⟩

theorem bind {work : Act α} {next : α → Act β} (first : MakesFrom session unfit property work)
    (second : ∀ result after, property result after.objects → session.Grown after →
      MakesFrom after other following (next result)) :
    MakesFrom session (unfit.or other) following (work >>= next) := by
  cases unfit with
  | some kind =>
      rcases first with ⟨after, run, grown⟩
      exact ⟨after, runFrom_bind_of_error run next, grown⟩
  | none =>
      rcases first with ⟨result, between, run, grown, holds⟩
      have rest := second result between holds grown
      rw [Option.none_or]
      cases other with
      | some kind =>
          rcases rest with ⟨after, failed, grown_again⟩
          exact ⟨after, (runFrom_bind_of_ok run next).trans failed, grown.trans grown_again⟩
      | none =>
          rcases rest with ⟨made, after, given, grown_again, holds⟩
          exact ⟨made, after, (runFrom_bind_of_ok run next).trans given,
            grown.trans grown_again, holds⟩

/-- What follows without a failure of its own. -/
theorem andThen {work : Act α} {next : α → Act β} (first : MakesFrom session unfit property work)
    (second : ∀ result after, property result after.objects → session.Grown after →
      MakesFrom after none following (next result)) :
    MakesFrom session unfit following (work >>= next) := by
  have both := first.bind second
  rwa [Option.or_none] at both

/-- What follows work without a failure. -/
theorem before {work : Act α} {next : α → Act β} (first : MakesFrom session none property work)
    (second : ∀ result after, property result after.objects → session.Grown after →
      MakesFrom after other following (next result)) :
    MakesFrom session other following (work >>= next) := by
  have both := first.bind second
  rwa [Option.none_or] at both

end MakesFrom

end Act

section Keys

variable {world : World} {item : Term} {items : List Term} {value : Value} {values : List Value}
  {objects : Array Object}

/-- That a value can be a key just if the term can that it was made of, whatever objects are added. -/
structure Value.Keyed (world : World) (term : Term) (value : Value) (objects : Array Object) :
    Prop where
  hashes (more : Array Object) : Engine.unhashable? world (objects ++ more) value =
    term.unhashable?.map .builtin
  quiet : value.isSignaling = false

/-- That the same values are no keys among several as among the terms that they were made of. -/
def Value.AllKeyed (world : World) (terms : List Term) (values : List Value)
    (objects : Array Object) : Prop :=
  ∀ more, Engine.firstUnhashable? world (objects ++ more) values =
    (Term.firstUnhashable? terms).map .builtin

theorem Value.Keyed.later (keyed : value.Keyed world item objects) (added : Array Object) :
    value.Keyed world item (objects ++ added) where
  hashes more := by
    rw [Array.append_assoc]
    exact keyed.hashes (added ++ more)
  quiet := keyed.quiet

theorem Value.AllKeyed.cons {added : Array Object} (first : value.Keyed world item objects)
    (others : AllKeyed world items values (objects ++ added)) :
    AllKeyed world (item :: items) (value :: values) (objects ++ added) := by
  intro more
  have here := (first.later added).hashes more
  have behind := others more
  unfold Engine.firstUnhashable? Term.firstUnhashable?
  rw [here]
  cases item.unhashable? with
  | some kind => rfl
  | none => exact behind

theorem Value.AllKeyed.tuple (keyed : AllKeyed world items values objects) :
    (Value.tuple values).Keyed world (.tuple items) objects where
  hashes more := by
    unfold Engine.unhashable? Term.unhashable?
    exact keyed more
  quiet := rfl

/-- An object of a collection that changes is no key. -/
theorem Value.keyed_of_collection {kind : BuiltinClass} {term : Term} {object : Object}
    (ofKind : object.cls = .builtin kind) (unkept : world.hasMember (.builtin kind) "__hash__" = false)
    (describes : term.unhashable? = some kind) (objects : Array Object) :
    (Value.object objects.size).Keyed world term (objects.push object) where
  hashes more := by
    have found : (objects.push object ++ more)[objects.size]? = some object := by
      rw [Array.getElem?_append_left (by simp), Array.getElem?_push_size]
    have cls : (Value.object objects.size).classOf (objects.push object ++ more) =
        .builtin kind := by
      simp only [Value.classOf, found]
      exact ofKind
    unfold Engine.unhashable?
    simp only [cls, unkept, describes]
    rfl
  quiet := rfl

end Keys

namespace Engine

open Act

variable (engine : Engine) {session : Session} {item : Term} {items : List Term} {key : Value}

/-- That the value of a term is made as often as no key in the way is unfit. -/
def Forms (term : Term) : Prop :=
  ∀ session, MakesFrom session term.unfit? (fun value => value.Keyed engine.world term)
    (engine.makeLiteral term)

/-- Being a key fails for a collection only. -/
theorem makes_requireKey (keyed : key.Keyed engine.world item session.objects) :
    MakesFrom session item.unhashable? (fun _ _ => True) (engine.requireKey key) := by
  have hashes := keyed.hashes #[]
  rw [Array.append_empty] at hashes
  unfold requireKey
  cases kind : item.unhashable? with
  | some kind =>
      rw [kind] at hashes
      refine ⟨session, ?_, .refl session⟩
      simp only [runFrom_bind, runFrom_get, hashes, Option.map_some]
      rfl
  | none =>
      rw [kind] at hashes
      refine ⟨(), session, ?_, .refl session, trivial⟩
      simp only [runFrom_bind, runFrom_get, hashes, Option.map_none, keyed.quiet]
      rfl

theorem makes_allocate {object : Object} {property : Value → Array Object → Prop}
    (holds : property (.object session.objects.size) (session.objects.push object)) :
    MakesFrom session none property (allocate object) := by
  refine ⟨_, _, rfl, ⟨#[object], ?_⟩, holds⟩
  exact Array.append_singleton.symm

/-- What is looked up in a session without a change to it. -/
theorem makes_look {α : Type} {work : Act α} {result : α}
    (run : work.runFrom session = (.ok result, session)) :
    MakesFrom session none (fun _ _ => True) work :=
  ⟨result, session, run, .refl session, trivial⟩

theorem makes_makeLiterals (each : ∀ item ∈ items, engine.Forms item) (session : Session) :
    MakesFrom session (Term.firstUnfit? items)
      (fun values => Value.AllKeyed engine.world items values) (engine.makeLiterals items) := by
  induction items generalizing session with
  | nil => exact .pure fun _ => rfl
  | cons item items ih =>
      rcases List.forall_mem_cons.mp each with ⟨here, behind⟩
      unfold Term.firstUnfit? makeLiterals
      refine (here session).bind ?_
      intro value after keyed _
      refine (ih behind after).andThen ?_
      rintro values later all_keyed ⟨added, grown⟩
      rw [grown] at all_keyed
      refine .pure ?_
      rw [grown]
      exact Value.AllKeyed.cons keyed all_keyed

theorem makes_makeLiteralKeys (each : ∀ item ∈ items, engine.Forms item) (made : List Value)
    (session : Session) :
    MakesFrom session (Term.firstUnfitKey? items) (fun _ _ => True)
      (engine.makeLiteralKeys made items) := by
  induction items generalizing made session with
  | nil => exact .pure trivial
  | cons item items ih =>
      rcases List.forall_mem_cons.mp each with ⟨here, behind⟩
      unfold Term.firstUnfitKey? makeLiteralKeys
      refine (here session).bind ?_
      intro value after keyed _
      refine (engine.makes_requireKey keyed).bind ?_
      intro _ between _ _
      have kept : MakesFrom between none (fun _ _ => True) (engine.hasKey value made) :=
        makes_look rfl
      exact kept.before fun present later _ _ => ih behind _ later

theorem makes_makeLiteralEntries {entries : List (Term × Term)}
    (keys : ∀ entry ∈ entries, engine.Forms entry.1)
    (values : ∀ entry ∈ entries, engine.Forms entry.2) (made : List (Value × Value))
    (session : Session) :
    MakesFrom session (Term.firstUnfitPair? entries) (fun _ _ => True)
      (engine.makeLiteralEntries made entries) := by
  induction entries generalizing made session with
  | nil => exact .pure trivial
  | cons entry entries ih =>
      rcases entry with ⟨keyTerm, valueTerm⟩
      rcases List.forall_mem_cons.mp keys with ⟨key_here, keys_behind⟩
      rcases List.forall_mem_cons.mp values with ⟨value_here, values_behind⟩
      unfold Term.firstUnfitPair? makeLiteralEntries
      refine (key_here session).bind ?_
      intro key after keyed _
      refine (value_here after).bind ?_
      rintro value between _ ⟨added, grown⟩
      -- The key was made before the value, and is asked for its fitness behind it.
      have still := keyed.later added
      rw [← grown] at still
      refine (engine.makes_requireKey still).bind ?_
      intro _ later _ _
      have kept : MakesFrom later none (fun _ _ => True) (engine.updateEntries made key value) := by
        unfold updateEntries
        refine (makes_look (runFrom_get later)).andThen ?_
        intro seen last _ _
        dsimp only
        split
        · exact .pure trivial
        · exact .pure trivial
      exact kept.before fun made last _ _ => ih keys_behind values_behind made last

/-- The value of plain data is made unless a key in it is unfit, and that is all that can fail. -/
theorem makes_makeLiteral {term : Term} (plain : term.Plain) : engine.Forms term := by
  induction plain with
  | none => exact fun _ => .pure ⟨fun _ => rfl, rfl⟩
  | bool value => exact fun _ => .pure ⟨fun _ => rfl, rfl⟩
  | int value => exact fun _ => .pure ⟨fun _ => rfl, rfl⟩
  | float value => exact fun _ => .pure ⟨fun _ => rfl, rfl⟩
  | complex real imaginary => exact fun _ => .pure ⟨fun _ => rfl, rfl⟩
  | text value => exact fun _ => .pure ⟨fun _ => rfl, rfl⟩
  | bytes value => exact fun _ => .pure ⟨fun _ => rfl, rfl⟩
  | list _ each =>
      intro session
      unfold Term.unfit? makeLiteral
      refine (engine.makes_makeLiterals each session).andThen ?_
      intro values after _ _
      exact makes_allocate (Value.keyed_of_collection rfl rfl rfl after.objects)
  | tuple _ each =>
      intro session
      unfold Term.unfit? makeLiteral
      refine (engine.makes_makeLiterals each session).andThen ?_
      intro values after all_keyed _
      exact .pure all_keyed.tuple
  | set _ each =>
      intro session
      unfold Term.unfit? makeLiteral
      refine (engine.makes_makeLiteralKeys each [] session).andThen ?_
      intro values after _ _
      exact makes_allocate (Value.keyed_of_collection rfl rfl rfl after.objects)
  | dict _ _ keys values =>
      intro session
      unfold Term.unfit? makeLiteral
      refine (engine.makes_makeLiteralEntries keys values [] session).andThen ?_
      intro entries after _ _
      exact makes_allocate (Value.keyed_of_collection rfl rfl rfl after.objects)

end Engine

end MemberDispatch
