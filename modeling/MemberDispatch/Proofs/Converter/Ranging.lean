import MemberDispatch.Proofs.Index.Landing
import MemberDispatch.Proofs.Routine.Lasting
import MemberDispatch.Proofs.Session.Looking

/-!
# Ranges of objects

An object of a class that derives from that of the whole numbers is a whole number of its own, and it is
asked whether it is in the range of a width. If its class leaves the order to the built-in classes, the
answer is that of the number. A class that has an order itself may say anything.
-/

namespace MemberDispatch

/-- That a value is a whole number in a session, or holds one, and leaves its order to the built-in
classes. -/
structure Engine.Ranks (engine : Engine) (session : Session) (value : Value) (number : ℤ) : Prop where
  whole : (value.content session.objects).Whole number
  inherited : engine.Leaves ["__le__", "__ge__"] (value.classOf session.objects)

namespace Engine

variable {engine : Engine} {session : Session} {left right value : Value} {first second number : ℤ}

theorem ranks_int (engine : Engine) (session : Session) (number : ℤ) :
    engine.Ranks session (.int number) number where
  whole := .int number
  inherited name _ := engine.declaredMethod?_builtin .int name

theorem Ranks.runFrom_compareFrom (isLeft : engine.Ranks session left first)
    (isRight : engine.Ranks session right second) {comparison : Comparison}
    (bounding : Bounding comparison) :
    (engine.compareFrom comparison left right).runFrom session =
      (.ok (.bool (comparison.holds (compare first second))), session) := by
  have builtin := engine.runFrom_compareBuiltin_whole comparison isLeft.whole isRight.whole
  have ownless : engine.declaredMethod? (left.classOf session.objects) comparison.memberName =
      none := by
    apply isLeft.inherited
    cases bounding with
    | le => exact List.mem_cons_self
    | ge => exact List.mem_cons_of_mem _ List.mem_cons_self
  unfold compareFrom
  rw [Act.runFrom_bind_of_ok (Act.runFrom_classOf left session), ownless]
  cases bounding with
  | le => exact builtin
  | ge => exact builtin

section Testing

variable {world : World} {level : ℕ} {width : Width} {last : Session}

theorem Ranks.runFrom_compares (isLeft : (machine world level).Ranks session left first)
    (isRight : (machine world level).Ranks session right second) :
    ((machine world (level + 1)).compares .le left right).runFrom session =
      (.ok (decide (first ≤ second)), session) := by
  rw [← holds_le]
  apply runFrom_compares_of_answer
  exact runFrom_compareWith_of_answers (isLeft.runFrom_compareFrom isRight .le)
    (isRight.runFrom_compareFrom isLeft .ge)

theorem Ranks.runFrom_inRange (wide : 1 ≤ width.bits)
    (ranks : (machine world level).Ranks session value number) :
    ((machine world (level + 1)).inRange width value).runFrom session =
      (.ok (decide (width.Spans number)), session) := by
  apply runFrom_inRange_of_answers wide
  · exact fun bound => (ranks_int _ session bound).runFrom_compares ranks
  · exact fun bound => ranks.runFrom_compares (ranks_int _ session bound)

/-- Only what is of the class of its numbers is accepted for a width. -/
theorem isSubclass_of_isOfKey_exact
    (tested : (engine.isOfKey (.exact width) value).runFrom session = (.ok true, last)) :
    engine.world.isSubclass (value.classOf session.objects) width.representation = true := by
  by_contra other
  have no : engine.hierarchy.isSubclass (value.classOf session.objects) width.representation =
      false :=
    Bool.eq_false_iff.mpr other
  have refused : (engine.isOfWidth width value).runFrom session = (.ok false, session) := by
    rw [isOfWidth, Act.runFrom_bind, Act.runFrom_isInstance, no]
    rfl
  cases value with
  | none => cases tested
  | _ => cases refused.symm.trans tested

/-- An object of a class that is not above all others is one of the session. -/
theorem present_of_isSubclass {kind : BuiltinClass}
    (ofKind : world.isSubclass (value.classOf session.objects) (.builtin kind) = true)
    (proper : world.isSubclass .object (.builtin kind) = false) (address : ℕ)
    (isObject : value = .object address) : address < session.objects.size := by
  subst isObject
  by_contra beyond
  have missing : (Value.object address).classOf session.objects = .object := by
    simp only [Value.classOf, Array.getElem?_eq_none (Nat.not_lt.mp beyond)]
  rw [missing, proper] at ofKind
  cases ofKind

/-- What was accepted for a range is of the class of its numbers and, unless its class has an order of
its own, in the range. -/
theorem spans_of_accepts (wide : 1 ≤ width.bits)
    (ofInts : width.representation = .builtin .int)
    (accepts : (machine world (level + 1)).Accepts (.exact width) value last) :
    world.isSubclass (value.classOf last.objects) (.builtin .int) = true ∧
      (world.Leaves ["__le__", "__ge__"] (value.classOf last.objects) →
        ∀ number, (value.content last.objects).Whole number → width.Spans number) := by
  obtain ⟨begun, tested⟩ := accepts
  have present : value ≠ .none := by
    rintro rfl
    cases tested
  have instances : world.isSubclass (value.classOf begun.objects) (.builtin .int) = true :=
    ofInts ▸ isSubclass_of_isOfKey_exact tested
  have lasts := (lasting_machine world (level + 1)).keeps.isOfKey (.exact width) value begun
  rw [tested] at lasts
  have same := lasts.classOf_eq (present_of_isSubclass instances rfl)
  refine ⟨same ▸ instances, ?_⟩
  intro leaves number whole
  -- The test only looked, so it was made of the value as it stands.
  have bounded : (width.bits != 0) = true := bne_iff_ne.mpr (by omega)
  have asks : (TypeKey.exact width).asks = ["__le__", "__ge__"] := if_pos bounded
  have looks : ((machine world (level + 1)).isOfKey (.exact width) value).LooksAt value begun _ :=
    looks_isOfKey level (asks ▸ same ▸ leaves)
  obtain ⟨rfl, -⟩ := looks.run_eq (.refl value begun) tested
  have ranks : (machine world level).Ranks last value number := ⟨whole, leaves.machine level⟩
  rw [runFrom_isOfKey_exact present (ofInts ▸ instances), if_pos bounded,
    ranks.runFrom_inRange wide] at tested
  simpa using tested

end Testing

end Engine

end MemberDispatch
