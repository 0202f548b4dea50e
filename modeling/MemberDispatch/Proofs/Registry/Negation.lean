import MemberDispatch.Proofs.Registry.Operators

/-!
# Equality and inequality

A value is tested for equality and for inequality by two members that are found independently. They
give opposite answers if the operators do, as long as both are methods declared under these names and
both are handed the same value. The answers can agree where a class declares its two tests for
different arguments, so that only one of them converts what it is given, where a provider has a
function for one of them, and where a class exposes another method as one of them.
-/

namespace MemberDispatch

/-- That equality and inequality of the objects of a class are answered with truth values, and with
opposite ones. -/
def Engine.Opposes (engine : Engine) (cls : ClassId) : Prop :=
  ∀ (target operand : Value) (session : Session), target.classOf session.objects = cls →
    ∃ truth equal unequal,
      (engine.call (.operation (.compare .eq)) [target, operand]).runFrom session =
        (.ok (.bool truth), equal) ∧
      (engine.call (.operation (.compare .ne)) [target, operand]).runFrom session =
        (.ok (.bool !truth), unequal)

section Insisting

/-- A test that always gives the same answer. -/
def insisting (qualifiedName : String) (type : Annotation) (truth : Bool) : FunctionDecl where
  qualifiedName := qualifiedName
  parameters := some [{ name := "self" }, { name := "other", type }]
  code := .body (.constant (.bool truth))

/-- That a class answers both tests by itself, always in the same way. -/
structure World.Insists (world : World) (cls : ClassId) (truth : Bool) : Prop where
  equality : ∃ owner qualifiedName type, world.entryAlong? cls "__eq__" =
    some (.declared owner, .method (insisting qualifiedName type truth))
  inequality : ∃ owner qualifiedName type, world.entryAlong? cls "__ne__" =
    some (.declared owner, .method (insisting qualifiedName type !truth))

variable {world : World} {level : ℕ} {left right : Value} {session : Session}

theorem runFrom_call_insisting (qualifiedName : String) (type : Annotation) (truth : Bool) :
    ((machine world (level + 1)).call (.plain (insisting qualifiedName type truth))
      [left, right]).runFrom session = (.ok (.bool truth), session) :=
  rfl

theorem runFrom_compareFrom_insisting {comparison : Comparison} {owner qualifiedName : String}
    {type : Annotation} {truth : Bool}
    (declares : world.entryAlong? (left.classOf session.objects) comparison.memberName =
      some (.declared owner, .method (insisting qualifiedName type truth))) :
    ((machine world (level + 1)).compareFrom comparison left right).runFrom session =
      (.ok (.bool truth), session) := by
  have method : (machine world (level + 1)).declaredMethod? (left.classOf session.objects)
      comparison.memberName = some (insisting qualifiedName type truth) := by
    have sees : (machine world (level + 1)).world = world := rfl
    rw [Engine.declaredMethod?, sees, declares]
  unfold Engine.compareFrom
  rw [Act.runFrom_bind_of_ok (Act.runFrom_classOf left session), method]
  exact runFrom_call_insisting qualifiedName type truth

/-- A right operand of a class below answers first. -/
theorem runFrom_compareWith_of_below {comparison : Comparison}
    (symmetric : comparison.mirrored = comparison) {owner qualifiedName : String}
    {type : Annotation} {truth : Bool}
    (other : left.classOf session.objects ≠ right.classOf session.objects)
    (below : left.classOf session.objects ∈ world.linearization (right.classOf session.objects))
    (declares : world.entryAlong? (right.classOf session.objects) comparison.memberName =
      some (.declared owner, .method (insisting qualifiedName type truth))) :
    ((machine world (level + 1)).compareWith comparison left right).runFrom session =
      (.ok (.bool truth), session) := by
  have first : (left.classOf session.objects != right.classOf session.objects &&
      (world.linearization (right.classOf session.objects)).contains
        (left.classOf session.objects)) = true := by
    simp [other, below]
  have sees : (machine world (level + 1)).world = world := rfl
  unfold Engine.compareWith
  rw [Act.runFrom_bind_of_ok (Act.runFrom_classOf left session),
    Act.runFrom_bind_of_ok (Act.runFrom_classOf right session)]
  simp only [sees, first, if_true, symmetric]
  rw [Act.runFrom_bind_of_ok (runFrom_compareFrom_insisting declares)]
  rfl

/-- Otherwise the left operand does. -/
theorem runFrom_compareWith_of_aside {comparison : Comparison} {owner qualifiedName : String}
    {type : Annotation} {truth : Bool}
    (aside : left.classOf session.objects = right.classOf session.objects ∨
      left.classOf session.objects ∉ world.linearization (right.classOf session.objects))
    (declares : world.entryAlong? (left.classOf session.objects) comparison.memberName =
      some (.declared owner, .method (insisting qualifiedName type truth))) :
    ((machine world (level + 1)).compareWith comparison left right).runFrom session =
      (.ok (.bool truth), session) := by
  have first : (left.classOf session.objects != right.classOf session.objects &&
      (world.linearization (right.classOf session.objects)).contains
        (left.classOf session.objects)) = false := by
    rcases aside with same | outside
    · simp [same]
    · simp [outside]
  have sees : (machine world (level + 1)).world = world := rfl
  unfold Engine.compareWith
  rw [Act.runFrom_bind_of_ok (Act.runFrom_classOf left session),
    Act.runFrom_bind_of_ok (Act.runFrom_classOf right session)]
  simp only [sees, first, Bool.false_eq_true, if_false, pure_bind]
  rw [Act.runFrom_bind_of_ok (runFrom_compareFrom_insisting declares)]
  rfl

theorem World.exists_of_mem_linearization {name : String} {other : ClassId}
    (below : .declared name ∈ world.linearization other) (different : other ≠ .declared name) :
    ∃ decl ∈ world.classes, other = .declared decl.name ∧ .declared name ∈ decl.linearization := by
  rcases other with kind | otherName
  · simp [World.linearization] at below
  · rcases found : world.class? otherName with _ | decl
    · simp only [World.linearization, found, List.mem_cons, reduceCtorEq, List.not_mem_nil,
        or_false] at below
      exact absurd below.symm different
    · have named : decl.name = otherName := by simpa using List.find?_some found
      simp only [World.linearization, found] at below
      exact ⟨decl, List.mem_of_find?_eq_some found, named ▸ rfl, below⟩

/-- Machines oppose equality to inequality where a class and all below it answer both by themselves. -/
theorem opposes_machine {name : String} (own : ∃ answer, world.Insists (.declared name) answer)
    (below : ∀ decl ∈ world.classes, .declared name ∈ decl.linearization →
      ∃ answer, world.Insists (.declared decl.name) answer) (level : ℕ) :
    (machine world (level + 3)).Opposes (.declared name) := by
  intro target operand session ofClass
  -- The operand is asked first if its class stands below that of the target, and never otherwise.
  by_cases aside : .declared name = operand.classOf session.objects ∨
      .declared name ∉ world.linearization (operand.classOf session.objects)
  · obtain ⟨truth, insists⟩ := own
    obtain ⟨_, _, _, equality⟩ := insists.equality
    obtain ⟨_, _, _, inequality⟩ := insists.inequality
    rw [← ofClass] at aside equality inequality
    exact ⟨truth, session, session, runFrom_compareWith_of_aside aside equality,
      runFrom_compareWith_of_aside aside inequality⟩
  · obtain ⟨other, under⟩ := not_or.mp aside
    have under := not_not.mp under
    obtain ⟨decl, mem, ofDecl, above⟩ := World.exists_of_mem_linearization under (Ne.symm other)
    obtain ⟨truth, insists⟩ := below decl mem above
    obtain ⟨_, _, _, equality⟩ := insists.equality
    obtain ⟨_, _, _, inequality⟩ := insists.inequality
    rw [← ofClass] at other under
    rw [← ofDecl] at equality inequality
    exact ⟨truth, session, session, runFrom_compareWith_of_below rfl other under equality,
      runFrom_compareWith_of_below rfl other under inequality⟩

end Insisting

/-- That a member is a method that a class above declares under a name other than the member's. -/
def Member.IsRenamed (world : World) (cls : ClassId) (member : Member) : Prop :=
  ∃ ancestor ∈ world.linearization cls, ∃ ownName function, ownName ≠ member.name ∧
    (ownName, .method function) ∈ world.entries ancestor ∧
    function.exposedName = some member.name ∧
    member.role = .method (function.callableAt ownName member.arity)

section Comparing

variable {world : World} {cls : ClassId} {member : Member}

theorem ofMemberName_comparison (comparison : Comparison) :
    Operator.ofMemberName? comparison.memberName = some (.compare comparison) := by
  cases comparison <;> decide

theorem Member.IsMethod.isRenamed {ancestor : ClassId} {table : ConverterTable} {ownName : String}
    {function : FunctionDecl} {signature : Signature} (above : ancestor ∈ world.linearization cls)
    (isMethod : member.IsMethod world ancestor table ownName function signature)
    (other : ownName ≠ member.name) : member.IsRenamed world cls := by
  have exposed : function.exposedName = some member.name := by
    have named := isMethod.name
    rcases asked : function.exposedName with _ | name
    · rw [asked] at named
      exact absurd named.symm other
    · rw [asked] at named
      exact congrArg some named.symm
  exact ⟨ancestor, above, ownName, function, other, isMethod.entry, exposed, isMethod.role⟩

/-- A method with one argument that is declared under the name of a comparison runs the comparison. -/
theorem Member.Arises.use_of_comparison {providersOf : ClassId → List Owner}
    {table : ConverterTable} (arises : member.Arises world providersOf cls table)
    {comparison : Comparison} (named : member.name = comparison.memberName)
    (original : ¬ member.IsRenamed world cls) {callable : Callable}
    (method : member.role = .method callable) (single : member.arity = 1) (engine : Engine)
    (target value : Value) :
    engine.use member target [value] =
      engine.call (.operation (.compare comparison)) [target, value] := by
  have takes : [value].length = member.arity := single.symm
  have used := Registry.use_of_arises arises engine target takes
  cases arises with
  | received above brings receives =>
      rw [receives.role] at method
      cases method
  | declared above declared =>
      obtain ⟨ownName, function, signature, isMethod⟩ := declared.isMethod method
      have own : ownName = comparison.memberName := by
        by_contra other
        exact original (isMethod.isRenamed above (named ▸ other))
      rw [isMethod.role, single, FunctionDecl.callableAt, own, ofMemberName_comparison] at used
      exact used

namespace Registry

/-- After any run, what is found for an argument by the names of equality and of inequality gives
opposite answers where the operators do, if both members are methods that are declared under these
names and take the argument for the same value. -/
theorem lookup_opposes (declared : world.Declared) (table : ConverterTable)
    (operations : List Operation) (cls : ClassId) :
    ∃ equality inequality,
      (RegistryM.runOn (after world { table } operations) (Registry.lookup world cls "__eq__")).1 =
        .ok equality ∧
      (RegistryM.runOn (after world { table } operations) (Registry.lookup world cls "__ne__")).1 =
        .ok inequality ∧
      ∀ {engine : Engine}, engine.Opposes cls → ∀ {onlyPublic : Bool} {required : ClassId}
        {argument : Value} {values : List Value} {extras : ℤ} {begun between start last : Session}
        {equal unequal : Member} {equals differs : Callable},
        (engine.choose equality onlyPublic required [argument] extras).runFrom begun =
          (.ok (some ⟨equal, values⟩), between) →
        (engine.choose inequality onlyPublic required [argument] extras).runFrom start =
          (.ok (some ⟨unequal, values⟩), last) →
        equal.role = .method equals → ¬ equal.IsRenamed world cls →
        unequal.role = .method differs → ¬ unequal.IsRenamed world cls →
          ∀ (target : Value) (session : Session), target.classOf session.objects = cls →
            ∃ truth after other,
              (engine.use equal target values).runFrom session = (.ok (.bool truth), after) ∧
              (engine.use unequal target values).runFrom session = (.ok (.bool !truth), other) := by
  obtain ⟨equality, answered, arises⟩ := lookup_arises declared table operations cls "__eq__"
  obtain ⟨inequality, answeredToo, arisesToo⟩ :=
    lookup_arises declared table operations cls "__ne__"
  refine ⟨equality, inequality, answered, answeredToo, ?_⟩
  intro engine opposes onlyPublic required argument values extras begun between start last equal
    unequal equals differs found foundToo method original methodToo originalToo target session
    ofClass
  obtain ⟨titled, arises⟩ := arises equal (Engine.trial_of_choose found).1
  obtain ⟨titledToo, arisesToo⟩ := arisesToo unequal (Engine.trial_of_choose foundToo).1
  obtain ⟨_, converts⟩ := Engine.converts_of_choose found
  obtain ⟨_, convertsToo⟩ := Engine.converts_of_choose foundToo
  obtain ⟨converter, value, single, taken, -⟩ := converts.of_single
  obtain ⟨converterToo, _, singleToo, -⟩ := convertsToo.of_single
  cases taken
  obtain ⟨truth, after, other, equals, differs⟩ := opposes target value session ofClass
  refine ⟨truth, after, other, ?_, ?_⟩
  · have single : equal.arity = 1 := congrArg List.length single
    have named : equal.name = Comparison.eq.memberName := titled
    rw [arises.use_of_comparison named original method single engine target value]
    exact equals
  · have single : unequal.arity = 1 := congrArg List.length singleToo
    have named : unequal.name = Comparison.ne.memberName := titledToo
    rw [arisesToo.use_of_comparison named originalToo methodToo single engine target value]
    exact differs

end Registry

end Comparing

namespace Registry

section Disagreeing

/-- That for some object of a class the tests for equality and for inequality with an argument both
hold, after some operations, although the operators oppose each other. -/
structure BothHold (world : World) (operations : List Operation) (name : String)
    (argument : Value) : Prop where
  declared : world.Declared
  opposes : world.engine.Opposes (.declared name)
  equality : Yields world operations (holding (.declared name)) (.object 0) (.declared name) "__eq__"
    [argument] (.bool true)
  inequality : Yields world operations (holding (.declared name)) (.object 0) (.declared name)
    "__ne__" [argument] (.bool true)

/-- A class that takes anything for a test for equality and whole numbers for one for inequality, over
a class whose objects count as equal to everything. -/
def leaning : World :=
  World.addClass (World.addClass {}
    { name := "K"
      entries := [("__eq__", .method (insisting "K.__eq__" (.cls .object) false)),
        ("__ne__", .method (insisting "K.__ne__" (.cls (.builtin .int)) true))] })
    { name := "L"
      bases := [.declared "K"]
      entries := [("__eq__", .method (insisting "L.__eq__" (.cls .object) true)),
        ("__ne__", .method (insisting "L.__ne__" (.cls .object) false))] }

/-- A class that tests against whole numbers, and a class with a test for equality to a text. -/
def assisted : World :=
  World.addClass (World.addClass {}
    { name := "K"
      entries := [("__eq__", .method (insisting "K.__eq__" (.cls (.builtin .int)) false)),
        ("__ne__", .method (insisting "K.__ne__" (.cls (.builtin .int)) true))] })
    { name := "P"
      entries := [("__eq__", .staticMethod
        { qualifiedName := "P.__eq__"
          parameters := some [{ name := "k", type := .cls (.declared "K") },
            { name := "other", type := .cls (.builtin .text) }]
          code := .body (.constant (.bool true)) })] }

/-- A class that tests against whole numbers, and exposes another method as a test for equality to a
text. -/
def exposing : World :=
  World.addClass {}
    { name := "K"
      entries := [("__eq__", .method (insisting "K.__eq__" (.cls (.builtin .int)) false)),
        ("__ne__", .method (insisting "K.__ne__" (.cls (.builtin .int)) true)),
        ("same", .method { insisting "K.same" (.cls (.builtin .text)) true with
          exposedName := some "__eq__" })] }

theorem declared_leaning : leaning.Declared :=
  .cls (.cls .start _ (by decide) (by decide) (by decide)) _ (by decide) (by decide) (by decide)

theorem declared_assisted : assisted.Declared :=
  .cls (.cls .start _ (by decide) (by decide) (by decide)) _ (by decide) (by decide) (by decide)

theorem declared_exposing : exposing.Declared :=
  .cls .start _ (by decide) (by decide) (by decide)

theorem opposes_leaning : leaning.engine.Opposes (.declared "K") := by
  have own : leaning.Insists (.declared "K") false := ⟨⟨_, _, _, rfl⟩, ⟨_, _, _, rfl⟩⟩
  have below : leaning.Insists (.declared "L") true := ⟨⟨_, _, _, rfl⟩, ⟨_, _, _, rfl⟩⟩
  refine opposes_machine ⟨false, own⟩ ?_ 997
  intro decl mem _
  rcases mem with _ | ⟨_, _ | ⟨_, mem⟩⟩
  · exact ⟨false, own⟩
  · exact ⟨true, below⟩
  · cases mem

theorem opposes_assisted : assisted.engine.Opposes (.declared "K") := by
  have own : assisted.Insists (.declared "K") false := ⟨⟨_, _, _, rfl⟩, ⟨_, _, _, rfl⟩⟩
  refine opposes_machine ⟨false, own⟩ ?_ 997
  intro decl mem above
  rcases mem with _ | ⟨_, _ | ⟨_, mem⟩⟩
  · exact ⟨false, own⟩
  · exact absurd above (by decide)
  · cases mem

theorem opposes_exposing : exposing.engine.Opposes (.declared "K") := by
  have own : exposing.Insists (.declared "K") false := ⟨⟨_, _, _, rfl⟩, ⟨_, _, _, rfl⟩⟩
  refine opposes_machine ⟨false, own⟩ ?_ 997
  intro decl mem _
  rcases mem with _ | ⟨_, mem⟩
  · exact ⟨false, own⟩
  · cases mem

theorem bothHold_of_test {world : World} {operations : List Operation} {name : String}
    {argument : Value} (declared : world.Declared)
    (opposes : world.engine.Opposes (.declared name))
    (test : ["__eq__", "__ne__"].all (fun member =>
      (usedIn world operations (holding (.declared name)) (.object 0) (.declared name) member
        [argument]).any (agrees (.bool true))) = true) :
    BothHold world operations name argument where
  declared := declared
  opposes := opposes
  equality := yields_of_usedIn (List.all_eq_true.mp test _ List.mem_cons_self)
  inequality := yields_of_usedIn
    (List.all_eq_true.mp test _ (List.mem_cons_of_mem _ List.mem_cons_self))

/-- Both tests hold where a converter takes the argument for an object of the class, where a provider
tests for equality, and where a class exposes another method for it. -/
theorem both_tests_hold :
    BothHold leaning [.registerConverter (.cls (.declared "K")) (.body (.make "L" []))] "K" (.int 5) ∧
      BothHold assisted [.registerProviders (.declared "K") [.ok (.cls (.declared "P"))]] "K"
        (.text "x") ∧
      BothHold exposing [] "K" (.text "x") := by
  refine ⟨bothHold_of_test declared_leaning opposes_leaning ?_,
    bothHold_of_test declared_assisted opposes_assisted ?_,
    bothHold_of_test declared_exposing opposes_exposing ?_⟩
  · decide +kernel
  · decide +kernel
  · decide +kernel

/-- Whether an object is found a method for, which takes it as it is. -/
def takesAsIs (world : World) (operations : List Operation) (session : Session) (cls : ClassId)
    (name : String) (address : ℕ) : Bool :=
  match foundIn world operations session cls name [.object address] with
  | some (choice, _) => match choice.member.role, choice.arguments with
    | .method _, [.object taken] => taken == address
    | _, _ => false
  | none => false

theorem exists_of_takesAsIs {world : World} {operations : List Operation} {session : Session}
    {cls : ClassId} {name : String} {address : ℕ}
    (test : takesAsIs world operations session cls name address = true) :
    ∃ index member callable last,
      (RegistryM.runOn (after world { table := .standard } operations)
        (Registry.lookup world cls name)).1 = .ok index ∧
      (world.engine.choose index true .object [.object address] 0).runFrom session =
        (.ok (some ⟨member, [.object address]⟩), last) ∧
      member.role = .method callable := by
  unfold takesAsIs at test
  split at test
  · rename_i choice last found
    obtain ⟨index, answered, chosen⟩ := exists_of_foundIn found
    obtain ⟨member, arguments⟩ := choice
    split at test
    · rename_i callable taken method given
      cases given
      rw [beq_iff_eq.mp test] at chosen
      exact ⟨index, member, callable, last, answered, chosen, method⟩
    · cases test
  · cases test

/-- Whether an entry of a class shows under its own name. -/
def keepsName : Entry → Bool
  | .method function => function.exposedName.isNone
  | _ => true

theorem not_isRenamed {world : World} {cls : ClassId}
    (test : ((world.linearization cls).flatMap world.entries).all (fun entry => keepsName entry.2) =
      true) (member : Member) :
    ¬ member.IsRenamed world cls := by
  rintro ⟨ancestor, above, ownName, function, -, entry, exposed, -⟩
  have kept := List.all_eq_true.mp test _ (List.mem_flatMap.mpr ⟨ancestor, above, entry⟩)
  simp [keepsName, exposed] at kept

/-- An object is tested for equality by its class, and for inequality by the class of all objects. -/
theorem lookup_opposes_inherited :
    leaning.Declared ∧ leaning.engine.Opposes (.declared "K") ∧
      ∃ equality inequality equal unequal equals differs between last,
        (RegistryM.runOn (after leaning { table := .standard } [])
          (Registry.lookup leaning (.declared "K") "__eq__")).1 = .ok equality ∧
        (RegistryM.runOn (after leaning { table := .standard } [])
          (Registry.lookup leaning (.declared "K") "__ne__")).1 = .ok inequality ∧
        (leaning.engine.choose equality true .object [.object 0] 0).runFrom
          (holding (.declared "K")) = (.ok (some ⟨equal, [.object 0]⟩), between) ∧
        (leaning.engine.choose inequality true .object [.object 0] 0).runFrom
          (holding (.declared "K")) = (.ok (some ⟨unequal, [.object 0]⟩), last) ∧
        equal.role = .method equals ∧ ¬ equal.IsRenamed leaning (.declared "K") ∧
        unequal.role = .method differs ∧ ¬ unequal.IsRenamed leaning (.declared "K") ∧
        ∃ truth after other,
          (leaning.engine.use equal (.object 0) [.object 0]).runFrom (holding (.declared "K")) =
            (.ok (.bool truth), after) ∧
          (leaning.engine.use unequal (.object 0) [.object 0]).runFrom (holding (.declared "K")) =
            (.ok (.bool !truth), other) := by
  have test : takesAsIs leaning [] (holding (.declared "K")) (.declared "K") "__eq__" 0 = true := by
    decide +kernel
  have testToo : takesAsIs leaning [] (holding (.declared "K")) (.declared "K") "__ne__" 0 = true := by
    decide +kernel
  have kept : ((leaning.linearization (.declared "K")).flatMap leaning.entries).all
      (fun entry => keepsName entry.2) = true := by
    decide +kernel
  obtain ⟨equality, equal, equals, between, answered, found, method⟩ := exists_of_takesAsIs test
  obtain ⟨inequality, unequal, differs, last, answeredToo, foundToo, methodToo⟩ :=
    exists_of_takesAsIs testToo
  obtain ⟨first, second, same, sameToo, opposes⟩ :=
    lookup_opposes declared_leaning .standard [] (.declared "K")
  rw [answered] at same
  rw [answeredToo] at sameToo
  cases same
  cases sameToo
  exact ⟨declared_leaning, opposes_leaning, equality, inequality, equal, unequal, equals, differs,
    between, last, answered, answeredToo, found, foundToo, method, not_isRenamed kept equal,
    methodToo, not_isRenamed kept unequal,
    opposes opposes_leaning found foundToo method (not_isRenamed kept equal) methodToo
      (not_isRenamed kept unequal) (.object 0) (holding (.declared "K")) rfl⟩

end Disagreeing

end Registry

end MemberDispatch
