import MemberDispatch.Proofs.Class.Coherence

/-!
# What derived classes count as

A class that counts as a subclass of another hands this down to the classes that derive from it.
There is one exception: a class can count as a subclass of an abstract class by having the members
that define it, and a derived class can withdraw one of them. All objects have a hash, and lists
have none.
-/

namespace MemberDispatch

namespace World

/-- That a class lacks members by which its ancestor counts as a subclass of an abstract class. -/
structure Withdraws (world : World) (cls ancestor target : ClassId) : Prop where
  abstractTarget : world.isAbstract target = true
  lacks : ∃ kind : BuiltinClass, world.isSubclass (.builtin kind) target = true ∧
    world.definesAll ancestor (.builtin kind) = true ∧
    world.definesAll cls (.builtin kind) = false

variable {world : World} {cls ancestor target : ClassId}

theorem isSubclassWithin_of_derives (derives : world.linearization ancestor ⊆ world.linearization cls)
    {depth : ℕ} (counts : world.isSubclassWithin depth ancestor target = true) :
    world.isSubclassWithin depth cls target = true ∨
      (world.isAbstract target = true ∧
        ∃ kind : BuiltinClass, world.isSubclassWithin depth (.builtin kind) target = true ∧
          world.definesAll ancestor (.builtin kind) = true ∧
          world.definesAll cls (.builtin kind) = false) := by
  -- Either the class derives from what the ancestor derives from, or it lacks members that make the
  -- ancestor a subclass; the latter is handed up through the classes below the target.
  induction depth generalizing target with
  | zero =>
      left
      simp only [isSubclassWithin, List.contains_iff_mem] at counts ⊢
      exact derives counts
  | succ depth ih =>
      simp only [isSubclassWithin, Bool.or_eq_true, Bool.and_eq_true, List.contains_iff_mem,
        List.any_eq_true] at counts ⊢
      rcases counts with derived | ⟨isAbstract, (defines | ⟨subclass, mem, counts⟩) |
        ⟨subclass, mem, counts⟩⟩
      · exact .inl (.inl (derives derived))
      · rcases target with kind | name
        · rcases kept : world.definesAll cls (.builtin kind) with _ | _
          · refine .inr ⟨isAbstract, kind, .inl ?_, defines, kept⟩
            exact List.mem_map_of_mem kind.mem_linearization
          · exact .inl (.inr ⟨isAbstract, .inl (.inl rfl)⟩)
        · simp [definesAll] at defines
      · rcases ih counts with counts | ⟨-, kind, counts, lacks⟩
        · exact .inl (.inr ⟨isAbstract, .inl (.inr ⟨subclass, mem, counts⟩)⟩)
        · exact .inr ⟨isAbstract, kind, .inr ⟨isAbstract, .inl (.inr ⟨subclass, mem, counts⟩)⟩,
            lacks⟩
      · rcases ih counts with counts | ⟨-, kind, counts, lacks⟩
        · exact .inl (.inr ⟨isAbstract, .inr ⟨subclass, mem, counts⟩⟩)
        · exact .inr ⟨isAbstract, kind, .inr ⟨isAbstract, .inr ⟨subclass, mem, counts⟩⟩, lacks⟩

/-- What a class counts as a subclass of, the classes that derive from it do too, unless they
withdraw the members for it. -/
theorem isSubclass_of_derives (derives : world.linearization ancestor ⊆ world.linearization cls)
    (counts : world.isSubclass ancestor target = true) :
    world.isSubclass cls target = true ∨ world.Withdraws cls ancestor target := by
  rcases isSubclassWithin_of_derives derives counts with counts | ⟨isAbstract, lacks⟩
  · exact .inl counts
  · exact .inr ⟨isAbstract, lacks⟩

end World

end MemberDispatch
