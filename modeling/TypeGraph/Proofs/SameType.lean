/-
Two references are the same type if each satisfies the other.

`sameType` looks at two references alone: it takes equal wrappers off both of them at once,
and compares what is left by identity.  `isSubtype` also takes a mark of non-null off the
left side alone, and where no wrapper is left it asks a schema for members.  Each of these
steps loses something for good.  A mark that is dropped going one way is missing going
back, since nothing nullable satisfies what is never null.  And a membership leads from an
object to an abstract type, from where no other leads back.  So a pair that is accepted both
ways has met only the steps that `sameType` takes as well, in whatever schema.
-/
import TypeGraph.Proofs.SubtypeOrder

namespace TypeGraph

/-! ### Wrappers and what they are around -/

/-- What may stand around a type. -/
inductive Wrapper
  | list
  | nonNull
  deriving DecidableEq

namespace Ref

/-- The wrappers of a reference, the outermost first. -/
def wrappers : Ref → List Wrapper
  | list inner => .list :: inner.wrappers
  | nonNull inner => .nonNull :: inner.wrappers
  | _ => []

/-- A reference is told by its wrappers and what they are around. -/
theorem eq_iff_wrappers_core {a b : Ref} :
    a = b ↔ a.wrappers = b.wrappers ∧ a.core = b.core := by
  refine ⟨?_, ?_⟩
  · rintro rfl
    exact ⟨rfl, rfl⟩
  · rintro ⟨hwrappers, hcore⟩
    induction a generalizing b with
    | list a ih =>
        cases b with
        | list b => rw [ih (List.cons.inj hwrappers).2 hcore]
        | _ => simp [wrappers] at hwrappers
    | nonNull a ih =>
        cases b with
        | nonNull b => rw [ih (List.cons.inj hwrappers).2 hcore]
        | _ => simp [wrappers] at hwrappers
    | _ =>
        cases b with
        | list b => simp [wrappers] at hwrappers
        | nonNull b => simp [wrappers] at hwrappers
        | _ => exact hcore

/-- The test takes off wrapper after wrapper, and so finds references equal that are. -/
theorem sameType_eq_true_iff {a b : Ref} : a.sameType b = true ↔ a = b := by
  induction a generalizing b with
  | list a ih =>
      cases b with
      | list b => rw [sameType, ih, list.injEq]
      | _ => simp [sameType]
  | nonNull a ih =>
      cases b with
      | nonNull b => rw [sameType, ih, nonNull.injEq]
      | _ => simp [sameType]
  | _ => simp [sameType]

end Ref

namespace Schema

variable {S : Schema}

/-! ### Satisfying each other -/

/-- A membership is not answered by another one. -/
theorem eq_of_isSubtype_unwrapped {a b : Ref} (ha : a.isWrapping = false)
    (hab : S.isSubtype a b = true) (hba : S.isSubtype b a = true) : a = b := by
  rcases (isSubtype_unwrapped ha).mp hab with heq | hbehind
  · exact heq
  · have hb : b.isWrapping = false := by
      obtain ⟨_, _, -, rfl, -⟩ := hbehind
      rfl
    rcases (isSubtype_unwrapped hb).mp hba with heq | hback
    · exact heq.symm
    · exact absurd hback (not_behind_behind hbehind)

/-- Only equal references satisfy each other. -/
theorem isSubtype_antisymm {a b : Ref} (hab : S.isSubtype a b = true)
    (hba : S.isSubtype b a = true) : a = b := by
  induction a generalizing b with
  | list a ih =>
      obtain ⟨b, rfl, hab⟩ := isSubtype_list.mp hab
      obtain ⟨a', heq, hba⟩ := isSubtype_list.mp hba
      cases heq
      rw [ih hab hba]
  | nonNull a ih =>
      -- The right side is below something never null, so it has a mark to set against this one.
      have hb : b.isNonNull = true := isNonNull_of_isSubtype hba
      rcases isSubtype_nonNull.mp hab with ⟨b, rfl, hab⟩ | ⟨hnone, -⟩
      · rcases isSubtype_nonNull.mp hba with ⟨a', heq, hba⟩ | ⟨hnone, -⟩
        · cases heq
          rw [ih hab hba]
        · exact Bool.noConfusion hnone
      · rw [hb] at hnone
        exact Bool.noConfusion hnone
  | _ => exact eq_of_isSubtype_unwrapped rfl hab hba

/--
**Being the same type is satisfying each other.**  Whatever the schema, two references are
found to be the same type if and only if each is a subtype of the other.  That is an
equivalence, and it holds just of references with the same wrappers, in order, around the
same thing.
-/
theorem sameType_iff_mutual_subtypes (S : Schema) :
    (∀ a b : Ref,
      a.sameType b = true ↔ S.isSubtype a b = true ∧ S.isSubtype b a = true) ∧
    Equivalence (fun a b : Ref => a.sameType b = true) ∧
    ∀ a b : Ref, a.sameType b = true ↔ a.wrappers = b.wrappers ∧ a.core = b.core := by
  refine ⟨?bothWays, ?equivalence, ?told⟩
  case bothWays =>
    intro a b
    rw [Ref.sameType_eq_true_iff]
    refine ⟨?_, fun ⟨hab, hba⟩ => isSubtype_antisymm hab hba⟩
    rintro rfl
    exact ⟨isSubtype_refl a, isSubtype_refl a⟩
  case equivalence =>
    simp only [Ref.sameType_eq_true_iff]
    exact ⟨fun _ => rfl, Eq.symm, Eq.trans⟩
  case told =>
    intro a b
    rw [Ref.sameType_eq_true_iff, Ref.eq_iff_wrappers_core]

end Schema

end TypeGraph
