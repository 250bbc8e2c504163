/-
The subtype test decides an order.

`Satisfies` says which references can stand where another is expected, as the
least reflexive and transitive relation with four rules: never-null satisfies
nullable, both wrappers are monotone, and an object satisfies an abstract type it
is possible for.  `isSubtype` has no rule for chains.  It looks at the outermost
wrappers of both sides, in a fixed order, and never back.

That it still accepts every chain rests on two facts.  Each form of the left side
leaves at most two forms of the right side to compare it with, so a chain can be
followed by recursion on its left end.  And where no wrapper is left a chain has at
most one proper step: it goes from an object to an abstract type, and no type is
both.
-/
import TypeGraph.Subtype

namespace TypeGraph

/-! ### Comparing two unwrapped references -/

namespace Catalog

variable {c : Catalog}

/-- No type is both an object and abstract. -/
theorem isAbstract_of_isObject {r : Ref} (h : c.isKind .object r = true) :
    c.isAbstract r = false := by
  have hkind : c.kind? r = some .object := by simpa [isKind] using h
  simp [isAbstract, hkind, Kind.isAbstract]

theorem coreComparison_settled {a b : Ref} :
    c.coreComparison a b = .settled true ↔ a = b := by
  unfold coreComparison
  by_cases hab : a = b
  · simp [hab]
  · rw [if_neg hab]
    split
    · split <;> simp [hab]
    · simp [hab]

theorem coreComparison_membership {a b : Ref} {object abstract : TypeId} :
    c.coreComparison a b = .membership abstract object ↔
      a ≠ b ∧ a = .named object ∧ b = .named abstract ∧
        c.isKind .object a = true ∧ c.isAbstract b = true := by
  unfold coreComparison
  by_cases hab : a = b
  · simp [hab]
  · rw [if_neg hab]
    split
    · split <;> grind
    · grind

/-- With no wrapper on the left nothing is left to be taken off on the right. -/
theorem comparison_unwrapped {a b : Ref} (ha : a.isWrapping = false) :
    c.comparison a b = c.coreComparison a b := by
  cases a with
  | list inner => simp [Ref.isWrapping, Ref.isNonNull, Ref.isList] at ha
  | nonNull inner => simp [Ref.isWrapping, Ref.isNonNull, Ref.isList] at ha
  | _ => cases b <;> rfl

end Catalog

namespace Schema

/-- `Satisfies S a b`: a value of `a` can stand where `b` is expected.  Two references are equal
when they have the same wrappers around the same thing, so `refl` goes by identity. -/
inductive Satisfies (S : Schema) : Ref → Ref → Prop
  | refl (r : Ref) : Satisfies S r r
  | trans {a b d : Ref} (hab : Satisfies S a b) (hbd : Satisfies S b d) : Satisfies S a d
  | nullable (r : Ref) : Satisfies S (.nonNull r) r
  | list {a b : Ref} (h : Satisfies S a b) : Satisfies S (.list a) (.list b)
  | nonNull {a b : Ref} (h : Satisfies S a b) : Satisfies S (.nonNull a) (.nonNull b)
  | possible {object abstract : TypeId} (hobject : S.catalog.isKind .object (.named object) = true)
      (habstract : S.catalog.isAbstract (.named abstract) = true)
      (hpossible : S.isPossible abstract (.named object) = true) :
      Satisfies S (.named object) (.named abstract)

/-- An object, and an abstract type it is possible for. -/
def Behind (S : Schema) (a b : Ref) : Prop :=
  ∃ object abstract : TypeId, a = .named object ∧ b = .named abstract ∧
    S.catalog.isKind .object a = true ∧ S.catalog.isAbstract b = true ∧
    S.isPossible abstract a = true

variable {S : Schema}

/-! ### What the test says for each form of the left side -/

theorem isSubtype_iff_comparison {a b : Ref} :
    S.isSubtype a b = true ↔
      S.catalog.comparison a b = .settled true ∨
        ∃ object abstract, S.catalog.comparison a b = .membership abstract object ∧
          S.isPossible abstract (.named object) = true := by
  unfold isSubtype
  cases S.catalog.comparison a b with
  | settled answer => simp
  | membership abstract object =>
      refine ⟨fun h => Or.inr ⟨object, abstract, rfl, h⟩, ?_⟩
      intro h
      rcases h with h | ⟨object', abstract', h, hpossible⟩
      · simp at h
      · simp only [Comparison.membership.injEq] at h
        obtain ⟨rfl, rfl⟩ := h
        exact hpossible

/-- An unwrapped reference satisfies itself and the abstract types it is possible for. -/
theorem isSubtype_unwrapped {a b : Ref} (ha : a.isWrapping = false) :
    S.isSubtype a b = true ↔ a = b ∨ S.Behind a b := by
  rw [isSubtype_iff_comparison, Catalog.comparison_unwrapped ha, Catalog.coreComparison_settled]
  simp only [Catalog.coreComparison_membership]
  refine ⟨?_, ?_⟩
  · intro h
    rcases h with hab | ⟨object, abstract, ⟨-, rfl, rfl, hobject, habstract⟩, hpossible⟩
    · exact Or.inl hab
    · exact Or.inr ⟨object, abstract, rfl, rfl, hobject, habstract, hpossible⟩
  · intro h
    rcases h with hab | ⟨object, abstract, rfl, rfl, hobject, habstract, hpossible⟩
    · exact Or.inl hab
    · by_cases hne : Ref.named object = .named abstract
      · exact Or.inl hne
      · exact Or.inr ⟨object, abstract, ⟨hne, rfl, rfl, hobject, habstract⟩, hpossible⟩

/-- A list satisfies only lists. -/
theorem isSubtype_list {a b : Ref} :
    S.isSubtype (.list a) b = true ↔ ∃ inner, b = .list inner ∧ S.isSubtype a inner = true := by
  cases b <;> simp [isSubtype, Catalog.comparison]

/-- A mark of non-null on the left is set against one on the right, or dropped if there is none. -/
theorem isSubtype_nonNull {a b : Ref} :
    S.isSubtype (.nonNull a) b = true ↔
      (∃ inner, b = .nonNull inner ∧ S.isSubtype a inner = true) ∨
        b.isNonNull = false ∧ S.isSubtype a b = true := by
  cases b <;> simp [isSubtype, Catalog.comparison, Ref.isNonNull]

/-- What satisfies something never null is itself marked so. -/
theorem isNonNull_of_isSubtype {a b : Ref} (h : S.isSubtype a (.nonNull b) = true) :
    a.isNonNull = true := by
  cases a with
  | nonNull inner => rfl
  | list inner =>
      obtain ⟨_, hb, -⟩ := isSubtype_list.mp h
      simp at hb
  | _ =>
      rcases (isSubtype_unwrapped rfl).mp h with hb | ⟨_, _, -, hb, -⟩ <;> simp at hb

/-! ### The test is an order closed under the rules -/

theorem isSubtype_refl (r : Ref) : S.isSubtype r r = true := by
  induction r with
  | list inner ih => exact isSubtype_list.mpr ⟨inner, rfl, ih⟩
  | nonNull inner ih => exact isSubtype_nonNull.mpr (Or.inl ⟨inner, rfl, ih⟩)
  | _ => exact (isSubtype_unwrapped rfl).mpr (Or.inl rfl)

theorem isSubtype_nullable (r : Ref) : S.isSubtype (.nonNull r) r = true := by
  induction r with
  | nonNull inner ih => exact isSubtype_nonNull.mpr (Or.inl ⟨inner, rfl, ih⟩)
  | _ => exact isSubtype_nonNull.mpr (Or.inr ⟨rfl, isSubtype_refl _⟩)

/-- Two proper steps between unwrapped references do not follow one another. -/
theorem not_behind_behind {a b d : Ref} (hab : S.Behind a b) : ¬ S.Behind b d := by
  intro hbd
  obtain ⟨_, _, -, -, -, habstract, -⟩ := hab
  obtain ⟨_, _, -, -, hobject, -, -⟩ := hbd
  rw [Catalog.isAbstract_of_isObject hobject] at habstract
  exact Bool.noConfusion habstract

theorem isSubtype_trans_unwrapped {a b d : Ref} (ha : a.isWrapping = false)
    (hab : S.isSubtype a b = true) (hbd : S.isSubtype b d = true) :
    S.isSubtype a d = true := by
  rcases (isSubtype_unwrapped ha).mp hab with rfl | hbehind
  · exact hbd
  · have hb : b.isWrapping = false := by
      obtain ⟨_, _, -, rfl, -⟩ := hbehind
      rfl
    rcases (isSubtype_unwrapped hb).mp hbd with rfl | hbehind'
    · exact hab
    · exact absurd hbehind' (not_behind_behind hbehind)

/-- The test accepts the ends of every chain of two. -/
theorem isSubtype_trans {a b d : Ref} (hab : S.isSubtype a b = true)
    (hbd : S.isSubtype b d = true) : S.isSubtype a d = true := by
  induction a generalizing b d with
  | list a ih =>
      obtain ⟨b, rfl, hab⟩ := isSubtype_list.mp hab
      obtain ⟨d, rfl, hbd⟩ := isSubtype_list.mp hbd
      exact isSubtype_list.mpr ⟨d, rfl, ih hab hbd⟩
  | nonNull a ih =>
      rcases isSubtype_nonNull.mp hab with ⟨b, rfl, hab⟩ | ⟨hb, hab⟩
      · rcases isSubtype_nonNull.mp hbd with ⟨d, rfl, hbd⟩ | ⟨hd, hbd⟩
        · exact isSubtype_nonNull.mpr (Or.inl ⟨d, rfl, ih hab hbd⟩)
        · exact isSubtype_nonNull.mpr (Or.inr ⟨hd, ih hab hbd⟩)
      · -- The middle is nullable, so the right end is too.
        have hd : d.isNonNull = false := by
          cases d with
          | nonNull inner =>
              rw [isNonNull_of_isSubtype hbd] at hb
              exact Bool.noConfusion hb
          | _ => rfl
        exact isSubtype_nonNull.mpr (Or.inr ⟨hd, ih hab hbd⟩)
  | _ => exact isSubtype_trans_unwrapped rfl hab hbd

/-! ### The two agree -/

theorem satisfies_of_behind {a b : Ref} (h : S.Behind a b) : S.Satisfies a b := by
  obtain ⟨object, abstract, rfl, rfl, hobject, habstract, hpossible⟩ := h
  exact .possible hobject habstract hpossible

theorem satisfies_of_isSubtype {a b : Ref} (h : S.isSubtype a b = true) : S.Satisfies a b := by
  induction a generalizing b with
  | list a ih =>
      obtain ⟨b, rfl, h⟩ := isSubtype_list.mp h
      exact .list (ih h)
  | nonNull a ih =>
      rcases isSubtype_nonNull.mp h with ⟨b, rfl, h⟩ | ⟨-, h⟩
      · exact .nonNull (ih h)
      · exact .trans (.nullable a) (ih h)
  | _ =>
      rcases (isSubtype_unwrapped rfl).mp h with rfl | hbehind
      · exact .refl _
      · exact satisfies_of_behind hbehind

theorem isSubtype_of_satisfies {a b : Ref} (h : S.Satisfies a b) : S.isSubtype a b = true := by
  induction h with
  | refl r => exact isSubtype_refl r
  | trans _ _ ihab ihbd => exact isSubtype_trans ihab ihbd
  | nullable r => exact isSubtype_nullable r
  | list _ ih => exact isSubtype_list.mpr ⟨_, rfl, ih⟩
  | nonNull _ ih => exact isSubtype_nonNull.mpr (Or.inl ⟨_, rfl, ih⟩)
  | possible hobject habstract hpossible =>
      exact (isSubtype_unwrapped rfl).mpr
        (Or.inr ⟨_, _, rfl, rfl, hobject, habstract, hpossible⟩)

/--
**The subtype test decides the order.**  It holds of exactly the pairs that the rules
of `Satisfies` derive, and so it is transitive although it never looks for a middle.
-/
theorem isSubtype_decides_satisfies (S : Schema) :
    (∀ a b : Ref, S.isSubtype a b = true ↔ S.Satisfies a b) ∧
      ∀ a b d : Ref, S.isSubtype a b = true → S.isSubtype b d = true → S.isSubtype a d = true :=
  ⟨fun _ _ => ⟨satisfies_of_isSubtype, isSubtype_of_satisfies⟩, fun _ _ _ => isSubtype_trans⟩

end Schema

end TypeGraph
