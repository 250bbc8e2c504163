/-
A subtype can be substituted.

Suppose a fresh pass over a schema finds nothing.  Then whatever the subtype test
accepts can stand where it is expected: the lists match, and what is under the
wrappers is the expected type itself, a member of the expected union, or an object
that keeps everything the expected interface promises.

The last case is the long way round.  The test asks an index of claims by the name
of an interface, not by its identity, so a claim it finds might be of another
interface of that name.  But a claim is a reference, so what it names is in the type
map, where every name is borne once.  And the object is in the type map too, so its
claims were checked.  None was skipped, because no two of them share a name.
-/
import TypeGraph.Proofs.Possible
import TypeGraph.Proofs.Silence
import TypeGraph.Proofs.SubtypeOrder

namespace TypeGraph

/-- How many list wrappers there are. -/
def Ref.listDepth : Ref → Nat
  | list inner => inner.listDepth + 1
  | nonNull inner => inner.listDepth
  | _ => 0

theorem Ref.core_eq_named {r : Ref} {id : TypeId} (h : r.namedType? = some id) :
    r.core = .named id := by
  unfold namedType? at h
  cases hcore : r.core with
  | named id' =>
      rw [hcore] at h
      rw [Option.some.inj h]
  | _ =>
      rw [hcore] at h
      exact absurd h (by simp [typeId?])

theorem Catalog.kind_of_isAbstract {c : Catalog} {id : TypeId}
    (h : c.isAbstract (.named id) = true) :
    (c.typeDef id).kind = .union ∨ (c.typeDef id).kind = .interface := by
  have hkind : (c.typeDef id).kind.isAbstract = true := h
  cases hk : (c.typeDef id).kind <;> simp_all [Kind.isAbstract]

namespace Schema

variable {S : Schema}

/-! ### What is under the wrappers -/

/-- Where one reference satisfies another the lists match, and under the wrappers it is the same
thing or an object behind an abstract type. -/
theorem isSubtype_shape {a b : Ref} (h : S.isSubtype a b = true) :
    a.listDepth = b.listDepth ∧ (a.core = b.core ∨ S.Behind a.core b.core) := by
  induction a generalizing b with
  | list a ih =>
      obtain ⟨inner, rfl, hinner⟩ := isSubtype_list.mp h
      obtain ⟨hdepth, hcore⟩ := ih hinner
      exact ⟨congrArg (· + 1) hdepth, hcore⟩
  | nonNull a ih =>
      rcases isSubtype_nonNull.mp h with ⟨inner, rfl, hinner⟩ | ⟨-, hb⟩
      · have hshape := ih hinner
        exact hshape
      · exact ih hb
  | _ =>
      rcases (isSubtype_unwrapped rfl).mp h with rfl | hbehind
      · exact ⟨rfl, Or.inl rfl⟩
      · obtain ⟨_, _, -, rfl, -⟩ := id hbehind
        exact ⟨rfl, Or.inr hbehind⟩

/-! ### What a certified schema promises -/

/-- In a certified schema an object of the type map meets every claim it makes. -/
theorem Certified.conforms (h : S.Certified) {object interface : TypeId}
    (hmem : .named object ∈ S.types) (hkind : (S.catalog.typeDef object).kind = .object)
    (hclaim : .named interface ∈ (S.catalog.typeDef object).interfaces) :
    S.Conforms (S.catalog.typeDef object) (S.catalog.typeDef interface) := by
  have hbody : S.BodyOk object := (h.types object hmem).body
  rw [BodyOk, hkind] at hbody
  exact hbody.2.met interface hclaim

/--
**A subtype can be substituted.**  In a schema that was not edited and in which a fresh
pass finds nothing, let `super` be a type of the type map under any wrappers and `sub` a
subtype of it.  Both have as many list wrappers, and what is under those of `sub` is the
same type, an object among the members of the union, or an object of the type map that
has every field of the interface and keeps what it promises.
-/
theorem isSubtype_substitutable {c : Catalog} {b : Blueprint} (h : Unmodified c b S)
    (hclean : S.diagnose = []) {sub super : Ref} {expected : TypeId}
    (hexpected : super.namedType? = some expected) (hmem : .named expected ∈ S.types)
    (hsub : S.isSubtype sub super = true) :
    sub.listDepth = super.listDepth ∧ ∃ own, sub.namedType? = some own ∧
      (own = expected ∨
        ((S.catalog.typeDef own).kind = .object ∧ (S.catalog.typeDef expected).kind = .union ∧
          .named own ∈ (S.catalog.typeDef expected).members) ∨
        ((S.catalog.typeDef own).kind = .object ∧ .named own ∈ S.types ∧
          (S.catalog.typeDef expected).kind = .interface ∧
          S.Conforms (S.catalog.typeDef own) (S.catalog.typeDef expected))) := by
  have hcertified : S.Certified := h.diagnose_silent.mp hclean
  obtain ⟨hdepth, hcore⟩ := isSubtype_shape hsub
  refine ⟨hdepth, ?_⟩
  rw [Ref.core_eq_named hexpected] at hcore
  rcases hcore with hsame | ⟨own, abstract, hown, habs, hobject, habstract, hpossible⟩
  · refine ⟨expected, ?_, Or.inl rfl⟩
    rw [Ref.namedType?, hsame]
    rfl
  · cases habs
    rw [hown, Catalog.isKind_named] at hobject
    rw [hown, isPossible_named] at hpossible
    refine ⟨own, by rw [Ref.namedType?, hown]; rfl, Or.inr ?_⟩
    rcases Catalog.kind_of_isAbstract habstract with hkind | hkind
    · exact Or.inl ⟨hobject, hkind, ((mem_possibleTypes_union hkind).mp hpossible).1⟩
    · obtain ⟨hownmem, -, hclaim⟩ := (h.mem_possibleTypes_interface hmem hkind).mp hpossible
      exact Or.inr ⟨hobject, hownmem, hkind, hcertified.conforms hownmem hobject hclaim⟩

/-- A list of dogs, never null, can stand where a list of animals is expected. -/
theorem substitutable_dogs_animals :
    ∃ S, Unmodified petCatalog petBlueprint S ∧ S.diagnose = [] ∧ .named (.own 0) ∈ S.types ∧
      S.isSubtype (.nonNull (.list (.nonNull (.named (.own 1))))) (.list (.named (.own 0))) = true ∧
      S.Conforms (S.catalog.typeDef (.own 1)) (S.catalog.typeDef (.own 0)) := by
  obtain ⟨S, hbuild, hclean, hmem, hsub⟩ := @exists_build petCatalog petBlueprint
    (fun S => S.diagnose = [] ∧ .named (.own 0) ∈ S.types ∧
      S.isSubtype (.nonNull (.list (.nonNull (.named (.own 1))))) (.list (.named (.own 0))))
    _ (by decide +kernel)
  refine ⟨S, .built hbuild, hclean, hmem, hsub, ?_⟩
  have hcatalog : S.catalog = petCatalog := (build_ok hbuild).1
  obtain ⟨-, own, hown, hcases⟩ := isSubtype_substitutable (.built hbuild) hclean rfl hmem hsub
  cases hown
  rcases hcases with hsame | ⟨-, hunion, -⟩ | ⟨-, -, -, hconforms⟩
  · exact absurd hsame (by decide)
  · rw [hcatalog] at hunion
    exact absurd hunion (by decide)
  · exact hconforms

end Schema

end TypeGraph
