/-
The object types behind an abstract type.

A union lists them.  For an interface they are looked up in an index by its name,
which knows nothing of identity.  In a schema that was not edited the two come to
the same: what an object of the type map claims is in the type map as well, and
there a name is borne once.
-/
import TypeGraph.Proofs.Unmodified

namespace TypeGraph

theorem Catalog.isKind_named {c : Catalog} {kind : Kind} {id : TypeId} :
    c.isKind kind (.named id) = true ↔ (c.typeDef id).kind = kind := by
  simp [isKind, kind?, Ref.typeId?]

theorem Catalog.exists_named_of_isKind {c : Catalog} {kind : Kind} {r : Ref}
    (h : c.isKind kind r = true) : ∃ id, r = .named id := by
  cases r with
  | named id => exact ⟨id, rfl⟩
  | _ => cases h

namespace Schema

variable {S : Schema}

/-! ### What the index and the unions hold -/

theorem objectId?_eq_some {r : Ref} {id : TypeId} :
    S.objectId? r = some id ↔ r = .named id ∧ S.catalog.isKind .object r = true := by
  unfold objectId?
  by_cases hkind : S.catalog.isKind .object r = true
  · rw [if_pos hkind]
    cases r <;> simp_all [Ref.typeId?]
  · simp [hkind]

theorem interfaceName?_eq_some {r : Ref} {name : String} :
    S.interfaceName? r = some name ↔
      S.catalog.isKind .interface r = true ∧ S.catalog.name? r = some name := by
  unfold interfaceName?
  by_cases hkind : S.catalog.isKind .interface r = true <;> simp [hkind]

theorem isPossible_named {abstract object : TypeId} :
    S.isPossible abstract (.named object) = true ↔ object ∈ S.possibleTypes abstract := by
  simp [isPossible]

theorem possibleTypes_union {union : TypeId} (hkind : (S.catalog.typeDef union).kind = .union) :
    S.possibleTypes union = (S.catalog.typeDef union).members.filterMap S.objectId? := by
  unfold possibleTypes
  unfold TypeDef.kind at hkind
  unfold TypeDef.members
  cases hbody : (S.catalog.typeDef union).body with
  | union members => rfl
  | _ =>
      rw [hbody] at hkind
      cases hkind

/-- The index is asked for an interface, by its name. -/
theorem possibleTypes_interface {interface : TypeId}
    (hkind : (S.catalog.typeDef interface).kind = .interface) :
    S.possibleTypes interface = S.claimants (S.catalog.typeDef interface).name := by
  unfold possibleTypes
  unfold TypeDef.kind at hkind
  cases hbody : (S.catalog.typeDef interface).body with
  | union members =>
      rw [hbody] at hkind
      cases hkind
  | _ => rfl

theorem mem_possibleTypes_union {union object : TypeId}
    (hkind : (S.catalog.typeDef union).kind = .union) :
    object ∈ S.possibleTypes union ↔
      .named object ∈ (S.catalog.typeDef union).members ∧
        S.catalog.isKind .object (.named object) = true := by
  rw [possibleTypes_union hkind]
  simp only [List.mem_filterMap, objectId?_eq_some]
  refine ⟨?_, ?_⟩
  · intro ⟨r, hr, heq, hobject⟩
    subst heq
    exact ⟨hr, hobject⟩
  · intro ⟨hr, hobject⟩
    exact ⟨_, hr, rfl, hobject⟩

/-- The index is asked by name. -/
theorem mem_claimants {name : String} {object : TypeId} :
    object ∈ S.claimants name ↔ (name, object) ∈ S.claimIndex := by
  simp only [claimants, List.mem_filterMap]
  refine ⟨?_, ?_⟩
  · intro ⟨claim, hclaim, hsome⟩
    split at hsome
    · next hname =>
        rw [← hname, ← Option.some.inj hsome]
        exact hclaim
    · exact absurd hsome (by simp)
  · intro hclaim
    exact ⟨_, hclaim, if_pos rfl⟩

/-- For an interface, the possible types are those indexed under its name. -/
theorem mem_possibleTypes_interface {interface object : TypeId}
    (hkind : (S.catalog.typeDef interface).kind = .interface) :
    object ∈ S.possibleTypes interface ↔
      ((S.catalog.typeDef interface).name, object) ∈ S.claimIndex := by
  rw [possibleTypes_interface hkind, mem_claimants]

/-- The index of the type map holds the claims its objects make of interfaces. -/
theorem mem_indexClaims {name : String} {object : TypeId} :
    (name, object) ∈ S.indexClaims ↔
      .named object ∈ S.types ∧ S.catalog.isKind .object (.named object) = true ∧
        ∃ claim ∈ (S.catalog.typeDef object).interfaces,
          S.catalog.isKind .interface claim = true ∧ S.catalog.name? claim = some name := by
  unfold indexClaims
  rw [List.mem_flatMap]
  refine ⟨?_, ?_⟩
  · intro ⟨r, hr, hmem⟩
    unfold claimsOf at hmem
    split at hmem
    · next id hid =>
        obtain ⟨hr', hobject⟩ := objectId?_eq_some.mp hid
        subst hr'
        obtain ⟨name', hname', heq⟩ := List.mem_map.mp hmem
        cases heq
        obtain ⟨claim, hclaim, hsome⟩ := List.mem_filterMap.mp hname'
        exact ⟨hr, hobject, claim, hclaim, interfaceName?_eq_some.mp hsome⟩
    · exact absurd hmem (by simp)
  · intro ⟨hmem, hobject, claim, hclaim, hsome⟩
    refine ⟨.named object, hmem, ?_⟩
    unfold claimsOf
    rw [objectId?_eq_some.mpr ⟨rfl, hobject⟩]
    exact List.mem_map.mpr ⟨name,
      List.mem_filterMap.mpr ⟨claim, hclaim, interfaceName?_eq_some.mpr hsome⟩, rfl⟩

/-! ### Names and identities in a schema that was not edited -/

theorem Lists.eq_of_name_eq {Q : TypeId → Prop} (h : S.Lists Q) {i j : TypeId}
    (hi : .named i ∈ S.types) (hj : .named j ∈ S.types)
    (hname : (S.catalog.typeDef i).name = (S.catalog.typeDef j).name) : i = j := by
  obtain ⟨_, heqi, hQi⟩ := (h.mem_types _).mp hi
  obtain ⟨_, heqj, hQj⟩ := (h.mem_types _).mp hj
  cases heqi
  cases heqj
  have hfound : Ref.named i = .named j := by
    rw [← h.found i hQi, ← h.found j hQj, hname]
  exact Ref.named.inj hfound

variable {c : Catalog} {b : Blueprint}

/-- What a type of the type map refers to is in the type map. -/
theorem Unmodified.mem_types_of_refersTo (h : Unmodified c b S) {i j : TypeId}
    (hi : .named i ∈ S.types) (hij : S.catalog.RefersTo i j) : .named j ∈ S.types := by
  obtain ⟨_, heq, hreach⟩ := (h.lists.mem_types _).mp hi
  cases heq
  rw [h.catalog_eq] at hij
  exact (h.lists.mem_types _).mpr ⟨j, rfl, .step hreach hij⟩

/-- Of what an object claims, only the interface itself bears the name of an interface of the type
map. -/
theorem Unmodified.interfaceName?_eq_iff (h : Unmodified c b S) {interface object : TypeId}
    (hmem : .named interface ∈ S.types)
    (hkind : (S.catalog.typeDef interface).kind = .interface) (hobject : .named object ∈ S.types)
    (hobjectKind : (S.catalog.typeDef object).kind = .object) {claim : Ref}
    (hclaim : claim ∈ (S.catalog.typeDef object).interfaces) :
    S.interfaceName? claim = some (S.catalog.typeDef interface).name ↔
      claim = .named interface := by
  rw [interfaceName?_eq_some]
  refine ⟨?_, ?_⟩
  · intro ⟨hclaimKind, hname⟩
    obtain ⟨claimed, rfl⟩ := Catalog.exists_named_of_isKind hclaimKind
    -- The claim leads to a type of the map, so its name identifies it.
    have hclaimed : .named claimed ∈ S.types :=
      h.mem_types_of_refersTo hobject ⟨_, .claim hobjectKind hclaim, rfl⟩
    rw [h.lists.eq_of_name_eq hclaimed hmem (Option.some.inj hname)]
  · intro heq
    subst heq
    exact ⟨Catalog.isKind_named.mpr hkind, rfl⟩

/-- Behind an interface of the type map are the objects of the type map that claim that very
interface. -/
theorem Unmodified.mem_possibleTypes_interface (h : Unmodified c b S) {interface object : TypeId}
    (hmem : .named interface ∈ S.types)
    (hkind : (S.catalog.typeDef interface).kind = .interface) :
    object ∈ S.possibleTypes interface ↔
      .named object ∈ S.types ∧ (S.catalog.typeDef object).kind = .object ∧
        .named interface ∈ (S.catalog.typeDef object).interfaces := by
  rw [Schema.mem_possibleTypes_interface hkind, h.claimIndex_eq, mem_indexClaims,
    Catalog.isKind_named]
  refine ⟨?_, ?_⟩
  · intro ⟨hobject, hobjectKind, claim, hclaim, hclaimed⟩
    have heq := (h.interfaceName?_eq_iff hmem hkind hobject hobjectKind hclaim).mp
      (interfaceName?_eq_some.mpr hclaimed)
    subst heq
    exact ⟨hobject, hobjectKind, hclaim⟩
  · intro ⟨hobject, hobjectKind, hclaim⟩
    exact ⟨hobject, hobjectKind, _, hclaim, Catalog.isKind_named.mpr hkind, rfl⟩

end Schema

end TypeGraph
