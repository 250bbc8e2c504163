/-
What is found in a type depends on that type alone.

Two schemas over one catalog may hold different types, in a different order.  Some
checks look beyond the type they are about: whether a field or value was written
twice is read off the locator, which lists the nodes of the whole schema, and whether
an object keeps what an interface promises may take the index of claims, which is
made from the whole type map.  Neither tells two schemas apart that both hold the
type.  Under its name the locator has the nodes of the type itself.  And the index is
asked only about types that one of its fields returns; they are in both type maps,
and each of them brings its own claims.

So the findings of a schema are those of its types put together, and only their
order depends on the order in which types and directives are given.
-/
import Mathlib.Data.List.Flatten
import Mathlib.Data.List.Perm.Subperm
import TypeGraph.Proofs.Findings
import TypeGraph.Proofs.OwnNodes
import TypeGraph.Proofs.Substitution

namespace TypeGraph

/-! ### Two schemas over one catalog -/

/-- A question about membership is about the type under the wrappers of the left side. -/
theorem Catalog.comparison_membership {c : Catalog} {a b : Ref} {abstract object : TypeId}
    (h : c.comparison a b = .membership abstract object) :
    a.namedType? = some object ∧ c.isAbstract (.named abstract) = true := by
  induction a generalizing b with
  | list inner ih =>
      cases b with
      | list b => exact ih h
      | _ => cases h
  | nonNull inner ih =>
      cases b with
      | nonNull b => exact ih h
      | _ => exact ih h
  | _ =>
      rw [comparison_unwrapped rfl, coreComparison_membership] at h
      obtain ⟨-, heq, rfl, -, habstract⟩ := h
      rw [heq]
      exact ⟨rfl, habstract⟩

/-- The two give the same roots. -/
structure Blueprint.SameRoots (b₁ b₂ : Blueprint) : Prop where
  query : b₁.query = b₂.query
  mutation : b₁.mutation = b₂.mutation
  subscription : b₁.subscription = b₂.subscription

theorem Blueprint.SameRoots.symm {b₁ b₂ : Blueprint} (h : b₁.SameRoots b₂) : b₂.SameRoots b₁ :=
  ⟨h.query.symm, h.mutation.symm, h.subscription.symm⟩

namespace Schema

variable {c : Catalog} {b₁ b₂ : Blueprint} {S₁ S₂ : Schema}

/-- Subtype questions about what both schemas hold are answered alike. -/
theorem isSubtype_eq (h₁ : Unmodified c b₁ S₁) (h₂ : Unmodified c b₂ S₂) {sub : Ref}
    (hmem : ∀ o, sub.namedType? = some o → .named o ∈ S₁.types ∧ .named o ∈ S₂.types)
    (super : Ref) : S₁.isSubtype sub super = S₂.isSubtype sub super := by
  unfold isSubtype
  rw [h₁.catalog_eq, h₂.catalog_eq]
  cases hcompare : c.comparison sub super with
  | settled answer => rfl
  | membership abstract object =>
      obtain ⟨hobject, habstract⟩ := Catalog.comparison_membership hcompare
      obtain ⟨hmem₁, hmem₂⟩ := hmem object hobject
      show S₁.isPossible abstract (.named object) = S₂.isPossible abstract (.named object)
      rw [Bool.eq_iff_iff, isPossible_named, isPossible_named]
      rcases Catalog.kind_of_isAbstract habstract with hkind | hkind
      · rw [mem_possibleTypes_union (h₁.catalog_eq ▸ hkind),
          mem_possibleTypes_union (h₂.catalog_eq ▸ hkind), h₁.catalog_eq, h₂.catalog_eq]
      · -- Both indexes have the claims of the object, and no others are asked for.
        rw [mem_possibleTypes_interface (h₁.catalog_eq ▸ hkind),
          mem_possibleTypes_interface (h₂.catalog_eq ▸ hkind), h₁.claimIndex_eq, h₂.claimIndex_eq,
          mem_indexClaims, mem_indexClaims, h₁.catalog_eq, h₂.catalog_eq]
        simp only [hmem₁, hmem₂]

theorem alike (h₁ : Unmodified c b₁ S₁) (h₂ : Unmodified c b₂ S₂)
    (hlegacy : ∀ name, name ∈ b₁.legacyNames ↔ name ∈ b₂.legacyNames) :
    (Scope.ofSchema S₁).Alike (Scope.ofSchema S₂) := by
  have hcatalog : S₁.catalog = S₂.catalog := h₁.catalog_eq.trans h₂.catalog_eq.symm
  refine ⟨congrArg Catalog.bare hcatalog, fun r _ => congrArg (Catalog.inspect · r) hcatalog, ?_⟩
  intro name
  show S₁.legacyNames.contains name = S₂.legacyNames.contains name
  rw [Bool.eq_iff_iff, List.contains_iff_mem, List.contains_iff_mem, h₁.follows.legacyNames,
    h₂.follows.legacyNames]
  exact hlegacy name

theorem alikeOn (h₁ : Unmodified c b₁ S₁) (h₂ : Unmodified c b₂ S₂)
    (hlegacy : ∀ name, name ∈ b₁.legacyNames ↔ name ∈ b₂.legacyNames) {id : TypeId}
    (hid₁ : .named id ∈ S₁.types) (hid₂ : .named id ∈ S₂.types) :
    (Scope.ofSchema S₁).AlikeOn (Scope.ofSchema S₂) id := by
  have hcatalog : S₁.catalog = S₂.catalog := h₁.catalog_eq.trans h₂.catalog_eq.symm
  -- What the locators have under the name of the type is the type's own.
  have hnodes : ∀ key : Locator.Key, key.IsUnder (S₁.catalog.typeDef id).name →
      (Locator.ofSchema S₁).nodes key = (Locator.ofSchema S₂).nodes key := by
    intro key hkey
    rw [Locator.nodes_ofSchema h₁.lists hid₁ hkey,
      Locator.nodes_ofSchema h₂.lists hid₂ (hcatalog ▸ hkey), hcatalog]
  refine ⟨alike h₁ h₂ hlegacy, .entry hid₁, ?_, ?_, ?_⟩
  · intro _ entry _
    rw [show (Scope.ofSchema S₁).locator.nodes _ = (Scope.ofSchema S₂).locator.nodes _ from
      hnodes _ ⟨rfl, by simp [Locator.Key.ofField]⟩]
  · intro v _
    rw [show (Scope.ofSchema S₁).locator.nodes _ = (Scope.ofSchema S₂).locator.nodes _ from
      hnodes _ ⟨rfl, by simp [Locator.Key.ofValue]⟩]
  · intro hkind key given hgiven expected
    refine isSubtype_eq h₁ h₂ (fun o ho => ?_) expected
    have hrefers : S₁.catalog.RefersTo id o := ⟨_, .field (Or.inl hkind) hgiven, ho⟩
    exact ⟨h₁.mem_types_of_refersTo hid₁ hrefers,
      h₂.mem_types_of_refersTo hid₂ (hcatalog ▸ hrefers)⟩

/-- What is found in a type is the same in every schema that holds it. -/
theorem checkEntry_findings (h₁ : Unmodified c b₁ S₁) (h₂ : Unmodified c b₂ S₂)
    (hlegacy : ∀ name, name ∈ b₁.legacyNames ↔ name ∈ b₂.legacyNames) {r : Ref}
    (hr₁ : r ∈ S₁.types) (hr₂ : r ∈ S₂.types) :
    ((Scope.ofSchema S₁).checkEntry r).map Diagnostic.finding =
      ((Scope.ofSchema S₂).checkEntry r).map Diagnostic.finding := by
  obtain ⟨id, rfl, -⟩ := (h₁.lists.mem_types r).mp hr₁
  exact map_finding_eq (alikeOn h₁ h₂ hlegacy hr₁ hr₂).checkNamedType

/-! ### More types, more findings -/

theorem reaches_mono (hroots : b₁.SameRoots b₂) (hdirectives : b₁.directives ⊆ b₂.directives)
    (htypes : b₁.types ⊆ b₂.types) {id : TypeId} (h : b₁.Reaches c id) : b₂.Reaches c id := by
  induction h with
  | start hr hid =>
      refine .start ?_ hid
      cases hr with
      | query => exact hroots.query ▸ .query
      | mutation => exact hroots.mutation ▸ .mutation
      | subscription => exact hroots.subscription ▸ .subscription
      | type hr => exact .type (htypes hr)
      | schema => exact .schema
      | argument hmem harg => exact .argument (hdirectives hmem) harg
  | step _ hij ih => exact .step ih hij

theorem exists_error_mono (hroots : b₁.SameRoots b₂) (hdirectives : b₁.directives ⊆ b₂.directives)
    (htypes : b₁.types ⊆ b₂.types) (h : ∃ fault, build c b₁ = .error fault) :
    ∃ fault, build c b₂ = .error fault := by
  obtain ⟨fault, hfault⟩ := h
  obtain ⟨⟨i, j, hi, hj, hne, hname⟩, -⟩ := clashes_of_build_error hfault
  cases hbuild : build c b₂ with
  | error fault₂ => exact ⟨fault₂, rfl⟩
  | ok S =>
      exact absurd ⟨i, j, reaches_mono hroots hdirectives htypes hi,
        reaches_mono hroots hdirectives htypes hj, hne, hname⟩ (not_clashes_of_build_ok hbuild)

theorem subperm_flatMap {α β : Type} {l₁ l₂ : List α} (h : l₁.Subperm l₂) (f : α → List β) :
    (l₁.flatMap f).Subperm (l₂.flatMap f) := by
  obtain ⟨l, hperm, hsublist⟩ := h
  exact (hperm.flatMap_right f).symm.subperm.trans (hsublist.flatMap f).subperm

theorem checkTypes_subperm (h₁ : Unmodified c b₁ S₁) (h₂ : Unmodified c b₂ S₂)
    (hlegacy : ∀ name, name ∈ b₁.legacyNames ↔ name ∈ b₂.legacyNames)
    (hreaches : ∀ id, b₁.Reaches c id → b₂.Reaches c id) :
    ((Scope.ofSchema S₁).checkTypes.map Diagnostic.finding).Subperm
      ((Scope.ofSchema S₂).checkTypes.map Diagnostic.finding) := by
  have hsubset : S₁.types ⊆ S₂.types := by
    intro r hr
    obtain ⟨id, heq, hid⟩ := (h₁.lists.mem_types r).mp hr
    exact (h₂.lists.mem_types r).mpr ⟨id, heq, hreaches id hid⟩
  have hsame : (Scope.ofSchema S₁).checkTypes.map Diagnostic.finding =
      S₁.types.flatMap fun r => ((Scope.ofSchema S₂).checkEntry r).map Diagnostic.finding := by
    rw [Scope.checkTypes, List.map_flatMap]
    exact List.flatMap_congr fun r hr => checkEntry_findings h₁ h₂ hlegacy hr (hsubset hr)
  rw [hsame, Scope.checkTypes, List.map_flatMap]
  exact subperm_flatMap (List.subperm_of_subset h₁.lists.nodup hsubset) _

theorem checkDirectives_perm (h₁ : Unmodified c b₁ S₁) (h₂ : Unmodified c b₂ S₂)
    (hlegacy : ∀ name, name ∈ b₁.legacyNames ↔ name ∈ b₂.legacyNames)
    (hdirectives : b₁.directives.Perm b₂.directives) :
    ((Scope.ofSchema S₁).checkDirectives.map Diagnostic.finding).Perm
      ((Scope.ofSchema S₂).checkDirectives.map Diagnostic.finding) := by
  have hsame : (Scope.ofSchema S₁).checkDirectives.map Diagnostic.finding =
      S₁.directives.flatMap fun r =>
        ((Scope.ofSchema S₂).checkDirective r).map Diagnostic.finding := by
    rw [Scope.checkDirectives, List.map_flatMap]
    exact List.flatMap_congr fun r hr => map_finding_eq ((alike h₁ h₂ hlegacy).checkDirective hr)
  rw [hsame, Scope.checkDirectives, List.map_flatMap]
  refine List.Perm.flatMap_right _ ?_
  show S₁.directives.Perm S₂.directives
  rw [h₁.follows.directives, h₂.follows.directives]
  exact hdirectives

theorem checkRoots_findings (h₁ : Unmodified c b₁ S₁) (h₂ : Unmodified c b₂ S₂)
    (hlegacy : ∀ name, name ∈ b₁.legacyNames ↔ name ∈ b₂.legacyNames)
    (hroots : b₁.SameRoots b₂) :
    (Scope.ofSchema S₁).checkRoots.map Diagnostic.finding =
      (Scope.ofSchema S₂).checkRoots.map Diagnostic.finding := by
  refine map_finding_eq ((alike h₁ h₂ hlegacy).checkRoots fun operation => ?_)
  cases operation with
  | query => exact (h₁.follows.query.trans hroots.query).trans h₂.follows.query.symm
  | mutation => exact (h₁.follows.mutation.trans hroots.mutation).trans h₂.follows.mutation.symm
  | subscription =>
      exact (h₁.follows.subscription.trans hroots.subscription).trans
        h₂.follows.subscription.symm

/-- With more types given, nothing that was found is lost. -/
theorem diagnose_subperm (h₁ : Unmodified c b₁ S₁) (h₂ : Unmodified c b₂ S₂)
    (hlegacy : ∀ name, name ∈ b₁.legacyNames ↔ name ∈ b₂.legacyNames)
    (hroots : b₁.SameRoots b₂) (hdirectives : b₁.directives.Perm b₂.directives)
    (htypes : b₁.types ⊆ b₂.types) :
    (S₁.diagnose.map Diagnostic.finding).Subperm (S₂.diagnose.map Diagnostic.finding) := by
  rw [diagnose_eq, diagnose_eq]
  simp only [List.map_append]
  rw [checkRoots_findings h₁ h₂ hlegacy hroots]
  refine List.Subperm.append (List.Subperm.append (List.Subperm.refl _) ?_) ?_
  · exact (checkDirectives_perm h₁ h₂ hlegacy hdirectives).subperm
  · exact checkTypes_subperm h₁ h₂ hlegacy fun id =>
      reaches_mono hroots hdirectives.subset htypes

/--
A type adds the same findings to every schema that holds it.  So under the same roots the
order of types and directives does not decide whether a schema can be made, nor what is found
in it; and a schema that is given more types has all the findings of one that is given fewer.
-/
theorem findings_local (hlegacy : ∀ name, name ∈ b₁.legacyNames ↔ name ∈ b₂.legacyNames) :
    (∀ S₁ S₂, Unmodified c b₁ S₁ → Unmodified c b₂ S₂ → ∀ r, r ∈ S₁.types → r ∈ S₂.types →
      ((Scope.ofSchema S₁).checkEntry r).map Diagnostic.finding =
        ((Scope.ofSchema S₂).checkEntry r).map Diagnostic.finding) ∧
      (b₁.SameRoots b₂ → b₁.types.Perm b₂.types → b₁.directives.Perm b₂.directives →
        ((∃ fault, build c b₁ = .error fault) ↔ ∃ fault, build c b₂ = .error fault) ∧
          ∀ S₁ S₂, Unmodified c b₁ S₁ → Unmodified c b₂ S₂ →
            (S₁.diagnose.map Diagnostic.finding).Perm (S₂.diagnose.map Diagnostic.finding)) ∧
      (b₁.SameRoots b₂ → b₁.types ⊆ b₂.types → b₁.directives = b₂.directives →
        ∀ S₁ S₂, Unmodified c b₁ S₁ → Unmodified c b₂ S₂ →
          (S₁.diagnose.map Diagnostic.finding).Subperm (S₂.diagnose.map Diagnostic.finding)) := by
  refine ⟨fun S₁ S₂ h₁ h₂ r => checkEntry_findings h₁ h₂ hlegacy, ?_, ?_⟩
  · intro hroots htypes hdirectives
    refine ⟨⟨exists_error_mono hroots hdirectives.subset htypes.subset,
      exists_error_mono hroots.symm hdirectives.symm.subset htypes.symm.subset⟩, ?_⟩
    intro S₁ S₂ h₁ h₂
    exact (diagnose_subperm h₁ h₂ hlegacy hroots hdirectives htypes.subset).antisymm
      (diagnose_subperm h₂ h₁ (fun name => (hlegacy name).symm) hroots.symm hdirectives.symm
        htypes.symm.subset)
  · intro hroots htypes hdirectives S₁ S₂ h₁ h₂
    exact diagnose_subperm h₁ h₂ hlegacy hroots (hdirectives ▸ List.Perm.refl _) htypes

/-- A dog is an animal, but its friend is a cat, which is not; and there is a union of nothing. -/
def strayCatalog : Catalog where
  types := #[
    { name := "Query", body := .objectOf [("pet", { type := .named (.own 1) })] [] },
    { name := "Animal", body := .interfaceOf [("friend", { type := .named (.own 1) })] },
    { name := "Dog"
      body := .objectOf [("friend", { type := .named (.own 3) })] [.named (.own 1)] },
    { name := "Cat", body := .objectOf [("age", { type := Builtin.int.ref })] [] },
    { name := "Lone", body := .union [] }]

/-- Some of its types are given, beside the root. -/
def strayBlueprint (given : List TypeId) : Blueprint where
  query := .named (.own 0)
  types := given.map .named

/-- The dog is at fault whether or not the union is there, and whichever is given first. -/
theorem findings_local_strays :
    ∃ S₁ S₂ S₃, Unmodified strayCatalog (strayBlueprint [.own 2]) S₁ ∧
      Unmodified strayCatalog (strayBlueprint [.own 4, .own 2]) S₂ ∧
      Unmodified strayCatalog (strayBlueprint [.own 2, .own 4]) S₃ ∧
      ((Scope.ofSchema S₁).checkEntry (.named (.own 2))).map Diagnostic.finding =
        ((Scope.ofSchema S₂).checkEntry (.named (.own 2))).map Diagnostic.finding ∧
      S₁.diagnose.map Diagnostic.finding =
        [("Interface field Animal.friend expects type Animal but Dog.friend is type Cat.",
          .compatibility)] ∧
      (S₁.diagnose.map Diagnostic.finding).Subperm (S₂.diagnose.map Diagnostic.finding) ∧
      S₂.diagnose.map Diagnostic.finding ≠ S₃.diagnose.map Diagnostic.finding ∧
      (S₂.diagnose.map Diagnostic.finding).Perm (S₃.diagnose.map Diagnostic.finding) := by
  obtain ⟨S₁, hbuild₁, hmem₁, hfound⟩ := @exists_build strayCatalog (strayBlueprint [.own 2])
    (fun S => .named (.own 2) ∈ S.types ∧ S.diagnose.map Diagnostic.finding =
      [("Interface field Animal.friend expects type Animal but Dog.friend is type Cat.",
        .compatibility)]) _ (by decide +kernel)
  obtain ⟨S₂, hbuild₂, hmem₂, hhead₂⟩ :=
    @exists_build strayCatalog (strayBlueprint [.own 4, .own 2])
      (fun S => .named (.own 2) ∈ S.types ∧
        (S.diagnose.map Diagnostic.category).head? = some .structural) _ (by decide +kernel)
  obtain ⟨S₃, hbuild₃, hhead₃⟩ := @exists_build strayCatalog (strayBlueprint [.own 2, .own 4])
    (fun S => (S.diagnose.map Diagnostic.category).head? = some .compatibility)
    _ (by decide +kernel)
  have hfewer := @findings_local strayCatalog (strayBlueprint [.own 2])
    (strayBlueprint [.own 4, .own 2]) (fun _ => Iff.rfl)
  have hsame := @findings_local strayCatalog (strayBlueprint [.own 4, .own 2])
    (strayBlueprint [.own 2, .own 4]) (fun _ => Iff.rfl)
  refine ⟨S₁, S₂, S₃, .built hbuild₁, .built hbuild₂, .built hbuild₃, ?_, hfound, ?_, ?_, ?_⟩
  · exact hfewer.1 S₁ S₂ (.built hbuild₁) (.built hbuild₂) _ hmem₁ hmem₂
  · exact hfewer.2.2 ⟨rfl, rfl, rfl⟩ (by simp [strayBlueprint]) rfl S₁ S₂ (.built hbuild₁)
      (.built hbuild₂)
  · intro heq
    have hcategories := congrArg (List.map Prod.snd) heq
    rw [List.map_map, List.map_map] at hcategories
    have hhead := congrArg List.head? hcategories
    rw [show (Prod.snd ∘ Diagnostic.finding) = Diagnostic.category from rfl, hhead₂,
      hhead₃] at hhead
    exact absurd hhead (by decide)
  · exact (hsame.2.1 ⟨rfl, rfl, rfl⟩ (List.Perm.swap _ _ _) (List.Perm.refl _)).2 S₂ S₃
      (.built hbuild₂) (.built hbuild₃)

end Schema

end TypeGraph
