/-
The object types behind an abstract type, as they are listed.

The index of implementations is made for all interfaces at once, the first time that one
of them is asked about, and it goes by names.  What it gives for an interface can be said
without it: the objects of the type map in order, each as often as it claims that very
interface.  Behind a name there is only one type in a schema that was not edited, so
claims counted by name and by identity are as many.

Which question was the first does not show.  A question fills one of two cells, that of
the index and that of the verdict, and changes nothing else (`afterAsking_eq`); and what
fills the first is what an empty one would be read as.
-/
import TypeGraph.Proofs.PhaseOrder
import TypeGraph.Proofs.Substitution

namespace TypeGraph

/-! ### Asking a schema -/

/-- What can be asked of a schema without editing it. -/
inductive Question
  | possibleTypes (abstract : TypeId)
  | isPossible (abstract : TypeId) (member : Ref)
  | isSubtype (sub super : Ref)
  | validate
  | assertValid
  | check (mode : String)

namespace Schema

/-- The schema after a question.  A look-up keeps the index if it took it. -/
def ask (S : Schema) : Question → Schema
  | .possibleTypes abstract => S.keepingIndex (S.consultsIndex abstract)
  | .isPossible abstract _ => S.keepingIndex (S.consultsIndex abstract)
  | .isSubtype sub super => S.keepingIndex (S.subtypeConsults sub super)
  | .validate => S.validate.schema
  | .assertValid => S.assertValid.schema
  | .check mode => (S.check mode).schema

/-- The schema after several questions. -/
def afterAsking (S : Schema) (questions : List Question) : Schema := questions.foldl ask S

/-- The schema with its cells as they may be after some questions. -/
def withCells (S : Schema) (consulted : Bool) (verdict : OneShot (List Diagnostic)) : Schema :=
  { S.keepingIndex consulted with verdict := verdict }

variable {S : Schema}

theorem withCells_withCells (first second : Bool) (verdict verdict' : OneShot (List Diagnostic)) :
    (S.withCells first verdict).withCells second verdict' =
      S.withCells (first || second) verdict' := by
  cases first <;> cases second <;> rfl

theorem keepingIndex_eq_withCells (consulted : Bool) :
    S.keepingIndex consulted = S.withCells consulted S.verdict := by
  cases consulted <;> rfl

/-- A fresh pass takes the index or does not; a verdict that is kept spares the pass. -/
theorem validate_eq_withCells (S : Schema) :
    ∃ consulted verdict, S.validate.schema = S.withCells consulted verdict := by
  by_cases hfilled : S.verdict.isFilled = true
  · refine ⟨false, S.validate.schema.verdict, ?_⟩
    simp only [validate, hfilled, if_true]
    rfl
  · refine ⟨(Scope.ofSchema S).typesConsult, S.validate.schema.verdict, ?_⟩
    simp only [validate, hfilled]
    rfl

/-- A check validates, unless its mode leaves that out or is unknown. -/
theorem check_eq_withCells (S : Schema) (mode : String) :
    ∃ consulted verdict, (S.check mode).schema = S.withCells consulted verdict := by
  unfold check
  cases Mode.ofName? mode with
  | none => exact ⟨false, S.verdict, rfl⟩
  | some mode =>
      cases mode with
      | none => exact ⟨false, S.verdict, rfl⟩
      | strict => exact S.validate_eq_withCells
      | normal => exact S.validate_eq_withCells

/-- One question changes nothing but the cells. -/
theorem ask_eq (S : Schema) (question : Question) :
    ∃ consulted verdict, S.ask question = S.withCells consulted verdict := by
  cases question with
  | possibleTypes abstract => exact ⟨_, _, keepingIndex_eq_withCells _⟩
  | isPossible abstract member => exact ⟨_, _, keepingIndex_eq_withCells _⟩
  | isSubtype sub super => exact ⟨_, _, keepingIndex_eq_withCells _⟩
  | validate => exact S.validate_eq_withCells
  | assertValid => exact S.validate_eq_withCells
  | check mode => exact S.check_eq_withCells mode

/-- And so do any number of them. -/
theorem afterAsking_eq (S : Schema) (questions : List Question) :
    ∃ consulted verdict, S.afterAsking questions = S.withCells consulted verdict := by
  induction questions generalizing S with
  | nil => exact ⟨false, S.verdict, rfl⟩
  | cons question rest ih =>
      obtain ⟨first, verdict, hfirst⟩ := S.ask_eq question
      obtain ⟨second, verdict', hrest⟩ := ih (S.ask question)
      refine ⟨first || second, verdict', ?_⟩
      show (S.ask question).afterAsking rest = _
      rw [hrest, hfirst, withCells_withCells]

/-! ### The cells do not show -/

/-- Look-ups and a fresh pass give in one schema what they give in the other. -/
structure AnswersLike (T S : Schema) : Prop where
  types : T.types = S.types
  possibleTypes : ∀ abstract, T.possibleTypes abstract = S.possibleTypes abstract
  isPossible : ∀ abstract member, T.isPossible abstract member = S.isPossible abstract member
  isSubtype : ∀ sub super, T.isSubtype sub super = S.isSubtype sub super
  diagnose : T.diagnose = S.diagnose

theorem diagnose_keepingIndex (S : Schema) (consulted : Bool) :
    (S.keepingIndex consulted).diagnose = S.diagnose := by
  have hlocator : Locator.ofSchema (S.keepingIndex consulted) = Locator.ofSchema S := by
    cases consulted <;> rfl
  rw [diagnose_eq, diagnose_eq, Scope.ofSchema, hlocator, Scope.indifferent_checkRoots,
    Scope.indifferent_checkDirectives, Scope.indifferent_checkTypes]
  rfl

theorem answersLike_withCells (S : Schema) (consulted : Bool)
    (verdict : OneShot (List Diagnostic)) : (S.withCells consulted verdict).AnswersLike S where
  types := by cases consulted <;> rfl
  possibleTypes := S.possibleTypes_keepingIndex consulted
  isPossible := S.isPossible_keepingIndex consulted
  isSubtype := S.isSubtype_keepingIndex consulted
  diagnose := S.diagnose_keepingIndex consulted

theorem answersLike_afterAsking (S : Schema) (questions : List Question) :
    (S.afterAsking questions).AnswersLike S := by
  obtain ⟨consulted, verdict, heq⟩ := S.afterAsking_eq questions
  rw [heq]
  exact S.answersLike_withCells consulted verdict

/-! ### Behind an interface -/

/-- The object types of the type map, in order. -/
def objects (S : Schema) : List TypeId := S.types.filterMap S.objectId?

/-- The object types of the type map, in order, each as often as it claims that interface. -/
def implementers (S : Schema) (interface : TypeId) : List TypeId :=
  S.objects.flatMap fun object =>
    List.replicate ((S.catalog.typeDef object).interfaces.count (.named interface)) object

variable {c : Catalog} {b : Blueprint}

/-- One entry for each element that is looked for. -/
theorem filterMap_ite_eq_replicate {α β : Type} [DecidableEq α] (l : List α) (a : α) (found : β) :
    (l.filterMap fun x => if x = a then some found else none) =
      List.replicate (l.count a) found := by
  induction l with
  | nil => rfl
  | cons x rest ih =>
      rw [List.filterMap_cons, ih]
      by_cases hx : x = a
      · rw [hx, if_pos rfl, List.count_cons_self, List.replicate_succ]
      · rw [if_neg hx, List.count_cons_of_ne hx]

/-- What one object adds to the list behind an interface. -/
theorem Unmodified.claimants_of_object (h : Unmodified c b S) {interface object : TypeId}
    (hinterface : .named interface ∈ S.types)
    (hkind : (S.catalog.typeDef interface).kind = .interface) (hobject : .named object ∈ S.types)
    (hobjectKind : (S.catalog.typeDef object).kind = .object) :
    (S.claimsOf (.named object)).filterMap (fun claim =>
        if claim.1 = (S.catalog.typeDef interface).name then some claim.2 else none) =
      List.replicate ((S.catalog.typeDef object).interfaces.count (.named interface)) object := by
  have hid : S.objectId? (.named object) = some object :=
    objectId?_eq_some.mpr ⟨rfl, Catalog.isKind_named.mpr hobjectKind⟩
  rw [claimsOf, hid, List.filterMap_map, List.filterMap_filterMap, ← filterMap_ite_eq_replicate]
  refine List.filterMap_congr fun claim hclaim => ?_
  have hsame := h.interfaceName?_eq_iff hinterface hkind hobject hobjectKind hclaim
  by_cases hclaimed : claim = .named interface
  · rw [if_pos hclaimed, hsame.mpr hclaimed]
    simp
  · rw [if_neg hclaimed]
    cases hname : S.interfaceName? claim with
    | none => rfl
    | some name =>
        have hne : name ≠ (S.catalog.typeDef interface).name := by
          rintro rfl
          exact hclaimed (hsame.mp hname)
        simp [hne]

theorem Unmodified.possibleTypes_eq_implementers (h : Unmodified c b S) {interface : TypeId}
    (hinterface : .named interface ∈ S.types)
    (hkind : (S.catalog.typeDef interface).kind = .interface) :
    S.possibleTypes interface = S.implementers interface := by
  rw [possibleTypes_interface hkind, claimants, h.claimIndex_eq, indexClaims,
    List.filterMap_flatMap, implementers, objects, List.filterMap_eq_flatMap_toList,
    List.flatMap_assoc]
  refine List.flatMap_congr fun r hr => ?_
  cases hid : S.objectId? r with
  | none => simp [claimsOf, hid]
  | some object =>
      obtain ⟨rfl, hobjectKind⟩ := objectId?_eq_some.mp hid
      rw [h.claimants_of_object hinterface hkind hr (Catalog.isKind_named.mp hobjectKind)]
      simp

/-! ### Behind a union -/

theorem map_objectId?_named (r : Ref) :
    (S.objectId? r).map Ref.named = Option.guard (S.catalog.isKind .object) r := by
  unfold objectId? Option.guard
  by_cases hkind : S.catalog.isKind .object r = true
  · obtain ⟨id, rfl⟩ := Catalog.exists_named_of_isKind hkind
    rw [if_pos hkind, if_pos hkind]
    rfl
  · rw [if_neg hkind, if_neg hkind]
    rfl

theorem possibleTypes_union_eq_filter {union : TypeId}
    (hkind : (S.catalog.typeDef union).kind = .union) :
    (S.possibleTypes union).map Ref.named =
      (S.catalog.typeDef union).members.filter (S.catalog.isKind .object) := by
  rw [possibleTypes_union hkind, List.map_filterMap, ← List.filterMap_eq_filter]
  exact List.filterMap_congr fun r _ => map_objectId?_named r

/-! ### Without diagnostics -/

/-- Named types with different names are different. -/
theorem nodup_of_names {l : List Ref} (hnames : (l.filterMap S.catalog.name?).Nodup)
    {kind : Kind} (hkinds : ∀ r ∈ l, S.catalog.isKind kind r = true) : l.Nodup := by
  refine List.Pairwise.imp_of_mem ?_ (List.pairwise_filterMap.mp hnames)
  rintro r r' hr - hne rfl
  obtain ⟨id, rfl⟩ := Catalog.exists_named_of_isKind (hkinds r hr)
  exact hne _ rfl _ rfl rfl

theorem nodup_objects {Q : TypeId → Prop} (h : S.Lists Q) : S.objects.Nodup := by
  refine h.nodup.filterMap ?_
  intro r r' id hid hid'
  rw [(objectId?_eq_some.mp hid).1, (objectId?_eq_some.mp hid').1]

theorem Certified.nodup_implementers (hcertified : S.Certified) {Q : TypeId → Prop}
    (h : S.Lists Q) (interface : TypeId) : (S.implementers interface).Nodup := by
  refine List.nodup_flatMap.mpr ⟨?_, ?_⟩
  · intro object hobject
    obtain ⟨r, hr, hid⟩ := List.mem_filterMap.mp hobject
    obtain ⟨rfl, hkind⟩ := objectId?_eq_some.mp hid
    have hbody : S.BodyOk object := (hcertified.types object hr).body
    rw [BodyOk, Catalog.isKind_named.mp hkind] at hbody
    have hclaims : (S.catalog.typeDef object).interfaces.Nodup :=
      nodup_of_names hbody.2.distinct hbody.2.kinds
    exact List.nodup_replicate.mpr (List.nodup_iff_count_le_one.mp hclaims _)
  · refine (nodup_objects h).imp fun hne => ?_
    intro id hid hid'
    exact hne ((List.eq_of_mem_replicate hid).symm.trans (List.eq_of_mem_replicate hid'))

theorem Certified.membersOk (hcertified : S.Certified) {union : TypeId}
    (hunion : .named union ∈ S.types) (hkind : (S.catalog.typeDef union).kind = .union) :
    S.MembersOk .object union := by
  have hbody : S.BodyOk union := (hcertified.types union hunion).body
  rwa [BodyOk, hkind] at hbody

theorem Certified.possibleTypes_union_eq_members (hcertified : S.Certified) {union : TypeId}
    (hunion : .named union ∈ S.types) (hkind : (S.catalog.typeDef union).kind = .union) :
    (S.possibleTypes union).map Ref.named = (S.catalog.typeDef union).members := by
  rw [possibleTypes_union_eq_filter hkind]
  exact List.filter_eq_self.mpr (hcertified.membersOk hunion hkind).kinds

theorem Certified.nodup_possibleTypes_union (hcertified : S.Certified) {union : TypeId}
    (hunion : .named union ∈ S.types) (hkind : (S.catalog.typeDef union).kind = .union) :
    (S.possibleTypes union).Nodup := by
  have hmembers := hcertified.membersOk hunion hkind
  refine List.Nodup.of_map Ref.named ?_
  rw [hcertified.possibleTypes_union_eq_members hunion hkind]
  exact nodup_of_names hmembers.distinct hmembers.kinds

/-! ### All of it -/

/-- What `T` lists behind the abstract types of `S`. -/
structure ListsPossible (T S : Schema) : Prop where
  /-- Behind an interface of the type map are its implementers, once for each claim. -/
  interface : ∀ id, .named id ∈ S.types → (S.catalog.typeDef id).kind = .interface →
    T.possibleTypes id = S.implementers id
  /-- Behind a union are those of its members that are objects, in order. -/
  union : ∀ id, (S.catalog.typeDef id).kind = .union →
    (T.possibleTypes id).map Ref.named =
      (S.catalog.typeDef id).members.filter (S.catalog.isKind .object)
  /-- What is possible is what is listed. -/
  isPossible : ∀ id r, T.isPossible id r = true ↔ r ∈ (T.possibleTypes id).map Ref.named
  /-- If a fresh pass finds nothing, nothing is listed twice, -/
  nodup : T.diagnose = [] → ∀ id, .named id ∈ S.types →
    S.catalog.isAbstract (.named id) = true → (T.possibleTypes id).Nodup
  /-- and all members of a union are listed. -/
  members : T.diagnose = [] → ∀ id, .named id ∈ S.types →
    (S.catalog.typeDef id).kind = .union →
    (T.possibleTypes id).map Ref.named = (S.catalog.typeDef id).members

theorem isPossible_iff_mem {id : TypeId} {r : Ref} :
    S.isPossible id r = true ↔ r ∈ (S.possibleTypes id).map Ref.named := by
  simp only [isPossible, List.any_eq_true, decide_eq_true_eq, List.mem_map]

theorem Unmodified.listsPossible (h : Unmodified c b S) : S.ListsPossible S where
  interface := fun _ hid hkind => h.possibleTypes_eq_implementers hid hkind
  union := fun _ hkind => possibleTypes_union_eq_filter hkind
  isPossible := fun _ _ => isPossible_iff_mem
  nodup := by
    intro hclean id hid habstract
    have hcertified : S.Certified := h.diagnose_silent.mp hclean
    rcases Catalog.kind_of_isAbstract habstract with hkind | hkind
    · exact hcertified.nodup_possibleTypes_union hid hkind
    · rw [h.possibleTypes_eq_implementers hid hkind]
      exact hcertified.nodup_implementers h.lists id
  members := fun hclean _ hid hkind =>
    (h.diagnose_silent.mp hclean).possibleTypes_union_eq_members hid hkind

theorem AnswersLike.listsPossible {T : Schema} (hlike : T.AnswersLike S)
    (h : S.ListsPossible S) : T.ListsPossible S := by
  have hpossible : T.possibleTypes = S.possibleTypes := funext hlike.possibleTypes
  refine ⟨?_, ?_, ?_, ?_, ?_⟩
  · rw [hpossible]
    exact h.interface
  · rw [hpossible]
    exact h.union
  · intro id r
    rw [hlike.isPossible, hpossible]
    exact h.isPossible id r
  · rw [hpossible, hlike.diagnose]
    exact h.nodup
  · rw [hpossible, hlike.diagnose]
    exact h.members

/--
**What is behind an abstract type is listed exactly, whatever was asked before.**  In a
schema that was made, and then asked any questions in any order, look-ups give what they
gave at first.  Behind an interface of the type map are the objects of the type map in
order, each as often as it claims that interface itself; behind a union are those of its
members that are objects.  Without diagnostics nothing is listed twice, and a union is
listed in full.
-/
theorem possible_types_exact (h : build c b = .ok S) (questions : List Question) :
    (S.afterAsking questions).AnswersLike S ∧ (S.afterAsking questions).ListsPossible S := by
  have hlike : (S.afterAsking questions).AnswersLike S := S.answersLike_afterAsking questions
  exact ⟨hlike, hlike.listsPossible (Unmodified.built h).listsPossible⟩

/-- A dog that claims one interface twice, a cat that claims another one first, and a union in
which an interface stands and a cat comes twice. -/
def shelterCatalog : Catalog where
  types := #[
    { name := "Query", body := .objectOf [("pet", { type := .named (.own 4) })] [] },
    { name := "Node", body := .interfaceOf [id] },
    { name := "Dog", body := .objectOf [id] [.named (.own 1), .named (.own 1)] },
    { name := "Cat", body := .objectOf [id] [.named (.own 5), .named (.own 1)] },
    { name := "Pet"
      body := .union [.named (.own 3), .named (.own 1), .named (.own 2), .named (.own 3)] },
    { name := "Entity", body := .interfaceOf [id] }]
where
  id : String × Field := ("id", { type := Builtin.id.ref })

/-- Pets are asked for by a query. -/
def shelterBlueprint : Blueprint where
  query := .named (.own 0)

/-- Questions of every sort, some of which take the index. -/
def shelterQuestions : List Question :=
  [.possibleTypes (.own 4), .isSubtype (.named (.own 2)) (.named (.own 1)), .validate,
   .isPossible (.own 5) .null, .assertValid, .check "strict"]

theorem possible_types_exact_shelter :
    (∃ S, build shelterCatalog shelterBlueprint = .ok S ∧
      (S.afterAsking shelterQuestions).implementations.content ≠ none ∧
      (S.afterAsking shelterQuestions).possibleTypes (.own 1) = [.own 3, .own 2, .own 2] ∧
      ((S.afterAsking shelterQuestions).possibleTypes (.own 4)).map Ref.named =
        [.named (.own 3), .named (.own 2), .named (.own 3)]) ∧
    ∃ S, build petCatalog petBlueprint = .ok S ∧ S.diagnose = [] ∧
      ((S.afterAsking shelterQuestions).possibleTypes (.own 0)).Nodup ∧
      ((S.afterAsking shelterQuestions).possibleTypes (.own 3)).map Ref.named =
        [.named (.own 1)] := by
  refine ⟨?_, ?_⟩
  · obtain ⟨S, hbuild, hnode, hkept, hlist⟩ := @exists_build shelterCatalog shelterBlueprint
      (fun S => .named (.own 1) ∈ S.types ∧
        (S.afterAsking shelterQuestions).implementations.content ≠ none ∧
        S.implementers (.own 1) = [.own 3, .own 2, .own 2]) _ (by decide +kernel)
    have hcatalog : S.catalog = shelterCatalog := (build_ok hbuild).1
    obtain ⟨-, hlists⟩ := possible_types_exact hbuild shelterQuestions
    refine ⟨S, hbuild, hkept, ?_, ?_⟩
    · rw [hlists.interface _ hnode (by rw [hcatalog]; decide +kernel), hlist]
    · rw [hlists.union _ (by rw [hcatalog]; decide +kernel), hcatalog]
      decide +kernel
  · obtain ⟨S, hbuild, hclean, hanimal, hpet⟩ := @exists_build petCatalog petBlueprint
      (fun S => S.diagnose = [] ∧ .named (.own 0) ∈ S.types ∧ .named (.own 3) ∈ S.types)
      _ (by decide +kernel)
    have hcatalog : S.catalog = petCatalog := (build_ok hbuild).1
    obtain ⟨hlike, hlists⟩ := possible_types_exact hbuild shelterQuestions
    refine ⟨S, hbuild, hclean, ?_, ?_⟩
    · exact hlists.nodup (hlike.diagnose.trans hclean) _ hanimal (by rw [hcatalog]; decide +kernel)
    · rw [hlists.members (hlike.diagnose.trans hclean) _ hpet (by rw [hcatalog]; decide +kernel),
        hcatalog]
      decide +kernel

end Schema

end TypeGraph
