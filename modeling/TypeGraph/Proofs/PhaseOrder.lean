/-
The order of diagnostics is that of the phases.

Validators share one context and are registered in any order; the built-in ones
themselves are not registered phase by phase.  What they report comes out phase by
phase all the same.  A validator that does no more than report leaves two things of
the context to those that run after it: the reports, which it has made longer, and
perhaps an index that the schema has kept.  The built-in validators do not read the
first, and the second makes no difference to an answer (`isSubtype_keepingIndex`), so
each of them reports what it would have reported at the start.

Validators from elsewhere may read both, so what they report depends on where they
are run; `blocks` follows the run for that reason.
-/
import Mathlib.Data.List.Nodup
import TypeGraph.Proofs.Silence

namespace TypeGraph

/-! ### Keeping the index makes no difference -/

namespace Schema

variable (S : Schema)

theorem keepingIndex_keepingIndex (first second : Bool) :
    (S.keepingIndex first).keepingIndex second = S.keepingIndex (first || second) := by
  cases first with
  | false => rfl
  | true => cases second <;> rfl

theorem claimIndex_keepingIndex (consulted : Bool) :
    (S.keepingIndex consulted).claimIndex = S.claimIndex := by
  cases consulted <;> rfl

theorem catalog_keepingIndex (consulted : Bool) :
    (S.keepingIndex consulted).catalog = S.catalog := by
  cases consulted <;> rfl

theorem possibleTypes_keepingIndex (consulted : Bool) (abstract : TypeId) :
    (S.keepingIndex consulted).possibleTypes abstract = S.possibleTypes abstract := by
  have hobject : (S.keepingIndex consulted).objectId? = S.objectId? := by
    funext r
    rw [objectId?, objectId?, catalog_keepingIndex]
  simp only [possibleTypes, claimants, catalog_keepingIndex, claimIndex_keepingIndex, hobject]

theorem isPossible_keepingIndex (consulted : Bool) (abstract : TypeId) (member : Ref) :
    (S.keepingIndex consulted).isPossible abstract member = S.isPossible abstract member := by
  rw [isPossible, isPossible, possibleTypes_keepingIndex]

theorem isSubtype_keepingIndex (consulted : Bool) (sub super : Ref) :
    (S.keepingIndex consulted).isSubtype sub super = S.isSubtype sub super := by
  simp only [isSubtype, catalog_keepingIndex, isPossible_keepingIndex]

end Schema

namespace Scope

/-- The check finds the same whether or not the schema has kept its index. -/
def Indifferent (check : Scope → List Diagnostic) : Prop :=
  ∀ S l consulted, check ⟨Schema.keepingIndex S consulted, l⟩ = check ⟨S, l⟩

theorem indifferent_checkRoots : Indifferent checkRoots := by
  intro S l consulted
  cases consulted <;> rfl

theorem indifferent_checkDirectives : Indifferent checkDirectives := by
  intro S l consulted
  cases consulted <;> rfl

variable {S : Schema} {l : Locator}

theorem checkSharedType_keepingIndex (consulted : Bool) (object interface : TypeDef)
    (field : String) (given expected : Field) :
    checkSharedType ⟨S.keepingIndex consulted, l⟩ object interface field given expected =
      checkSharedType ⟨S, l⟩ object interface field given expected := by
  simp only [checkSharedType, inspect, catalog, Schema.catalog_keepingIndex,
    Schema.isSubtype_keepingIndex]

theorem checkClaims_keepingIndex (consulted : Bool) (id : TypeId) :
    checkClaims ⟨S.keepingIndex consulted, l⟩ id = checkClaims ⟨S, l⟩ id := by
  have hobligation : ∀ object interface, checkObligation ⟨S.keepingIndex consulted, l⟩ object
      interface = checkObligation ⟨S, l⟩ object interface := by
    intro object interface
    funext entry
    simp only [checkObligation, checkSharedType_keepingIndex]
    cases consulted <;> rfl
  have hclaim : ∀ object, checkMarkedClaim ⟨S.keepingIndex consulted, l⟩ object =
      checkMarkedClaim ⟨S, l⟩ object := by
    intro object
    funext marked
    simp only [checkMarkedClaim, checkClaim, checkConformance, hobligation]
    cases consulted <;> rfl
  simp only [checkClaims, catalog, Schema.catalog_keepingIndex, hclaim]

/-- Of all that is checked in the type map, only the claims of an object take the index. -/
theorem indifferent_checkTypes : Indifferent checkTypes := by
  intro S l consulted
  have hentry : checkEntry ⟨S.keepingIndex consulted, l⟩ = checkEntry ⟨S, l⟩ := by
    funext r
    cases r with
    | named id =>
        simp only [checkEntry, checkNamedType, checkByKind, checkObject, checkClaims_keepingIndex]
        cases consulted <;> rfl
    | _ => cases consulted <;> rfl
  unfold checkTypes
  rw [hentry]
  cases consulted <;> rfl

end Scope

/-! ### One validator -/

/-- A context with the same nodes, and with the same schema but for an index that may be kept. -/
structure Context.Resembles (ctx start : Context) : Prop where
  locator : ctx.locator = start.locator
  schema : ∃ consulted, ctx.schema = start.schema.keepingIndex consulted

namespace Context.Resembles

variable {ctx ctx' start : Context}

theorem refl (start : Context) : start.Resembles start := ⟨rfl, false, rfl⟩

theorem trans (h' : ctx'.Resembles ctx) (h : ctx.Resembles start) : ctx'.Resembles start := by
  obtain ⟨first, hfirst⟩ := h.schema
  obtain ⟨second, hsecond⟩ := h'.schema
  refine ⟨h'.locator.trans h.locator, first || second, ?_⟩
  rw [hsecond, hfirst, Schema.keepingIndex_keepingIndex]

theorem find_eq {check : Scope → List Diagnostic} (hcheck : Scope.Indifferent check)
    (h : ctx.Resembles start) : check ctx.scope = check start.scope := by
  obtain ⟨consulted, hschema⟩ := h.schema
  show check ⟨ctx.schema, ctx.locator⟩ = check ⟨start.schema, start.locator⟩
  rw [hschema, h.locator, hcheck]

end Context.Resembles

/-- Whether a phase is the same as another or runs before it. -/
def Phase.le (p q : Phase) : Bool := all.idxOf p ≤ all.idxOf q

namespace Validator

/-- A validator that does no more than report.  It may ask whatever it likes, so that the index
may be kept afterwards. -/
structure OnlyReports (v : Validator) : Prop where
  reported : ∀ ctx, ctx.reported <+: (v.check ctx).reported
  resembles : ∀ ctx, (v.check ctx).Resembles ctx

/-- What a validator adds to the reports of a context. -/
def block (v : Validator) (ctx : Context) : List Diagnostic :=
  (v.check ctx).reported.drop ctx.reported.length

/-- What each validator adds when they are run one after the other. -/
def blocks : List Validator → Context → List (Validator × List Diagnostic)
  | [], _ => []
  | v :: rest, ctx => (v, v.block ctx) :: blocks rest (v.check ctx)

variable {v : Validator} {vs : List Validator} {ctx : Context}

theorem OnlyReports.reported_check (h : v.OnlyReports) (ctx : Context) :
    (v.check ctx).reported = ctx.reported ++ v.block ctx :=
  (List.prefix_iff_eq_append.mp (h.reported ctx)).symm

section Finding

variable {name : String} {phase : Phase} {find : Scope → List Diagnostic} {consults : Scope → Bool}

theorem onlyReports_finding : (finding name phase find consults).OnlyReports :=
  ⟨fun _ => List.prefix_append _ _, fun ctx => ⟨rfl, consults ctx.scope, rfl⟩⟩

theorem block_finding (ctx : Context) :
    (finding name phase find consults).block ctx = find ctx.scope :=
  List.drop_left

end Finding

theorem onlyReports_of_mem_builtin (h : v ∈ builtin) : v.OnlyReports := by
  simp only [builtin, List.mem_cons, List.not_mem_nil, or_false] at h
  rcases h with rfl | rfl | rfl <;> exact onlyReports_finding

/-! ### Validators in turn -/

theorem map_fst_blocks (vs : List Validator) (ctx : Context) :
    (blocks vs ctx).map Prod.fst = vs := by
  induction vs generalizing ctx with
  | nil => rfl
  | cons v rest ih => rw [blocks, List.map_cons, ih]

theorem reported_inTurn (h : ∀ v ∈ vs, v.OnlyReports) :
    (inTurn vs ctx).reported = ctx.reported ++ (blocks vs ctx).flatMap Prod.snd := by
  induction vs generalizing ctx with
  | nil => exact (List.append_nil _).symm
  | cons v rest ih =>
      have hv : v.OnlyReports := h v List.mem_cons_self
      have hrest : ∀ w ∈ rest, w.OnlyReports := fun w hw => h w (List.mem_cons_of_mem _ hw)
      show (inTurn rest (v.check ctx)).reported = _
      rw [ih hrest, hv.reported_check, blocks, List.flatMap_cons, List.append_assoc]

/-- Each block was reported in a context like the first one. -/
theorem exists_of_mem_blocks (h : ∀ v ∈ vs, v.OnlyReports) {block : List Diagnostic}
    (hmem : (v, block) ∈ blocks vs ctx) :
    ∃ met : Context, met.Resembles ctx ∧ block = v.block met := by
  induction vs generalizing ctx with
  | nil => exact absurd hmem List.not_mem_nil
  | cons w rest ih =>
      rcases List.mem_cons.mp hmem with heq | hmem
      · obtain ⟨rfl, rfl⟩ := Prod.mk.inj heq
        exact ⟨ctx, .refl ctx, rfl⟩
      · have hrest : ∀ u ∈ rest, u.OnlyReports := fun u hu => h u (List.mem_cons_of_mem _ hu)
        obtain ⟨met, hmet, heq⟩ := ih hrest hmem
        exact ⟨met, hmet.trans ((h w List.mem_cons_self).resembles ctx), heq⟩

theorem block_eq_of_mem_blocks (h : ∀ v ∈ vs, v.OnlyReports) {name : String} {phase : Phase}
    {find : Scope → List Diagnostic} {consults : Scope → Bool} {block : List Diagnostic}
    (hfind : Scope.Indifferent find)
    (hmem : (finding name phase find consults, block) ∈ blocks vs ctx) :
    block = find ctx.scope := by
  obtain ⟨met, hmet, rfl⟩ := exists_of_mem_blocks h hmem
  rw [block_finding, hmet.find_eq hfind]

/-! ### Phase by phase is sorted by phase -/

/-- Whether a validator may run before another. -/
def notAfter (v w : Validator) : Bool := v.phase.le w.phase

/-- A list that is sorted by phase is what each phase has of it, one after the other. -/
theorem flatMap_filter_of_sorted {l : List Validator}
    (h : l.Pairwise fun v w => v.notAfter w = true) :
    Phase.all.flatMap (fun phase => l.filter fun v => v.phase = phase) = l := by
  induction l with
  | nil => rfl
  | cons v rest ih =>
      rw [List.pairwise_cons] at h
      have hrest := ih h.2
      -- A phase before that of the first validator has nothing at all.
      have hnone : ∀ phase, v.phase.le phase = false →
          rest.filter (fun w => w.phase = phase) = [] := by
        intro phase hphase
        rw [List.filter_eq_nil_iff]
        intro w hw heq
        have hle : v.phase.le w.phase = true := h.1 w hw
        rw [of_decide_eq_true heq, hphase] at hle
        exact Bool.noConfusion hle
      simp only [Phase.all, List.flatMap_cons, List.flatMap_nil, List.append_nil,
        List.filter_cons] at hrest ⊢
      cases hv : v.phase with
      | rootTypes => simp [hrest]
      | directives =>
          have hroots := hnone .rootTypes (by rw [hv]; decide)
          rw [hroots] at hrest ⊢
          simpa using hrest
      | types =>
          have hroots := hnone .rootTypes (by rw [hv]; decide)
          have hdirectives := hnone .directives (by rw [hv]; decide)
          rw [hroots, hdirectives] at hrest ⊢
          simpa using hrest

theorem notAfter_trans (u v w : Validator) (huv : u.notAfter v = true)
    (hvw : v.notAfter w = true) : u.notAfter w = true := by
  simp only [notAfter, Phase.le, decide_eq_true_eq] at huv hvw ⊢
  omega

theorem notAfter_total (v w : Validator) : (v.notAfter w || w.notAfter v) = true := by
  simp only [notAfter, Phase.le, Bool.or_eq_true, decide_eq_true_eq]
  omega

/-- The validators sorted by phase, those of one phase in the order they are registered. -/
def inOrder (registry : List Validator) : List Validator := registry.mergeSort notAfter

theorem pairwise_inOrder (registry : List Validator) :
    (inOrder registry).Pairwise fun v w => v.notAfter w = true :=
  List.pairwise_mergeSort notAfter_trans notAfter_total registry

/-- Sorting keeps the order within a phase. -/
theorem filter_inOrder (registry : List Validator) (phase : Phase) :
    (inOrder registry).filter (fun v => v.phase = phase) =
      registry.filter fun v => v.phase = phase := by
  have hsorted : (registry.filter fun v => v.phase = phase).Pairwise
      fun v w => v.notAfter w = true := by
    refine List.pairwise_of_forall_mem_list fun v hv w hw => ?_
    have hphase : v.phase = w.phase := by
      rw [of_decide_eq_true (List.mem_filter.mp hv).2, of_decide_eq_true (List.mem_filter.mp hw).2]
    simp [notAfter, Phase.le, hphase]
  have hsublist := (List.sublist_mergeSort notAfter_trans notAfter_total hsorted
    List.filter_sublist).filter fun v => v.phase = phase
  have hlength :=
    ((List.mergeSort_perm registry notAfter).filter fun v => v.phase = phase).length_eq
  rw [List.filter_filter] at hsublist
  simp only [Bool.and_self] at hsublist
  exact (hsublist.eq_of_length hlength.symm).symm

theorem run_eq_inTurn (registry : List Validator) (ctx : Context) :
    run registry ctx = inTurn (inOrder registry) ctx := by
  have horder := flatMap_filter_of_sorted (pairwise_inOrder registry)
  simp only [filter_inOrder] at horder
  rw [← horder]
  exact List.foldl_flatMap.symm

/--
**Diagnostics come phase by phase.**  Take the built-in validators and any others that only
report, registered in any order, and a context with any reports.  A run leaves these reports
where they are and puts a block for each validator behind them, sorted by phase and within a phase
in the order of registration.  The block of a built-in validator is read off the schema and its
nodes as they were at the start: the roots, the directives one by one, the types of the type map
one by one.
-/
theorem run_ordered_by_phase {registry others : List Validator}
    (hregistry : registry.Perm (builtin ++ others)) (hothers : ∀ v ∈ others, v.OnlyReports)
    (ctx : Context) :
    (inOrder registry).Perm (builtin ++ others) ∧
      ((inOrder registry).Pairwise fun v w => v.notAfter w = true) ∧
      (∀ phase, (inOrder registry).filter (fun v => v.phase = phase) =
        registry.filter fun v => v.phase = phase) ∧
      (blocks (inOrder registry) ctx).map Prod.fst = inOrder registry ∧
      (run registry ctx).reported =
        ctx.reported ++ (blocks (inOrder registry) ctx).flatMap Prod.snd ∧
      ∀ v block, (v, block) ∈ blocks (inOrder registry) ctx →
        (v = rootTypes → block = ctx.scope.checkRoots) ∧
        (v = directives → block = ctx.schema.directives.flatMap ctx.scope.checkDirective) ∧
        (v = namedTypes → block = ctx.schema.types.flatMap ctx.scope.checkEntry) := by
  have hperm : (inOrder registry).Perm (builtin ++ others) :=
    (List.mergeSort_perm registry notAfter).trans hregistry
  have honly : ∀ v ∈ inOrder registry, v.OnlyReports := by
    intro v hv
    rcases List.mem_append.mp (hperm.subset hv) with hbuiltin | hother
    · exact onlyReports_of_mem_builtin hbuiltin
    · exact hothers v hother
  refine ⟨hperm, pairwise_inOrder registry, filter_inOrder registry, map_fst_blocks _ _, ?_, ?_⟩
  · rw [run_eq_inTurn, reported_inTurn honly]
  · intro v block hmem
    refine ⟨?_, ?_, ?_⟩
    · rintro rfl
      exact block_eq_of_mem_blocks honly Scope.indifferent_checkRoots hmem
    · rintro rfl
      exact block_eq_of_mem_blocks honly Scope.indifferent_checkDirectives hmem
    · rintro rfl
      exact block_eq_of_mem_blocks honly Scope.indifferent_checkTypes hmem

/-- A validator that tells how much was reported before it. -/
def counting : Validator :=
  ⟨"counting", .directives, fun ctx =>
    ctx.report [.stated (toString ctx.reported.length ++ " before.")]⟩

/-- A union without members. -/
def hollowCatalog : Catalog where
  types := #[{ name := "Hollow", body := .union [] }]

/-- Nothing answers queries, and null is registered for a directive. -/
def hollowBlueprint : Blueprint where
  types := [.named (.own 0)]
  directives := [.null]

/-- Other validators first, and the built-in ones from the last to the first. -/
def mixedRegistry : List Validator :=
  [counting, stating "remark" .rootTypes "A remark."] ++ builtin.reverse

theorem run_ordered_by_phase_hollow :
    ∃ S, Schema.build hollowCatalog hollowBlueprint = .ok S ∧
      mixedRegistry.Perm (builtin ++ [counting, stating "remark" .rootTypes "A remark."]) ∧
      (∀ v ∈ [counting, stating "remark" .rootTypes "A remark."], v.OnlyReports) ∧
      (run mixedRegistry ((Context.ofSchema S).report [.stated "Earlier."])).reported.map
        Diagnostic.message =
          ["Earlier.", "A remark.", "Query root type must be provided.", "3 before.",
           "Expected directive but got: None.",
           "Union type Hollow must define one or more member types."] ∧
      (run mixedRegistry ((Context.ofSchema S).report [.stated "Earlier."])).reported =
        [.stated "Earlier."] ++ (blocks (inOrder mixedRegistry)
          ((Context.ofSchema S).report [.stated "Earlier."])).flatMap Prod.snd := by
  obtain ⟨S, hbuild, hmessages⟩ := @Schema.exists_build hollowCatalog hollowBlueprint
    (fun S => (run mixedRegistry ((Context.ofSchema S).report [.stated "Earlier."])).reported.map
      Diagnostic.message =
        ["Earlier.", "A remark.", "Query root type must be provided.", "3 before.",
         "Expected directive but got: None.",
         "Union type Hollow must define one or more member types."]) _ (by decide +kernel)
  have hperm : mixedRegistry.Perm
      (builtin ++ [counting, stating "remark" .rootTypes "A remark."]) :=
    List.perm_append_comm.trans ((List.reverse_perm builtin).append_right _)
  have hothers : ∀ v ∈ [counting, stating "remark" .rootTypes "A remark."], v.OnlyReports := by
    intro v hv
    simp only [List.mem_cons, List.not_mem_nil, or_false] at hv
    rcases hv with rfl | rfl
    · exact ⟨fun _ => List.prefix_append _ _, fun _ => ⟨rfl, false, rfl⟩⟩
    · exact ⟨fun _ => List.prefix_append _ _, fun _ => ⟨rfl, false, rfl⟩⟩
  exact ⟨S, hbuild, hperm, hothers, hmessages,
    (run_ordered_by_phase hperm hothers _).2.2.2.2.1⟩

end Validator

end TypeGraph
