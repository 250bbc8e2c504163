/-
Schemas that have only been asked.

Two cells of a schema are filled while it is used: the verdict of validation and
the index of implementations.  Nothing else of it changes unless it is edited.  So a
schema that was made and since then only questioned, validated or given a verdict
differs from what was made in those two cells, and the index, kept or not, is that
of the type map.
-/
import TypeGraph.Proofs.TypeMap
import TypeGraph.Validation

namespace TypeGraph

namespace Schema

/-- Made from `c` and `b`, and not edited since. -/
inductive Unmodified (c : Catalog) (b : Blueprint) : Schema → Prop
  | built {S : Schema} (h : build c b = .ok S) : Unmodified c b S
  | asked {S : Schema} (h : Unmodified c b S) (consulted : Bool) :
      Unmodified c b (S.keepingIndex consulted)
  | validated {S : Schema} (h : Unmodified c b S) : Unmodified c b S.validate.schema
  | judged {S : Schema} (h : Unmodified c b S) (verdict : List Diagnostic) :
      Unmodified c b (S.setVerdict verdict)

/-- `S` is `T` up to the two cells, and look-ups in `S` use the index of the type map. -/
structure Agrees (S T : Schema) : Prop where
  parts : S = { T with verdict := S.verdict, implementations := S.implementations }
  index : S.claimIndex = T.indexClaims

variable {c : Catalog} {b : Blueprint} {S T : Schema}

/-! ### What each use of a schema leaves alone -/

theorem Agrees.keepingIndex (h : S.Agrees T) (consulted : Bool) :
    (S.keepingIndex consulted).Agrees T := by
  cases consulted with
  | false => exact h
  | true =>
      refine ⟨?_, ?_⟩
      · show { S with implementations := S.implementations.set S.indexClaims } = _
        rw [h.parts]
        rfl
      · show (S.implementations.set S.indexClaims).content.getD S.indexClaims = T.indexClaims
        rw [OneShot.set, Option.getD_some]
        exact h.index

theorem Agrees.withVerdict (h : S.Agrees T) (cell : OneShot (List Diagnostic)) :
    Agrees { S with verdict := cell } T := by
  refine ⟨?_, h.index⟩
  rw [h.parts]

theorem Agrees.validate (h : S.Agrees T) : S.validate.schema.Agrees T := by
  show Agrees { (if S.verdict.isFilled then S else S.afterPass) with verdict := _ } T
  refine Agrees.withVerdict ?_ _
  by_cases hfilled : S.verdict.isFilled = true
  · rw [if_pos hfilled]
    exact h
  · rw [if_neg hfilled]
    exact h.keepingIndex _

/-! ### What an unmodified schema is -/

theorem Unmodified.agrees (h : Unmodified c b S) : ∃ T, build c b = .ok T ∧ S.Agrees T := by
  induction h with
  | @built S hbuild =>
      refine ⟨S, hbuild, rfl, ?_⟩
      rw [claimIndex, (build_ok hbuild).2.1]
      rfl
  | asked _ consulted ih =>
      obtain ⟨T, hbuild, hagree⟩ := ih
      exact ⟨T, hbuild, hagree.keepingIndex consulted⟩
  | validated _ ih =>
      obtain ⟨T, hbuild, hagree⟩ := ih
      exact ⟨T, hbuild, hagree.validate⟩
  | judged _ verdict ih =>
      obtain ⟨T, hbuild, hagree⟩ := ih
      exact ⟨T, hbuild, hagree.withVerdict _⟩

/-- The parts of a schema that are taken over from what it is made of. -/
structure Follows (S : Schema) (c : Catalog) (b : Blueprint) : Prop where
  catalog : S.catalog = c
  query : S.query = b.query
  mutation : S.mutation = b.mutation
  subscription : S.subscription = b.subscription
  directives : S.directives = b.directives
  legacyNames : S.legacyNames = b.legacyNames

theorem build_follows (h : build c b = .ok S) : S.Follows c b := by
  unfold build at h
  cases hfound : c.collectAll (b.startingRefs c) with
  | error fault =>
      rw [hfound] at h
      cases h
  | ok found =>
      rw [hfound] at h
      cases h
      exact ⟨rfl, rfl, rfl, rfl, rfl, rfl⟩

theorem Unmodified.follows (h : Unmodified c b S) : S.Follows c b := by
  obtain ⟨T, hbuild, hagree⟩ := h.agrees
  have hT : T.Follows c b := build_follows hbuild
  rw [hagree.parts]
  exact ⟨hT.catalog, hT.query, hT.mutation, hT.subscription, hT.directives, hT.legacyNames⟩

theorem Unmodified.catalog_eq (h : Unmodified c b S) : S.catalog = c := h.follows.catalog

/-- Its type map is still that of the types reached. -/
theorem Unmodified.lists (h : Unmodified c b S) : S.Lists (b.Reaches c) := by
  obtain ⟨T, hbuild, hagree⟩ := h.agrees
  have hlists := build_lists hbuild
  rw [hagree.parts]
  exact ⟨hlists.mem_types, hlists.nodup, hlists.keyed, hlists.found, hlists.missing⟩

/-- Look-ups use the index of the type map, whether it was kept or not. -/
theorem Unmodified.claimIndex_eq (h : Unmodified c b S) : S.claimIndex = S.indexClaims := by
  obtain ⟨T, hbuild, hagree⟩ := h.agrees
  have hparts : S.indexClaims = T.indexClaims := by
    rw [hagree.parts]
    rfl
  rw [hagree.index, hparts]

end Schema

end TypeGraph
