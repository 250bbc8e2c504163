/-
The type map of a schema is exact.

A blueprint reaches a set of types.  If two of them have one name there is no
schema; otherwise there is one, and its type map lists that set, each type once and
under its own name.  The walk's invariant gives all of it: a refused walk has two
such types in hand, and a table that is closed and holds what the walk started from
holds everything reached, where a second type of one name has no place.
-/
import Mathlib.Data.List.Nodup
import TypeGraph.Proofs.Reach

namespace TypeGraph

/-- Two of the types reached have one name. -/
def Blueprint.Clashes (b : Blueprint) (c : Catalog) : Prop :=
  ∃ i j, b.Reaches c i ∧ b.Reaches c j ∧ i ≠ j ∧ (c.typeDef i).name = (c.typeDef j).name

/-- The type map lists the types of `Q` and nothing else. -/
structure Schema.Lists (S : Schema) (Q : TypeId → Prop) : Prop where
  /-- Its values are these types. -/
  mem_types : ∀ r, r ∈ S.types ↔ ∃ id, r = .named id ∧ Q id
  /-- Each occurs once. -/
  nodup : S.types.Nodup
  /-- Each stands under its own name. -/
  keyed : ∀ name r, (name, r) ∈ S.typeMap.entries → S.catalog.name? r = some name
  /-- Each is what its name is looked up as. -/
  found : ∀ id, Q id → S.getType (S.catalog.typeDef id).name = .named id
  /-- A name that none of them bears is looked up in vain. -/
  missing : ∀ name, (∀ id, Q id → (S.catalog.typeDef id).name ≠ name) → S.getType name = .null

namespace Schema

variable {c : Catalog} {b : Blueprint} {S : Schema}

/-! ### Making a schema is one walk -/

theorem build_error {fault : Fault} :
    build c b = .error fault ↔ c.walk ⟨.empty, b.startingRefs c⟩ = .error fault := by
  unfold build Catalog.collectAll
  rw [Catalog.foldlM_collect]
  cases c.walk ⟨.empty, b.startingRefs c⟩ <;> simp [bind, Except.bind, pure, Except.pure]

/-- A schema that was made holds its catalog and what the walk found, and has kept no index. -/
theorem build_ok (h : build c b = .ok S) :
    S.catalog = c ∧ S.implementations = .empty ∧
      ∃ final, c.walk ⟨.empty, b.startingRefs c⟩ = .ok final ∧
        S.typeMap = final.map fun _ id => .named id := by
  unfold build Catalog.collectAll at h
  rw [Catalog.foldlM_collect] at h
  cases hwalk : c.walk ⟨.empty, b.startingRefs c⟩ with
  | error fault =>
      rw [hwalk] at h
      cases h
  | ok final =>
      rw [hwalk] at h
      cases h
      exact ⟨rfl, rfl, final, rfl, rfl⟩

/-- A schema is there to be examined if making it and testing it succeeds. -/
theorem exists_build {P : Schema → Prop} [DecidablePred P]
    (h : (build c b).toOption.any (fun S => decide (P S)) = true) :
    ∃ S, build c b = .ok S ∧ P S := by
  cases hbuild : build c b with
  | error fault =>
      rw [hbuild] at h
      exact absurd h (by simp [Except.toOption])
  | ok S =>
      rw [hbuild] at h
      exact ⟨S, rfl, of_decide_eq_true h⟩

/-- Before its first step the walk knows what it has to know. -/
theorem walk_start : c.Walk (b.Reaches c) ⟨.empty, b.startingRefs c⟩ where
  named := fun _ _ h => absurd h (Option.some_ne_none _).symm
  reached := fun _ _ h => absurd h (Option.some_ne_none _).symm
  awaited := fun _ hr _ hid => .start (Blueprint.mem_startingRefs_iff.mp hr) hid
  closed := fun _ _ h => absurd h (Option.some_ne_none _).symm

/-! ### Reading the map off the walk -/

/-- The table holds the types reached, each under its name. -/
theorem get?_final {final : Table TypeId}
    (h : c.walk ⟨.empty, b.startingRefs c⟩ = .ok final) (name : String) (id : TypeId) :
    final.get? name = some id ↔ b.Reaches c id ∧ (c.typeDef id).name = name := by
  obtain ⟨hw, hleads⟩ := Catalog.walk_ok (fun _ _ => .step) walk_start h
  refine ⟨?_, ?_⟩
  · intro hid
    exact ⟨hw.reached name id hid, hw.named name id hid⟩
  · intro ⟨hid, hname⟩
    subst hname
    induction hid with
    | start hr hid =>
        exact hleads _ (Or.inr ⟨_, Blueprint.mem_startingRefs_iff.mpr hr, hid⟩)
    | step hi hij ih =>
        rcases hw.closed _ _ ih hij with hj | ⟨r, hr, -⟩
        · exact hj
        · exact absurd hr List.not_mem_nil

/-- A look-up in the type map finds a type reached, by its name. -/
theorem get?_typeMap (h : build c b = .ok S) (name : String) (r : Ref) :
    S.typeMap.get? name = some r ↔
      ∃ id, r = .named id ∧ b.Reaches c id ∧ (c.typeDef id).name = name := by
  obtain ⟨-, -, final, hwalk, hmap⟩ := build_ok h
  rw [hmap, Table.get?_map, Option.map_eq_some_iff]
  refine ⟨?_, ?_⟩
  · intro ⟨id, hid, hr⟩
    exact ⟨id, hr.symm, (get?_final hwalk name id).mp hid⟩
  · intro ⟨id, hr, hid⟩
    exact ⟨id, (get?_final hwalk name id).mpr hid, hr.symm⟩

theorem build_lists (h : build c b = .ok S) : S.Lists (b.Reaches c) := by
  have hcatalog : S.catalog = c := (build_ok h).1
  have hkeyed : ∀ name r, (name, r) ∈ S.typeMap.entries → S.catalog.name? r = some name := by
    intro name r hmem
    obtain ⟨id, rfl, -, hname⟩ :=
      (get?_typeMap h name r).mp ((Table.get?_eq_some_iff _ _ _).mpr hmem)
    rw [hcatalog, ← hname]
    rfl
  refine ⟨?_, ?_, hkeyed, ?_, ?_⟩
  · intro r
    rw [types, Table.mem_values_iff]
    simp only [get?_typeMap h]
    refine ⟨?_, ?_⟩
    · intro ⟨name, id, hr, hid, _⟩
      exact ⟨id, hr, hid⟩
    · intro ⟨id, hr, hid⟩
      exact ⟨_, id, hr, hid, rfl⟩
  · -- Every value determines its key, and no key occurs twice.
    have hkeys : S.types.map S.catalog.name? = S.typeMap.keys.map some := by
      rw [types, Table.values, Table.keys, List.map_map, List.map_map]
      exact List.map_congr_left fun entry hentry => hkeyed entry.1 entry.2 hentry
    refine List.Nodup.of_map S.catalog.name? ?_
    rw [hkeys]
    exact S.typeMap.nodup.map fun _ _ => Option.some.inj
  · intro id hid
    rw [getType, (get?_typeMap h _ (.named id)).mpr ⟨id, rfl, hid, by rw [hcatalog]⟩]
    rfl
  · intro name hnone
    cases hget : S.typeMap.get? name with
    | none => rw [getType, hget]; rfl
    | some r =>
        obtain ⟨id, -, hid, hname⟩ := (get?_typeMap h name r).mp hget
        exact absurd (hcatalog ▸ hname) (hnone id hid)

/-! ### When there is no schema -/

theorem clashes_of_build_error {fault : Fault} (h : build c b = .error fault) :
    b.Clashes c ∧ ∃ name, fault = .ambiguousName name := by
  obtain ⟨i, j, hi, hj, hne, hname, hfault⟩ :=
    Catalog.walk_error (fun _ _ => .step) walk_start (build_error.mp h)
  exact ⟨⟨i, j, hi, hj, hne, hname⟩, _, hfault⟩

theorem not_clashes_of_build_ok (h : build c b = .ok S) : ¬ b.Clashes c := by
  intro ⟨i, j, hi, hj, hne, hname⟩
  obtain ⟨-, -, final, hwalk, -⟩ := build_ok h
  have hati := (get?_final hwalk _ i).mpr ⟨hi, rfl⟩
  have hatj := (get?_final hwalk _ j).mpr ⟨hj, rfl⟩
  rw [hname, hatj] at hati
  exact hne (Option.some.inj hati).symm

/--
**The type map is exact.**  Making a schema is refused precisely when two of the types
reached have one name.  Otherwise it succeeds, and the type map lists the types
reached, each once and under its own name.
-/
theorem build_exact (c : Catalog) (b : Blueprint) :
    ((∃ name, build c b = .error (.ambiguousName name)) ↔ b.Clashes c) ∧
      (¬ b.Clashes c → ∃ S, build c b = .ok S ∧ S.catalog = c ∧ S.Lists (b.Reaches c)) := by
  cases hbuild : build c b with
  | error fault =>
      obtain ⟨hclash, name, rfl⟩ := clashes_of_build_error hbuild
      exact ⟨⟨fun _ => hclash, fun _ => ⟨name, rfl⟩⟩, fun hno => absurd hclash hno⟩
  | ok S =>
      have hno : ¬ b.Clashes c := not_clashes_of_build_ok hbuild
      refine ⟨⟨?_, fun hclash => absurd hclash hno⟩, fun _ => ?_⟩
      · intro ⟨name, h⟩
        simp at h
      · exact ⟨S, rfl, (build_ok hbuild).1, build_lists hbuild⟩

end Schema

end TypeGraph
