/-
Types are found in the order in which a recursive walk first reaches them.

`walk` keeps one list of references still to be followed, the next one first.  At any
time that list mixes what is left of many types, it may hold a type several times, and
whether a type is new is asked only when its turn comes.  `Explores` is the recursion
without such a list: a type that is new is entered, and then what it refers to is explored
to the end before the walk goes on, so what is left of the other types waits in the
recursion.

The types may refer to each other in a circle, and nothing in `Explores` says that the
recursion ends.  That it has an outcome, and one only, is a part of what is proved.  It has
that of the loop by induction on the recursion, and there is one by induction on the loop.
-/
import TypeGraph.Proofs.TypeMap

namespace TypeGraph

namespace Catalog

/-- Following the references in turn, each with all that it leads to, has that outcome.  A type not
found yet is entered, and what it refers to is explored to the end before the walk goes on. -/
inductive Explores (c : Catalog) :
    Table TypeId → List Ref → Except Fault (Table TypeId) → Prop
  | done {found : Table TypeId} : Explores c found [] (.ok found)
  | passed {found : Table TypeId} {ref : Ref} {rest : List Ref}
      {outcome : Except Fault (Table TypeId)}
      (hknown : ∀ id, ref.namedType? = some id → found.get? (c.typeDef id).name = some id)
      (hrest : Explores c found rest outcome) : Explores c found (ref :: rest) outcome
  | entered {found after : Table TypeId} {ref : Ref} {rest : List Ref} {id : TypeId}
      {outcome : Except Fault (Table TypeId)} (hid : ref.namedType? = some id)
      (hnew : found.get? (c.typeDef id).name = none)
      (hinside : Explores c (found.insert (c.typeDef id).name id) (c.typeDef id).declared
        (.ok after))
      (hrest : Explores c after rest outcome) : Explores c found (ref :: rest) outcome
  | failed {found : Table TypeId} {ref : Ref} {rest : List Ref} {id : TypeId} {fault : Fault}
      (hid : ref.namedType? = some id) (hnew : found.get? (c.typeDef id).name = none)
      (hinside : Explores c (found.insert (c.typeDef id).name id) (c.typeDef id).declared
        (.error fault)) : Explores c found (ref :: rest) (.error fault)
  | clashed {found : Table TypeId} {ref : Ref} {rest : List Ref} {id known : TypeId}
      (hid : ref.namedType? = some id)
      (hknown : found.get? (c.typeDef id).name = some known) (hne : known ≠ id) :
      Explores c found (ref :: rest) (.error (.ambiguousName (c.typeDef id).name))

variable {c : Catalog} {found after final : Table TypeId} {ref : Ref} {refs rest : List Ref}
  {l : Loop} {outcome : Except Fault (Table TypeId)}

/-! ### One reference -/

theorem turn_known
    (h : ∀ id, ref.namedType? = some id → found.get? (c.typeDef id).name = some id) :
    c.turn ⟨found, ref :: rest⟩ = .go ref none ⟨found, rest⟩ := by
  have hvisit : c.visit found ref = .ok none := by
    unfold visit
    cases hid : ref.namedType? with
    | none => rfl
    | some id => simp only [h id hid, if_true]
  simp only [turn, hvisit]

theorem turn_new {id : TypeId} (hid : ref.namedType? = some id)
    (hnew : found.get? (c.typeDef id).name = none) :
    c.turn ⟨found, ref :: rest⟩ = .go ref (some id)
      ⟨found.insert (c.typeDef id).name id, (c.typeDef id).declared ++ rest⟩ := by
  have hvisit : c.visit found ref = .ok (some id) := by
    unfold visit
    simp only [hid, hnew]
  simp only [turn, hvisit, expand, references, TypeDef.references_eq_declared]

theorem turn_clash {id known : TypeId} (hid : ref.namedType? = some id)
    (hknown : found.get? (c.typeDef id).name = some known) (hne : known ≠ id) :
    c.turn ⟨found, ref :: rest⟩ = .stop (.error (.ambiguousName (c.typeDef id).name)) := by
  have hvisit : c.visit found ref = .error (.ambiguousName (c.typeDef id).name) := by
    unfold visit
    simp only [hid, hknown, if_neg hne]
  simp only [turn, hvisit]

/-! ### The loop and the recursion -/

/-- What the recursion has as an outcome, the loop has.  By induction on the recursion: what it
explores inside a type, the loop has put before the rest. -/
theorem Explores.walk_eq (h : c.Explores found refs outcome) :
    c.walk ⟨found, refs⟩ = outcome := by
  induction h with
  | done => exact walk_nil _
  | passed hknown _ ih => rw [walk_of_go (turn_known hknown), ih]
  | entered hid hnew _ _ ihinside ihrest =>
      rw [walk_of_go (turn_new hid hnew), walk_append ⟨_, _⟩, ihinside]
      exact ihrest
  | failed hid hnew _ ih =>
      rw [walk_of_go (turn_new hid hnew), walk_append ⟨_, _⟩, ih]
      rfl
  | clashed hid hknown hne => exact walk_of_stop (turn_clash hid hknown hne)

/-- Of two lists one after the other the first is explored first; the second only if that ends
well. -/
theorem Explores.split (h : c.Explores found refs outcome) :
    ∀ early late, refs = early ++ late →
      (∃ after, c.Explores found early (.ok after) ∧ c.Explores after late outcome) ∨
        ∃ fault, outcome = .error fault ∧ c.Explores found early (.error fault) := by
  induction h with
  | done =>
      intro early late heq
      obtain ⟨rfl, rfl⟩ := List.append_eq_nil_iff.mp heq.symm
      exact Or.inl ⟨_, .done, .done⟩
  | passed hknown hrest ih =>
      intro early late heq
      cases early with
      | nil =>
          obtain rfl : _ = late := heq
          exact Or.inl ⟨_, .done, .passed hknown hrest⟩
      | cons a early =>
          cases heq
          rcases ih early late rfl with ⟨after, hearly, hlate⟩ | ⟨fault, hfault, hearly⟩
          · exact Or.inl ⟨after, .passed hknown hearly, hlate⟩
          · exact Or.inr ⟨fault, hfault, .passed hknown hearly⟩
  | entered hid hnew hinside hrest _ ih =>
      intro early late heq
      cases early with
      | nil =>
          obtain rfl : _ = late := heq
          exact Or.inl ⟨_, .done, .entered hid hnew hinside hrest⟩
      | cons a early =>
          cases heq
          rcases ih early late rfl with ⟨after, hearly, hlate⟩ | ⟨fault, hfault, hearly⟩
          · exact Or.inl ⟨after, .entered hid hnew hinside hearly, hlate⟩
          · exact Or.inr ⟨fault, hfault, .entered hid hnew hinside hearly⟩
  | failed hid hnew hinside _ =>
      intro early late heq
      cases early with
      | nil =>
          obtain rfl : _ = late := heq
          exact Or.inl ⟨_, .done, .failed hid hnew hinside⟩
      | cons a early =>
          cases heq
          exact Or.inr ⟨_, rfl, .failed hid hnew hinside⟩
  | clashed hid hknown hne =>
      intro early late heq
      cases early with
      | nil =>
          obtain rfl : _ = late := heq
          exact Or.inl ⟨_, .done, .clashed hid hknown hne⟩
      | cons a early =>
          cases heq
          exact Or.inr ⟨_, rfl, .clashed hid hknown hne⟩

/-- The recursion ends, and with the outcome of the loop.  By induction on the loop. -/
theorem explores_walk (l : Loop) : c.Explores l.found l.pending (c.walk l) := by
  induction l using walk.induct c with
  | case1 l outcome hstop =>
      rw [walk_of_stop hstop]
      rcases turn_stop hstop with ⟨hnil, rfl⟩ | ⟨ref, rest, id, known, hpending, hid, hknown, hne, rfl⟩
      · rw [hnil]
        exact .done
      · rw [hpending]
        exact .clashed hid hknown hne
  | case2 l ref new next hgo ih =>
      rw [walk_of_go hgo]
      obtain ⟨rest, hpending, ⟨-, rfl, hknown⟩ | ⟨id, -, rfl, hid, hnew⟩⟩ := turn_go hgo
      · rw [hpending]
        exact .passed hknown ih
      · rw [hpending]
        simp only [expand, references, TypeDef.references_eq_declared] at ih ⊢
        rcases ih.split _ _ rfl with ⟨mid, hinside, hrest⟩ | ⟨fault, hfault, hinside⟩
        · exact .entered hid hnew hinside hrest
        · rw [hfault]
          exact .failed hid hnew hinside

theorem explores_iff : c.Explores found refs outcome ↔ c.walk ⟨found, refs⟩ = outcome := by
  refine ⟨Explores.walk_eq, ?_⟩
  rintro rfl
  exact explores_walk ⟨found, refs⟩

/-! ### What is found first stands first -/

theorem turn_keeps_entries {new : Option TypeId} {next : Loop} (h : c.turn l = .go ref new next) :
    l.found.entries <+: next.found.entries := by
  obtain ⟨rest, -, ⟨-, rfl, -⟩ | ⟨id, -, rfl, -, hnew⟩⟩ := turn_go h
  · exact List.prefix_rfl
  · rw [expand, Table.entries_insert_of_get?_eq_none _ _ _ hnew]
    exact List.prefix_append _ _

/-- The loop leaves what was found where it stands. -/
theorem walk_keeps_entries (h : c.walk l = .ok final) : l.found.entries <+: final.entries := by
  induction l using walk.induct c with
  | case1 l outcome hstop =>
      rw [walk_of_stop hstop] at h
      subst h
      rcases turn_stop hstop with ⟨-, hfinal⟩ | ⟨_, _, _, _, _, _, _, _, herror⟩
      · cases hfinal
        exact List.prefix_rfl
      · cases herror
  | case2 l ref new next hgo ih =>
      rw [walk_of_go hgo] at h
      exact (turn_keeps_entries hgo).trans (ih h)

/-- A walk over two lists has first walked the first one, and keeps what it found there. -/
theorem walk_append_ok {early late : List Ref}
    (h : c.walk ⟨found, early ++ late⟩ = .ok final) :
    ∃ after, c.walk ⟨found, early⟩ = .ok after ∧ after.entries <+: final.entries := by
  rw [walk_append ⟨found, early⟩] at h
  cases hearly : c.walk ⟨found, early⟩ with
  | error fault =>
      rw [hearly] at h
      cases h
  | ok after =>
      rw [hearly] at h
      exact ⟨after, rfl, walk_keeps_entries h⟩

end Catalog

namespace Schema

/-- The types of a table, each as the reference that stands for it in a type map. -/
def asTypeMap (found : Table TypeId) : Table Ref := found.map fun _ id => .named id

theorem map_typeMap_build (c : Catalog) (b : Blueprint) :
    (build c b).map typeMap = (c.walk ⟨.empty, b.startingRefs c⟩).map asTypeMap := by
  unfold build Catalog.collectAll
  rw [Catalog.foldlM_collect]
  cases c.walk ⟨.empty, b.startingRefs c⟩ <;> rfl

/--
**Types are found in the order of first reach.**  Collecting from any reference, into any table,
has the outcome of exploring it by recursion, which always has one: the same table in the same
order, or the same fault.  So a type map lists the types as they are first reached from the query,
the mutation, the subscription, the further types, the type of schemas and the arguments of the
directives, and what the first of these lead to stands before what only later ones do.
-/
theorem collect_iff_explores (c : Catalog) :
    (∀ found ref outcome, c.Explores found [ref] outcome ↔ c.collect found ref = outcome) ∧
      ∀ b : Blueprint,
        (∃ outcome,
          c.Explores .empty
            ([b.query, b.mutation, b.subscription] ++ b.types ++ [Builtin.schema.ref] ++
              b.directives.flatMap (Blueprint.argumentTypes c)) outcome ∧
          (build c b).map typeMap = outcome.map asTypeMap) ∧
        ∀ S early late, build c b = .ok S → b.startingRefs c = early ++ late →
          ∃ found, c.Explores .empty early (.ok found) ∧
            (asTypeMap found).entries <+: S.typeMap.entries := by
  refine ⟨fun found ref outcome => Catalog.explores_iff, ?_⟩
  intro b
  refine ⟨⟨_, Catalog.explores_walk ⟨_, _⟩, map_typeMap_build c b⟩, ?_⟩
  intro S early late hbuild hsplit
  obtain ⟨-, -, final, hwalk, hmap⟩ := build_ok hbuild
  rw [hsplit] at hwalk
  obtain ⟨found, hfound, hfirst⟩ := Catalog.walk_append_ok hwalk
  refine ⟨found, Catalog.explores_iff.mpr hfound, ?_⟩
  rw [hmap]
  exact hfirst.map _

/-- A query that leads back to itself, an input object that does, a union, and another type of the
input object's name. -/
def ringCatalog : Catalog where
  types := #[
    { name := "Query"
      body := .objectOf
        [("name", { type := Builtin.string.ref, args := [topic] }),
         ("again", { type := .nonNull (.named (.own 0)) })] [] },
    { name := "Topic"
      body := .inputObjectOf
        [("size", { type := Builtin.int.ref }), ("next", { type := .list (.named (.own 1)) })] },
    { name := "Either", body := .union [.named (.own 0)] },
    { name := "Topic", body := .union [.named (.own 2)] }]
where
  topic : Argument := { name := "of", type := .named (.own 1) }

/-- A type is given beside the query. -/
def ringBlueprint (given : TypeId) : Blueprint where
  query := .named (.own 0)
  types := [.named given]

/-- The argument of a field is followed before the next field, and all that the query leads to
before what is given beside it.  With the other type given, the names clash. -/
theorem collect_iff_explores_ring :
    (∃ S found, build ringCatalog (ringBlueprint (.own 2)) = .ok S ∧
      S.typeMap.keys.take 6 = ["Query", "String", "Topic", "Int", "Either", "__Schema"] ∧
      ringCatalog.Explores .empty [.named (.own 0)] (.ok found) ∧
      (asTypeMap found).entries <+: S.typeMap.entries) ∧
    ringCatalog.Explores .empty
      ([.named (.own 0), .null, .null] ++ [.named (.own 3)] ++ [Builtin.schema.ref] ++
        (ringBlueprint (.own 3)).directives.flatMap (Blueprint.argumentTypes ringCatalog))
      (.error (.ambiguousName "Topic")) := by
  obtain ⟨-, hbuilt⟩ := collect_iff_explores ringCatalog
  refine ⟨?_, ?_⟩
  · obtain ⟨S, hbuild, hkeys⟩ := @exists_build ringCatalog (ringBlueprint (.own 2))
      (fun S => S.typeMap.keys.take 6 =
        ["Query", "String", "Topic", "Int", "Either", "__Schema"]) _ (by decide +kernel)
    obtain ⟨found, hfound, hfirst⟩ :=
      (hbuilt (ringBlueprint (.own 2))).2 S [.named (.own 0)] _ hbuild rfl
    exact ⟨S, found, hbuild, hkeys, hfound, hfirst⟩
  · obtain ⟨outcome, hexplores, hmap⟩ := (hbuilt (ringBlueprint (.own 3))).1
    have hfault : (build ringCatalog (ringBlueprint (.own 3))).map (fun _ => ()) =
        .error (.ambiguousName "Topic") := by decide +kernel
    cases hbuild : build ringCatalog (ringBlueprint (.own 3)) with
    | ok S =>
        rw [hbuild] at hfault
        cases hfault
    | error fault =>
        rw [hbuild] at hfault hmap
        cases hfault
        cases outcome with
        | ok found => cases hmap
        | error fault' =>
            cases hmap
            exact hexplores

end Schema

end TypeGraph
