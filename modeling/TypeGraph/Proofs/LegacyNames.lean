/-
Names that are allowed although they break the grammar.

A schema is made with a list of such names, and of all checks only that of names reads it.
The names of fields, arguments, values, types and directives are checked in loops of their
own, but each of these loops runs on after a bad name as if nothing had been found.  So two
schemas that differ in the list alone are checked in lockstep, and what is missing with the
longer list is what was said of the names added to it.

What is removed is told by its wording: a message about the grammar quotes the whole name
between fixed words, so it is that of one name only, and no other rule words it so.
-/
import TypeGraph.Proofs.Reports
import TypeGraph.Proofs.Silence
import TypeGraph.Proofs.Wording

namespace TypeGraph

open TypeGraph.Source

/-! ### The wording of a flaw -/

namespace NameFlaw

theorem reserved_ne_malformed (a b : String) : (reserved a).message ≠ (malformed b).message := by
  intro h
  have hwords : "Name" = "Names" :=
    Problem.openingWord_eq (p := .badName (reserved a)) (q := .badName (malformed b)) rfl rfl h
  exact absurd hwords (by decide +kernel)

theorem eq_of_message_eq {f g : NameFlaw} (h : f.message = g.message) : f = g := by
  cases f with
  | reserved a =>
      cases g with
      | reserved b =>
          have hquoted := (String.append_left_inj _).mp h
          rw [(String.append_right_inj _).mp hquoted]
      | malformed b => exact absurd h (reserved_ne_malformed a b)
  | malformed a =>
      cases g with
      | reserved b => exact absurd h.symm (reserved_ne_malformed b a)
      | malformed b =>
          have hquoted := (String.append_left_inj _).mp h
          rw [(String.append_right_inj _).mp hquoted]

theorem message_ne_reservedValue (f : NameFlaw) (owner value : String) :
    f.message ≠ (Problem.reservedValue owner value).message := by
  intro h
  have hword : (Problem.badName f).openingWord? = some "Enum" :=
    Problem.openingWord?_of_message_eq (fun _ _ => Problem.noConfusion) rfl h
  cases f <;> simp [Problem.openingWord?] at hword

end NameFlaw

theorem Name.name_of_flaw? {name : String} {flaw : NameFlaw} (h : Name.flaw? name = some flaw) :
    flaw.name = name := by
  unfold Name.flaw? at h
  split at h
  · cases h
    rfl
  · split at h
    · cases h
    · cases h
      rfl

/-! ### What a list of names excuses -/

namespace Diagnostic

variable {names : List String} {d : Diagnostic}

/-- The diagnostic says of one of the names that it breaks the grammar. -/
def Excused (names : List String) (d : Diagnostic) : Prop :=
  d.category = .name ∧ ∃ name ∈ names, (Name.flaw? name).map NameFlaw.message = some d.message

instance : Decidable (d.Excused names) :=
  inferInstanceAs (Decidable (_ ∧ _))

/-- What is left of the diagnostics if the names are allowed. -/
def excuse (names : List String) (ds : List Diagnostic) : List Diagnostic :=
  ds.filter fun d => ¬ d.Excused names

/-- A bad name is excused just if it is listed itself. -/
theorem excused_badName {flaw : NameFlaw} {name : String} (hflaw : Name.flaw? name = some flaw)
    (nodes : List Node) : (pointing (.badName flaw) nodes).Excused names ↔ name ∈ names := by
  refine ⟨?_, fun hname => ⟨rfl, name, hname, by rw [hflaw]; rfl⟩⟩
  rintro ⟨-, other, hother, hmessage⟩
  obtain ⟨otherFlaw, hotherFlaw, heq⟩ := Option.map_eq_some_iff.mp hmessage
  have hsame : otherFlaw = flaw := NameFlaw.eq_of_message_eq heq
  rw [← Name.name_of_flaw? hflaw, ← hsame, Name.name_of_flaw? hotherFlaw]
  exact hother

theorem not_excused_of_category (h : d.category ≠ .name) : ¬ d.Excused names :=
  fun hexcused => h hexcused.1

theorem not_excused_reservedValue {owner value : String}
    (h : d.problem = .reservedValue owner value) : ¬ d.Excused names := by
  rintro ⟨-, name, -, hmessage⟩
  obtain ⟨flaw, -, heq⟩ := Option.map_eq_some_iff.mp hmessage
  rw [Diagnostic.message, h] at heq
  exact flaw.message_ne_reservedValue owner value heq

/-! Two lists that are made in the same steps stay in step. -/

theorem eq_excuse {ds : List Diagnostic} (h : ∀ d ∈ ds, ¬ d.Excused names) :
    ds = excuse names ds :=
  (List.filter_eq_self.mpr fun d hd => decide_eq_true (h d hd)).symm

theorem single_eq_excuse (h : ¬ d.Excused names) : [d] = excuse names [d] := by
  refine eq_excuse fun e he => ?_
  rw [List.mem_singleton.mp he]
  exact h

/-- A rule that is not about names. -/
theorem rule_eq_excuse (h : d.category ≠ .name) : [d] = excuse names [d] :=
  single_eq_excuse (not_excused_of_category h)

theorem ite_eq_excuse {p : Prop} [Decidable p] {ds es ds' es' : List Diagnostic}
    (hds : ds' = excuse names ds) (hes : es' = excuse names es) :
    (if p then ds' else es') = excuse names (if p then ds else es) := by
  rw [hds, hes, apply_ite (excuse names)]

theorem append_eq_excuse {ds es ds' es' : List Diagnostic} (hds : ds' = excuse names ds)
    (hes : es' = excuse names es) : ds' ++ es' = excuse names (ds ++ es) := by
  rw [hds, hes]
  exact (List.filter_append ..).symm

theorem flatMap_eq_excuse {α : Type} {f f' : α → List Diagnostic}
    (h : ∀ a, f' a = excuse names (f a)) (as : List α) :
    as.flatMap f' = excuse names (as.flatMap f) := by
  rw [funext h]
  exact (List.filter_flatMap ..).symm

end Diagnostic

/-! ### The checks, with more names allowed -/

/-- The blueprint with more names allowed. -/
def Blueprint.allowing (b : Blueprint) (names : List String) : Blueprint :=
  { b with legacyNames := b.legacyNames ++ names }

/-- The schema with more names allowed. -/
def Schema.allowing (S : Schema) (names : List String) : Schema :=
  { S with legacyNames := S.legacyNames ++ names }

namespace Scope

open Diagnostic

variable (s : Scope) (names : List String)

/-- The same view of a schema, with more names allowed. -/
def allowing : Scope := ⟨s.schema.allowing names, s.locator⟩

theorem checkName_allowing (exempt : Bool) (name : String) (node : Option Node) :
    (s.allowing names).checkName exempt name node =
      excuse names (s.checkName exempt name node) := by
  have hlegacy : (s.allowing names).schema.legacyNames.contains name =
      (s.schema.legacyNames.contains name || names.contains name) := List.contains_append
  unfold checkName
  rw [hlegacy]
  by_cases hfree : (s.schema.legacyNames.contains name || exempt) = true
  -- What was not examined before is not examined now.
  · have hfree' : (s.schema.legacyNames.contains name || names.contains name || exempt) = true := by
      rw [Bool.or_right_comm, hfree, Bool.true_or]
    rw [if_pos hfree, if_pos hfree']
    rfl
  · rw [Bool.or_right_comm, if_neg hfree, Bool.eq_false_iff.mpr hfree, Bool.false_or]
    cases hflaw : Name.flaw? name with
    | none => exact ite_self _
    | some flaw =>
        have hexcused : (pointing (.badName flaw) node.toList).Excused names ↔ name ∈ names :=
          excused_badName hflaw node.toList
        by_cases hname : name ∈ names
        · simp [excuse, hexcused, hname]
        · simp [excuse, hexcused, hname]

/-! #### Fields -/

theorem checkArgument_allowing (exempt : Bool) (owner field : String) (marked : Argument × Bool) :
    (s.allowing names).checkArgument exempt owner field marked =
      excuse names (s.checkArgument exempt owner field marked) := by
  refine append_eq_excuse (s.checkName_allowing names ..) (ite_eq_excuse ?_ (ite_eq_excuse rfl ?_))
  · exact rule_eq_excuse (by nofun)
  · exact rule_eq_excuse (by nofun)

theorem checkField_allowing (exempt : Bool) (owner : String) (entry : String × Field) :
    (s.allowing names).checkField exempt owner entry =
      excuse names (s.checkField exempt owner entry) := by
  refine append_eq_excuse (s.checkName_allowing names ..)
    (ite_eq_excuse ?_ (append_eq_excuse ?_ ?_))
  · exact rule_eq_excuse (by nofun)
  · exact ite_eq_excuse rfl (rule_eq_excuse (by nofun))
  · exact flatMap_eq_excuse (s.checkArgument_allowing names exempt owner entry.1) _

theorem checkFields_allowing (id : TypeId) :
    (s.allowing names).checkFields id = excuse names (s.checkFields id) := by
  refine append_eq_excuse (ite_eq_excuse ?_ rfl) ?_
  · exact rule_eq_excuse (by nofun)
  · exact flatMap_eq_excuse (s.checkField_allowing names _ _) _

theorem checkInputField_allowing (exempt : Bool) (owner : String) (entry : String × Field) :
    (s.allowing names).checkInputField exempt owner entry =
      excuse names (s.checkInputField exempt owner entry) := by
  refine append_eq_excuse (s.checkName_allowing names ..) (ite_eq_excuse rfl ?_)
  exact rule_eq_excuse (by nofun)

theorem checkInputObject_allowing (id : TypeId) :
    (s.allowing names).checkInputObject id = excuse names (s.checkInputObject id) := by
  refine append_eq_excuse (ite_eq_excuse ?_ rfl) ?_
  · exact rule_eq_excuse (by nofun)
  · exact flatMap_eq_excuse (s.checkInputField_allowing names _ _) _

/-! #### Members and values -/

theorem checkMembers_allowing (form : UnionForm) (id : TypeId) :
    (s.allowing names).checkMembers form id = excuse names (s.checkMembers form id) := by
  refine eq_excuse fun d hd => not_excused_of_category ?_
  cases memberReport_of_mem hd <;> nofun

theorem checkValue_allowing (exempt : Bool) (owner : String) (v : EnumValue) :
    (s.allowing names).checkValue exempt owner v = excuse names (s.checkValue exempt owner v) := by
  refine append_eq_excuse (append_eq_excuse (ite_eq_excuse ?_ rfl) (s.checkName_allowing names ..))
    (ite_eq_excuse ?_ rfl)
  · exact rule_eq_excuse (by nofun)
  · exact single_eq_excuse (not_excused_reservedValue rfl)

theorem checkEnum_allowing (id : TypeId) :
    (s.allowing names).checkEnum id = excuse names (s.checkEnum id) := by
  refine append_eq_excuse (ite_eq_excuse ?_ rfl) ?_
  · exact rule_eq_excuse (by nofun)
  · exact flatMap_eq_excuse (s.checkValue_allowing names _ _) _

/-! #### Types -/

theorem checkClaims_allowing (id : TypeId) :
    (s.allowing names).checkClaims id = excuse names (s.checkClaims id) := by
  refine eq_excuse fun d hd => not_excused_of_category ?_
  cases claimReport_of_mem hd with
  | unmet _ _ hd => cases hd <;> nofun
  | _ => nofun

theorem checkByKind_allowing (id : TypeId) :
    (s.allowing names).checkByKind id = excuse names (s.checkByKind id) := by
  have hsame : (s.allowing names).catalog = s.catalog := rfl
  unfold checkByKind
  rw [hsame]
  cases (s.catalog.typeDef id).kind with
  | scalar => rfl
  | object =>
      exact append_eq_excuse (s.checkFields_allowing names id) (s.checkClaims_allowing names id)
  | interface => exact s.checkFields_allowing names id
  | union => exact s.checkMembers_allowing names .output id
  | inputUnion => exact s.checkMembers_allowing names .input id
  | enum => exact s.checkEnum_allowing names id
  | inputObject => exact s.checkInputObject_allowing names id

theorem checkEntry_allowing (r : Ref) :
    (s.allowing names).checkEntry r = excuse names (s.checkEntry r) := by
  cases r with
  | named id =>
      exact append_eq_excuse (s.checkName_allowing names ..) (s.checkByKind_allowing names id)
  | _ => exact rule_eq_excuse (by nofun)

/-! #### Directives and roots -/

theorem checkDirectiveArgument_allowing (directive : String) (marked : Argument × Bool) :
    (s.allowing names).checkDirectiveArgument directive marked =
      excuse names (s.checkDirectiveArgument directive marked) := by
  refine append_eq_excuse (s.checkName_allowing names ..) (ite_eq_excuse ?_ (ite_eq_excuse rfl ?_))
  · exact rule_eq_excuse (by nofun)
  · exact rule_eq_excuse (by nofun)

theorem checkDirective_allowing (r : Ref) :
    (s.allowing names).checkDirective r = excuse names (s.checkDirective r) := by
  cases r with
  | directive id =>
      refine append_eq_excuse (s.checkName_allowing names ..) ?_
      exact flatMap_eq_excuse (s.checkDirectiveArgument_allowing names _) _
  | _ => exact rule_eq_excuse (by nofun)

theorem checkRoots_allowing :
    (s.allowing names).checkRoots = excuse names s.checkRoots := by
  refine eq_excuse fun d hd => not_excused_of_category ?_
  obtain ⟨operation, hreport⟩ := rootReport_of_mem hd
  cases hreport <;> nofun

end Scope

namespace Schema

variable (names : List String)

theorem diagnose_allowing (S : Schema) :
    (S.allowing names).diagnose = Diagnostic.excuse names S.diagnose := by
  rw [diagnose_eq, diagnose_eq]
  refine Diagnostic.append_eq_excuse (Diagnostic.append_eq_excuse ?_ ?_) ?_
  · exact (Scope.ofSchema S).checkRoots_allowing names
  · exact Diagnostic.flatMap_eq_excuse ((Scope.ofSchema S).checkDirective_allowing names) _
  · exact Diagnostic.flatMap_eq_excuse ((Scope.ofSchema S).checkEntry_allowing names) _

theorem build_allowing (c : Catalog) (b : Blueprint) :
    build c (b.allowing names) = (build c b).map fun S => S.allowing names := by
  have hstart : (b.allowing names).startingRefs c = b.startingRefs c := rfl
  unfold build
  rw [hstart]
  cases c.collectAll (b.startingRefs c) with
  | error fault => rfl
  | ok found => rfl

/--
Allowing more names changes neither whether a schema can be made nor what else is found in it:
left out are the diagnostics on names with the message of an allowed name, and the rest stays
in its order.  No reserved value is left out, and nothing of another category.
-/
theorem allowed_names_only_excused (c : Catalog) (b : Blueprint) :
    (∀ fault, build c (b.allowing names) = .error fault ↔ build c b = .error fault) ∧
    (∀ S, build c b = .ok S → ∃ T, build c (b.allowing names) = .ok T ∧
      T.diagnose = S.diagnose.filter fun d => ¬ d.Excused names) ∧
    ∀ d : Diagnostic, (d.category ≠ .name ∨ ∃ owner value, d.problem = .reservedValue owner value) →
      ¬ d.Excused names := by
  refine ⟨?_, ?_, ?_⟩
  · intro fault
    rw [build_allowing]
    cases build c b with
    | error other => rfl
    | ok S => exact iff_of_false nofun nofun
  · intro S hbuild
    refine ⟨S.allowing names, ?_, S.diagnose_allowing names⟩
    rw [build_allowing, hbuild]
    rfl
  · rintro d (hcategory | ⟨owner, value, hproblem⟩)
    · exact Diagnostic.not_excused_of_category hcategory
    · exact Diagnostic.not_excused_reservedValue hproblem

/-- A field, its arguments and a value with bad names, and a reserved value. -/
def quaintCatalog : Catalog where
  types := #[
    { name := "Query"
      body := .objectOf [("full-name", { type := .named (.own 1), args := [
        { name := "full-name", type := .named (.own 0) },
        { name := "__raw", type := .named (.own 1) }] })] [] },
    { name := "Mood", body := .enum [{ name := "full-name" }, { name := "true" }] }]

/-- No bad name is allowed. -/
def quaintBlueprint : Blueprint where
  query := .named (.own 0)

/-- What is found all the same if the bad name and the reserved value are allowed. -/
def quaintRest : List String :=
  ["The type of Query.full-name(full-name:) must be Input Type but got: Query.",
   "Name \"__raw\" must not begin with \"__\", which is reserved by GraphQL introspection.",
   "Enum type Mood cannot include value: true."]

theorem allowed_names_only_excused_quaint :
    ∃ S T, build quaintCatalog quaintBlueprint = .ok S ∧ S.diagnose.length = 6 ∧
      build quaintCatalog (quaintBlueprint.allowing ["full-name", "true"]) = .ok T ∧
      (T.diagnose = S.diagnose.filter fun d => ¬ d.Excused ["full-name", "true"]) ∧
      T.diagnose.map Diagnostic.message = quaintRest := by
  obtain ⟨S, hbuild, hlength, hrest⟩ := @exists_build quaintCatalog quaintBlueprint
    (fun S => S.diagnose.length = 6 ∧
      (S.diagnose.filter fun d => ¬ d.Excused ["full-name", "true"]).map Diagnostic.message =
        quaintRest) _ (by decide +kernel)
  obtain ⟨T, hallowed, hdiagnose⟩ :=
    (allowed_names_only_excused ["full-name", "true"] quaintCatalog quaintBlueprint).2.1 S hbuild
  refine ⟨S, T, hbuild, hlength, hallowed, hdiagnose, ?_⟩
  rw [hdiagnose]
  exact hrest

end Schema

end TypeGraph
