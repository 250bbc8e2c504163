/-
What every schema carries.

The types that describe schemas refer to each other, and to two of the scalars.  A schema
starts to collect from one of them whatever else it is made of, so it reaches them all, and
each stands in its type map under its own name.  No other type can take such a name: a
blueprint that reaches one is refused.

Validation never has anything to say of them.  Names that begin with two underscores are
allowed to them and to what they own; what they are made of keeps all the rules; and since no
other type bears their names, no node that was written somewhere else is found under them.
-/
import TypeGraph.Proofs.OwnNodes
import TypeGraph.Proofs.Silence

namespace TypeGraph

namespace Builtin

/-- The types that no schema is without: those that describe schemas, and the scalars that these
refer to. -/
def permanent : List Builtin := introspection ++ [string, boolean]

/-- The named types that a built-in type refers to. -/
def referents (x : Builtin) : List TypeId := x.definition.references.filterMap Ref.namedType?

end Builtin

/-- The built-in type under the wrappers, if it is one. -/
def Ref.builtin? (r : Ref) : Option Builtin :=
  match r.namedType? with
  | some (.builtin x) => some x
  | _ => none

/-! ### They are always reached -/

namespace Blueprint

variable {b : Blueprint} {c : Catalog}

theorem Reaches.builtin {x y : Builtin} (hx : b.Reaches c (.builtin x))
    (hy : .builtin y ∈ x.referents) : b.Reaches c (.builtin y) := by
  obtain ⟨r, hr, hnamed⟩ := List.mem_filterMap.mp hy
  exact .step hx ⟨r, TypeDef.mem_references_iff.mp hr, hnamed⟩

/-- From the type of schemas two others lead to all the rest. -/
theorem reaches_permanent {x : Builtin} (hx : x ∈ Builtin.permanent) :
    b.Reaches c (.builtin x) := by
  have hschema : b.Reaches c (.builtin .schema) := .start .schema rfl
  have htype : b.Reaches c (.builtin .type) := hschema.builtin (by decide +kernel)
  have hdirective : b.Reaches c (.builtin .directive) := hschema.builtin (by decide +kernel)
  have hnear : ∀ y ∈ Builtin.permanent, y = .schema ∨ y = .directive ∨
      .builtin y ∈ Builtin.type.referents ∨ .builtin y ∈ Builtin.directive.referents := by
    decide +kernel
  rcases hnear x hx with rfl | rfl | hx | hx
  · exact hschema
  · exact hdirective
  · exact htype.builtin hx
  · exact hdirective.builtin hx

end Blueprint

/-! ### They keep the rules -/

namespace Builtin

/-- The rules for a field, as far as the types it mentions are built-in ones. -/
def SoundField (f : Field) : Prop :=
  f.type.builtin?.any (fun x => x.definition.kind.isOutput) = true ∧
    (f.args.map Argument.name).Nodup ∧
    ∀ arg ∈ f.args, arg.type.builtin?.any (fun x => x.definition.kind.isInput) = true

instance (f : Field) : Decidable (SoundField f) := inferInstanceAs (Decidable (_ ∧ _ ∧ _))

/-- The rules for a built-in type, as far as they are not about where it is written. -/
def isSound (x : Builtin) : Bool :=
  match x.definition.kind with
  | .scalar => decide (Name.flaw? x.name = none)
  | .object => decide (introspection.contains x = true ∧ x.definition.fields.entries ≠ [] ∧
      (∀ entry ∈ x.definition.fields.entries, SoundField entry.2) ∧
      x.definition.interfaces = [])
  | .enum => decide (introspection.contains x = true ∧ x.definition.values ≠ [] ∧
      ∀ v ∈ x.definition.values, v.name ∉ EnumValue.reservedNames)
  | _ => false

theorem isSound_all (x : Builtin) : x.isSound = true := by
  have hall : ∀ y ∈ all, y.isSound = true := by decide +kernel
  exact hall x (mem_all x)

end Builtin

/-- Of a built-in type the kind is known, whatever the catalog. -/
theorem Catalog.namedKind?_any {c : Catalog} {p : Kind → Bool} {r : Ref}
    (h : r.builtin?.any (fun x => p x.definition.kind) = true) :
    (c.namedKind? r).any p = true := by
  unfold Ref.builtin? at h
  unfold Catalog.namedKind?
  cases hr : r.namedType? with
  | none =>
      rw [hr] at h
      cases h
  | some id =>
      rw [hr] at h
      cases id with
      | builtin x => exact h
      | own i => cases h

namespace Schema

variable {c : Catalog} {b : Blueprint} {S : Schema} {Q : TypeId → Prop} {x : Builtin}

/-- Nothing of a built-in type is written twice: it has no nodes, and no other type bears its
name. -/
theorem Lists.writtenOnce_builtin (h : S.Lists Q) (hx : x.ref ∈ S.types)
    {key : Locator.Key} (hkey : key.IsUnder x.name) :
    ((Locator.ofSchema S).nodes key).length ≤ 1 := by
  have hnone : (Locator.ofSchema S).nodes key = [] := Locator.nodes_ofSchema h hx hkey
  rw [hnone]
  exact Nat.zero_le 1

theorem Lists.fieldOk_builtin (h : S.Lists Q) (hx : x.ref ∈ S.types)
    (hexempt : Builtin.introspection.contains x = true) {f : Field}
    (hf : Builtin.SoundField f) (key : String) : S.FieldOk (.builtin x) key f := by
  obtain ⟨houtput, hdistinct, hinputs⟩ := hf
  exact {
    name := Or.inl hexempt
    once := h.writtenOnce_builtin hx ⟨rfl, nofun⟩
    output := Catalog.namedKind?_any houtput
    arguments := {
      names := fun arg _ => Or.inl hexempt
      distinct := hdistinct
      inputs := fun arg harg =>
        Bool.or_eq_true_iff.mpr (Or.inl (Catalog.namedKind?_any (hinputs arg harg))) } }

theorem Lists.valueOk_builtin (h : S.Lists Q) (hx : x.ref ∈ S.types)
    (hexempt : Builtin.introspection.contains x = true) {v : EnumValue}
    (hv : v.name ∉ EnumValue.reservedNames) : S.ValueOk (.builtin x) v where
  name := Or.inl hexempt
  once := h.writtenOnce_builtin hx ⟨rfl, nofun⟩
  unreserved := hv

theorem claimsOk_of_no_interfaces {id : TypeId} (hnone : (S.catalog.typeDef id).interfaces = []) :
    S.ClaimsOk id where
  kinds := by
    rw [hnone]
    exact nofun
  distinct := by
    rw [hnone]
    exact List.nodup_nil
  met := by
    rw [hnone]
    exact nofun

/-- A built-in type that the type map has is as it should be. -/
theorem Lists.typeOk_builtin (h : S.Lists Q) (hx : x.ref ∈ S.types) :
    S.TypeOk (.builtin x) := by
  have hsound := x.isSound_all
  have hdef : S.catalog.typeDef (.builtin x) = x.definition := rfl
  unfold Builtin.isSound at hsound
  cases hkind : x.definition.kind with
  | scalar =>
      rw [hkind] at hsound
      refine ⟨Or.inr (Or.inr (of_decide_eq_true hsound)), ?_⟩
      rw [BodyOk, hdef, hkind]
      trivial
  | object =>
      rw [hkind] at hsound
      obtain ⟨hexempt, hnonempty, hfields, hnone⟩ := of_decide_eq_true hsound
      refine ⟨Or.inl hexempt, ?_⟩
      rw [BodyOk, hdef, hkind]
      refine ⟨⟨hnonempty, fun key f hf => ?_⟩, ?_⟩
      · exact h.fieldOk_builtin hx hexempt (hfields (key, f) hf) key
      · exact claimsOk_of_no_interfaces hnone
  | enum =>
      rw [hkind] at hsound
      obtain ⟨hexempt, hnonempty, hvalues⟩ := of_decide_eq_true hsound
      refine ⟨Or.inl hexempt, ?_⟩
      rw [BodyOk, hdef, hkind]
      exact ⟨hnonempty, fun v hv => h.valueOk_builtin hx hexempt (hvalues v hv)⟩
  | interface | union | inputUnion | inputObject =>
      -- There are no built-in types of the other kinds.
      rw [hkind] at hsound
      cases hsound

/-! ### They are found, stay silent, and cannot be replaced -/

/-- The types in the type map that not every schema has. -/
def furtherTypes (S : Schema) : List Ref :=
  S.types.filter fun r => r ∉ Builtin.permanent.map Builtin.ref

theorem Lists.get?_typeMap (h : S.Lists Q) {id : TypeId} (hid : Q id) :
    S.typeMap.get? (S.catalog.typeDef id).name = some (.named id) := by
  have hfound := h.found id hid
  unfold getType at hfound
  cases hget : S.typeMap.get? (S.catalog.typeDef id).name with
  | none =>
      rw [hget] at hfound
      cases hfound
  | some r =>
      rw [hget] at hfound
      exact congrArg some hfound

theorem Unmodified.checkEntry_permanent (h : Unmodified c b S) (hx : x ∈ Builtin.permanent) :
    (Scope.ofSchema S).checkEntry x.ref = [] := by
  have hmem : x.ref ∈ S.types :=
    (h.lists.mem_types x.ref).mpr ⟨.builtin x, rfl, Blueprint.reaches_permanent hx⟩
  exact Scope.checkEntry_silent.mpr ⟨.builtin x, rfl, h.lists.typeOk_builtin hmem⟩

/-- What the check of the type map finds, it finds in the other types. -/
theorem Unmodified.checkTypes_eq (h : Unmodified c b S) :
    (Scope.ofSchema S).checkTypes = S.furtherTypes.flatMap (Scope.ofSchema S).checkEntry := by
  rw [furtherTypes, Locator.flatMap_filter]
  refine List.flatMap_congr fun r _ => ?_
  by_cases hr : r ∈ Builtin.permanent.map Builtin.ref
  · obtain ⟨x, hx, rfl⟩ := List.mem_map.mp hr
    rw [if_neg (not_not.mpr hr), h.checkEntry_permanent hx]
  · rw [if_pos hr]

theorem exists_fault_of_clashes (h : b.Clashes c) :
    ∃ name, build c b = .error (.ambiguousName name) := by
  cases hbuild : build c b with
  | ok S => exact absurd h (not_clashes_of_build_ok hbuild)
  | error fault =>
      obtain ⟨-, name, rfl⟩ := clashes_of_build_error hbuild
      exact ⟨name, rfl⟩

/--
**Every schema carries the types that describe schemas, and they are beyond reproach.**  In a
schema that was not edited, whatever it is made of, each of these types and of the scalars they
refer to stands in the type map under its own name, and nothing is found wrong with it: all that
the last phase of validation adds is found in the other types.  And if a blueprint reaches another
type of such a name, no schema is made of it.
-/
theorem permanent_present_and_silent (c : Catalog) (b : Blueprint) :
    (∀ S, Unmodified c b S →
      (∀ x ∈ Builtin.permanent, S.typeMap.get? x.name = some x.ref ∧
        (Scope.ofSchema S).checkEntry x.ref = []) ∧
      (∀ reported,
        (Validator.runPhase Validator.builtin ⟨S, .ofSchema S, reported⟩ .types).reported =
          reported ++ S.furtherTypes.flatMap (Scope.ofSchema S).checkEntry) ∧
      S.diagnose = (Scope.ofSchema S).checkRoots ++ (Scope.ofSchema S).checkDirectives ++
        S.furtherTypes.flatMap (Scope.ofSchema S).checkEntry) ∧
    ∀ x ∈ Builtin.permanent, ∀ id, b.Reaches c id → id ≠ .builtin x →
      (c.typeDef id).name = x.name → ∃ name, build c b = .error (.ambiguousName name) := by
  refine ⟨?carried, ?irreplaceable⟩
  case carried =>
    intro S h
    refine ⟨?_, ?_, ?_⟩
    · intro x hx
      exact ⟨h.lists.get?_typeMap (Blueprint.reaches_permanent hx), h.checkEntry_permanent hx⟩
    · intro reported
      rw [← h.checkTypes_eq]
      rfl
    · rw [← h.checkTypes_eq]
      exact diagnose_eq S
  case irreplaceable =>
    intro x hx id hid hne hname
    exact exists_fault_of_clashes
      ⟨id, .builtin x, hid, Blueprint.reaches_permanent hx, hne, hname⟩

/-- A query whose definition writes a field twice, under the name of the type of fields, and
another type of that very name. -/
def mimicCatalog : Catalog where
  types := #[
    { name := "Query"
      body := .objectOf [("__name", { type := Builtin.int.ref })] []
      node := some { kind := .object, name := "__Field"
                     fields := [.field (written 2), .field (written 3)] } },
    { name := "__Field", body := .objectOf [("name", { type := Builtin.int.ref })] [] }]
where
  written (line : Int) : Source.FieldNode :=
    { name := "__name", type := .named "Int" none, loc := some ⟨line, 3⟩ }

/-- Further types are given beside the query. -/
def mimicBlueprint (types : List Ref) : Blueprint where
  query := .named (.own 0)
  types := types

/-- The query is blamed for the name of its field and for writing it twice, the type of fields for
nothing.  With the other type of its name given, no schema is made. -/
theorem permanent_present_and_silent_mimic :
    (∃ S, Unmodified mimicCatalog (mimicBlueprint []) S ∧
      S.typeMap.get? "__Field" = some (.named (.builtin .field)) ∧
      (Scope.ofSchema S).checkEntry (.named (.builtin .field)) = [] ∧
      S.diagnose.map Diagnostic.problem =
        [.badName (.reserved "__name"), .definedTwice (.field "Query" "__name")]) ∧
    ∃ name, build mimicCatalog (mimicBlueprint [.named (.own 1)]) =
      .error (.ambiguousName name) := by
  refine ⟨?_, ?_⟩
  · obtain ⟨S, hbuild, hfound⟩ := @exists_build mimicCatalog (mimicBlueprint [])
      (fun S => S.diagnose.map Diagnostic.problem =
        [.badName (.reserved "__name"), .definedTwice (.field "Query" "__name")])
      _ (by decide +kernel)
    obtain ⟨hcarried, -⟩ := permanent_present_and_silent mimicCatalog (mimicBlueprint [])
    obtain ⟨hget, hsilent⟩ := (hcarried S (.built hbuild)).1 .field (by decide)
    exact ⟨S, .built hbuild, hget, hsilent, hfound⟩
  · refine (permanent_present_and_silent mimicCatalog _).2 .field (by decide) (.own 1) ?_ nofun rfl
    exact .start (r := .named (.own 1)) (.type List.mem_cons_self) rfl

end Schema

end TypeGraph
