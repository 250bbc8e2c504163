/-
Input and output stay apart.

Follow the type of an argument or of an input field as far as it leads: through its
wrappers, into the fields of an input object, to the members of an input union.  In
a schema where a fresh pass finds nothing, no object, interface or union is ever met
on the way, and nothing is met that the type map does not hold.  Nor does a field of
an object or interface return a type that only belongs on the way in.

A path may be of any length and may run in circles, so the argument is a closed set
and not a search.  Two things close it.  The checks look at every argument, field
and member of a type of the type map, since what they skip they report.  And what
such a type mentions is in the type map as well, so a path never leads to a type
that was not checked.
-/
import TypeGraph.Proofs.Possible
import TypeGraph.Proofs.Silence

namespace TypeGraph

namespace Catalog

variable {c : Catalog} {r : Ref}

/-- What may be passed in has a named type under its wrappers, of one of four kinds. -/
theorem named_of_acceptsInput (h : c.acceptsInput r = true) :
    ∃ id, r.namedType? = some id ∧
      (c.typeDef id).kind ∈ [.scalar, .enum, .inputObject, .inputUnion] := by
  unfold acceptsInput isInput namedKind? at h
  cases hid : r.namedType? with
  | none =>
      rw [hid] at h
      cases h
  | some id =>
      refine ⟨id, rfl, ?_⟩
      simp only [hid, Option.map_some, Option.any_some, Bool.or_eq_true, beq_iff_eq,
        Option.some.injEq] at h
      cases hkind : (c.typeDef id).kind <;> simp_all [Kind.isInput]

/-- What may be returned has a named type under its wrappers, of one of five kinds. -/
theorem named_of_isOutput (h : c.isOutput r = true) :
    ∃ id, r.namedType? = some id ∧
      (c.typeDef id).kind ∈ [.scalar, .object, .interface, .union, .enum] := by
  unfold isOutput namedKind? at h
  cases hid : r.namedType? with
  | none =>
      rw [hid] at h
      cases h
  | some id =>
      refine ⟨id, rfl, ?_⟩
      simp only [hid, Option.map_some, Option.any_some] at h
      cases hkind : (c.typeDef id).kind <;> simp_all [Kind.isOutput]

end Catalog

namespace Schema

variable {S : Schema}

/-! ### Paths on the way in -/

/-- What can be met from an argument or an input field, by any number of steps. -/
inductive MetOnInput (S : Schema) : Ref → Prop
  | argument {id : TypeId} {key : String} {f : Field} {arg : Argument}
      (hid : .named id ∈ S.types)
      (hkind : (S.catalog.typeDef id).kind = .object ∨ (S.catalog.typeDef id).kind = .interface)
      (hf : (key, f) ∈ (S.catalog.typeDef id).fields.entries) (harg : arg ∈ f.args) :
      MetOnInput S arg.type
  | inputField {id : TypeId} {key : String} {f : Field} (hid : .named id ∈ S.types)
      (hkind : (S.catalog.typeDef id).kind = .inputObject)
      (hf : (key, f) ∈ (S.catalog.typeDef id).fields.entries) : MetOnInput S f.type
  | directiveArgument {d : DirectiveId} {arg : Argument} (hd : .directive d ∈ S.directives)
      (harg : arg ∈ (S.catalog.directiveDef d).args) : MetOnInput S arg.type
  | underList {r : Ref} (h : MetOnInput S (.list r)) : MetOnInput S r
  | underNonNull {r : Ref} (h : MetOnInput S (.nonNull r)) : MetOnInput S r
  | ofInputObject {id : TypeId} {key : String} {f : Field} (h : MetOnInput S (.named id))
      (hkind : (S.catalog.typeDef id).kind = .inputObject)
      (hf : (key, f) ∈ (S.catalog.typeDef id).fields.entries) : MetOnInput S f.type
  | ofInputUnion {id : TypeId} {r : Ref} (h : MetOnInput S (.named id))
      (hkind : (S.catalog.typeDef id).kind = .inputUnion)
      (hr : r ∈ (S.catalog.typeDef id).members) : MetOnInput S r

/-- The kinds that belong on the way in. -/
def inputKinds : List Kind := [.scalar, .enum, .inputObject, .inputUnion]

/-- Under the wrappers is a type of the type map, of one of the kinds. -/
def HoldsKind (S : Schema) (kinds : List Kind) (r : Ref) : Prop :=
  ∃ id, r.namedType? = some id ∧ (S.catalog.typeDef id).kind ∈ kinds ∧ .named id ∈ S.types

/-! ### What was checked -/

variable {kind : Kind} {id : TypeId}

theorem Certified.fieldOk (h : S.Certified) {key : String} {f : Field}
    (hid : .named id ∈ S.types)
    (hkind : (S.catalog.typeDef id).kind = .object ∨ (S.catalog.typeDef id).kind = .interface)
    (hf : (key, f) ∈ (S.catalog.typeDef id).fields.entries) : S.FieldOk id key f := by
  have hbody : S.BodyOk id := (h.types id hid).body
  unfold BodyOk at hbody
  rcases hkind with hkind | hkind
  · rw [hkind] at hbody
    exact hbody.1.each key f hf
  · rw [hkind] at hbody
    exact hbody.each key f hf

theorem Certified.acceptsInput_field (h : S.Certified) {key : String} {f : Field}
    (hid : .named id ∈ S.types) (hkind : (S.catalog.typeDef id).kind = .inputObject)
    (hf : (key, f) ∈ (S.catalog.typeDef id).fields.entries) :
    S.catalog.acceptsInput f.type = true := by
  have hbody : S.BodyOk id := (h.types id hid).body
  rw [BodyOk, hkind] at hbody
  exact hbody.inputs key f hf

theorem MembersOk.named (h : S.MembersOk kind id) {r : Ref}
    (hr : r ∈ (S.catalog.typeDef id).members) :
    ∃ m, r = .named m ∧ (S.catalog.typeDef m).kind = kind := by
  have hkind : S.catalog.isKind kind r = true := h.kinds r hr
  obtain ⟨m, rfl⟩ := Catalog.exists_named_of_isKind hkind
  exact ⟨m, rfl, Catalog.isKind_named.mp hkind⟩

/-! ### One step, and all of them -/

variable {c : Catalog} {b : Blueprint} {kinds : List Kind} {r : Ref}

/-- What a type of the type map mentions leads back into the type map. -/
theorem Unmodified.holdsKind_of_mentions (h : Unmodified c b S) (hid : .named id ∈ S.types)
    (hmention : (S.catalog.typeDef id).Mentions r)
    (hnamed : ∃ j, r.namedType? = some j ∧ (S.catalog.typeDef j).kind ∈ kinds) :
    S.HoldsKind kinds r := by
  obtain ⟨j, hj, hkind⟩ := hnamed
  exact ⟨j, hj, hkind, h.mem_types_of_refersTo hid ⟨r, hmention, hj⟩⟩

theorem Unmodified.holdsKind_directiveArgument (h : Unmodified c b S) (hcert : S.Certified)
    {d : DirectiveId} {arg : Argument} (hd : .directive d ∈ S.directives)
    (harg : arg ∈ (S.catalog.directiveDef d).args) : S.HoldsKind inputKinds arg.type := by
  have hok : S.DirectiveOk (S.catalog.directiveDef d) := by
    obtain ⟨d', heq, hok⟩ := hcert.directives _ hd
    cases heq
    exact hok
  obtain ⟨j, hj, hkind⟩ := Catalog.named_of_acceptsInput (hok.arguments.inputs arg harg)
  rw [h.follows.directives] at hd
  rw [h.follows.catalog] at harg
  exact ⟨j, hj, hkind, (h.lists.mem_types _).mpr ⟨j, rfl, .start (.argument hd harg) hj⟩⟩

theorem Unmodified.holdsKind_inputField (h : Unmodified c b S) (hcert : S.Certified)
    (hid : .named id ∈ S.types) (hkind : (S.catalog.typeDef id).kind = .inputObject)
    {key : String} {f : Field} (hf : (key, f) ∈ (S.catalog.typeDef id).fields.entries) :
    S.HoldsKind inputKinds f.type :=
  h.holdsKind_of_mentions hid (.inputField hkind hf)
    (Catalog.named_of_acceptsInput (hcert.acceptsInput_field hid hkind hf))

theorem Unmodified.holdsKind_inputMember (h : Unmodified c b S) (hcert : S.Certified)
    (hid : .named id ∈ S.types) (hkind : (S.catalog.typeDef id).kind = .inputUnion)
    (hr : r ∈ (S.catalog.typeDef id).members) : S.HoldsKind inputKinds r := by
  have hbody : S.BodyOk id := (hcert.types id hid).body
  rw [BodyOk, hkind] at hbody
  obtain ⟨m, rfl, hm⟩ := hbody.named hr
  refine h.holdsKind_of_mentions hid (.member (Or.inr hkind) hr) ⟨m, rfl, ?_⟩
  rw [hm]
  decide

/-- Whatever is met on the way in belongs there and is in the type map. -/
theorem Unmodified.holdsKind_of_metOnInput (h : Unmodified c b S) (hcert : S.Certified)
    (hr : S.MetOnInput r) : S.HoldsKind inputKinds r := by
  induction hr with
  | argument hid hkind hf harg =>
      refine h.holdsKind_of_mentions hid (.argument hkind hf harg) ?_
      exact Catalog.named_of_acceptsInput ((hcert.fieldOk hid hkind hf).arguments.inputs _ harg)
  | inputField hid hkind hf => exact h.holdsKind_inputField hcert hid hkind hf
  | directiveArgument hd harg => exact h.holdsKind_directiveArgument hcert hd harg
  -- A wrapper holds the same type as what it wraps.
  | underList _ ih => exact ih
  | underNonNull _ ih => exact ih
  | ofInputObject _ hkind hf ih =>
      obtain ⟨_, heq, -, hid⟩ := ih
      cases heq
      exact h.holdsKind_inputField hcert hid hkind hf
  | ofInputUnion _ hkind hr ih =>
      obtain ⟨_, heq, -, hid⟩ := ih
      cases heq
      exact h.holdsKind_inputMember hcert hid hkind hr

/--
**Input and output stay apart.**  In a schema that was not edited and in which a fresh
pass finds nothing: whatever is met from an argument or an input field, along any path
through wrappers, input objects and input unions, is a scalar, an enum, an input object
or an input union of the type map; a field of an object or interface returns a scalar, an
object, an interface, a union or an enum of the type map; and the members of a union are
objects of the type map.
-/
theorem input_output_separated (h : Unmodified c b S) (hclean : S.diagnose = []) :
    (∀ r, S.MetOnInput r → S.HoldsKind [.scalar, .enum, .inputObject, .inputUnion] r) ∧
      (∀ id key f, .named id ∈ S.types →
        (S.catalog.typeDef id).kind = .object ∨ (S.catalog.typeDef id).kind = .interface →
        (key, f) ∈ (S.catalog.typeDef id).fields.entries →
        S.HoldsKind [.scalar, .object, .interface, .union, .enum] f.type) ∧
      ∀ id r, .named id ∈ S.types → (S.catalog.typeDef id).kind = .union →
        r ∈ (S.catalog.typeDef id).members →
        ∃ o, r = .named o ∧ (S.catalog.typeDef o).kind = .object ∧ r ∈ S.types := by
  have hcert : S.Certified := h.diagnose_silent.mp hclean
  refine ⟨fun r hr => h.holdsKind_of_metOnInput hcert hr, ?_, ?_⟩
  · intro id key f hid hkind hf
    exact h.holdsKind_of_mentions hid (.field hkind hf)
      (Catalog.named_of_isOutput (hcert.fieldOk hid hkind hf).output)
  · intro id r hid hkind hr
    have hbody : S.BodyOk id := (hcert.types id hid).body
    rw [BodyOk, hkind] at hbody
    obtain ⟨o, rfl, ho⟩ := hbody.named hr
    exact ⟨o, rfl, ho, h.mem_types_of_refersTo hid ⟨_, .member (Or.inl hkind) hr, rfl⟩⟩

/-- From the argument of a search the sizes of pets are met, through an input union and an input
object; what a search returns is a union of objects. -/
theorem separated_pets :
    ∃ S, Unmodified petCatalog petBlueprint S ∧ S.diagnose = [] ∧
      S.MetOnInput (.named (.own 6)) ∧
      S.HoldsKind [.scalar, .enum, .inputObject, .inputUnion] (.named (.own 6)) ∧
      S.HoldsKind [.scalar, .object, .interface, .union, .enum] (.named (.own 3)) ∧
      .named (.own 1) ∈ S.types := by
  obtain ⟨S, hbuild, hclean, hquery, hpet⟩ := @exists_build petCatalog petBlueprint
    (fun S => S.diagnose = [] ∧ .named (.own 2) ∈ S.types ∧ .named (.own 3) ∈ S.types)
    _ (by decide +kernel)
  obtain ⟨hin, hout, hunion⟩ := input_output_separated (.built hbuild) hclean
  have hcatalog : S.catalog = petCatalog := (build_ok hbuild).1
  rw [hcatalog] at hout hunion
  have hsearch : ("search", Field.labelled "search"
      { type := .named (.own 3), args := [petCatalog.filter] }) ∈
        (petCatalog.typeDef (.own 2)).fields.entries := List.mem_of_getElem? (i := 1) rfl
  have hsize : ("size", InputField.toField (InputField.labelled "size"
      { type := .named (.own 6) })) ∈ (petCatalog.typeDef (.own 5)).fields.entries :=
    List.mem_of_getElem? (i := 0) rfl
  have hmet : S.MetOnInput (.named (.own 6)) := by
    have hunion : S.MetOnInput (.named (.own 4)) :=
      .argument hquery (hcatalog ▸ Or.inl rfl) (hcatalog ▸ hsearch) List.mem_cons_self
    have hobject : S.MetOnInput (.named (.own 5)) :=
      .ofInputUnion hunion (hcatalog ▸ rfl) (hcatalog ▸ List.mem_cons_self)
    exact .ofInputObject hobject (hcatalog ▸ rfl) (hcatalog ▸ hsize)
  obtain ⟨_, heq, -, hdog⟩ := hunion (.own 3) (.named (.own 1)) hpet rfl List.mem_cons_self
  exact ⟨S, .built hbuild, hclean, hmet, hin _ hmet,
    hout (.own 2) _ _ hquery (Or.inl rfl) hsearch, hdog⟩

end Schema

end TypeGraph
