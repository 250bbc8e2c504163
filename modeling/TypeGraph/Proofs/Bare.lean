/-
Definitions without the nodes they were written at.

Taking the nodes off leaves names, kinds, types and members as they are.  So what is
asked of a reference, which types a schema collects, and which of them may stand for
which, all get the same answers as before.
-/
import TypeGraph.Subtype

namespace TypeGraph

/-- The argument without its node. -/
def Argument.bare (arg : Argument) : Argument := { arg with node := none }

/-- The field without its node and those of its arguments. -/
def Field.bare (f : Field) : Field := { f with args := f.args.map Argument.bare, node := none }

/-- The input field without its node. -/
def InputField.bare (f : InputField) : InputField := { f with node := none }

/-- The enum value without its node. -/
def EnumValue.bare (v : EnumValue) : EnumValue := { v with node := none }

/-- The element without its node and those in it. -/
def Element.bare : Element → Element
  | argument arg => argument arg.bare
  | field f => field f.bare
  | inputField f => inputField f.bare
  | enumValue v => enumValue v.bare

/-- The body without the nodes in it. -/
def Body.bare : Body → Body
  | scalar => scalar
  | object fields interfaces => object (fields.map fun _ => Field.bare) interfaces
  | interface fields => interface (fields.map fun _ => Field.bare)
  | union members => union members
  | inputUnion members => inputUnion members
  | enum values => enum (values.map EnumValue.bare)
  | inputObject fields => inputObject (fields.map fun _ => InputField.bare)

/-- The type without the nodes of its definition, its extensions and its body. -/
def TypeDef.bare (t : TypeDef) : TypeDef := { name := t.name, body := t.body.bare }

/-- The directive without its node and those of its arguments. -/
def DirectiveDef.bare (d : DirectiveDef) : DirectiveDef :=
  { d with args := d.args.map Argument.bare, node := none }

/-- The catalog without nodes. -/
def Catalog.bare (c : Catalog) : Catalog :=
  { c with
    types := c.types.map TypeDef.bare
    directives := c.directives.map DirectiveDef.bare
    elements := c.elements.map Element.bare }

/-- The blueprint without its node. -/
def Blueprint.bare (b : Blueprint) : Blueprint := { b with node := none }

/-- The schema without nodes. -/
def Schema.bare (S : Schema) : Schema := { S with catalog := S.catalog.bare, node := none }

/-! ### One definition -/

theorem Table.map_map {α β γ : Type} (f : String → α → β) (g : String → β → γ) (t : Table α) :
    (t.map f).map g = t.map fun key a => g key (f key a) := by
  simp [Table.map, Function.comp_def]

@[simp] theorem Argument.bare_bare (arg : Argument) : arg.bare.bare = arg.bare := rfl

theorem map_argument_bare (args : List Argument) :
    (args.map Argument.bare).map Argument.bare = args.map Argument.bare := by
  simp

@[simp] theorem Field.bare_bare (f : Field) : f.bare.bare = f.bare := by
  simp only [Field.bare, map_argument_bare]

@[simp] theorem InputField.bare_bare (f : InputField) : f.bare.bare = f.bare := rfl

@[simp] theorem EnumValue.bare_bare (v : EnumValue) : v.bare.bare = v.bare := rfl

@[simp] theorem Element.bare_bare (e : Element) : e.bare.bare = e.bare := by
  cases e <;> simp [bare]

@[simp] theorem Element.name?_bare (e : Element) : e.bare.name? = e.name? := by
  cases e <;> rfl

@[simp] theorem Element.node?_bare (e : Element) : e.bare.node? = none := by
  cases e <;> rfl

@[simp] theorem DirectiveDef.bare_bare (d : DirectiveDef) : d.bare.bare = d.bare := by
  simp only [DirectiveDef.bare, map_argument_bare]

namespace TypeDef

variable (t : TypeDef)

@[simp] theorem bare_bare : t.bare.bare = t.bare := by
  cases t with
  | mk name body node extensions =>
      cases body <;> simp [bare, Body.bare, Table.map_map, Function.comp_def]

@[simp] theorem name_bare : t.bare.name = t.name := rfl

@[simp] theorem kind_bare : t.bare.kind = t.kind := by
  cases t with
  | mk name body node extensions => cases body <;> rfl

theorem fields_bare : t.bare.fields = t.fields.map fun _ => Field.bare := by
  cases t with
  | mk name body node extensions =>
      cases body with
      | inputObject inputFields =>
          simp only [fields, bare, Body.bare, Table.map_map]
          rfl
      | _ => rfl

@[simp] theorem interfaces_bare : t.bare.interfaces = t.interfaces := by
  cases t with
  | mk name body node extensions => cases body <;> rfl

@[simp] theorem members_bare : t.bare.members = t.members := by
  cases t with
  | mk name body node extensions => cases body <;> rfl

theorem values_bare : t.bare.values = t.values.map EnumValue.bare := by
  cases t with
  | mk name body node extensions => cases body <;> rfl

@[simp] theorem nodes_bare : t.bare.nodes = [] := rfl

private theorem fieldReferences_bare (f : Field) :
    references.fieldReferences f.bare = references.fieldReferences f := by
  simp [references.fieldReferences, Field.bare, Argument.bare, Function.comp_def]

@[simp] theorem references_bare : t.bare.references = t.references := by
  cases t with
  | mk name body node extensions =>
      cases body <;>
        simp [references, bare, Body.bare, Table.values, Table.map, List.flatMap_map,
          fieldReferences_bare, InputField.bare, Function.comp_def]

end TypeDef

/-! ### The catalog -/

namespace Catalog

variable (c : Catalog)

private theorem definition_bare (b : Builtin) : b.definition.bare = b.definition := by
  cases b <;> rfl

@[simp] theorem typeDef_bare (id : TypeId) : c.bare.typeDef id = (c.typeDef id).bare := by
  cases id with
  | builtin b => exact (definition_bare b).symm
  | own i =>
      simp only [typeDef, bare, Array.getD_eq_getD_getElem?, Array.getElem?_map]
      cases c.types[i]? <;> rfl

@[simp] theorem directiveDef_bare (id : DirectiveId) :
    c.bare.directiveDef id = (c.directiveDef id).bare := by
  cases id with
  | specified d => cases d <;> rfl
  | own i =>
      simp only [directiveDef, bare, Array.getD_eq_getD_getElem?, Array.getElem?_map]
      cases c.directives[i]? <;> rfl

@[simp] theorem element_bare (i : Nat) : c.bare.element i = (c.element i).bare := by
  simp only [element, bare, Array.getD_eq_getD_getElem?, Array.getElem?_map]
  cases c.elements[i]? <;> rfl

@[simp] theorem bare_bare : c.bare.bare = c.bare := by
  simp [bare, Function.comp_def]

@[simp] theorem kind?_bare (r : Ref) : c.bare.kind? r = c.kind? r := by
  simp [kind?]

@[simp] theorem namedKind?_bare (r : Ref) : c.bare.namedKind? r = c.namedKind? r := by
  simp [namedKind?]

@[simp] theorem isKind_bare (kind : Kind) (r : Ref) : c.bare.isKind kind r = c.isKind kind r := by
  simp [isKind]

@[simp] theorem isAbstract_bare (r : Ref) : c.bare.isAbstract r = c.isAbstract r := by
  simp [isAbstract]

@[simp] theorem isOutput_bare (r : Ref) : c.bare.isOutput r = c.isOutput r := by
  simp [isOutput]

@[simp] theorem acceptsInput_bare (r : Ref) : c.bare.acceptsInput r = c.acceptsInput r := by
  simp [acceptsInput, isInput]

@[simp] theorem name?_bare (r : Ref) : c.bare.name? r = c.name? r := by
  cases r with
  | named id => simp [name?]
  | directive id => simp [name?, DirectiveDef.bare]
  | element i => simp [name?]
  | _ => rfl

@[simp] theorem node?_bare (r : Ref) : c.bare.node? r = none := by
  cases r <;> simp [node?, TypeDef.bare, DirectiveDef.bare]

/-! ### Collecting -/

theorem turn_bare (l : Loop) : c.bare.turn l = c.turn l := by
  simp [turn, visit, expand, references]

theorem walk_bare (l : Loop) : c.bare.walk l = c.walk l := by
  induction l using walk.induct c with
  | case1 l outcome hstop =>
      rw [walk_of_stop hstop]
      exact walk_of_stop ((c.turn_bare l).trans hstop)
  | case2 l ref new next hgo ih =>
      rw [walk_of_go hgo, ← ih]
      exact walk_of_go ((c.turn_bare l).trans hgo)

theorem collectAll_bare (refs : List Ref) : c.bare.collectAll refs = c.collectAll refs := by
  have hcollect : c.bare.collect = c.collect := by
    funext found ref
    exact c.walk_bare ⟨found, [ref]⟩
  unfold collectAll
  rw [hcollect]

end Catalog

/-! ### The schema -/

theorem Blueprint.startingRefs_bare (b : Blueprint) (c : Catalog) :
    b.bare.startingRefs c.bare = b.startingRefs c := by
  have hargs : Blueprint.argumentTypes c.bare = Blueprint.argumentTypes c := by
    funext r
    cases r with
    | directive id => simp [argumentTypes, DirectiveDef.bare, Argument.bare, Function.comp_def]
    | _ => rfl
  unfold startingRefs
  rw [hargs]
  rfl

namespace Schema

/-- Made without nodes, a schema is the one made with them, less the nodes. -/
theorem build_bare (c : Catalog) (b : Blueprint) :
    build c.bare b.bare = (build c b).map Schema.bare := by
  unfold build
  rw [Blueprint.startingRefs_bare, Catalog.collectAll_bare]
  cases c.collectAll (b.startingRefs c) <;> rfl

variable (S : Schema)

@[simp] theorem types_bare : S.bare.types = S.types := rfl

@[simp] theorem catalog_bare : S.bare.catalog = S.catalog.bare := rfl

theorem objectId?_bare : S.bare.objectId? = S.objectId? := by
  funext r
  simp [objectId?]

theorem claimIndex_bare : S.bare.claimIndex = S.claimIndex := by
  have hname : S.bare.interfaceName? = S.interfaceName? := by
    funext r
    simp [interfaceName?]
  have hclaims : S.bare.claimsOf = S.claimsOf := by
    funext r
    simp [claimsOf, objectId?_bare, hname]
  unfold claimIndex indexClaims
  rw [hclaims]
  rfl

theorem possibleTypes_bare (abstract : TypeId) :
    S.bare.possibleTypes abstract = S.possibleTypes abstract := by
  have hclaimants : S.bare.claimants = S.claimants := by
    funext name
    unfold claimants
    rw [claimIndex_bare]
  unfold possibleTypes
  rw [objectId?_bare, hclaimants, catalog_bare, Catalog.typeDef_bare, TypeDef.name_bare]
  cases hbody : (S.catalog.typeDef abstract).body <;> simp [TypeDef.bare, hbody, Body.bare]

theorem isSubtype_bare (sub super : Ref) : S.bare.isSubtype sub super = S.isSubtype sub super := by
  have hcore : S.catalog.bare.coreComparison = S.catalog.coreComparison := by
    funext a b
    simp [Catalog.coreComparison]
  have hcompare : ∀ a b, S.catalog.bare.comparison a b = S.catalog.comparison a b := by
    intro a b
    fun_induction S.catalog.comparison a b <;> simp_all [Catalog.comparison]
  unfold isSubtype isPossible
  rw [catalog_bare, hcompare]
  simp only [possibleTypes_bare]

end Schema

end TypeGraph
