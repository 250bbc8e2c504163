/-
Source nodes say where, not what.

Nodes are read to point at places of a document.  Taken off, they leave every
diagnostic as it was worded, with nothing to point at.  There are two exceptions.  A
field or value that was written twice is noticed by its nodes, so without them it
passes for one.  And an element on its own, or a directive inside a plain value, is
listed with all its parts, its nodes among them: where such a thing stands for a type,
the nodes get into the wording.
-/
import TypeGraph.Proofs.Findings
import TypeGraph.Proofs.Pointing
import TypeGraph.Proofs.Silence

namespace TypeGraph

/-! ### What is listed with its node -/

namespace Value

mutual

/-- The directives and elements a value holds. -/
def bearers : Value → List Bearer
  | list items => bearersOfItems items
  | record entries => bearersOfEntries entries
  | directive id => [.directive id]
  | element i => [.element i]
  | listOf inner | nonNull inner => bearers inner
  | null | bool _ | int _ | float _ | text _ | type _ => []

/-- The directives and elements in the items of a list. -/
def bearersOfItems : List Value → List Bearer
  | [] => []
  | v :: rest => bearers v ++ bearersOfItems rest

/-- The directives and elements in the entries of a record. -/
def bearersOfEntries : List (String × Value) → List Bearer
  | [] => []
  | (_, v) :: rest => bearers v ++ bearersOfEntries rest

end

end Value

namespace Catalog

variable (c : Catalog)

/-- What is listed where a reference is shown on its own.  A directive is shown by its name. -/
def listedBy : Ref → List Bearer
  | .list inner | .nonNull inner => listedBy inner
  | .directive _ => []
  | r => (c.valueOf r).bearers

/-- What is listed with an argument. -/
def listedWithArgument (arg : Argument) : List Bearer :=
  (c.valueOf arg.type).bearers ++ arg.default.bearers

/-- What is listed with an element. -/
def listedWithElement : Element → List Bearer
  | .argument arg => c.listedWithArgument arg
  | .field f => (c.valueOf f.type).bearers ++ f.args.flatMap c.listedWithArgument
  | .inputField f => (c.valueOf f.type).bearers ++ f.default.bearers
  | .enumValue v => v.value.bearers

/-- What is listed with a directive or element, where that is listed. -/
def listedWith : Bearer → List Bearer
  | .directive id => (c.directiveDef id).args.flatMap c.listedWithArgument
  | .element i => c.listedWithElement (c.element i)

/-- Neither the directive or element nor an argument of it bears a node. -/
def IsBare : Bearer → Prop
  | .directive id => (c.directiveDef id).bare = c.directiveDef id
  | .element i => (c.element i).bare = c.element i

/-- The catalogs have in common what is read to show a reference: names, the kinds of types, plain
values, and those directives and elements that are listed. -/
structure ShowsLike (c c' : Catalog) (listed : Bearer → Prop) : Prop where
  name : ∀ id, (c.typeDef id).name = (c'.typeDef id).name
  kind : ∀ id, (c.typeDef id).kind = (c'.typeDef id).kind
  directiveName : ∀ id, (c.directiveDef id).name = (c'.directiveDef id).name
  value : ∀ n, c.value n = c'.value n
  depth : c.bearerDepth = c'.bearerDepth
  directive : ∀ id, listed (.directive id) → c.directiveDef id = c'.directiveDef id
  element : ∀ i, listed (.element i) → c.element i = c'.element i
  /-- What is listed inside something listed is listed. -/
  closed : ∀ a, listed a → ∀ b ∈ c'.listedWith a, listed b

end Catalog

namespace Schema

/-- The directives and elements that come to be listed where a reference of the schema is shown. -/
inductive ListsBearer (S : Schema) : Bearer → Prop
  | shown {r : Ref} {b : Bearer} (hr : S.Mentions r) (hb : b ∈ S.catalog.listedBy r) :
      ListsBearer S b
  | inside {a b : Bearer} (ha : ListsBearer S a) (hb : b ∈ S.catalog.listedWith a) :
      ListsBearer S b

/-- No node is listed where a reference of the schema is shown. -/
def ListsNoNode (S : Schema) : Prop := ∀ b, S.ListsBearer b → S.catalog.IsBare b

end Schema

namespace Value

variable {c c' : Catalog} {listed : Bearer → Prop} {shown shown' : Bearer → String}

mutual

/-- A value is listed alike, if what it holds is. -/
theorem listing_congr (h : c.ShowsLike c' listed) : (v : Value) →
    (∀ b ∈ v.bearers, shown b = shown' b) → v.listing c shown = v.listing c' shown'
  | list items, hshown => by
      rw [listing, listing, listingItems_congr h items hshown]
  | record entries, hshown => by
      rw [listing, listing, listingEntries_congr h entries hshown]
  | directive id, hshown => hshown (.directive id) List.mem_cons_self
  | element i, hshown => hshown (.element i) List.mem_cons_self
  | listOf inner, hshown => by
      rw [listing, listing, listing_congr h inner hshown]
  | nonNull inner, hshown => by
      rw [listing, listing, listing_congr h inner hshown]
  | type id, _ => by
      rw [listing, listing, h.kind, h.name]
  | null, _ | bool _, _ | int _, _ | float _, _ | text _, _ => rfl

theorem listingItems_congr (h : c.ShowsLike c' listed) : (items : List Value) →
    (∀ b ∈ bearersOfItems items, shown b = shown' b) →
    listingItems c shown items = listingItems c' shown' items
  | [], _ => rfl
  | v :: rest, hshown => by
      rw [listingItems, listingItems,
        listing_congr h v fun b hb => hshown b (List.mem_append_left _ hb),
        listingItems_congr h rest fun b hb => hshown b (List.mem_append_right _ hb)]

theorem listingEntries_congr (h : c.ShowsLike c' listed) : (entries : List (String × Value)) →
    (∀ b ∈ bearersOfEntries entries, shown b = shown' b) →
    listingEntries c shown entries = listingEntries c' shown' entries
  | [], _ => rfl
  | (key, v) :: rest, hshown => by
      rw [listingEntries, listingEntries,
        listing_congr h v fun b hb => hshown b (List.mem_append_left _ hb),
        listingEntries_congr h rest fun b hb => hshown b (List.mem_append_right _ hb)]

end

theorem display_congr (h : c.ShowsLike c' listed) : (v : Value) →
    (∀ b ∈ v.bearers, shown b = shown' b) → v.display c shown = v.display c' shown'
  | listOf inner, hshown => by
      rw [display, display, display_congr h inner hshown]
  | nonNull inner, hshown => by
      rw [display, display, display_congr h inner hshown]
  | type id, _ => by
      rw [display, display, h.name]
  | directive id, _ => by
      rw [display, display, h.directiveName]
  | element i, hshown => listing_congr h (element i) hshown
  | list items, hshown => listing_congr h (list items) hshown
  | record entries, hshown => listing_congr h (record entries) hshown
  | text _, _ | null, _ | bool _, _ | int _, _ | float _, _ => rfl

end Value

namespace Catalog

section Congruence

variable {c c' : Catalog} {listed : Bearer → Prop}

section Parts

variable {shown shown' : Listed → Bearer → String} (h : c.ShowsLike c' listed)
  (hshown : ∀ inside b, listed b → shown inside b = shown' inside b) (inside : Listed)
include h hshown

theorem listing_congr {v : Value} (hv : ∀ b ∈ v.bearers, listed b) :
    v.listing c (shown inside) = v.listing c' (shown' inside) :=
  Value.listing_congr h v fun b hb => hshown inside b (hv b hb)

theorem refListing_congr {r : Ref} (hr : ∀ b ∈ (c'.valueOf r).bearers, listed b) :
    c.refListing shown inside r = c'.refListing shown' inside r := by
  induction r with
  | list inner ih => rw [refListing, refListing, ih hr]
  | nonNull inner ih => rw [refListing, refListing, ih hr]
  | value n =>
      rw [refListing, refListing, h.value]
      split
      · rfl
      · exact listing_congr h hshown _ hr
  | _ => exact listing_congr h hshown inside hr

theorem argumentListing_congr {arg : Argument}
    (harg : ∀ b ∈ c'.listedWithArgument arg, listed b) :
    c.argumentListing shown inside arg = c'.argumentListing shown' inside arg := by
  have htype := refListing_congr h hshown inside fun b hb => harg b (List.mem_append_left _ hb)
  have hdefault := listing_congr h hshown inside fun b hb => harg b (List.mem_append_right _ hb)
  rw [argumentListing, argumentListing, htype, hdefault]

theorem map_argumentListing_congr {args : List Argument}
    (hargs : ∀ b ∈ args.flatMap c'.listedWithArgument, listed b) :
    args.map (c.argumentListing shown inside) = args.map (c'.argumentListing shown' inside) :=
  List.map_congr_left fun _ harg => argumentListing_congr h hshown inside
    fun b hb => hargs b (List.mem_flatMap.mpr ⟨_, harg, hb⟩)

theorem directiveListing_congr {d : DirectiveDef}
    (hd : ∀ b ∈ d.args.flatMap c'.listedWithArgument, listed b) :
    c.directiveListing shown inside d = c'.directiveListing shown' inside d := by
  rw [directiveListing, directiveListing, map_argumentListing_congr h hshown inside hd]

theorem elementListing_congr {e : Element} (he : ∀ b ∈ c'.listedWithElement e, listed b) :
    c.elementListing shown inside e = c'.elementListing shown' inside e := by
  cases e with
  | argument arg => exact argumentListing_congr h hshown inside he
  | field f =>
      rw [elementListing, elementListing,
        refListing_congr h hshown inside fun b hb => he b (List.mem_append_left _ hb),
        map_argumentListing_congr h hshown inside fun b hb => he b (List.mem_append_right _ hb)]
  | inputField f =>
      rw [elementListing, elementListing,
        refListing_congr h hshown inside fun b hb => he b (List.mem_append_left _ hb),
        listing_congr h hshown inside fun b hb => he b (List.mem_append_right _ hb)]
  | enumValue v => rw [elementListing, elementListing, listing_congr h hshown inside he]

end Parts

/-- What is listed somewhere is listed alike.  By induction on how many directives and elements may
still be listed inside each other. -/
theorem bearerListing_congr (h : c.ShowsLike c' listed) (depth : Nat) (inside : Listed)
    {b : Bearer} (hb : listed b) :
    c.bearerListing depth inside b = c'.bearerListing depth inside b := by
  induction depth generalizing inside b with
  | zero => rfl
  | succ depth ih =>
      have hshown : ∀ inside b, listed b →
          c.bearerListing depth inside b = c'.bearerListing depth inside b :=
        fun inside b hb => ih inside hb
      rw [bearerListing, bearerListing]
      split
      · rfl
      · cases b with
        | directive id =>
            simp only [h.directive id hb]
            exact directiveListing_congr h hshown _ (h.closed _ hb)
        | element i =>
            simp only [h.element i hb]
            exact elementListing_congr h hshown _ (h.closed _ hb)

/-- A reference is shown alike, if what is listed there is. -/
theorem inspect_congr (h : c.ShowsLike c' listed) {r : Ref}
    (hr : ∀ b ∈ c'.listedBy r, listed b) : c.inspect r = c'.inspect r := by
  have hshown : ∀ inside b, listed b → c.bearerListing c.bearerDepth inside b =
      c'.bearerListing c'.bearerDepth inside b := by
    intro inside b hb
    rw [h.depth, bearerListing_congr h _ _ hb]
  have hdisplay : ∀ r, (∀ b ∈ c'.listedBy r, listed b) → c.display r = c'.display r := by
    intro r hr
    induction r with
    | named id => rw [display, display, h.name]
    | list inner ih => rw [display, display, ih hr]
    | nonNull inner ih => rw [display, display, ih hr]
    | directive id => rw [display, display, h.directiveName]
    | element i => exact hshown _ _ (hr _ List.mem_cons_self)
    | value n =>
        rw [display, display, h.value]
        exact Value.display_congr h _ fun b hb => hshown _ b (hr b hb)
    | _ => rfl
  cases r with
  | value n => exact refListing_congr h hshown {} hr
  | _ => exact hdisplay _ hr

end Congruence

end Catalog

namespace Schema

variable {S : Schema}

/-- Where no node is listed, the catalog without nodes shows what the catalog does. -/
theorem showsLike_bare (hnone : S.ListsNoNode) :
    S.catalog.bare.ShowsLike S.catalog S.ListsBearer where
  name := fun id => by rw [Catalog.typeDef_bare, TypeDef.name_bare]
  kind := fun id => by rw [Catalog.typeDef_bare, TypeDef.kind_bare]
  directiveName := fun id => by rw [Catalog.directiveDef_bare]; rfl
  value := fun _ => rfl
  depth := by simp [Catalog.bearerDepth, Catalog.bare]
  directive := fun id hid => by rw [Catalog.directiveDef_bare]; exact hnone _ hid
  element := fun i hi => by rw [Catalog.element_bare]; exact hnone _ hi
  closed := fun _ ha _ hb => .inside ha hb

/-- If no node is listed, every reference of the schema is shown as it was. -/
theorem inspect_bare (hnone : S.ListsNoNode) {r : Ref} (hr : S.Mentions r) :
    S.catalog.bare.inspect r = S.catalog.inspect r :=
  Catalog.inspect_congr (showsLike_bare hnone) fun _ hb => .shown hr hb

end Schema

/-! ### Nothing to point at -/

theorem Field.node_of_mem_args {f : Field} (hf : f.bare = f) {arg : Argument}
    (harg : arg ∈ f.args) : arg.node = none := by
  rw [← hf] at harg
  obtain ⟨a, -, rfl⟩ := List.mem_map.mp harg
  rfl

theorem DirectiveDef.node_of_mem_args {d : DirectiveDef} (hd : d.bare = d) {arg : Argument}
    (harg : arg ∈ d.args) : arg.node = none := by
  rw [← hd] at harg
  obtain ⟨a, -, rfl⟩ := List.mem_map.mp harg
  rfl

theorem TypeDef.bare_of_mem_fields {t : TypeDef} (ht : t.bare = t) {entry : String × Field}
    (hentry : entry ∈ t.fields.entries) : entry.2.bare = entry.2 := by
  rw [← ht, fields_bare] at hentry
  obtain ⟨e, -, rfl⟩ := List.mem_map.mp hentry
  exact Field.bare_bare e.2

theorem TypeDef.node_of_mem_values {t : TypeDef} (ht : t.bare = t) {v : EnumValue}
    (hv : v ∈ t.values) : v.node = none := by
  rw [← ht, values_bare] at hv
  obtain ⟨w, -, rfl⟩ := List.mem_map.mp hv
  rfl

namespace Scope

/-- Neither the locator nor a definition has a node. -/
structure Nodeless (s : Scope) : Prop where
  locator : s.locator.entries = []
  catalog : s.catalog.bare = s.catalog
  schema : s.schema.node = none

namespace Nodeless

variable {s : Scope} (h : s.Nodeless)
include h

theorem nodes (key : Locator.Key) : s.locator.nodes key = [] := by
  simp [Locator.nodes, h.locator]

theorem leads (key : Locator.Key) : s.locator.Leads key fun _ => False := by
  intro node hnode
  rw [h.nodes] at hnode
  exact absurd hnode List.not_mem_nil

theorem refNode? (r : Ref) : s.catalog.node? r = none := by
  rw [← h.catalog, Catalog.node?_bare]

theorem typeDef (id : TypeId) : (s.catalog.typeDef id).bare = s.catalog.typeDef id := by
  rw [← Catalog.typeDef_bare, h.catalog]

theorem directiveDef (id : DirectiveId) :
    (s.catalog.directiveDef id).bare = s.catalog.directiveDef id := by
  rw [← Catalog.directiveDef_bare, h.catalog]

theorem shows (id : TypeId) : s.Shows (s.catalog.typeDef id) fun _ => False := by
  have hbare := h.typeDef id
  have hdefinition : (s.catalog.typeDef id).node = none := hbare ▸ rfl
  have hfield : ∀ key f, (key, f) ∈ (s.catalog.typeDef id).fields.entries → f.bare = f :=
    fun key f hf => TypeDef.bare_of_mem_fields hbare hf
  refine ⟨by simp [hdefinition], ?_, ?_, ?_, fun key _ => h.leads key, fun _ _ => h.leads _⟩
  · intro key f hf
    have hnode : f.node = none := hfield key f hf ▸ rfl
    simp [hnode]
  · intro key f hf arg harg
    simp [Field.node_of_mem_args (hfield key f hf) harg]
  · intro v hv
    simp [TypeDef.node_of_mem_values hbare hv]

theorem showsDirective (r : Ref) : s.ShowsDirective r fun _ => False := by
  refine ⟨by simp [h.refNode?], ?_, fun _ _ _ => h.leads _⟩
  intro id _ arg harg
  simp [DirectiveDef.node_of_mem_args (h.directiveDef id) harg]

theorem showsRoot (operation : Operation) : s.ShowsRoot operation fun _ => False :=
  ⟨by simp [h.schema], fun _ => (h.leads _).typeNode?, by simp [h.refNode?]⟩

end Nodeless

end Scope

namespace Schema

variable (S : Schema)

/-- A schema without nodes has nothing to list in its locator. -/
theorem nodeless_bare : (Scope.ofSchema S.bare).Nodeless := by
  have htypes : Locator.typeEntries S.catalog.bare = fun _ => [] := by
    funext r
    cases r with
    | named id => simp [Locator.typeEntries]
    | _ => rfl
  have hdirectives : Locator.directiveEntries S.catalog.bare = fun _ => [] := by
    funext r
    cases r with
    | directive id => simp [Locator.directiveEntries, DirectiveDef.bare]
    | _ => rfl
  refine ⟨?_, S.catalog.bare_bare, rfl⟩
  show Locator.schemaEntries none ++ S.directives.flatMap (Locator.directiveEntries S.catalog.bare) ++
    S.types.flatMap (Locator.typeEntries S.catalog.bare) = []
  rw [htypes, hdirectives]
  simp [Locator.schemaEntries]

theorem unlocated_diagnose_bare : ∀ d ∈ S.bare.diagnose, d.nodes = [] := by
  have h := S.nodeless_bare
  have hnil : ∀ d : Diagnostic, (d.Within fun _ => False) → d.nodes = [] := by
    intro d hd
    refine List.eq_nil_iff_forall_not_mem.mpr fun n hn => ?_
    obtain ⟨_, _, hfalse⟩ := hd n hn
    exact hfalse
  intro d hd
  refine hnil d ?_
  rw [diagnose_eq, List.mem_append, List.mem_append] at hd
  rcases hd with (hd | hd) | hd
  · obtain ⟨operation, hreport⟩ := Scope.rootReport_of_mem hd
    exact (h.showsRoot operation).within hreport
  · obtain ⟨r, -, hd⟩ := List.mem_flatMap.mp hd
    exact (h.showsDirective r).within (Scope.directiveReport_of_mem hd)
  · obtain ⟨r, -, hd⟩ := List.mem_flatMap.mp hd
    cases r with
    | named id =>
        rcases (h.shows id).within_typeReport (fun i _ _ => h.shows i) (Scope.typeReport_of_mem hd)
          with hwithin | ⟨_, _, _, _, hwithin⟩
        · exact hwithin
        · exact hwithin.mono fun _ hor => or_self_iff.mp hor
    | _ =>
        obtain rfl := List.mem_singleton.mp hd
        exact Diagnostic.within_pointing_toList (h.showsDirective _).own

/-- No field or value of the type was written twice. -/
structure WrittenOnce (id : TypeId) : Prop where
  fields : (S.catalog.typeDef id).kind = .object ∨ (S.catalog.typeDef id).kind = .interface →
    ∀ entry ∈ (S.catalog.typeDef id).fields.entries,
      ((Locator.ofSchema S).nodes (.ofField (S.catalog.typeDef id).name entry.1)).length ≤ 1
  values : ∀ v ∈ (S.catalog.typeDef id).values,
    ((Locator.ofSchema S).nodes (.ofValue (S.catalog.typeDef id).name v.name)).length ≤ 1

instance (id : TypeId) : Decidable (S.WrittenOnce id) :=
  decidable_of_iff
    (((S.catalog.typeDef id).kind = .object ∨ (S.catalog.typeDef id).kind = .interface →
      ∀ entry ∈ (S.catalog.typeDef id).fields.entries,
        ((Locator.ofSchema S).nodes (.ofField (S.catalog.typeDef id).name entry.1)).length ≤ 1) ∧
      ∀ v ∈ (S.catalog.typeDef id).values,
        ((Locator.ofSchema S).nodes (.ofValue (S.catalog.typeDef id).name v.name)).length ≤ 1)
    ⟨fun h => ⟨h.1, h.2⟩, fun h => ⟨h.fields, h.values⟩⟩

variable {S}

theorem alike_bare (hnone : S.ListsNoNode) :
    (Scope.ofSchema S).Alike (Scope.ofSchema S.bare) :=
  ⟨S.catalog.bare_bare.symm, fun _ hr => (inspect_bare hnone hr).symm, fun _ => rfl⟩

theorem alikeOn_bare (hnone : S.ListsNoNode) {id : TypeId} (hid : .named id ∈ S.types)
    (honce : S.WrittenOnce id) : (Scope.ofSchema S).AlikeOn (Scope.ofSchema S.bare) id := by
  have hnodes := S.nodeless_bare.nodes
  refine ⟨alike_bare hnone, .entry hid, ?_, ?_, fun _ key given _ expected => (S.isSubtype_bare _ _).symm⟩
  · intro hkind entry hentry
    rw [hnodes]
    exact iff_of_false (Nat.not_lt.mpr (honce.fields hkind entry hentry))
      (Nat.not_lt_zero 1)
  · intro v hv
    rw [hnodes]
    exact iff_of_false (Nat.not_lt.mpr (honce.values v hv)) (Nat.not_lt_zero 1)

theorem findings_bare (hnone : S.ListsNoNode)
    (honce : ∀ id, .named id ∈ S.types → S.WrittenOnce id) :
    S.bare.diagnose.map Diagnostic.finding = S.diagnose.map Diagnostic.finding := by
  have halike := alike_bare hnone
  have hentry : ∀ r ∈ S.types, ((Scope.ofSchema S).checkEntry r).map Diagnostic.problem =
      ((Scope.ofSchema S.bare).checkEntry r).map Diagnostic.problem := by
    intro r hr
    cases r with
    | named id => exact (alikeOn_bare hnone hr (honce id hr)).checkNamedType
    | _ => simp [Scope.checkEntry, halike.inspect _ (.entry hr), Diagnostic.pointing]
  refine (map_finding_eq ?_).symm
  rw [diagnose_eq, diagnose_eq]
  simp only [List.map_append]
  rw [halike.checkRoots fun operation => by cases operation <;> rfl]
  congr 1
  · congr 1
    exact Scope.flatMap_problems_self fun r hr => halike.checkDirective hr
  · exact Scope.flatMap_problems_self hentry

/--
If no field or value was written twice, and no node is listed where a reference of the schema is
shown, then the schema without nodes gets the same findings in the same order, and its diagnostics
point nowhere.  It is the schema that is made when the nodes are left out from the start.
-/
theorem nodes_only_locate (hnone : S.ListsNoNode)
    (honce : ∀ id, .named id ∈ S.types → S.WrittenOnce id) :
    S.bare.diagnose.map Diagnostic.finding = S.diagnose.map Diagnostic.finding ∧
      (∀ d ∈ S.bare.diagnose, d.nodes = []) ∧
      ∀ c b, build c b = .ok S → build c.bare b.bare = .ok S.bare := by
  refine ⟨findings_bare hnone honce, S.unlocated_diagnose_bare, ?_⟩
  intro c b hbuild
  rw [build_bare, hbuild]
  rfl

/-- Whether all types of the type map were written once. -/
def allWrittenOnce (S : Schema) : Bool :=
  S.types.all fun r => r.typeId?.all fun id => decide (S.WrittenOnce id)

theorem writtenOnce_of_all (h : S.allWrittenOnce = true) {id : TypeId}
    (hid : .named id ∈ S.types) : S.WrittenOnce id :=
  of_decide_eq_true (List.all_eq_true.mp h _ hid)

/-- An enum without values, and beside it a directive, an enum value that stands on its own and a
list that holds both. -/
def ageCatalog : Catalog where
  types := #[
    { name := "Query"
      body := .objectOf [("age", { type := .named (.own 1), node := some (.field age) })] []
      node := some { kind := .object, name := "Query", fields := [.field age], loc := some ⟨1, 1⟩ } },
    { name := "Age"
      body := .enum []
      node := some { kind := .enum, name := "Age", loc := some ⟨5, 1⟩ } }]
  directives := #[{ name := "tag" }]
  elements := #[.enumValue { name := "OLD" }]
  values := #[.list [.directive (.own 0), .element 0]]
where
  age : Source.FieldNode := { name := "age", type := .named "Age" none, loc := some ⟨2, 3⟩ }

/-- Queries are answered by the type, mutations by the list and subscriptions by the enum value. -/
def ageBlueprint : Blueprint where
  query := .named (.own 0)
  mutation := .value 0
  subscription := .nonNull (.element 0)
  node := some { loc := some ⟨9, 1⟩ }

/-- What is said of the schema, and where. -/
def ageTexts : List String :=
  ["Mutation root type must be Object type if provided, it cannot be " ++
      "[Directive(name='tag', locations=[], args=[], ast_node=None), " ++
      "EnumValue(name='OLD', value=None, ast_node=None)].",
   "Subscription root type must be Object type if provided, it cannot be " ++
      "EnumValue(name='OLD', value=None, ast_node=None)!.",
   "Enum type Age must define one or more values. (5:1)"]

theorem nodes_only_locate_age :
    ∃ S, build ageCatalog ageBlueprint = .ok S ∧ S.ListsNoNode ∧
      (∀ id, .named id ∈ S.types → S.WrittenOnce id) ∧
      S.diagnose.map Diagnostic.text = ageTexts ∧
      build ageCatalog.bare ageBlueprint.bare = .ok S.bare ∧
      S.bare.diagnose.map Diagnostic.finding = S.diagnose.map Diagnostic.finding ∧
      ∀ d ∈ S.bare.diagnose, d.nodes = [] := by
  obtain ⟨S, hbuild, honce, htext⟩ := @exists_build ageCatalog ageBlueprint
    (fun S => S.allWrittenOnce ∧ S.diagnose.map Diagnostic.text = ageTexts) _ (by decide +kernel)
  have hcatalog : S.catalog = ageCatalog := (build_ok hbuild).1
  have hnone : S.ListsNoNode := by
    intro b _
    rw [hcatalog]
    rcases b with (d | (_ | i)) | (_ | i)
    · cases d <;> rfl
    · rfl
    · simp [Catalog.IsBare, ageCatalog, Catalog.directiveDef, DirectiveDef.bare]
    · rfl
    · simp [Catalog.IsBare, ageCatalog, Catalog.element, Element.bare, EnumValue.bare]
  obtain ⟨hsame, hnowhere, hbare⟩ := nodes_only_locate hnone fun id => writtenOnce_of_all honce
  exact ⟨S, hbuild, hnone, fun id => writtenOnce_of_all honce, htext, hbare _ _ hbuild, hsame,
    hnowhere⟩

/-- A directive and an enum value with their nodes, and a list that holds the directive. -/
def taggedCatalog : Catalog where
  directives := #[{ name := "tag", node := some { name := "tag" } }]
  elements := #[.enumValue { name := "OLD", node := some { name := "OLD" } }]
  values := #[.list [.directive (.own 0)]]

/-- The list or the enum value answers queries. -/
def taggedBlueprint (query : Ref) : Blueprint where
  query := query
  directives := [.directive (.own 0)]

/-- All that is said of the schema, if the root is shown so. -/
def taggedMessages (shown : String) : List String :=
  ["Query root type must be Object type, it cannot be " ++ shown ++ "."]

/-- Whether nothing was written twice, and yet what is said of the root changes when the nodes are
taken off. -/
def ShowsNode (shown bare : String) (S : Schema) : Prop :=
  (∀ id, .named id ∈ S.types → S.WrittenOnce id) ∧
    S.diagnose.map Diagnostic.message = taggedMessages shown ∧
    S.bare.diagnose.map Diagnostic.message = taggedMessages bare ∧
    S.bare.diagnose.map Diagnostic.finding ≠ S.diagnose.map Diagnostic.finding

theorem exists_showsNode {query : Ref} {shown bare : String}
    (h : (build taggedCatalog (taggedBlueprint query)).toOption.any (fun S =>
      decide (S.allWrittenOnce ∧ S.diagnose.map Diagnostic.message = taggedMessages shown ∧
        S.bare.diagnose.map Diagnostic.message = taggedMessages bare ∧
        S.bare.diagnose.map Diagnostic.finding ≠ S.diagnose.map Diagnostic.finding)) = true) :
    ∃ S, build taggedCatalog (taggedBlueprint query) = .ok S ∧ S.ShowsNode shown bare := by
  obtain ⟨S, hbuild, honce, hshown⟩ := exists_build h
  exact ⟨S, hbuild, fun id => writtenOnce_of_all honce, hshown⟩

/-- The node of a directive in a list is listed, and so is that of an enum value on its own. -/
theorem node_listed_in_finding :
    (∃ S, build taggedCatalog (taggedBlueprint (.value 0)) = .ok S ∧ S.ShowsNode
      ("[Directive(name='tag', locations=[], args=[], ast_node=" ++
        "DirectiveDefinitionNode(name='tag', arguments=[], locations=[], loc=None))]")
      "[Directive(name='tag', locations=[], args=[], ast_node=None)]") ∧
    ∃ S, build taggedCatalog (taggedBlueprint (.element 0)) = .ok S ∧ S.ShowsNode
      ("EnumValue(name='OLD', value=None, ast_node=" ++
        "EnumValueDefinitionNode(name='OLD', loc=None))")
      "EnumValue(name='OLD', value=None, ast_node=None)" :=
  ⟨exists_showsNode (by decide +kernel), exists_showsNode (by decide +kernel)⟩

end Schema

end TypeGraph
