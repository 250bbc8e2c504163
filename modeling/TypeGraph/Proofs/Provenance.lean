/-
Diagnostics point at no unrelated source.

A node can come to a diagnostic in two ways: it is attached to a part of what is checked,
or it was looked up.  What is looked up under the name of a type was written in its
definition or its extensions, and so belongs to the type as well.  The arguments of
directives are kept under the name of the directive alone; that name may be registered
twice, and then the nodes are those of either.
-/
import TypeGraph.Proofs.Pointing
import TypeGraph.Proofs.Silence

namespace TypeGraph

open TypeGraph.Source

/-! ### What belongs to what -/

/-- The nodes written inside a definition. -/
inductive Source.DefinitionNode.Holds (d : DefinitionNode) : Node → Prop
  | field {slot : SlotNode} (hslot : slot ∈ d.fields) : Holds d slot.toNode
  | fieldType {slot : SlotNode} (hslot : slot ∈ d.fields) : Holds d (.type slot.type)
  | argument {slot : SlotNode} {arg : InputNode} (hslot : slot ∈ d.fields)
      (harg : arg ∈ slot.args) : Holds d (.input arg)
  | argumentType {slot : SlotNode} {arg : InputNode} (hslot : slot ∈ d.fields)
      (harg : arg ∈ slot.args) : Holds d (.type arg.type)
  | interface {type : TypeNode} (htype : type ∈ d.interfaces) : Holds d (.type type)
  | member {type : TypeNode} (htype : type ∈ d.members) : Holds d (.type type)
  | value {v : ValueNode} (hv : v ∈ d.values) : Holds d (.value v)

/-- The nodes of a type: its definition and extensions, what is written in them, and what is
attached to its parts. -/
inductive TypeDef.Owns (t : TypeDef) : Node → Prop
  | definition {d : DefinitionNode} (hd : d ∈ t.nodes) : Owns t (.definition d)
  | written {d : DefinitionNode} {node : Node} (hd : d ∈ t.nodes) (hnode : d.Holds node) :
      Owns t node
  | field {key : String} {f : Field} {slot : SlotNode} (hf : (key, f) ∈ t.fields.entries)
      (hslot : f.node = some slot) : Owns t slot.toNode
  | argument {key : String} {f : Field} {arg : Argument} {node : InputNode}
      (hf : (key, f) ∈ t.fields.entries) (harg : arg ∈ f.args) (hnode : arg.node = some node) :
      Owns t (.input node)
  | value {v : EnumValue} {node : ValueNode} (hv : v ∈ t.values) (hnode : v.node = some node) :
      Owns t (.value node)

namespace Schema

/-- The nodes of an element of the list of directives.  Those of the arguments may belong to
another directive of the same name. -/
inductive DirectiveOwns (S : Schema) (r : Ref) : Node → Prop
  | own {node : Node} (hnode : S.catalog.node? r = some node) : DirectiveOwns S r node
  | argument {id : DirectiveId} {arg : Argument} {node : InputNode} (hr : r = .directive id)
      (harg : arg ∈ (S.catalog.directiveDef id).args) (hnode : arg.node = some node) :
      DirectiveOwns S r (.input node)
  | written {id namesake : DirectiveId} {definition : DirectiveNode} {arg : InputNode}
      (hr : r = .directive id) (hregistered : .directive namesake ∈ S.directives)
      (hname : (S.catalog.directiveDef namesake).name = (S.catalog.directiveDef id).name)
      (hdefinition : (S.catalog.directiveDef namesake).node = some definition)
      (harg : arg ∈ definition.args) : DirectiveOwns S r (.input arg)
  | writtenType {id namesake : DirectiveId} {definition : DirectiveNode} {arg : InputNode}
      (hr : r = .directive id) (hregistered : .directive namesake ∈ S.directives)
      (hname : (S.catalog.directiveDef namesake).name = (S.catalog.directiveDef id).name)
      (hdefinition : (S.catalog.directiveDef namesake).node = some definition)
      (harg : arg ∈ definition.args) : DirectiveOwns S r (.type arg.type)

/-- The nodes of the root of an operation. -/
inductive RootOwns (S : Schema) (operation : Operation) : Node → Prop
  | schema {node : SchemaNode} (hnode : S.node = some node) : RootOwns S operation (.schema node)
  | reference {node : SchemaNode} {root : OperationNode} (hnode : S.node = some node)
      (hroot : root ∈ node.operations) (hoperation : root.operation = operation.name) :
      RootOwns S operation (.type root.type)
  | own {node : Node} (hnode : S.catalog.node? (S.root operation) = some node) :
      RootOwns S operation node

end Schema

theorem TypeDef.kind_of_mem_interfaces {t : TypeDef} {r : Ref} (h : r ∈ t.interfaces) :
    t.kind = .object := by
  obtain ⟨name, body, node, extensions⟩ := t
  cases body with
  | object => rfl
  | _ => exact absurd h List.not_mem_nil

/-! ### What is looked up -/

@[simp] theorem Source.SlotNode.declaredType?_toNode (slot : SlotNode) :
    slot.toNode.declaredType? = some slot.type := by
  cases slot <;> rfl

namespace Locator

variable {c : Catalog} {key : Key} {node : Node}

theorem liesIn_of_mem_fieldEntries {owner : String} {d : DefinitionNode} {slot : SlotNode}
    (hslot : slot ∈ d.fields) (h : (key, node) ∈ fieldEntries owner slot) :
    node.LiesIn d.Holds := by
  rcases List.mem_cons.mp h with heq | h
  · cases heq
    refine ⟨.field hslot, fun type htype => ?_⟩
    rw [SlotNode.declaredType?_toNode] at htype
    cases htype
    exact .fieldType hslot
  · obtain ⟨arg, harg, heq⟩ := List.mem_map.mp h
    cases heq
    refine ⟨.argument hslot harg, fun type htype => ?_⟩
    cases htype
    exact .argumentType hslot harg

theorem liesIn_of_mem_childEntries {owner : String} {d : DefinitionNode}
    (h : (key, node) ∈ childEntries owner d) : node.LiesIn d.Holds := by
  have hfields : (key, node) ∈ d.fields.flatMap (fieldEntries owner) → node.LiesIn d.Holds := by
    intro hmem
    obtain ⟨slot, hslot, hmem⟩ := List.mem_flatMap.mp hmem
    exact liesIn_of_mem_fieldEntries hslot hmem
  -- A mention declares nothing itself.
  have hmentions : ∀ {entity : Entity} {types : List TypeNode},
      (∀ type ∈ types, d.Holds (.type type)) →
      (key, node) ∈ types.map (mentionEntry entity owner) → node.LiesIn d.Holds := by
    intro entity types hholds hmem
    obtain ⟨type, htype, heq⟩ := List.mem_map.mp hmem
    cases heq
    exact ⟨hholds type htype, fun _ hdeclared => nomatch hdeclared⟩
  unfold childEntries at h
  split at h
  · rcases List.mem_append.mp h with h | h
    · exact hfields h
    · exact hmentions (fun _ => .interface) h
  · exact hfields h
  · exact hfields h
  · exact hmentions (fun _ => .member) h
  · exact hmentions (fun _ => .member) h
  · obtain ⟨v, hv, heq⟩ := List.mem_map.mp h
    cases heq
    exact ⟨.value hv, fun _ hdeclared => nomatch hdeclared⟩
  · exact absurd h List.not_mem_nil

theorem liesIn_of_mem_typeEntries {id : TypeId} (h : (key, node) ∈ typeEntries c (.named id)) :
    node.LiesIn (c.typeDef id).Owns := by
  obtain ⟨d, hd, hmem⟩ := List.mem_flatMap.mp h
  rcases List.mem_cons.mp hmem with heq | hmem
  · cases heq
    exact ⟨.definition hd, fun _ hdeclared => nomatch hdeclared⟩
  · obtain ⟨hholds, htype⟩ := liesIn_of_mem_childEntries hmem
    exact ⟨.written hd hholds, fun type hdeclared => .written hd (htype type hdeclared)⟩

theorem liesIn_of_mem_directiveEntries {S : Schema} {r : Ref} {id : DirectiveId}
    (hr : r ∈ S.directives) (h : (key, node) ∈ directiveEntries S.catalog r)
    (hkey : key.container = some (directiveContainer (S.catalog.directiveDef id).name)) :
    node.LiesIn (S.DirectiveOwns (.directive id)) := by
  obtain ⟨-, namesake, rfl, hcontainer⟩ := key_of_mem_directiveEntries h
  have hname : (S.catalog.directiveDef namesake).name = (S.catalog.directiveDef id).name := by
    have htext := Option.some.inj (hcontainer.symm.trans hkey)
    exact (String.append_right_inj "@").mp htext
  simp only [directiveEntries] at h
  split at h
  · next definition hdefinition =>
      obtain ⟨arg, harg, heq⟩ := List.mem_map.mp h
      cases heq
      refine ⟨.written rfl hr hname hdefinition harg, fun type htype => ?_⟩
      cases htype
      exact .writtenType rfl hr hname hdefinition harg
  · exact absurd h List.not_mem_nil

end Locator

/-! ### What the checks come upon -/

namespace Schema

variable {c : Catalog} {b : Blueprint} {S : Schema}

theorem shows_owned {Q : TypeId → Prop} (h : S.Lists Q) (hdots : S.Undotted) {id : TypeId}
    (hid : .named id ∈ S.types) :
    (Scope.ofSchema S).Shows (S.catalog.typeDef id) (S.catalog.typeDef id).Owns := by
  have hleads : ∀ key, (Locator.ofSchema S).nodes key = (Locator.ofType S.catalog id).nodes key →
      (Locator.ofSchema S).Leads key (S.catalog.typeDef id).Owns := by
    intro key hown node hnode
    rw [hown] at hnode
    exact Locator.liesIn_of_mem_typeEntries (Locator.mem_nodes.mp hnode)
  refine ⟨?_, fun _ _ hf _ hslot => .field hf hslot,
    fun _ _ hf _ harg _ hnode => .argument hf harg hnode, fun _ hv _ hnode => .value hv hnode,
    fun key hkey => hleads key (Locator.nodes_ofSchema h hid hkey), ?_⟩
  · intro node hnode
    exact .definition (List.mem_filterMap.mpr ⟨some node, hnode ▸ List.mem_cons_self, rfl⟩)
  · intro field argument
    exact hleads _ (Locator.nodes_ofSchema_argument h hdots hid ⟨rfl, field, rfl⟩)

theorem showsDirective_owned {Q : TypeId → Prop} (h : S.Lists Q) (hdots : S.Undotted) {r : Ref}
    (hr : r ∈ S.directives) : (Scope.ofSchema S).ShowsDirective r (S.DirectiveOwns r) := by
  refine ⟨fun _ => .own, fun _ hid _ harg _ hnode => .argument hid harg hnode, ?_⟩
  rintro id rfl argument node hnode
  rcases Locator.mem_ofSchema_cases h hnode with hschema | ⟨r, hregistered, hmem⟩ | ⟨j, -, hmem⟩
  · exact nomatch (Locator.key_of_mem_schemaEntries hschema).2
  · exact Locator.liesIn_of_mem_directiveEntries hregistered hmem rfl
  · rcases Locator.key_of_mem_typeEntries hmem with hunder | ⟨-, field, hfield⟩
    · exact absurd rfl hunder.2
    · exact absurd (Option.some.inj hfield).symm
        (Locator.fieldContainer_ne_directiveContainer (hdots.directives id hr) _ _)

theorem showsRoot_owned {Q : TypeId → Prop} (h : S.Lists Q) (operation : Operation) :
    (Scope.ofSchema S).ShowsRoot operation (S.RootOwns operation) := by
  refine ⟨fun _ => .schema, ?_, fun _ => .own⟩
  intro node hnode
  obtain ⟨type, htype, rfl⟩ := Option.map_eq_some_iff.mp hnode
  obtain ⟨first, hfirst, hdeclared⟩ := Option.bind_eq_some_iff.mp htype
  rcases Locator.mem_ofSchema_cases h (List.mem_of_head? hfirst) with
    hschema | ⟨r, -, hmem⟩ | ⟨j, -, hmem⟩
  · cases hdefinition : S.node with
    | none =>
        rw [hdefinition] at hschema
        exact absurd hschema List.not_mem_nil
    | some definition =>
        rw [hdefinition] at hschema
        obtain ⟨root, hroot, heq⟩ := List.mem_map.mp hschema
        simp only [Locator.operationEntry, Locator.Key.ofOperation, Prod.mk.injEq,
          Locator.Key.mk.injEq, Option.some.injEq, true_and] at heq
        obtain ⟨hoperation, rfl⟩ := heq
        cases hdeclared
        exact .reference hdefinition hroot hoperation
  -- Elsewhere a root is never listed.
  · exact nomatch (Locator.key_of_mem_directiveEntries hmem).1
  · rcases Locator.key_of_mem_typeEntries hmem with hunder | hfield
    · exact nomatch hunder.1
    · exact nomatch hfield.1

/-! ### Diagnostics -/

theorem within_checkRoots {Q : TypeId → Prop} (h : S.Lists Q) {d : Diagnostic}
    (hd : d ∈ (Scope.ofSchema S).checkRoots) :
    ∃ operation, d.problem.operation? = some operation ∧ d.Within (S.RootOwns operation) := by
  obtain ⟨operation, hreport⟩ := Scope.rootReport_of_mem hd
  refine ⟨operation, ?_, (showsRoot_owned h operation).within hreport⟩
  cases hreport <;> rfl

theorem within_checkDirective {Q : TypeId → Prop} (h : S.Lists Q) (hdots : S.Undotted) {r : Ref}
    (hr : r ∈ S.directives) {d : Diagnostic} (hd : d ∈ (Scope.ofSchema S).checkDirective r) :
    d.Within (S.DirectiveOwns r) :=
  (showsDirective_owned h hdots hr).within (Scope.directiveReport_of_mem hd)

/-- A diagnostic of one type points at its nodes, or else says against which interface of the type
it is held, and points at nodes of the two. -/
def PointsHome (S : Schema) (id : TypeId) (d : Diagnostic) : Prop :=
  d.Within (S.catalog.typeDef id).Owns ∨
    ∃ i, .named i ∈ (S.catalog.typeDef id).interfaces ∧
      S.catalog.isKind .interface (.named i) = true ∧
      d.problem.against? = some (S.catalog.typeDef i).name ∧
      d.Within fun node => (S.catalog.typeDef id).Owns node ∨ (S.catalog.typeDef i).Owns node

theorem pointsHome_checkEntry (h : Unmodified c b S) (hdots : S.Undotted) {id : TypeId}
    (hid : .named id ∈ S.types) {d : Diagnostic}
    (hd : d ∈ (Scope.ofSchema S).checkEntry (.named id)) : S.PointsHome id d := by
  refine (shows_owned h.lists hdots hid).within_typeReport ?_ (Scope.typeReport_of_mem hd)
  intro i hclaim _
  -- An interface that is claimed is in the type map too, so what bears its name is its own.
  have hkind : (S.catalog.typeDef id).kind = .object := TypeDef.kind_of_mem_interfaces hclaim
  have hi : .named i ∈ S.types := h.mem_types_of_refersTo hid ⟨_, .claim hkind hclaim, rfl⟩
  exact shows_owned h.lists hdots hi

theorem PointsHome.none_notMem {id : TypeId} {d : Diagnostic} (h : S.PointsHome id d) :
    none ∉ d.nodes := by
  rcases h with hwithin | ⟨_, _, _, _, hwithin⟩
  · exact hwithin.none_notMem
  · exact hwithin.none_notMem

/--
If no type and no directive has a dot in its name, then every diagnostic points at nodes that
belong to what it is about: the root of the operation it names, the directive, or the type.
Only a diagnostic held against an interface may also point at nodes of that interface.
-/
theorem diagnose_points_home (h : Unmodified c b S) (hdots : S.Undotted) :
    S.diagnose = (Scope.ofSchema S).checkRoots ++
      S.directives.flatMap (Scope.ofSchema S).checkDirective ++
      S.types.flatMap (Scope.ofSchema S).checkEntry ∧
    (∀ d ∈ S.diagnose, none ∉ d.nodes) ∧
    (∀ d ∈ (Scope.ofSchema S).checkRoots,
      ∃ operation, d.problem.operation? = some operation ∧ d.Within (S.RootOwns operation)) ∧
    (∀ r ∈ S.directives, ∀ d ∈ (Scope.ofSchema S).checkDirective r,
      d.Within (S.DirectiveOwns r)) ∧
    ∀ r ∈ S.types, ∃ id, r = .named id ∧
      ∀ d ∈ (Scope.ofSchema S).checkEntry r, S.PointsHome id d := by
  have hroots : ∀ d ∈ (Scope.ofSchema S).checkRoots,
      ∃ operation, d.problem.operation? = some operation ∧ d.Within (S.RootOwns operation) :=
    fun d => within_checkRoots h.lists
  have hdirectives : ∀ r ∈ S.directives, ∀ d ∈ (Scope.ofSchema S).checkDirective r,
      d.Within (S.DirectiveOwns r) :=
    fun r hr d => within_checkDirective h.lists hdots hr
  have htypes : ∀ r ∈ S.types, ∃ id, r = .named id ∧
      ∀ d ∈ (Scope.ofSchema S).checkEntry r, S.PointsHome id d := by
    intro r hr
    obtain ⟨id, rfl, -⟩ := (h.lists.mem_types r).mp hr
    exact ⟨id, rfl, fun d => pointsHome_checkEntry h hdots hr⟩
  refine ⟨diagnose_eq S, ?_, hroots, hdirectives, htypes⟩
  intro d hd
  rw [diagnose_eq, List.mem_append, List.mem_append] at hd
  rcases hd with (hd | hd) | hd
  · obtain ⟨_, _, hwithin⟩ := hroots d hd
    exact hwithin.none_notMem
  · obtain ⟨r, hr, hd⟩ := List.mem_flatMap.mp hd
    exact (hdirectives r hr d hd).none_notMem
  · obtain ⟨r, hr, hd⟩ := List.mem_flatMap.mp hd
    obtain ⟨id, -, hhome⟩ := htypes r hr
    exact (hhome d hd).none_notMem

/-- Whether nothing that is listed as a type or a directive has a dot in its name. -/
def isUndotted (S : Schema) : Bool :=
  (S.types ++ S.directives).all fun r => (S.catalog.name? r).all fun name => '.' ∉ name.toList

theorem undotted_of_isUndotted (h : S.isUndotted = true) : S.Undotted := by
  rw [isUndotted, List.all_append, Bool.and_eq_true, List.all_eq_true, List.all_eq_true] at h
  exact ⟨fun id hid => of_decide_eq_true (h.1 _ hid), fun id hid => of_decide_eq_true (h.2 _ hid)⟩

/-- A dog that lacks an argument its interface asks for, and a directive that asks for a dog. -/
def kennelCatalog : Catalog where
  types := #[
    { name := "Query", body := .objectOf [("dog", { type := .named (.own 1) })] [] },
    { name := "Dog"
      body := .objectOf [("name", { type := Builtin.string.ref })] [.named (.own 2)]
      node := some { kind := .object, name := "Dog", fields := [.field name] } },
    { name := "Animal"
      body := .interfaceOf [("name", { type := Builtin.string.ref, args := [
        { name := "upper", type := Builtin.boolean.ref }] })]
      node := some { kind := .interface, name := "Animal", fields := [
        .field { name := "name", type := .named "String" none, args := [upper] }] } }]
  directives := #[
    { name := "tag"
      args := [{ name := "dog", type := .named (.own 1) }]
      node := some { name := "tag", args := [dog] } }]
where
  name : FieldNode := { name := "name", type := .named "String" none, loc := some ⟨4, 3⟩ }
  upper : InputNode := { name := "upper", type := .named "Boolean" none, loc := some ⟨7, 8⟩ }
  dog : InputNode := { name := "dog", type := .named "Dog" (some ⟨9, 16⟩) }

/-- Mutations are answered by the interface. -/
def kennelBlueprint : Blueprint where
  query := .named (.own 0)
  mutation := .named (.own 2)
  directives := [.directive (.own 0)]
  node := some { operations := [
    { operation := "mutation", type := .named "Animal" (some ⟨1, 20⟩) }] }

/-- What is said of the schema, and where. -/
def kennelTexts : List String :=
  ["Mutation root type must be Object type if provided, it cannot be Animal. (1:20)",
   "The type of @tag(dog:) must be Input Type but got: Dog. (9:16)",
   "Interface field argument Animal.name(upper:) expected but Dog.name does not provide it. " ++
     "(7:8, 4:3)"]

theorem diagnose_points_home_kennel :
    ∃ S, Unmodified kennelCatalog kennelBlueprint S ∧ S.Undotted ∧
      S.diagnose.map Diagnostic.text = kennelTexts ∧
      (∀ d ∈ S.diagnose, none ∉ d.nodes) ∧
      (∀ r ∈ S.directives, ∀ d ∈ (Scope.ofSchema S).checkDirective r,
        d.Within (S.DirectiveOwns r)) ∧
      ∀ r ∈ S.types, ∃ id, r = .named id ∧
        ∀ d ∈ (Scope.ofSchema S).checkEntry r, S.PointsHome id d := by
  obtain ⟨S, hbuild, hundotted, htexts⟩ := @exists_build kennelCatalog kennelBlueprint
    (fun S => S.isUndotted ∧ S.diagnose.map Diagnostic.text = kennelTexts) _ (by decide +kernel)
  have hdots : S.Undotted := undotted_of_isUndotted hundotted
  obtain ⟨-, hthere, -, hdirectives, htypes⟩ := diagnose_points_home (.built hbuild) hdots
  exact ⟨S, .built hbuild, hdots, htexts, hthere, hdirectives, htypes⟩

end Schema

end TypeGraph
