/-
What is found under each key of the locator.

All nodes of a schema are kept in one list, under keys made of a sort and two texts, and the
list is filled from the schema definition, the directives and the types in turn.  Under the
name of a type are found the nodes of that type, and of those the ones of the sort and name
asked for, in the order they are written: the definition first and then its extensions.  The
arguments of a directive are found under its name, with those of every other directive of that
name, and roots are found under their operation.

Nothing comes in from elsewhere.  Sorts do not mix, a name is borne by one type, and the texts
that stand for fields and for directives are told apart by their dots.
-/
import TypeGraph.Proofs.EnumValues
import TypeGraph.Proofs.FieldNodes
import TypeGraph.Proofs.Provenance

namespace TypeGraph

open TypeGraph.Source

/-- The arguments written where an element of the list of directives is defined. -/
def Schema.argumentNodes (S : Schema) : Ref → List InputNode
  | .directive id => (S.catalog.directiveDef id).node.toList.flatMap DirectiveNode.args
  | _ => []

/-- The roots written in the schema definition. -/
def Schema.operationNodes (S : Schema) : List OperationNode :=
  S.node.toList.flatMap SchemaNode.operations

namespace Locator

/-- Under the name of a type the locator has the children of its nodes, as far as the kind of the
node makes them count. -/
structure Locates (l : Locator) (t : TypeDef) : Prop where
  /-- The type itself has the nodes of its definition and its extensions. -/
  type : l.nodes (.ofType (some t.name)) = t.nodes.map Node.definition
  field : ∀ name, l.nodes (.ofField t.name name) =
    ((t.nodes.flatMap DefinitionNode.slots).filter fun slot => slot.name = name).map
      SlotNode.toNode
  interface : ∀ name, l.nodes (.ofInterface t.name (some name)) =
    ((t.nodes.flatMap DefinitionNode.ownInterfaces).filter fun mention =>
      mention.name? = some name).map Node.type
  member : ∀ name, l.nodes (.ofMember t.name name) =
    ((t.nodes.flatMap DefinitionNode.ownMembers).filter fun mention =>
      mention.name? = some name).map Node.type
  value : ∀ name, l.nodes (.ofValue t.name name) =
    ((t.nodes.flatMap DefinitionNode.ownValues).filter fun value => value.name = name).map
      Node.value
  /-- An argument is looked for in every node of its field. -/
  argument : ∀ field name, l.nodes (.ofArgument t.name field name) =
    ((((t.nodes.flatMap DefinitionNode.slots).filter fun slot => slot.name = field).flatMap
      SlotNode.args).filter fun arg => arg.name = name).map Node.input

/-- The locator has the nodes of the schema, each in its place, and no others. -/
structure Exact (l : Locator) (S : Schema) : Prop where
  types : ∀ id, .named id ∈ S.types → l.Locates (S.catalog.typeDef id)
  /-- Directives of one name share their arguments, in the order they are registered. -/
  directives : ∀ directive name, '.' ∉ directive.toList →
    l.nodes (.ofDirectiveArgument directive name) =
      (((S.directives.filter (S.isDirectiveNamed directive)).flatMap S.argumentNodes).filter
        fun arg => arg.name = name).map Node.input
  operations : ∀ operation, l.nodes (.ofOperation operation) =
    (S.operationNodes.filter fun root => root.operation = operation).map Node.operation
  first : ∀ key, l.node? key = (l.nodes key).head?
  /-- Under a name that no type bears there is nothing that a type contains. -/
  absent : ∀ key, key.entity ≠ .argument → key.entity ≠ .operation →
    (∀ id, .named id ∈ S.types → key.container ≠ some (S.catalog.typeDef id).name) →
    l.nodes key = []
  /-- Neither are there arguments. -/
  absentArgument : ∀ owner field name, '.' ∉ owner.toList →
    (∀ id, .named id ∈ S.types → (S.catalog.typeDef id).name ≠ owner) →
    l.nodes (.ofArgument owner field name) = []

/-! ### Under the name of a type -/

/-- Mentions of other types are kept like all children, under their sort. -/
theorem nodes_map_mentionEntry (entity : Entity) (owner name : String) (mentions : List TypeNode) :
    (Locator.mk (mentions.map (mentionEntry entity owner))).nodes
        ⟨entity, some owner, some name⟩ =
      (mentions.filter fun mention => mention.name? = some name).map Node.type := by
  have hkey : ∀ mention : TypeNode,
      (mentionEntry entity owner mention).1 = ⟨entity, some owner, some name⟩ ↔
        mention.name? = some name := by
    intro mention
    simp [mentionEntry]
  simp only [nodes_map, hkey]
  rfl

/-- The arguments of a slot are kept under the name of the slot. -/
theorem nodes_fieldEntries_argument (owner field name : String) (slot : SlotNode) :
    (Locator.mk (fieldEntries owner slot)).nodes (.ofArgument owner field name) =
      if slot.name = field then (slot.args.filter fun arg => arg.name = name).map Node.input
      else [] := by
  by_cases hname : slot.name = field
  · subst hname
    have hself : (Locator.mk [(⟨.field, some owner, some slot.name⟩, slot.toNode)]).nodes
        (.ofArgument owner slot.name name) = [] := by
      simp [nodes, Key.ofArgument]
    have hkey : ∀ arg : InputNode, (argumentEntry (fieldContainer owner slot.name) arg).1 =
        .ofArgument owner slot.name name ↔ arg.name = name := by
      intro arg
      simp [argumentEntry, Key.ofArgument]
    rw [if_pos rfl, fieldEntries, ← List.singleton_append, nodes_append, hself, List.nil_append]
    simp only [nodes_map, hkey]
    rfl
  · rw [if_neg hname]
    exact nodes_fieldEntries_of_ne (.argument name) hname

theorem nodes_slots_argument (owner field name : String) (slots : List SlotNode) :
    (Locator.mk (slots.flatMap (fieldEntries owner))).nodes (.ofArgument owner field name) =
      (((slots.filter fun slot => slot.name = field).flatMap SlotNode.args).filter
        fun arg => arg.name = name).map Node.input := by
  simp only [nodes_flatMap, nodes_fieldEntries_argument]
  rw [← flatMap_filter, List.filter_flatMap, List.map_flatMap]

/-- The nodes of one type, taken alone, are in their places. -/
theorem ofType_locates (c : Catalog) (id : TypeId) : (ofType c id).Locates (c.typeDef id) where
  type := by
    rw [nodes_ofType, nodes_flatMap, List.map_eq_flatMap]
    exact List.flatMap_congr fun definition _ => by simp [entriesOf, nodes, Key.ofType]
  field := nodes_ofType_field c id
  interface name := by
    have hpart : ∀ definition, entriesOf (c.typeDef id).name definition
        (Key.ofInterface (c.typeDef id).name (some name)).entity =
          definition.ownInterfaces.map (mentionEntry .interface (c.typeDef id).name) :=
      fun _ => rfl
    simp only [nodes_ofType, hpart, ← List.map_flatMap]
    exact nodes_map_mentionEntry ..
  member name := by
    have hpart : ∀ definition, entriesOf (c.typeDef id).name definition
        (Key.ofMember (c.typeDef id).name name).entity =
          definition.ownMembers.map (mentionEntry .member (c.typeDef id).name) :=
      fun _ => rfl
    simp only [nodes_ofType, hpart, ← List.map_flatMap]
    exact nodes_map_mentionEntry ..
  value name := by rw [nodes_ofType_value, TypeDef.valueNodes_eq]
  argument field name := by
    have hpart : ∀ definition, entriesOf (c.typeDef id).name definition
        (Key.ofArgument (c.typeDef id).name field name).entity =
          definition.slots.flatMap (fieldEntries (c.typeDef id).name) := fun _ => rfl
    simp only [nodes_ofType, hpart, ← List.flatMap_assoc]
    exact nodes_slots_argument ..

/-- In a whole schema nothing is found with them. -/
theorem ofSchema_locates {Q : TypeId → Prop} {S : Schema} (h : S.Lists Q) (hdots : S.Undotted)
    {id : TypeId} (hid : .named id ∈ S.types) :
    (ofSchema S).Locates (S.catalog.typeDef id) := by
  have hown := ofType_locates S.catalog id
  have hunder : ∀ key : Key, key.IsUnder (S.catalog.typeDef id).name →
      (ofSchema S).nodes key = (ofType S.catalog id).nodes key :=
    fun _ hkey => nodes_ofSchema h hid hkey
  exact {
    type := (hunder _ ⟨rfl, by simp [Key.ofType]⟩).trans hown.type
    field := fun name => (hunder _ ⟨rfl, by simp [Key.ofField]⟩).trans (hown.field name)
    interface := fun name => (hunder _ ⟨rfl, by simp [Key.ofInterface]⟩).trans (hown.interface name)
    member := fun name => (hunder _ ⟨rfl, by simp [Key.ofMember]⟩).trans (hown.member name)
    value := fun name => (hunder _ ⟨rfl, by simp [Key.ofValue]⟩).trans (hown.value name)
    argument := fun field name =>
      (nodes_ofSchema_argument h hdots hid ⟨rfl, field, rfl⟩).trans (hown.argument field name) }

/-! ### Directives and roots -/

/-- A directive has arguments under its own name only. -/
theorem nodes_directiveEntries (S : Schema) (directive name : String) (r : Ref) :
    (Locator.mk (directiveEntries S.catalog r)).nodes (.ofDirectiveArgument directive name) =
      if S.isDirectiveNamed directive r = true then
        ((S.argumentNodes r).filter fun arg => arg.name = name).map Node.input
      else [] := by
  by_cases hnamed : S.isDirectiveNamed directive r = true
  · rw [if_pos hnamed]
    rw [Schema.isDirectiveNamed, Bool.and_eq_true, beq_iff_eq] at hnamed
    obtain ⟨hdirective, hname⟩ := hnamed
    cases r with
    | directive id =>
        have hkey : ∀ arg : InputNode,
            (argumentEntry (directiveContainer (S.catalog.directiveDef id).name) arg).1 =
              .ofDirectiveArgument directive name ↔ arg.name = name := by
          intro arg
          rw [Option.some.inj hname]
          simp [argumentEntry, Key.ofDirectiveArgument]
        rw [directiveEntries, Schema.argumentNodes]
        cases (S.catalog.directiveDef id).node with
        | none => rfl
        | some node =>
            simp only [nodes_map, hkey, Option.toList_some, List.flatMap_singleton]
            rfl
    | _ => exact Bool.noConfusion hdirective
  · rw [if_neg hnamed]
    refine nodes_eq_nil fun node hmem => hnamed ?_
    obtain ⟨-, id, rfl, hcontainer⟩ := key_of_mem_directiveEntries hmem
    have hname : directive = (S.catalog.directiveDef id).name :=
      (String.append_right_inj _).mp (Option.some.inj hcontainer)
    rw [Schema.isDirectiveNamed, Bool.and_eq_true, beq_iff_eq, hname]
    exact ⟨rfl, rfl⟩

theorem nodes_directiveArgument {Q : TypeId → Prop} {S : Schema} (h : S.Lists Q)
    {directive : String} (hdot : '.' ∉ directive.toList) (name : String) :
    (ofSchema S).nodes (.ofDirectiveArgument directive name) =
      (((S.directives.filter (S.isDirectiveNamed directive)).flatMap S.argumentNodes).filter
        fun arg => arg.name = name).map Node.input := by
  have hschema : (Locator.mk (schemaEntries S.node)).nodes
      (.ofDirectiveArgument directive name) = [] :=
    nodes_eq_nil fun node hmem => nomatch (key_of_mem_schemaEntries hmem).1
  -- What stands for a field has a dot in it.
  have htypes : (Locator.mk (S.types.flatMap (typeEntries S.catalog))).nodes
      (.ofDirectiveArgument directive name) = [] := by
    refine nodes_eq_nil fun node hmem => ?_
    obtain ⟨r, hr, hmem⟩ := List.mem_flatMap.mp hmem
    obtain ⟨id, rfl, -⟩ := (h.mem_types r).mp hr
    rcases key_of_mem_typeEntries hmem with hunder | ⟨-, field, hfield⟩
    · exact hunder.2 rfl
    · exact fieldContainer_ne_directiveContainer hdot _ field (Option.some.inj hfield).symm
  rw [ofSchema, nodes_append, nodes_append, hschema, htypes, List.nil_append, List.append_nil,
    nodes_flatMap]
  simp only [nodes_directiveEntries]
  rw [← flatMap_filter, List.filter_flatMap, List.map_flatMap]
  simp only [Bool.decide_eq_true]

theorem nodes_schemaEntries (S : Schema) (operation : String) :
    (Locator.mk (schemaEntries S.node)).nodes (.ofOperation operation) =
      (S.operationNodes.filter fun root => root.operation = operation).map Node.operation := by
  have hkey : ∀ root : OperationNode,
      (operationEntry root).1 = .ofOperation operation ↔ root.operation = operation := by
    intro root
    simp [operationEntry, Key.ofOperation]
  rw [Schema.operationNodes]
  cases S.node with
  | none => rfl
  | some node =>
      simp only [schemaEntries, nodes_map, hkey, Option.toList_some, List.flatMap_singleton]
      rfl

theorem nodes_operation {Q : TypeId → Prop} {S : Schema} (h : S.Lists Q) (operation : String) :
    (ofSchema S).nodes (.ofOperation operation) =
      (S.operationNodes.filter fun root => root.operation = operation).map Node.operation := by
  have hdirectives : (Locator.mk (S.directives.flatMap (directiveEntries S.catalog))).nodes
      (.ofOperation operation) = [] := by
    refine nodes_eq_nil fun node hmem => ?_
    obtain ⟨r, -, hmem⟩ := List.mem_flatMap.mp hmem
    exact nomatch (key_of_mem_directiveEntries hmem).1
  have htypes : (Locator.mk (S.types.flatMap (typeEntries S.catalog))).nodes
      (.ofOperation operation) = [] := by
    refine nodes_eq_nil fun node hmem => ?_
    obtain ⟨r, hr, hmem⟩ := List.mem_flatMap.mp hmem
    obtain ⟨id, rfl, -⟩ := (h.mem_types r).mp hr
    rcases key_of_mem_typeEntries hmem with hunder | hfield
    · exact nomatch hunder.1
    · exact nomatch hfield.1
  rw [ofSchema, nodes_append, nodes_append, hdirectives, htypes, List.append_nil, List.append_nil,
    nodes_schemaEntries]

/-! ### Under other names -/

theorem nodes_eq_nil_of_unowned {Q : TypeId → Prop} {S : Schema} (h : S.Lists Q) {key : Key}
    (hargument : key.entity ≠ .argument) (hoperation : key.entity ≠ .operation)
    (hother : ∀ id, .named id ∈ S.types → key.container ≠ some (S.catalog.typeDef id).name) :
    (ofSchema S).nodes key = [] := by
  rw [List.eq_nil_iff_forall_not_mem]
  intro node hnode
  rcases mem_ofSchema_cases h hnode with hschema | ⟨r, -, hdirective⟩ | ⟨id, hid, htype⟩
  · exact hoperation (key_of_mem_schemaEntries hschema).1
  · exact hargument (key_of_mem_directiveEntries hdirective).1
  · rcases key_of_mem_typeEntries htype with hunder | hfield
    · exact hother id hid hunder.1
    · exact hargument hfield.1

theorem nodes_argument_eq_nil {Q : TypeId → Prop} {S : Schema} (h : S.Lists Q) (hdots : S.Undotted)
    {owner : String} (hdot : '.' ∉ owner.toList)
    (hother : ∀ id, .named id ∈ S.types → (S.catalog.typeDef id).name ≠ owner)
    (field name : String) : (ofSchema S).nodes (.ofArgument owner field name) = [] := by
  have hkey : (Key.ofArgument owner field name).IsUnderField owner := ⟨rfl, field, rfl⟩
  rw [List.eq_nil_iff_forall_not_mem]
  intro node hnode
  rcases mem_ofSchema_cases h hnode with hschema | ⟨r, hr, hdirective⟩ | ⟨id, hid, htype⟩
  · exact nomatch (key_of_mem_schemaEntries hschema).1
  · obtain ⟨-, d, rfl, hcontainer⟩ := key_of_mem_directiveEntries hdirective
    exact fieldContainer_ne_directiveContainer (hdots.directives d hr) owner field
      (Option.some.inj hcontainer)
  · rcases key_of_mem_typeEntries htype with hunder | hfield
    · exact hunder.2 rfl
    · exact hother id hid (hfield.unique (hdots.types id hid) hdot hkey)

end Locator

namespace Schema

variable {c : Catalog} {b : Blueprint} {S : Schema}

/--
**The locator is exact.**  In a schema that was not edited and has no dots in the names of its
types and directives, each look-up finds the nodes of what was asked for, all of them and in
the order they are written, and finds nothing where there is nothing of that name.
-/
theorem locator_exact (h : Unmodified c b S) (hdots : S.Undotted) :
    (Locator.ofSchema S).Exact S where
  types _ hid := Locator.ofSchema_locates h.lists hdots hid
  directives _ name hdot := Locator.nodes_directiveArgument h.lists hdot name
  operations operation := Locator.nodes_operation h.lists operation
  first _ := rfl
  absent _ hargument hoperation hother :=
    Locator.nodes_eq_nil_of_unowned h.lists hargument hoperation hother
  absentArgument _ field name hdot hother :=
    Locator.nodes_argument_eq_nil h.lists hdots hdot hother field name

/-- A field that is written in a definition, in an extension and in an extension of another kind,
and two directives of one name. -/
def gardenCatalog : Catalog where
  types := #[
    { name := "Query"
      body := .objectOf [("plant", { type := .named (.own 1) })] []
      node := some { kind := .object, name := "Query", fields := [.field (plant 2)] }
      extensions := [none,
        some { kind := .enum, name := "Query", fields := [.field (plant 4)] },
        some { kind := .object, name := "Query", fields := [.field (plant 6)] }] },
    { name := "Plant"
      body := .union [.named (.own 2)]
      node := some { kind := .union, name := "Plant", members := [mention "Tree" 8] }
      extensions := [some { kind := .union, name := "Plant"
                            members := [mention "Moss" 9, mention "Tree" 10] }] },
    { name := "Tree", body := .objectOf [("height", { type := Builtin.int.ref })] [] }]
  directives := #[
    { name := "tag", node := some { name := "tag", args := [arg "by" 12, arg "on" 12] } },
    { name := "label", node := some { name := "label", args := [arg "by" 13] } },
    { name := "tag", node := some { name := "tag", args := [arg "by" 14] } }]
where
  arg (name : String) (line : Int) : InputNode :=
    { name, type := .named "String" none, loc := some ⟨line, 9⟩ }
  plant (line : Int) : FieldNode :=
    { name := "plant", type := .named "Plant" none, args := [arg "id" line]
      loc := some ⟨line, 3⟩ }
  mention (name : String) (line : Int) : TypeNode := .named name (some ⟨line, 5⟩)

/-- The schema definition names its query root twice. -/
def gardenBlueprint : Blueprint where
  query := .named (.own 0)
  directives := [.directive (.own 2), .directive (.own 1), .directive (.own 0)]
  node := some { operations := [
    { operation := "query", type := .named "Query" none, loc := some ⟨20, 1⟩ },
    { operation := "query", type := .named "Query" none, loc := some ⟨21, 1⟩ }] }

/-- The lines of the nodes under a key. -/
def linesOf (S : Schema) (key : Locator.Key) : List (Option Int) :=
  ((Locator.ofSchema S).nodes key).map fun node => node.loc.map Location.line

theorem locator_exact_garden :
    ∃ S, Unmodified gardenCatalog gardenBlueprint S ∧ S.Undotted ∧
      S.linesOf (.ofField "Query" "plant") = [some 2, some 6] ∧
      S.linesOf (.ofArgument "Query" "plant" "id") = [some 2, some 6] ∧
      S.linesOf (.ofMember "Plant" "Tree") = [some 8, some 10] ∧
      S.linesOf (.ofDirectiveArgument "tag" "by") = [some 14, some 12] ∧
      S.linesOf (.ofOperation "query") = [some 20, some 21] ∧
      S.linesOf (.ofValue "Moss" "plant") = [] := by
  obtain ⟨S, hbuild, hundotted, hquery, hplant, htags, hroots, hmoss⟩ :=
    @exists_build gardenCatalog gardenBlueprint
      (fun S => S.isUndotted = true ∧ .named (.own 0) ∈ S.types ∧ .named (.own 1) ∈ S.types ∧
        ((((S.directives.filter (S.isDirectiveNamed "tag")).flatMap S.argumentNodes).filter
          fun arg => arg.name = "by").map Node.input).map (fun node => node.loc.map Location.line) =
            [some 14, some 12] ∧
        ((S.operationNodes.filter fun root => root.operation = "query").map Node.operation).map
          (fun node => node.loc.map Location.line) = [some 20, some 21] ∧
        ∀ r ∈ S.types, S.catalog.name? r ≠ some "Moss") _ (by decide +kernel)
  have hdots : S.Undotted := undotted_of_isUndotted hundotted
  have hcatalog : S.catalog = gardenCatalog := (build_ok hbuild).1
  have hexact := locator_exact (.built hbuild) hdots
  have hofQuery := hexact.types _ hquery
  have hofPlant := hexact.types _ hplant
  rw [hcatalog] at hofQuery hofPlant
  refine ⟨S, .built hbuild, hdots, ?_, ?_, ?_, ?_, ?_, ?_⟩
  · exact (congrArg _ (hofQuery.field "plant")).trans (by decide +kernel)
  · exact (congrArg _ (hofQuery.argument "plant" "id")).trans (by decide +kernel)
  · exact (congrArg _ (hofPlant.member "Tree")).trans (by decide +kernel)
  · rw [linesOf, hexact.directives "tag" "by" (by decide +kernel)]
    exact htags
  · rw [linesOf, hexact.operations]
    exact hroots
  · have hnone := hexact.absent (.ofValue "Moss" "plant") nofun nofun
      fun id hid heq => hmoss _ hid heq.symm
    rw [linesOf, hnone]
    rfl

end Schema

end TypeGraph
