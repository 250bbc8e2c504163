/-
The nodes found under the name of a type are its own.

The locator lists the nodes of a whole schema, each under a key that says what
contains it.  In a schema that was not edited a name is borne by one type, so under
the name of a type stand the nodes of its definition and its extensions and nothing
else, whatever other types there are.  Of these a key leads to what is of its own sort,
and of each sort a definition declares what its kind has.

Arguments are kept under a text put together from two names, and two fields may come to
the same text.  They do not if no type has a dot in its name, since the text up to the
first dot is the name of the type then.  And if no directive has one either, no field comes
to the text of a directive.
-/
import TypeGraph.Check.Scope
import TypeGraph.Proofs.Possible
import TypeGraph.Proofs.Wording

namespace TypeGraph

open TypeGraph.Source

/-! ### What a definition declares

A node has a list for every sort of child, and which of them count is decided by its kind.
-/

namespace Source.DefinitionNode

variable (definition : DefinitionNode)

/-- The fields a definition declares, if it is of a kind that has fields. -/
def slots : List SlotNode :=
  match definition.kind with
  | .object | .interface | .inputObject => definition.fields
  | .scalar | .union | .inputUnion | .enum => []

/-- The interfaces a definition claims, if it is of an object. -/
def ownInterfaces : List TypeNode :=
  if definition.kind = .object then definition.interfaces else []

/-- The members a definition includes, if it is of a union of either form. -/
def ownMembers : List TypeNode :=
  if definition.kind = .union ∨ definition.kind = .inputUnion then definition.members else []

/-- The values a definition lists, if it is of an enum. -/
def ownValues : List ValueNode :=
  if definition.kind = .enum then definition.values else []

end Source.DefinitionNode

/-- No type and no directive has a dot in its name. -/
structure Schema.Undotted (S : Schema) : Prop where
  types : ∀ id, .named id ∈ S.types → '.' ∉ (S.catalog.typeDef id).name.toList
  directives : ∀ id, .directive id ∈ S.directives → '.' ∉ (S.catalog.directiveDef id).name.toList

namespace Locator

variable {c : Catalog} {key : Key} {node : Node}

/-- What the type of that name contains, arguments apart. -/
def Key.IsUnder (key : Key) (owner : String) : Prop :=
  key.container = some owner ∧ key.entity ≠ .argument

/-- What a field of the type of that name contains. -/
def Key.IsUnderField (key : Key) (owner : String) : Prop :=
  key.entity = .argument ∧ ∃ field, key.container = some (fieldContainer owner field)

/-- The nodes of one type. -/
def ofType (c : Catalog) (id : TypeId) : Locator := ⟨typeEntries c (.named id)⟩

/-! ### Looking up -/

theorem mem_nodes {l : Locator} : node ∈ l.nodes key ↔ (key, node) ∈ l.entries := by
  unfold nodes
  rw [List.mem_filterMap]
  refine ⟨?_, fun h => ⟨(key, node), h, if_pos rfl⟩⟩
  rintro ⟨⟨key', node'⟩, hmem, heq⟩
  by_cases hkey : key' = key
  · rw [if_pos hkey] at heq
    cases heq
    rwa [← hkey]
  · rw [if_neg hkey] at heq
    cases heq

theorem nodes_eq_nil {l : Locator} (h : ∀ node, (key, node) ∉ l.entries) : l.nodes key = [] :=
  List.eq_nil_iff_forall_not_mem.mpr fun node hnode => h node (mem_nodes.mp hnode)

theorem nodes_append (front back : List (Key × Node)) (key : Key) :
    (Locator.mk (front ++ back)).nodes key =
      (Locator.mk front).nodes key ++ (Locator.mk back).nodes key :=
  List.filterMap_append

theorem nodes_flatMap {α : Type} (l : List α) (entries : α → List (Key × Node)) (key : Key) :
    (Locator.mk (l.flatMap entries)).nodes key =
      l.flatMap fun a => (Locator.mk (entries a)).nodes key :=
  List.filterMap_flatMap

theorem nodes_map {α : Type} (l : List α) (entry : α → Key × Node) (key : Key) :
    (Locator.mk (l.map entry)).nodes key =
      (l.filter fun a => (entry a).1 = key).map fun a => (entry a).2 := by
  unfold nodes
  rw [List.filterMap_map, ← List.filterMap_eq_map, List.filterMap_filter]
  simp only [decide_eq_true_eq]
  rfl

/-- What a part of a list contributes, where the rest contributes nothing. -/
theorem flatMap_filter {α β : Type} (l : List α) (p : α → Prop) [DecidablePred p]
    (f : α → List β) :
    ((l.filter fun a => p a).flatMap f) = l.flatMap fun a => if p a then f a else [] := by
  induction l with
  | nil => rfl
  | cons a l ih =>
      by_cases ha : p a
      · simp [ha, ih]
      · simp [ha, ih]

/-! ### The entries of a definition, sort by sort -/

/-- The entries a definition has for one sort of element, where fields and their arguments come
together. -/
def entriesOf (owner : String) (definition : DefinitionNode) : Entity → List (Key × Node)
  | .type => [(⟨.type, some owner, none⟩, .definition definition)]
  | .field | .argument => definition.slots.flatMap (fieldEntries owner)
  | .interface => definition.ownInterfaces.map (mentionEntry .interface owner)
  | .member => definition.ownMembers.map (mentionEntry .member owner)
  | .value => definition.ownValues.map (valueEntry owner)
  | .operation => []

/-- A definition has the entries of each sort, one sort after the other. -/
theorem definitionEntries_eq (owner : String) (definition : DefinitionNode) :
    definitionEntries owner definition =
      [Entity.type, .field, .interface, .member, .value].flatMap (entriesOf owner definition) := by
  cases hkind : definition.kind <;>
    simp [definitionEntries, childEntries, entriesOf, DefinitionNode.slots,
      DefinitionNode.ownInterfaces, DefinitionNode.ownMembers, DefinitionNode.ownValues, hkind]

/-- Only among the entries of fields are entries of another sort, those of arguments. -/
theorem entity_of_mem_entriesOf {owner : String} {definition : DefinitionNode} {entity : Entity}
    (h : (key, node) ∈ entriesOf owner definition entity) (hentity : entity ≠ .argument) :
    key.entity = entity ∨ entity = .field ∧ key.entity = .argument := by
  cases entity with
  | type =>
      cases List.mem_singleton.mp h
      exact Or.inl rfl
  | field =>
      obtain ⟨slot, -, hslot⟩ := List.mem_flatMap.mp h
      rcases List.mem_cons.mp hslot with heq | harg
      · cases heq
        exact Or.inl rfl
      · obtain ⟨arg, -, heq⟩ := List.mem_map.mp harg
        cases heq
        exact Or.inr ⟨rfl, rfl⟩
  | argument => exact absurd rfl hentity
  | interface | member | value =>
      obtain ⟨child, -, heq⟩ := List.mem_map.mp h
      cases heq
      exact Or.inl rfl
  | operation => exact absurd h List.not_mem_nil

/-- A key leads to the entries of its own sort. -/
theorem nodes_definitionEntries (owner : String) (definition : DefinitionNode) (key : Key) :
    (Locator.mk (definitionEntries owner definition)).nodes key =
      (Locator.mk (entriesOf owner definition key.entity)).nodes key := by
  have hother : ∀ entity, entity ≠ .argument → key.entity ≠ entity →
      ¬ (entity = .field ∧ key.entity = .argument) →
      (Locator.mk (entriesOf owner definition entity)).nodes key = [] := by
    intro entity hargument hne hfield
    refine nodes_eq_nil fun node hmem => ?_
    rcases entity_of_mem_entriesOf hmem hargument with heq | heq
    · exact hne heq
    · exact hfield heq
  rw [definitionEntries_eq, nodes_flatMap]
  cases hentity : key.entity with
  | argument =>
      have hsame : entriesOf owner definition .argument = entriesOf owner definition .field := rfl
      simp [hother, hentity, hsame]
  | operation =>
      have hnone : (Locator.mk (entriesOf owner definition .operation)).nodes key = [] := rfl
      simp [hother, hentity, hnone]
  | _ => simp [hother, hentity]

theorem nodes_ofType (c : Catalog) (id : TypeId) (key : Key) :
    (ofType c id).nodes key = (Locator.mk ((c.typeDef id).nodes.flatMap fun definition =>
      entriesOf (c.typeDef id).name definition key.entity)).nodes key := by
  rw [ofType, typeEntries, nodes_flatMap, nodes_flatMap]
  exact List.flatMap_congr fun definition _ => nodes_definitionEntries _ definition key

/-! ### What the entries of each part are kept under -/

theorem key_of_mem_schemaEntries {definition : Option SchemaNode}
    (h : (key, node) ∈ schemaEntries definition) :
    key.entity = .operation ∧ key.container = none := by
  cases definition with
  | none => exact absurd h List.not_mem_nil
  | some definition =>
      obtain ⟨operation, -, heq⟩ := List.mem_map.mp h
      cases heq
      exact ⟨rfl, rfl⟩

theorem key_of_mem_directiveEntries {r : Ref} (h : (key, node) ∈ directiveEntries c r) :
    key.entity = .argument ∧ ∃ id, r = .directive id ∧
      key.container = some (directiveContainer (c.directiveDef id).name) := by
  cases r with
  | directive id =>
      simp only [directiveEntries] at h
      split at h
      · obtain ⟨arg, -, heq⟩ := List.mem_map.mp h
        cases heq
        exact ⟨rfl, id, rfl, rfl⟩
      · exact absurd h List.not_mem_nil
  | _ => exact absurd h List.not_mem_nil

theorem key_of_mem_fieldEntries {owner : String} {slot : SlotNode}
    (h : (key, node) ∈ fieldEntries owner slot) : key.IsUnder owner ∨ key.IsUnderField owner := by
  rcases List.mem_cons.mp h with heq | h
  · cases heq
    exact Or.inl ⟨rfl, by simp⟩
  · obtain ⟨arg, -, heq⟩ := List.mem_map.mp h
    cases heq
    exact Or.inr ⟨rfl, slot.name, rfl⟩

theorem key_of_mem_childEntries {owner : String} {definition : DefinitionNode}
    (h : (key, node) ∈ childEntries owner definition) :
    key.IsUnder owner ∨ key.IsUnderField owner := by
  have hfield : (key, node) ∈ definition.fields.flatMap (fieldEntries owner) →
      key.IsUnder owner ∨ key.IsUnderField owner := by
    intro hmem
    obtain ⟨slot, -, hslot⟩ := List.mem_flatMap.mp hmem
    exact key_of_mem_fieldEntries hslot
  -- Every other child is kept under the type itself.
  have hmap : ∀ {α : Type} {entry : α → Key × Node} {l : List α},
      (∀ a, (entry a).1.IsUnder owner) → (key, node) ∈ l.map entry →
      key.IsUnder owner ∨ key.IsUnderField owner := by
    intro α entry l hentry hmem
    obtain ⟨a, -, heq⟩ := List.mem_map.mp hmem
    have hunder := hentry a
    rw [heq] at hunder
    exact Or.inl hunder
  unfold childEntries at h
  split at h
  · rcases List.mem_append.mp h with h | h
    · exact hfield h
    · exact hmap (fun _ => ⟨rfl, by simp [mentionEntry]⟩) h
  · exact hfield h
  · exact hfield h
  · exact hmap (fun _ => ⟨rfl, by simp [mentionEntry]⟩) h
  · exact hmap (fun _ => ⟨rfl, by simp [mentionEntry]⟩) h
  · exact hmap (fun _ => ⟨rfl, by simp [valueEntry]⟩) h
  · exact absurd h List.not_mem_nil

theorem key_of_mem_typeEntries {id : TypeId} (h : (key, node) ∈ typeEntries c (.named id)) :
    key.IsUnder (c.typeDef id).name ∨ key.IsUnderField (c.typeDef id).name := by
  obtain ⟨definition, -, hmem⟩ := List.mem_flatMap.mp h
  rcases List.mem_cons.mp hmem with heq | hmem
  · cases heq
    exact Or.inl ⟨rfl, by simp⟩
  · exact key_of_mem_childEntries hmem

/-! ### The name of a type in the text of a field -/

theorem Key.IsUnderField.unique {owner owner' : String} (hdot : '.' ∉ owner.toList)
    (hdot' : '.' ∉ owner'.toList) (h : key.IsUnderField owner) (h' : key.IsUnderField owner') :
    owner = owner' := by
  obtain ⟨-, field, hfield⟩ := h
  obtain ⟨-, field', hfield'⟩ := h'
  have htext : fieldContainer owner field = fieldContainer owner' field' :=
    Option.some.inj (hfield.symm.trans hfield')
  have hmark : ".".toList = ['.'] := by decide +kernel
  exact (separated_inj hmark hdot hdot' htext).1

theorem fieldContainer_ne_directiveContainer {directive : String} (hdot : '.' ∉ directive.toList)
    (owner field : String) : fieldContainer owner field ≠ directiveContainer directive := by
  intro heq
  have hmem : '.' ∈ (fieldContainer owner field).toList := by
    simp [fieldContainer, String.toList_append]
  rw [heq] at hmem
  simp [directiveContainer, String.toList_append, hdot] at hmem

/-! ### Whose nodes a key leads to -/

/-- What is listed belongs to the schema definition, to a directive or to a type. -/
theorem mem_ofSchema_cases {Q : TypeId → Prop} {S : Schema} (h : S.Lists Q)
    (hnode : node ∈ (ofSchema S).nodes key) :
    (key, node) ∈ schemaEntries S.node ∨
      (∃ r ∈ S.directives, (key, node) ∈ directiveEntries S.catalog r) ∨
      ∃ id, .named id ∈ S.types ∧ (key, node) ∈ typeEntries S.catalog (.named id) := by
  have hmem := mem_nodes.mp hnode
  rw [ofSchema, List.mem_append, List.mem_append] at hmem
  rcases hmem with (hschema | hdirective) | htype
  · exact Or.inl hschema
  · exact Or.inr (Or.inl (List.mem_flatMap.mp hdirective))
  · obtain ⟨r, hr, hmem⟩ := List.mem_flatMap.mp htype
    obtain ⟨id, rfl, -⟩ := (h.mem_types r).mp hr
    exact Or.inr (Or.inr ⟨id, hr, hmem⟩)

/-- Of a list without repetitions only one element contributes. -/
theorem flatMap_eq_of_unique {α β : Type} {l : List α} {a : α} {f : α → List β} (hnodup : l.Nodup)
    (ha : a ∈ l) (hother : ∀ x ∈ l, x ≠ a → f x = []) : l.flatMap f = f a := by
  obtain ⟨front, back, rfl⟩ := List.append_of_mem ha
  have hne : a ∉ front ∧ a ∉ back := by
    rw [List.nodup_append] at hnodup
    obtain ⟨-, hback, hapart⟩ := hnodup
    exact ⟨fun hmem => hapart a hmem a List.mem_cons_self rfl, (List.nodup_cons.mp hback).1⟩
  have hfront : front.flatMap f = [] := by
    rw [List.flatMap_eq_nil_iff]
    intro x hx
    exact hother x (List.mem_append_left _ hx) fun heq => hne.1 (heq ▸ hx)
  have hback : back.flatMap f = [] := by
    rw [List.flatMap_eq_nil_iff]
    intro x hx
    exact hother x (List.mem_append_right _ (List.mem_cons_of_mem _ hx))
      fun heq => hne.2 (heq ▸ hx)
  rw [List.flatMap_append, List.flatMap_cons, hfront, hback, List.nil_append, List.append_nil]

/-- A key that neither a directive nor another type has leads to the nodes of the type. -/
theorem nodes_ofSchema_of_owner {Q : TypeId → Prop} {S : Schema} (h : S.Lists Q) {id : TypeId}
    (hid : .named id ∈ S.types) (hcontainer : key.container ≠ none)
    (hdirectives : ∀ r ∈ S.directives, ∀ node, (key, node) ∉ directiveEntries S.catalog r)
    (hother : ∀ j, .named j ∈ S.types → ∀ node, (key, node) ∈ typeEntries S.catalog (.named j) →
      (S.catalog.typeDef j).name = (S.catalog.typeDef id).name) :
    (ofSchema S).nodes key = (ofType S.catalog id).nodes key := by
  have hschema : (Locator.mk (schemaEntries S.node)).nodes key = [] :=
    nodes_eq_nil fun node hmem => hcontainer (key_of_mem_schemaEntries hmem).2
  have hdirectives :
      (Locator.mk (S.directives.flatMap (directiveEntries S.catalog))).nodes key = [] := by
    refine nodes_eq_nil fun node hmem => ?_
    obtain ⟨r, hr, hmem⟩ := List.mem_flatMap.mp hmem
    exact hdirectives r hr node hmem
  have htypes : (Locator.mk (S.types.flatMap (typeEntries S.catalog))).nodes key =
      (ofType S.catalog id).nodes key := by
    unfold nodes ofType
    rw [List.filterMap_flatMap]
    refine flatMap_eq_of_unique h.nodup hid fun r hr hne => ?_
    obtain ⟨j, rfl, -⟩ := (h.mem_types r).mp hr
    -- Another type bears another name, so its entries are kept elsewhere.
    refine nodes_eq_nil (l := ofType S.catalog j) fun node hmem => ?_
    exact hne (congrArg Ref.named (h.eq_of_name_eq hr hid (hother j hr node hmem)))
  rw [ofSchema, nodes_append, nodes_append, hschema, hdirectives, htypes, List.nil_append,
    List.nil_append]

/-- Under the name of a type stand its own nodes, whatever else the schema holds. -/
theorem nodes_ofSchema {Q : TypeId → Prop} {S : Schema} (h : S.Lists Q) {id : TypeId}
    (hid : .named id ∈ S.types) (hkey : key.IsUnder (S.catalog.typeDef id).name) :
    (ofSchema S).nodes key = (ofType S.catalog id).nodes key := by
  obtain ⟨hcontainer, hentity⟩ := hkey
  refine nodes_ofSchema_of_owner h hid (by simp [hcontainer]) ?_ ?_
  · intro r _ node hmem
    exact hentity (key_of_mem_directiveEntries hmem).1
  · intro j _ node hmem
    rcases key_of_mem_typeEntries hmem with hunder | hfield
    · exact Option.some.inj (hunder.1.symm.trans hcontainer)
    · exact absurd hfield.1 hentity

/-- Under the name of a type and a field stand the arguments written there, if names of types and
directives have no dot. -/
theorem nodes_ofSchema_argument {Q : TypeId → Prop} {S : Schema} (h : S.Lists Q)
    (hdots : S.Undotted) {id : TypeId} (hid : .named id ∈ S.types)
    (hkey : key.IsUnderField (S.catalog.typeDef id).name) :
    (ofSchema S).nodes key = (ofType S.catalog id).nodes key := by
  obtain ⟨field, hcontainer⟩ := hkey.2
  refine nodes_ofSchema_of_owner h hid (by simp [hcontainer]) ?_ ?_
  · intro r hr node hmem
    obtain ⟨-, d, rfl, hdirective⟩ := key_of_mem_directiveEntries hmem
    rw [hcontainer] at hdirective
    exact fieldContainer_ne_directiveContainer (hdots.directives d hr) _ _
      (Option.some.inj hdirective)
  · intro j hj node hmem
    rcases key_of_mem_typeEntries hmem with hunder | hfield
    · exact absurd hkey.1 hunder.2
    · exact hfield.unique (hdots.types j hj) (hdots.types id hid) hkey

end Locator

end TypeGraph
