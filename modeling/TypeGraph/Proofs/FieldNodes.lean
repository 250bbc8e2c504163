/-
The nodes of one field.

A field is written in the definition of its type and in extensions of it, once or more
often.  What is looked up under its name are these nodes, in the order they are written.

They matter to that field alone.  What is said of another field of the type is the same
whatever they are, and if there are none: the locator keeps the two apart, and to show a
type its name is read and not its nodes.
-/
import TypeGraph.Edit
import TypeGraph.Proofs.Annotations
import TypeGraph.Proofs.OwnNodes

namespace TypeGraph

open TypeGraph.Source

/-! ### Where a field is written -/

/-- The nodes of a field, those of the definition before those of extensions. -/
def TypeDef.fieldNodes (t : TypeDef) (key : String) : List Node :=
  ((t.nodes.flatMap DefinitionNode.slots).filter fun slot => slot.name = key).map SlotNode.toNode

namespace Locator

/-- The keys of a field and of its arguments. -/
inductive Key.IsOfField (owner field : String) : Key → Prop
  | field : IsOfField owner field (.ofField owner field)
  | argument (argument : String) : IsOfField owner field (.ofArgument owner field argument)

/-- Under the key of a field a slot of that name has its own node. -/
theorem nodes_fieldEntries (owner field : String) (slot : SlotNode) :
    (Locator.mk (fieldEntries owner slot)).nodes (.ofField owner field) =
      if slot.name = field then [slot.toNode] else [] := by
  have hargs : (Locator.mk (slot.args.map
      (argumentEntry (fieldContainer owner slot.name)))).nodes (.ofField owner field) = [] := by
    refine nodes_eq_nil fun node hmem => ?_
    obtain ⟨arg, -, heq⟩ := List.mem_map.mp hmem
    simp [argumentEntry, Key.ofField] at heq
  rw [fieldEntries, ← List.singleton_append, nodes_append, hargs, List.append_nil]
  by_cases hname : slot.name = field <;> simp [nodes, Key.ofField, hname]

/-- Under the keys of another field a slot has nothing. -/
theorem nodes_fieldEntries_of_ne {owner field : String} {key : Key}
    (hkey : key.IsOfField owner field) {slot : SlotNode} (hname : slot.name ≠ field) :
    (Locator.mk (fieldEntries owner slot)).nodes key = [] := by
  cases hkey with
  | field => rw [nodes_fieldEntries, if_neg hname]
  | argument argument =>
      refine nodes_eq_nil fun node hmem => ?_
      rcases List.mem_cons.mp hmem with heq | hmem
      · simp [Key.ofArgument] at heq
      · obtain ⟨arg, -, heq⟩ := List.mem_map.mp hmem
        simp only [argumentEntry, Key.ofArgument, Prod.mk.injEq, Key.mk.injEq, Option.some.injEq,
          fieldContainer] at heq
        exact hname ((String.append_right_inj _).mp heq.1.2.1)

/-- The keys of a field lead to what a definition declares as fields, and to nothing else in it. -/
theorem nodes_definitionEntries_field {owner field : String} {key : Key}
    (hkey : key.IsOfField owner field) (definition : DefinitionNode) :
    (Locator.mk (definitionEntries owner definition)).nodes key =
      (Locator.mk (definition.slots.flatMap (fieldEntries owner))).nodes key := by
  rw [nodes_definitionEntries]
  cases hkey with
  | field => rfl
  | argument argument => rfl

theorem nodes_ofType_field (c : Catalog) (id : TypeId) (field : String) :
    (ofType c id).nodes (.ofField (c.typeDef id).name field) = (c.typeDef id).fieldNodes field := by
  have hslots : ∀ definition, entriesOf (c.typeDef id).name definition
      (Key.ofField (c.typeDef id).name field).entity =
        definition.slots.flatMap (fieldEntries (c.typeDef id).name) := fun _ => rfl
  simp only [nodes_ofType, hslots, ← List.flatMap_assoc, nodes_flatMap, nodes_fieldEntries]
  rw [← flatMap_filter, ← List.map_eq_flatMap]
  rfl

/-- The nodes found for a field of a schema's type are those it is written at. -/
theorem nodes_field {Q : TypeId → Prop} {S : Schema} (h : S.Lists Q) {id : TypeId}
    (hid : .named id ∈ S.types) (field : String) :
    (ofSchema S).nodes (.ofField (S.catalog.typeDef id).name field) =
      (S.catalog.typeDef id).fieldNodes field := by
  rw [nodes_ofSchema h hid ⟨rfl, by simp [Key.ofField]⟩, nodes_ofType_field]

end Locator

/-! ### Other fields

The nodes of a field are taken off wherever they stand: where its type is defined or extended,
and with the field itself and its arguments.
-/

/-- The definition without the field of that name. -/
def Source.DefinitionNode.without (key : String) (definition : DefinitionNode) : DefinitionNode :=
  { definition with fields := definition.fields.filter fun slot => slot.name ≠ key }

/-- The body, in which the field of that name has no nodes. -/
def Body.forgetting (key : String) : Body → Body
  | object fields interfaces => object (fields.map forget) interfaces
  | interface fields => interface (fields.map forget)
  | body => body
where
  forget (name : String) (f : Field) : Field := if name = key then f.bare else f

/-- The type, in which the field of that name has no nodes. -/
def TypeDef.forgetting (key : String) (t : TypeDef) : TypeDef where
  name := t.name
  body := t.body.forgetting key
  node := t.node.map (DefinitionNode.without key)
  extensions := t.extensions.map (Option.map (DefinitionNode.without key))

/-- The schema, in which one field of a type has no nodes. -/
def Schema.forgetting (S : Schema) (id : TypeId) (key : String) : Schema :=
  S.modifyType id (TypeDef.forgetting key)

theorem TypeDef.kind_forgetting (key : String) (t : TypeDef) :
    (t.forgetting key).kind = t.kind := by
  cases t with
  | mk name body node extensions => cases body <;> rfl

theorem TypeDef.nodes_forgetting (key : String) (t : TypeDef) :
    (t.forgetting key).nodes = t.nodes.map (DefinitionNode.without key) := by
  simp only [nodes, forgetting, ← List.map_cons, List.filterMap_map, List.map_filterMap]
  rfl

theorem Source.DefinitionNode.slots_without (key : String) (definition : DefinitionNode) :
    (definition.without key).slots = definition.slots.filter fun slot => slot.name ≠ key := by
  unfold slots without
  cases definition.kind <;> rfl

/-- A change to the definition of a type changes that definition or nothing. -/
theorem Catalog.typeDef_modifyType (c : Catalog) (id : TypeId) (f : TypeDef → TypeDef)
    (j : TypeId) :
    (c.modifyType id f).typeDef j = c.typeDef j ∨
      j = id ∧ (c.modifyType id f).typeDef j = f (c.typeDef j) := by
  cases id with
  | builtin b => exact Or.inl rfl
  | own i =>
      cases j with
      | builtin b => exact Or.inl rfl
      | own j =>
          simp only [modifyType, typeDef, Array.getD_eq_getD_getElem?, Array.getElem?_modify]
          by_cases hij : i = j
          · subst hij
            cases c.types[i]? with
            | none => exact Or.inl (by simp)
            | some t => exact Or.inr ⟨rfl, by simp⟩
          · exact Or.inl (by simp [hij])

theorem Catalog.directiveDef_modifyType (c : Catalog) (id : TypeId) (f : TypeDef → TypeDef)
    (d : DirectiveId) : (c.modifyType id f).directiveDef d = c.directiveDef d := by
  cases id <;> rfl

/-- References are shown as they were. -/
theorem Catalog.showsLike_forgetting (c : Catalog) (id : TypeId) (key : String) :
    (c.modifyType id (TypeDef.forgetting key)).ShowsLike c fun _ => True where
  name := fun j => by
    rcases c.typeDef_modifyType id (TypeDef.forgetting key) j with heq | ⟨-, heq⟩ <;> rw [heq]
    rfl
  kind := fun j => by
    rcases c.typeDef_modifyType id (TypeDef.forgetting key) j with heq | ⟨-, heq⟩ <;> rw [heq]
    exact TypeDef.kind_forgetting key _
  directiveName := fun d => by rw [directiveDef_modifyType]
  value := fun n => by cases id <;> rfl
  depth := by cases id <;> rfl
  directive := fun d _ => directiveDef_modifyType c id _ d
  element := fun i _ => by cases id <;> rfl
  closed := fun _ _ _ _ => trivial

namespace Locator

/-- Dropping the slots of one field leaves what is kept for another. -/
theorem nodes_without {owner key field : String} (hne : field ≠ key) {k : Key}
    (hk : k.IsOfField owner field) (definition : DefinitionNode) :
    (Locator.mk (definitionEntries owner (definition.without key))).nodes k =
      (Locator.mk (definitionEntries owner definition)).nodes k := by
  rw [nodes_definitionEntries_field hk, nodes_definitionEntries_field hk,
    DefinitionNode.slots_without, nodes_flatMap, nodes_flatMap]
  induction definition.slots with
  | nil => rfl
  | cons slot rest ih =>
      by_cases hname : slot.name = key
      · rw [List.filter_cons_of_neg (by simpa using hname), List.flatMap_cons, ih,
          nodes_fieldEntries_of_ne hk (hname ▸ hne.symm), List.nil_append]
      · rw [List.filter_cons_of_pos (by simpa using hname), List.flatMap_cons, ih,
          List.flatMap_cons]

theorem nodes_typeEntries_forgetting {c : Catalog} {id : TypeId} {key field : String}
    (hne : field ≠ key) {k : Key} (hk : k.IsOfField (c.typeDef id).name field) (r : Ref) :
    (Locator.mk (typeEntries (c.modifyType id (TypeDef.forgetting key)) r)).nodes k =
      (Locator.mk (typeEntries c r)).nodes k := by
  cases r with
  | named j =>
      simp only [typeEntries]
      rcases c.typeDef_modifyType id (TypeDef.forgetting key) j with heq | ⟨rfl, heq⟩
      · rw [heq]
      · rw [heq, TypeDef.nodes_forgetting, List.flatMap_map, nodes_flatMap, nodes_flatMap]
        exact List.flatMap_congr fun definition _ => nodes_without hne hk definition
  | _ => rfl

/-- Under the keys of another field the locator has what it had. -/
theorem nodes_forgetting {S : Schema} {id : TypeId} {key field : String} (hne : field ≠ key)
    {k : Key} (hk : k.IsOfField (S.catalog.typeDef id).name field) :
    (ofSchema (S.forgetting id key)).nodes k = (ofSchema S).nodes k := by
  have hdirectives : directiveEntries (S.forgetting id key).catalog =
      directiveEntries S.catalog := by
    funext r
    cases r with
    | directive d =>
        simp only [directiveEntries, Schema.forgetting, Schema.modifyType,
          Catalog.directiveDef_modifyType]
    | _ => rfl
  have htypes : (Locator.mk (S.types.flatMap (typeEntries (S.forgetting id key).catalog))).nodes k =
      (Locator.mk (S.types.flatMap (typeEntries S.catalog))).nodes k := by
    rw [nodes_flatMap, nodes_flatMap]
    exact List.flatMap_congr fun r _ => nodes_typeEntries_forgetting hne hk r
  show (Locator.mk (schemaEntries S.node ++
    S.directives.flatMap (directiveEntries (S.forgetting id key).catalog) ++
    S.types.flatMap (typeEntries (S.forgetting id key).catalog))).nodes k = _
  rw [nodes_append, htypes, hdirectives, ← nodes_append]
  rfl

end Locator

namespace Scope

variable {s s' : Scope} {owner field : String}

theorem isOutput_congr {listed : Bearer → Prop} (hlike : s.catalog.ShowsLike s'.catalog listed)
    (r : Ref) :
    s.catalog.isOutput r = s'.catalog.isOutput r := by
  simp only [Catalog.isOutput, Catalog.namedKind?, hlike.kind]

theorem acceptsInput_congr {listed : Bearer → Prop}
    (hlike : s.catalog.ShowsLike s'.catalog listed) (r : Ref) :
    s.catalog.acceptsInput r = s'.catalog.acceptsInput r := by
  simp only [Catalog.acceptsInput, Catalog.isInput, Catalog.namedKind?, hlike.kind]

/-- What is said of a field depends on the nodes under its keys, on how references are shown, and
on the names that are allowed. -/
theorem checkField_congr (hlegacy : s.schema.legacyNames = s'.schema.legacyNames)
    (hlike : s.catalog.ShowsLike s'.catalog fun _ => True)
    (hnodes : ∀ k, Locator.Key.IsOfField owner field k → s.locator.nodes k = s'.locator.nodes k)
    (exempt : Bool) (f : Field) :
    s.checkField exempt owner (field, f) = s'.checkField exempt owner (field, f) := by
  have hname : s.checkName = s'.checkName := by
    funext exempt name node
    rw [checkName, checkName, hlegacy]
  have hshown : s.inspect = s'.inspect :=
    funext fun _ => Catalog.inspect_congr hlike fun _ _ => trivial
  have htype : ∀ k, Locator.Key.IsOfField owner field k →
      s.locator.typeNode? k = s'.locator.typeNode? k := by
    intro k hk
    rw [Locator.typeNode?, Locator.node?, hnodes k hk]
    rfl
  have harguments : s.checkArgument exempt owner field = s'.checkArgument exempt owner field := by
    funext marked
    have hkey : Locator.Key.IsOfField owner field (.ofArgument owner field marked.1.name) :=
      .argument _
    simp only [checkArgument, repeatedArgument, checkArgumentType, hname, hshown, hnodes _ hkey,
      htype _ hkey, acceptsInput_congr hlike]
  simp only [checkField, checkFieldContent, checkOutput, checkArguments, hname, hshown,
    hnodes _ .field, htype _ .field, harguments, isOutput_congr hlike]

/-- Without the nodes of one field the same is said of another. -/
theorem checkField_forgetting (S : Schema) (id : TypeId) {key : String} (hne : field ≠ key)
    (exempt : Bool) (f : Field) :
    (ofSchema (S.forgetting id key)).checkField exempt (S.catalog.typeDef id).name (field, f) =
      (ofSchema S).checkField exempt (S.catalog.typeDef id).name (field, f) := by
  refine checkField_congr ?_ ?_ ?_ exempt f
  · rfl
  · exact S.catalog.showsLike_forgetting id key
  · intro k hk
    exact Locator.nodes_forgetting hne hk

/-- So what is said of one field does not depend on the nodes of another. -/
theorem checkField_eq_of_forgetting {S S' : Schema} {id : TypeId} {key : String}
    (h : S'.forgetting id key = S.forgetting id key) (hne : field ≠ key) (exempt : Bool)
    (f : Field) :
    (ofSchema S').checkField exempt (S.catalog.typeDef id).name (field, f) =
      (ofSchema S).checkField exempt (S.catalog.typeDef id).name (field, f) := by
  have hname : (S'.catalog.typeDef id).name = (S.catalog.typeDef id).name := by
    rw [← (S'.catalog.showsLike_forgetting id key).name id,
      ← (S.catalog.showsLike_forgetting id key).name id]
    exact congrArg (fun T => (T.catalog.typeDef id).name) h
  rw [← checkField_forgetting S id hne, ← h, ← hname, checkField_forgetting S' id hne]

end Scope

end TypeGraph
