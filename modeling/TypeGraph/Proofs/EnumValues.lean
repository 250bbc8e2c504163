/-
Values of an enum that come twice.

Whether a value was given twice is read off the nodes: a name that is written twice, in
the definition of an enum or its extensions, is reported.  The values themselves are a
list and may repeat a name too, and nothing looks at that.  So the values of an enum
without diagnostics have different names if each is written as often as it is listed; where
values come without nodes, two of them may share a name.
-/
import TypeGraph.Proofs.OwnNodes
import TypeGraph.Proofs.Silence

namespace TypeGraph

open TypeGraph.Source

/-! ### What is written of a value -/

namespace TypeDef

variable (t : TypeDef)

/-- The values written in a definition and its extensions, where these are of enums. -/
def valueNodes : List ValueNode :=
  (t.nodes.filter fun definition => definition.kind = .enum).flatMap DefinitionNode.values

theorem valueNodes_eq : t.valueNodes = t.nodes.flatMap DefinitionNode.ownValues :=
  Locator.flatMap_filter ..

/-- The names under which values are written. -/
def writtenNames : List String := t.valueNodes.map ValueNode.name

/-- The names of the values, as they are listed. -/
def valueNames : List String := t.values.map EnumValue.name

end TypeDef

namespace Locator

theorem nodes_ofType_value (c : Catalog) (id : TypeId) (value : String) :
    (ofType c id).nodes (.ofValue (c.typeDef id).name value) =
      ((c.typeDef id).valueNodes.filter fun node => node.name = value).map Node.value := by
  have hvalues : ∀ definition, entriesOf (c.typeDef id).name definition
      (Key.ofValue (c.typeDef id).name value).entity =
        definition.ownValues.map (valueEntry (c.typeDef id).name) := fun _ => rfl
  have hkey : ∀ node : ValueNode,
      (valueEntry (c.typeDef id).name node).1 = .ofValue (c.typeDef id).name value ↔
        node.name = value := by
    intro node
    simp [valueEntry, Key.ofValue]
  simp only [nodes_ofType, hvalues, ← List.map_flatMap, nodes_map, hkey, TypeDef.valueNodes_eq]
  rfl

/-- A value has as many nodes as it was written times. -/
theorem length_nodes_value {Q : TypeId → Prop} {S : Schema} (h : S.Lists Q) {id : TypeId}
    (hid : .named id ∈ S.types) (value : String) :
    ((ofSchema S).nodes (.ofValue (S.catalog.typeDef id).name value)).length =
      (S.catalog.typeDef id).writtenNames.count value := by
  rw [nodes_ofSchema h hid ⟨rfl, by simp [Key.ofValue]⟩, nodes_ofType_value, List.length_map,
    ← List.countP_eq_length_filter, TypeDef.writtenNames, List.count, List.countP_map]
  refine List.countP_congr fun node _ => ?_
  simp

end Locator

namespace Schema

variable {c : Catalog} {b : Blueprint} {S : Schema}

/--
In a schema without diagnostics no value of an enum is written twice.  So if its names are
written as often as they are listed, they are different.
-/
theorem valueNames_nodup_of_written (h : Unmodified c b S) (hclean : S.diagnose = []) {id : TypeId}
    (hid : .named id ∈ S.types) (hkind : (S.catalog.typeDef id).kind = .enum) :
    (∀ name ∈ (S.catalog.typeDef id).valueNames,
      (S.catalog.typeDef id).writtenNames.count name ≤ 1) ∧
    ((∀ name ∈ (S.catalog.typeDef id).valueNames,
      (S.catalog.typeDef id).valueNames.count name ≤
        (S.catalog.typeDef id).writtenNames.count name) →
      (S.catalog.typeDef id).valueNames.Nodup) := by
  have hcertified : S.Certified := h.diagnose_silent.mp hclean
  have hvalues : S.ValuesOk id := by
    have hbody := (hcertified.types id hid).body
    rwa [BodyOk, hkind] at hbody
  have honce : ∀ name ∈ (S.catalog.typeDef id).valueNames,
      (S.catalog.typeDef id).writtenNames.count name ≤ 1 := by
    intro name hname
    obtain ⟨v, hv, rfl⟩ := List.mem_map.mp hname
    rw [← Locator.length_nodes_value h.lists hid]
    exact (hvalues.each v hv).once
  refine ⟨honce, ?_⟩
  intro hwritten
  rw [List.nodup_iff_count_le_one]
  intro name
  by_cases hmem : name ∈ (S.catalog.typeDef id).valueNames
  · exact Nat.le_trans (hwritten name hmem) (honce name hmem)
  · rw [List.count_eq_zero_of_not_mem hmem]
    exact Nat.zero_le 1

/-- An enum whose values are written in its definition and in an extension. -/
def hueCatalog : Catalog where
  types := #[
    { name := "Query", body := .objectOf [("hue", { type := .named (.own 1) })] [] },
    { name := "Hue"
      body := .enum [{ name := "RED", node := some red }, { name := "BLUE", node := some blue }]
      node := some { kind := .enum, name := "Hue", values := [red] }
      extensions := [some { kind := .enum, name := "Hue", values := [blue] }] }]
where
  red : ValueNode := { name := "RED", loc := some ⟨1, 12⟩ }
  blue : ValueNode := { name := "BLUE", loc := some ⟨2, 19⟩ }

/-- An enum that lists a name twice, without any nodes. -/
def greyCatalog : Catalog where
  types := #[
    { name := "Query", body := .objectOf [("hue", { type := .named (.own 1) })] [] },
    { name := "Hue", body := .enum [{ name := "GREY" }, { name := "GREY" }] }]

/-- Hues are asked for by a query. -/
def hueBlueprint : Blueprint where
  query := .named (.own 0)

theorem valueNames_nodup_hue :
    ∃ S, Unmodified hueCatalog hueBlueprint S ∧ S.diagnose = [] ∧ .named (.own 1) ∈ S.types ∧
      (S.catalog.typeDef (.own 1)).kind = .enum ∧
      (S.catalog.typeDef (.own 1)).writtenNames = ["RED", "BLUE"] ∧
      (S.catalog.typeDef (.own 1)).valueNames.Nodup := by
  obtain ⟨S, hbuild, hclean, hid, hkind, hwritten, hlisted⟩ := @exists_build hueCatalog hueBlueprint
    (fun S => S.diagnose = [] ∧ .named (.own 1) ∈ S.types ∧
      (S.catalog.typeDef (.own 1)).kind = .enum ∧
      (S.catalog.typeDef (.own 1)).writtenNames = ["RED", "BLUE"] ∧
      (S.catalog.typeDef (.own 1)).valueNames = ["RED", "BLUE"]) _ (by decide +kernel)
  refine ⟨S, .built hbuild, hclean, hid, hkind, hwritten,
    (valueNames_nodup_of_written (.built hbuild) hclean hid hkind).2 ?_⟩
  intro name _
  exact Nat.le_of_eq (by rw [hlisted, hwritten])

/-- Nothing is found in an enum that lists one name twice. -/
theorem not_nodup_grey :
    ∃ S, build greyCatalog hueBlueprint = .ok S ∧ S.diagnose = [] ∧ .named (.own 1) ∈ S.types ∧
      (S.catalog.typeDef (.own 1)).kind = .enum ∧
      (S.catalog.typeDef (.own 1)).valueNames = ["GREY", "GREY"] ∧
      ¬ (S.catalog.typeDef (.own 1)).valueNames.Nodup :=
  exists_build (by decide +kernel)

end Schema

end TypeGraph
