/-
Where diagnostics point.

A diagnostic points at what the locator has under some key, at the type written there, or
at the node of a part of the definition it is about.  So it stays within a set of nodes if
the keys of that definition lead nowhere else and the nodes of its parts are in the set.
`Shows` collects this for a type, `ShowsDirective` and `ShowsRoot` for the rest; which keys
are used is read off the list of reports.
-/
import TypeGraph.Proofs.OwnNodes
import TypeGraph.Proofs.Reports

namespace TypeGraph

open TypeGraph.Source

variable {P Q : Node → Prop}

/-- The interface against which a problem of conformance is held. -/
def Problem.against? : Problem → Option String
  | .fieldMissing interface _ _ | .fieldMismatch interface _ _ _ _
  | .argumentMissing interface _ _ _ | .argumentMismatch interface _ _ _ _ _
  | .argumentRequired _ _ _ _ interface => some interface
  | _ => none

/-- The operation whose root is at fault. -/
def Problem.operation? : Problem → Option Operation
  | .missingQuery => some .query
  | .rootKind operation _ => some operation
  | _ => none

namespace Diagnostic

/-- The diagnostic points at nodes of `P`, and at none that is not there. -/
def Within (P : Node → Prop) (d : Diagnostic) : Prop :=
  ∀ n ∈ d.nodes, ∃ node, n = some node ∧ P node

variable {problem : Problem}

theorem within_pointing {nodes : List Node} (h : ∀ node ∈ nodes, P node) :
    (pointing problem nodes).Within P := by
  intro n hn
  obtain ⟨node, hnode, rfl⟩ := List.mem_map.mp hn
  exact ⟨node, rfl, h node hnode⟩

theorem within_pointing_toList {node? : Option Node} (h : ∀ node, node? = some node → P node) :
    (pointing problem node?.toList).Within P :=
  within_pointing fun node hnode => h node (Option.mem_toList.mp hnode)

theorem within_reported {first second : Option Node} (hfirst : ∀ node, first = some node → P node)
    (hsecond : ∀ node, second = some node → P node) :
    (reported problem [first, second]).Within P := by
  refine within_pointing fun node hnode => ?_
  obtain ⟨node?, hmem, hsome⟩ := List.mem_filterMap.mp hnode
  rcases List.mem_cons.mp hmem with rfl | hmem
  · exact hfirst node hsome
  · rcases List.mem_cons.mp hmem with rfl | hmem
    · exact hsecond node hsome
    · exact absurd hmem List.not_mem_nil

theorem Within.mono (hPQ : ∀ node, P node → Q node) {d : Diagnostic} (h : d.Within P) :
    d.Within Q := by
  intro n hn
  obtain ⟨node, rfl, hnode⟩ := h n hn
  exact ⟨node, rfl, hPQ node hnode⟩

theorem Within.none_notMem {d : Diagnostic} (h : d.Within P) : none ∉ d.nodes := by
  intro hnone
  obtain ⟨_, heq, -⟩ := h none hnone
  cases heq

end Diagnostic

/-- The node is in `P`, and so is the type it declares. -/
def Source.Node.LiesIn (node : Node) (P : Node → Prop) : Prop :=
  P node ∧ ∀ type, node.declaredType? = some type → P (.type type)

namespace Locator

/-- Under the key stand only nodes that lie in `P`. -/
def Leads (l : Locator) (key : Key) (P : Node → Prop) : Prop :=
  ∀ node ∈ l.nodes key, node.LiesIn P

variable {l : Locator} {key : Key} {node : Node}

theorem Leads.nodes (h : l.Leads key P) : ∀ node ∈ l.nodes key, P node :=
  fun node hnode => (h node hnode).1

theorem Leads.node? (h : l.Leads key P) (hnode : l.node? key = some node) : P node :=
  h.nodes node (List.mem_of_head? hnode)

theorem Leads.typeNode? (h : l.Leads key P) (hnode : l.typeNode? key = some node) : P node := by
  obtain ⟨type, htype, rfl⟩ := Option.map_eq_some_iff.mp hnode
  obtain ⟨first, hfirst, hdeclared⟩ := Option.bind_eq_some_iff.mp htype
  exact (h first (List.mem_of_head? hfirst)).2 type hdeclared

end Locator

namespace Scope

variable {s : Scope} {t : TypeDef} {d : Diagnostic}

/-- All nodes that a check can come upon by looking at a type are in `P`. -/
structure Shows (s : Scope) (t : TypeDef) (P : Node → Prop) : Prop where
  definition : ∀ node, t.node = some node → P (.definition node)
  field : ∀ key f, (key, f) ∈ t.fields.entries → ∀ slot, f.node = some slot → P slot.toNode
  argument : ∀ key f, (key, f) ∈ t.fields.entries → ∀ arg ∈ f.args, ∀ node, arg.node = some node →
    P (.input node)
  value : ∀ v ∈ t.values, ∀ node, v.node = some node → P (.value node)
  /-- What is kept under its name. -/
  under : ∀ key : Locator.Key, key.IsUnder t.name → s.locator.Leads key P
  /-- What is kept under the names of its fields. -/
  underField : ∀ field argument, s.locator.Leads (.ofArgument t.name field argument) P

namespace Shows

variable (h : s.Shows t P)
include h

theorem ofType : s.locator.Leads (.ofType (some t.name)) P :=
  h.under _ ⟨rfl, by simp [Locator.Key.ofType]⟩

theorem ofField (key : String) : s.locator.Leads (.ofField t.name key) P :=
  h.under _ ⟨rfl, by simp [Locator.Key.ofField]⟩

theorem ofInterface (claim : Option String) : s.locator.Leads (.ofInterface t.name claim) P :=
  h.under _ ⟨rfl, by simp [Locator.Key.ofInterface]⟩

theorem ofMember (member : String) : s.locator.Leads (.ofMember t.name member) P :=
  h.under _ ⟨rfl, by simp [Locator.Key.ofMember]⟩

theorem ofValue (value : String) : s.locator.Leads (.ofValue t.name value) P :=
  h.under _ ⟨rfl, by simp [Locator.Key.ofValue]⟩

/-! ### The reports of a type -/

open Diagnostic

theorem fieldNode {key : String} {f : Field} (hf : (key, f) ∈ t.fields.entries) (node : Node)
    (hnode : f.node.map SlotNode.toNode = some node) : P node := by
  obtain ⟨slot, hslot, rfl⟩ := Option.map_eq_some_iff.mp hnode
  exact h.field key f hf slot hslot

theorem valueNode {v : EnumValue} (hv : v ∈ t.values) (node : Node)
    (hnode : v.node.map Node.value = some node) : P node := by
  obtain ⟨value, hvalue, rfl⟩ := Option.map_eq_some_iff.mp hnode
  exact h.value v hv value hvalue

theorem within_fieldReport (hd : s.FieldReport t d) : d.Within P := by
  cases hd with
  | none => exact within_pointing h.ofType.nodes
  | name hf flaw => exact within_pointing_toList (h.fieldNode hf)
  | twice key => exact within_pointing (h.ofField key).nodes
  | type key type => exact within_pointing_toList fun node => (h.ofField key).typeNode?
  | argumentName hf harg flaw =>
      refine within_pointing_toList fun node hnode => ?_
      obtain ⟨input, hinput, rfl⟩ := Option.map_eq_some_iff.mp hnode
      exact h.argument _ _ hf _ harg input hinput
  | argumentTwice key arg => exact within_pointing (h.underField key arg.name).nodes
  | argumentType key arg =>
      exact within_pointing_toList fun node => (h.underField key arg.name).typeNode?

theorem within_inputFieldReport (hd : s.InputFieldReport t d) : d.Within P := by
  cases hd with
  | none => exact within_pointing h.ofType.nodes
  | name hf flaw => exact within_pointing_toList (h.fieldNode hf)
  | type key type => exact within_pointing_toList fun node => (h.ofField key).typeNode?

theorem within_memberReport {form : UnionForm} (hd : s.MemberReport form t d) : d.Within P := by
  cases hd with
  | none => exact within_pointing h.ofType.nodes
  | twice member => exact within_pointing (h.ofMember member).nodes
  | kind member => exact within_pointing (h.ofMember _).nodes

theorem within_valueReport (hd : s.ValueReport t d) : d.Within P := by
  cases hd with
  | none => exact within_pointing h.ofType.nodes
  | twice value => exact within_pointing (h.ofValue value).nodes
  | name hv flaw => exact within_pointing_toList (h.valueNode hv)
  | reserved hv => exact within_pointing_toList (h.valueNode hv)

/-- A claim that is not met is the fault of the object or of the interface. -/
theorem within_conformanceReport {interface : TypeDef} (hi : s.Shows interface Q)
    (hd : s.ConformanceReport t interface d) : d.Within fun node => P node ∨ Q node := by
  cases hd with
  | fieldMissing key =>
      refine within_reported (fun node hnode => Or.inr ((hi.ofField key).node? hnode)) ?_
      intro node hnode
      obtain ⟨definition, hdefinition, rfl⟩ := Option.map_eq_some_iff.mp hnode
      exact Or.inl (h.definition definition hdefinition)
  | fieldType key given expected =>
      exact within_reported (fun node hnode => Or.inr ((hi.ofField key).typeNode? hnode))
        fun node hnode => Or.inl ((h.ofField key).typeNode? hnode)
  | argumentMissing key argument =>
      exact within_reported (fun node hnode => Or.inr ((hi.underField key argument).node? hnode))
        fun node hnode => Or.inl ((h.ofField key).node? hnode)
  | argumentType key argument given expected =>
      exact within_reported
        (fun node hnode => Or.inr ((hi.underField key argument).typeNode? hnode))
        fun node hnode => Or.inl ((h.underField key argument).typeNode? hnode)
  | argumentRequired key arg =>
      exact within_reported
        (fun node hnode => Or.inl ((h.underField key arg.name).typeNode? hnode))
        fun node hnode => Or.inr ((hi.ofField key).node? hnode)

theorem within_claimReport {Q : TypeId → Node → Prop}
    (hi : ∀ i, .named i ∈ t.interfaces → s.catalog.isKind .interface (.named i) = true →
      s.Shows (s.catalog.typeDef i) (Q i))
    (hd : s.ClaimReport t d) :
    d.Within P ∨ ∃ i, .named i ∈ t.interfaces ∧
      s.catalog.isKind .interface (.named i) = true ∧
      d.problem.against? = some (s.catalog.typeDef i).name ∧
      d.Within fun node => P node ∨ Q i node := by
  cases hd with
  | twice claim => exact Or.inl (within_pointing (h.ofInterface _).nodes)
  | kind claim =>
      exact Or.inl (within_pointing fun node hnode =>
        (h.ofInterface _).nodes node (List.mem_of_mem_take hnode))
  | @unmet i d hmem hkind hd =>
      have hagainst : d.problem.against? = some (s.catalog.typeDef i).name := by
        cases hd <;> rfl
      exact Or.inr ⟨i, hmem, hkind, hagainst, h.within_conformanceReport (hi i hmem hkind) hd⟩

/-- What is reported of a type stays within its nodes, unless it is held against an interface. -/
theorem within_typeReport {Q : TypeId → Node → Prop}
    (hi : ∀ i, .named i ∈ t.interfaces → s.catalog.isKind .interface (.named i) = true →
      s.Shows (s.catalog.typeDef i) (Q i))
    (hd : s.TypeReport t d) :
    d.Within P ∨ ∃ i, .named i ∈ t.interfaces ∧
      s.catalog.isKind .interface (.named i) = true ∧
      d.problem.against? = some (s.catalog.typeDef i).name ∧
      d.Within fun node => P node ∨ Q i node := by
  cases hd with
  | name flaw =>
      refine Or.inl (within_pointing_toList fun node hnode => ?_)
      obtain ⟨definition, hdefinition, rfl⟩ := Option.map_eq_some_iff.mp hnode
      exact h.definition definition hdefinition
  | field hd => exact Or.inl (h.within_fieldReport hd)
  | inputField hd => exact Or.inl (h.within_inputFieldReport hd)
  | member hd => exact Or.inl (h.within_memberReport hd)
  | value hd => exact Or.inl (h.within_valueReport hd)
  | claim hd => exact h.within_claimReport hi hd

end Shows

/-! ### Directives and roots -/

/-- All nodes that a check can come upon by looking at an element of the list of directives are
in `P`. -/
structure ShowsDirective (s : Scope) (r : Ref) (P : Node → Prop) : Prop where
  own : ∀ node, s.catalog.node? r = some node → P node
  argument : ∀ id, r = .directive id → ∀ arg ∈ (s.catalog.directiveDef id).args,
    ∀ node, arg.node = some node → P (.input node)
  under : ∀ id, r = .directive id → ∀ argument,
    s.locator.Leads (.ofDirectiveArgument (s.catalog.directiveDef id).name argument) P

theorem ShowsDirective.within {r : Ref} (h : s.ShowsDirective r P) (hd : s.DirectiveReport r d) :
    d.Within P := by
  cases hd with
  | name id flaw => exact Diagnostic.within_pointing_toList h.own
  | argumentName harg flaw =>
      refine Diagnostic.within_pointing_toList fun node hnode => ?_
      obtain ⟨input, hinput, rfl⟩ := Option.map_eq_some_iff.mp hnode
      exact h.argument _ rfl _ harg input hinput
  | argumentTwice id arg => exact Diagnostic.within_pointing (h.under id rfl arg.name).nodes
  | argumentType id arg =>
      exact Diagnostic.within_pointing_toList fun node => (h.under id rfl arg.name).typeNode?
  | other hr => exact Diagnostic.within_pointing_toList h.own

/-- All nodes that a check can come upon by looking at the root of an operation are in `P`. -/
structure ShowsRoot (s : Scope) (operation : Operation) (P : Node → Prop) : Prop where
  schema : ∀ node, s.schema.node = some node → P (.schema node)
  reference : ∀ node, s.locator.typeNode? (.ofOperation operation.name) = some node → P node
  own : ∀ node, s.catalog.node? (s.schema.root operation) = some node → P node

theorem ShowsRoot.within {operation : Operation} (h : s.ShowsRoot operation P)
    (hd : s.RootReport operation d) : d.Within P := by
  cases hd with
  | missing =>
      refine Diagnostic.within_pointing_toList fun node hnode => ?_
      obtain ⟨definition, hdefinition, rfl⟩ := Option.map_eq_some_iff.mp hnode
      exact h.schema definition hdefinition
  | kind =>
      refine Diagnostic.within_pointing_toList fun node hnode => ?_
      rcases Option.or_eq_some_iff.mp hnode with hreference | ⟨-, hown⟩
      · exact h.reference node hreference
      · exact h.own node hown

end Scope

end TypeGraph
