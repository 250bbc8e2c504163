/-
A catalog of definitions.

The catalog gives every identity its definition: the built-in ones are fixed, the
others stand in arrays, and so do elements on their own and plain values.  Look-up is
total: a position past the end stands for a nameless scalar, directive or enum value
or for null, none of which refers to anything.
-/
import TypeGraph.Builtin

namespace TypeGraph

open TypeGraph.Source

/-- The definitions that references point to. -/
structure Catalog where
  types : Array TypeDef := #[]
  directives : Array DirectiveDef := #[]
  elements : Array Element := #[]
  values : Array Value := #[]
  deriving Inhabited

namespace Catalog

variable (c : Catalog)

/-- The definition of a type. -/
def typeDef : TypeId → TypeDef
  | .builtin b => b.definition
  | .own i => c.types.getD i { name := "", body := .scalar }

/-- The definition of a directive. -/
def directiveDef : DirectiveId → DirectiveDef
  | .specified d => d.definition
  | .own i => c.directives.getD i { name := "" }

/-- The element that stands on its own. -/
def element (index : Nat) : Element := c.elements.getD index (.enumValue { name := "" })

/-- The plain value of an occurrence. -/
def value (occurrence : Nat) : Value := c.values.getD occurrence .null

/-- The identities of all types that have a definition. -/
def typeIds : List TypeId :=
  Builtin.all.map .builtin ++ (List.range c.types.size).map .own

/-- What a type refers to. -/
def references (id : TypeId) : List Ref := (c.typeDef id).references

/-- Changes the definition of a type; the built-in types stay as they are. -/
def modifyType (id : TypeId) (f : TypeDef → TypeDef) : Catalog :=
  match id with
  | .builtin _ => c
  | .own i => { c with types := c.types.modify i f }

/-- A type without a definition refers to nothing. -/
theorem references_of_not_mem {id : TypeId} (h : id ∉ c.typeIds) : c.references id = [] := by
  cases id with
  | builtin b => exact absurd (List.mem_append_left _ (List.mem_map_of_mem (Builtin.mem_all b))) h
  | own i =>
      have hi : ¬ i < c.types.size := fun hlt =>
        h (List.mem_append_right _ (List.mem_map_of_mem (List.mem_range.mpr hlt)))
      simp [references, typeDef, Array.getD, hi, TypeDef.references]

/-! ### What a reference is -/

/-- The kind of an unwrapped named type. -/
def kind? (r : Ref) : Option Kind := r.typeId?.map fun id => (c.typeDef id).kind

/-- The kind of the named type under the wrappers. -/
def namedKind? (r : Ref) : Option Kind := r.namedType?.map fun id => (c.typeDef id).kind

/-- Whether the reference is an unwrapped type of that kind. -/
def isKind (kind : Kind) (r : Ref) : Bool := c.kind? r == some kind

/-- Whether the reference is an interface or a union. -/
def isAbstract (r : Ref) : Bool := (c.kind? r).any Kind.isAbstract

/-- Whether the type under the wrappers is a scalar, an enum or an input object. -/
def isInput (r : Ref) : Bool := (c.namedKind? r).any Kind.isInput

/-- Whether the type under the wrappers is anything but an input object or input union. -/
def isOutput (r : Ref) : Bool := (c.namedKind? r).any Kind.isOutput

/-- Whether the reference may stand in an input position: an input type or an input union,
possibly wrapped. -/
def acceptsInput (r : Ref) : Bool := c.isInput r || c.namedKind? r == some .inputUnion

/-- The name of a named type, a directive or an element. -/
def name? : Ref → Option String
  | .named id => some (c.typeDef id).name
  | .directive id => some (c.directiveDef id).name
  | .element i => (c.element i).name?
  | _ => none

/-- The node of a named type, a directive or an element. -/
def node? : Ref → Option Node
  | .named id => (c.typeDef id).node.map .definition
  | .directive id => (c.directiveDef id).node.map .directive
  | .element i => (c.element i).node?
  | _ => none

end Catalog

end TypeGraph
