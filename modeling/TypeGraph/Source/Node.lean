/-
Source nodes: where in a schema document an element was written.

Nodes are read only to attach locations to diagnostics, and to see that one
element was written twice.  A type has the node of its definition and the nodes of
its extensions; each of them lists the children it declares.
-/
import TypeGraph.Kind

namespace TypeGraph.Source

/-- Line and column of a node in its document. -/
structure Location where
  line : Int
  column : Int
  deriving DecidableEq, Inhabited

/-- A type as written: a name under list and non-null marks. -/
inductive TypeNode
  | named (name : String) (loc : Option Location)
  | list (inner : TypeNode) (loc : Option Location)
  | nonNull (inner : TypeNode) (loc : Option Location)
  deriving DecidableEq, Inhabited

/-- An argument, or a field of an input object. -/
structure InputNode where
  name : String
  type : TypeNode
  loc : Option Location := none
  deriving DecidableEq, Inhabited

/-- A field with its arguments. -/
structure FieldNode where
  name : String
  type : TypeNode
  args : List InputNode := []
  loc : Option Location := none
  deriving DecidableEq, Inhabited

/-- What may stand where a definition lists its fields. -/
inductive SlotNode
  | field (node : FieldNode)
  | input (node : InputNode)
  deriving DecidableEq, Inhabited

/-- A value of an enum. -/
structure ValueNode where
  name : String
  loc : Option Location := none
  deriving DecidableEq, Inhabited

/-- A type definition or an extension of one. -/
structure DefinitionNode where
  kind : Kind
  name : String
  fields : List SlotNode := []
  interfaces : List TypeNode := []
  members : List TypeNode := []
  values : List ValueNode := []
  loc : Option Location := none
  deriving DecidableEq, Inhabited

/-- A directive definition. -/
structure DirectiveNode where
  name : String
  args : List InputNode := []
  locations : List String := []
  loc : Option Location := none
  deriving DecidableEq, Inhabited

/-- The root type of one operation in a schema definition. -/
structure OperationNode where
  operation : String
  type : TypeNode
  loc : Option Location := none
  deriving DecidableEq, Inhabited

/-- A schema definition. -/
structure SchemaNode where
  operations : List OperationNode := []
  loc : Option Location := none
  deriving DecidableEq, Inhabited

/-- Any source node. -/
inductive Node
  | type (node : TypeNode)
  | input (node : InputNode)
  | field (node : FieldNode)
  | value (node : ValueNode)
  | definition (node : DefinitionNode)
  | directive (node : DirectiveNode)
  | operation (node : OperationNode)
  | schema (node : SchemaNode)
  deriving DecidableEq, Inhabited

namespace TypeNode

/-- The name written, if there is no mark around it. -/
def name? : TypeNode → Option String
  | named name _ => some name
  | list _ _ | nonNull _ _ => none

/-- Where the type was written. -/
def loc : TypeNode → Option Location
  | named _ loc | list _ loc | nonNull _ loc => loc

end TypeNode

namespace SlotNode

/-- The name of the field. -/
def name : SlotNode → String
  | field node => node.name
  | input node => node.name

/-- The type written for the field. -/
def type : SlotNode → TypeNode
  | field node => node.type
  | input node => node.type

/-- The arguments written for the field; an input field has none. -/
def args : SlotNode → List InputNode
  | field node => node.args
  | input _ => []

/-- The field as a node. -/
def toNode : SlotNode → Node
  | field node => .field node
  | input node => .input node

end SlotNode

namespace Node

/-- Where the node was written. -/
def loc : Node → Option Location
  | type node => node.loc
  | input node => node.loc
  | field node => node.loc
  | value node => node.loc
  | definition node => node.loc
  | directive node => node.loc
  | operation node => node.loc
  | schema node => node.loc

/-- The name the node introduces or refers to: for the root of an operation, the operation. -/
def name? : Node → Option String
  | type node => node.name?
  | input node => some node.name
  | field node => some node.name
  | value node => some node.name
  | definition node => some node.name
  | directive node => some node.name
  | operation node => some node.operation
  | schema _ => none

/-- The type that the node gives to what it declares. -/
def declaredType? : Node → Option TypeNode
  | input node => some node.type
  | field node => some node.type
  | operation node => some node.type
  | type _ | value _ | definition _ | directive _ | schema _ => none

end Node

end TypeGraph.Source
