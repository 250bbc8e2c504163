/-
Where the elements of a schema were written.

One element can be written several times, in a definition and in its extensions.
The locator lists every node of a schema once, under a key that names the element:
what it is, what contains it, and its own name.  An argument is contained in
"Type.field" or "@directive".
-/
import TypeGraph.Schema.Basic

namespace TypeGraph

open TypeGraph.Source

/-- What sort of element a node declares or mentions. -/
inductive Entity
  | type
  | field
  | argument
  | interface
  | member
  | value
  | operation
  deriving DecidableEq, Inhabited

namespace Entity

/-- The sorts in their fixed order. -/
def all : List Entity := [type, field, argument, interface, member, value, operation]

/-- The name under which a sort is listed. -/
def label : Entity → String
  | type => "TYPE"
  | field => "FIELD"
  | argument => "ARGUMENT"
  | interface => "INTERFACE"
  | member => "MEMBER"
  | value => "VALUE"
  | operation => "OPERATION"

/-- The sort with that label. -/
def ofLabel? (s : String) : Option Entity :=
  all.find? fun e => e.label == s

end Entity

/-- The key of an element. -/
structure Locator.Key where
  entity : Entity
  container : Option String
  member : Option String
  deriving DecidableEq, Inhabited

/-- The nodes of a schema, each under the key of its element, in the order they are written. -/
structure Locator where
  entries : List (Locator.Key × Node)
  deriving Inhabited

namespace Locator

/-- What contains the arguments of a field. -/
def fieldContainer (owner field : String) : String := owner ++ "." ++ field

/-- What contains the arguments of a directive. -/
def directiveContainer (directive : String) : String := "@" ++ directive

/-- The entry of an argument. -/
def argumentEntry (container : String) (node : InputNode) : Key × Node :=
  (⟨.argument, some container, some node.name⟩, .input node)

/-- The entries of a field: its own and those of its arguments. -/
def fieldEntries (owner : String) (node : SlotNode) : List (Key × Node) :=
  (⟨.field, some owner, some node.name⟩, node.toNode) ::
    node.args.map (argumentEntry (fieldContainer owner node.name))

/-- The entry of a type that is mentioned as an interface or a member. -/
def mentionEntry (entity : Entity) (owner : String) (node : TypeNode) : Key × Node :=
  (⟨entity, some owner, node.name?⟩, .type node)

/-- The entry of an enum value. -/
def valueEntry (owner : String) (node : ValueNode) : Key × Node :=
  (⟨.value, some owner, some node.name⟩, .value node)

/-- The entries of what a definition declares.  Which of its lists count is decided by the kind
the node itself states. -/
def childEntries (owner : String) (node : DefinitionNode) : List (Key × Node) :=
  match node.kind with
  | .object =>
    node.fields.flatMap (fieldEntries owner) ++
      node.interfaces.map (mentionEntry .interface owner)
  | .interface | .inputObject => node.fields.flatMap (fieldEntries owner)
  | .union | .inputUnion => node.members.map (mentionEntry .member owner)
  | .enum => node.values.map (valueEntry owner)
  | .scalar => []

/-- The entries of a definition or extension of a type. -/
def definitionEntries (owner : String) (node : DefinitionNode) : List (Key × Node) :=
  (⟨.type, some owner, none⟩, .definition node) :: childEntries owner node

/-- The entries of a named type; anything else has none. -/
def typeEntries (c : Catalog) : Ref → List (Key × Node)
  | .named id => (c.typeDef id).nodes.flatMap (definitionEntries (c.typeDef id).name)
  | _ => []

/-- The entries of a directive; anything else has none. -/
def directiveEntries (c : Catalog) : Ref → List (Key × Node)
  | .directive id =>
    match (c.directiveDef id).node with
    | some node => node.args.map (argumentEntry (directiveContainer (c.directiveDef id).name))
    | none => []
  | _ => []

/-- The entry of the root type of an operation. -/
def operationEntry (node : OperationNode) : Key × Node :=
  (⟨.operation, none, some node.operation⟩, .operation node)

/-- The entries of a schema definition. -/
def schemaEntries : Option SchemaNode → List (Key × Node)
  | some node => node.operations.map operationEntry
  | none => []

/-- The locator of a schema. -/
def ofSchema (S : Schema) : Locator :=
  ⟨schemaEntries S.node ++ S.directives.flatMap (directiveEntries S.catalog) ++
    S.types.flatMap (typeEntries S.catalog)⟩

variable (l : Locator)

/-- All nodes of an element, the definition's before those of extensions. -/
def nodes (key : Key) : List Node :=
  l.entries.filterMap fun entry => if entry.1 = key then some entry.2 else none

/-- The first node of an element. -/
def node? (key : Key) : Option Node := (l.nodes key).head?

/-- The type written at the first node of an element. -/
def typeNode? (key : Key) : Option Node :=
  ((l.node? key).bind Node.declaredType?).map .type

end Locator

namespace Locator.Key

/-- The key of a type. -/
def ofType (name : Option String) : Key := ⟨.type, name, none⟩

/-- The key of a field. -/
def ofField (owner field : String) : Key := ⟨.field, some owner, some field⟩

/-- The key of an argument of a field. -/
def ofArgument (owner field argument : String) : Key :=
  ⟨.argument, some (fieldContainer owner field), some argument⟩

/-- The key of an argument of a directive. -/
def ofDirectiveArgument (directive argument : String) : Key :=
  ⟨.argument, some (directiveContainer directive), some argument⟩

/-- The key of an interface that a type claims. -/
def ofInterface (owner : String) (interface : Option String) : Key :=
  ⟨.interface, some owner, interface⟩

/-- The key of a member of a union. -/
def ofMember (owner member : String) : Key := ⟨.member, some owner, some member⟩

/-- The key of a value of an enum. -/
def ofValue (owner value : String) : Key := ⟨.value, some owner, some value⟩

/-- The key of the root type of an operation. -/
def ofOperation (operation : String) : Key := ⟨.operation, none, some operation⟩

end Locator.Key

end TypeGraph
