/-
Definitions of types and directives.

A type definition has a name, a body that depends on its kind, the node of its
definition and those of its extensions.  Fields are kept in a table, so a later
field of one name takes the place of an earlier one; arguments, members and enum
values are lists and may repeat a name, which validation reports.  An argument, field
or enum value may also stand on its own, where a type was expected.
-/
import TypeGraph.Source.Node
import TypeGraph.Table
import TypeGraph.Value

namespace TypeGraph

open TypeGraph.Source

/-- An argument of a field or a directive. -/
structure Argument where
  name : String
  type : Ref
  default : Value := .null
  node : Option InputNode := none
  deriving Inhabited

/-- A field of an object or interface.  `label` is the name the field bears itself. -/
structure Field where
  type : Ref
  args : List Argument := []
  node : Option SlotNode := none
  label : Option String := none
  deriving Inhabited

/-- A field of an input object. -/
structure InputField where
  type : Ref
  default : Value := .null
  node : Option InputNode := none
  label : Option String := none
  deriving Inhabited

/-- One value of an enum. -/
structure EnumValue where
  name : String
  value : Value := .null
  node : Option ValueNode := none
  deriving Inhabited

/-- The names no enum value may have. -/
def EnumValue.reservedNames : List String := ["true", "false", "null"]

/-- What a type definition holds besides its name. -/
inductive Body
  | scalar
  | object (fields : Table Field) (interfaces : List Ref)
  | interface (fields : Table Field)
  | union (members : List Ref)
  | inputUnion (members : List Ref)
  | enum (values : List EnumValue)
  | inputObject (fields : Table InputField)
  deriving Inhabited

/-- The definition of a named type.  An extension may come without a node. -/
structure TypeDef where
  name : String
  body : Body
  node : Option DefinitionNode := none
  extensions : List (Option DefinitionNode) := []
  deriving Inhabited

/-- The definition of a directive. -/
structure DirectiveDef where
  name : String
  locations : List String := []
  args : List Argument := []
  node : Option DirectiveNode := none
  deriving Inhabited

/-- An element of a definition that stands on its own. -/
inductive Element
  | argument (arg : Argument)
  | field (f : Field)
  | inputField (f : InputField)
  | enumValue (value : EnumValue)
  deriving Inhabited

namespace Element

/-- The name of the element; a field on its own need not have one. -/
def name? : Element → Option String
  | argument arg => some arg.name
  | field f => f.label
  | inputField f => f.label
  | enumValue value => some value.name

/-- The node of the element. -/
def node? : Element → Option Node
  | argument arg => arg.node.map .input
  | field f => f.node.map SlotNode.toNode
  | inputField f => f.node.map .input
  | enumValue value => value.node.map .value

/-- What an element of this sort is called in a listing. -/
def title : Element → String
  | argument _ => "Argument"
  | field _ => "Field"
  | inputField _ => "InputField"
  | enumValue _ => "EnumValue"

end Element

/-- The field, labelled with its key unless it bears a label already. -/
def Field.labelled (key : String) (f : Field) : Field :=
  { f with label := some (f.label.getD key) }

/-- The input field, labelled with its key unless it bears a label already. -/
def InputField.labelled (key : String) (f : InputField) : InputField :=
  { f with label := some (f.label.getD key) }

/-- The input field as a field, which takes no arguments. -/
def InputField.toField (f : InputField) : Field :=
  { type := f.type, node := f.node.map .input, label := f.label }

namespace Body

/-- The kind of type the body belongs to. -/
def kind : Body → Kind
  | scalar => .scalar
  | object _ _ => .object
  | interface _ => .interface
  | union _ => .union
  | inputUnion _ => .inputUnion
  | enum _ => .enum
  | inputObject _ => .inputObject

/-- The body of an object in which every field has a label. -/
def objectOf (fields : List (String × Field)) (interfaces : List Ref) : Body :=
  object ((Table.ofList fields).map Field.labelled) interfaces

/-- The body of an interface in which every field has a label. -/
def interfaceOf (fields : List (String × Field)) : Body :=
  interface ((Table.ofList fields).map Field.labelled)

/-- The body of an input object in which every field has a label. -/
def inputObjectOf (fields : List (String × InputField)) : Body :=
  inputObject ((Table.ofList fields).map InputField.labelled)

end Body

namespace TypeDef

/-- The kind of the type. -/
def kind (t : TypeDef) : Kind := t.body.kind

/-- The fields of any type that has fields; those of an input object take no arguments. -/
def fields (t : TypeDef) : Table Field :=
  match t.body with
  | .object fields _ | .interface fields => fields
  | .inputObject fields => fields.map fun _ f => f.toField
  | _ => .empty

/-- The interfaces an object claims to implement. -/
def interfaces (t : TypeDef) : List Ref :=
  match t.body with
  | .object _ interfaces => interfaces
  | _ => []

/-- The members of a union or input union. -/
def members (t : TypeDef) : List Ref :=
  match t.body with
  | .union members | .inputUnion members => members
  | _ => []

/-- The values of an enum. -/
def values (t : TypeDef) : List EnumValue :=
  match t.body with
  | .enum values => values
  | _ => []

/-- The definition node and then the extension nodes, as far as there are any. -/
def nodes (t : TypeDef) : List DefinitionNode :=
  (t.node :: t.extensions).filterMap id

/-- What a type refers to, in the order it is written: each field's type and then the types of
its arguments, an object's interfaces last; the members; the types of the input fields. -/
def references (t : TypeDef) : List Ref :=
  match t.body with
  | .object fields interfaces => fields.values.flatMap fieldReferences ++ interfaces
  | .interface fields => fields.values.flatMap fieldReferences
  | .union members | .inputUnion members => members
  | .inputObject fields => fields.values.map InputField.type
  | .scalar | .enum _ => []
where
  fieldReferences (f : Field) : List Ref := f.type :: f.args.map Argument.type

end TypeDef

end TypeGraph
