/-
Source nodes as text.

A node is listed by what it is and its parts in order, each under its name.  Only the
nodes of directives and of elements on their own are ever listed.
-/
import TypeGraph.Source.Node
import TypeGraph.Text.Quoted

namespace TypeGraph.Text

/-- Items between brackets. -/
def bracketed (items : List String) : String := "[" ++ ", ".intercalate items ++ "]"

/-- The parts of something, each under its name. -/
def assembled (title : String) (parts : List (String × String)) : String :=
  title ++ "(" ++ ", ".intercalate (parts.map fun part => part.1 ++ "=" ++ part.2) ++ ")"

/-- The text of what may be missing. -/
def orNone {α : Type} (text : α → String) : Option α → String
  | some a => text a
  | none => "None"

end TypeGraph.Text

namespace TypeGraph.Source

/-- A location as it is listed. -/
def Location.listing (l : Location) : String :=
  Text.assembled "SourceLocation" [("line", toString l.line), ("column", toString l.column)]

/-- A written type as it is listed. -/
def TypeNode.listing : TypeNode → String
  | named name loc =>
    Text.assembled "NamedTypeNode"
      [("name", Text.quoted name), ("loc", Text.orNone Location.listing loc)]
  | list inner loc =>
    Text.assembled "ListTypeNode"
      [("type", listing inner), ("loc", Text.orNone Location.listing loc)]
  | nonNull inner loc =>
    Text.assembled "NonNullTypeNode"
      [("type", listing inner), ("loc", Text.orNone Location.listing loc)]

/-- The node of an argument or input field as it is listed.  It keeps no default. -/
def InputNode.listing (node : InputNode) : String :=
  Text.assembled "InputValueDefinitionNode"
    [("name", Text.quoted node.name), ("type", node.type.listing), ("default_value", "None"),
     ("loc", Text.orNone Location.listing node.loc)]

/-- A field node as it is listed. -/
def FieldNode.listing (node : FieldNode) : String :=
  Text.assembled "FieldDefinitionNode"
    [("name", Text.quoted node.name), ("type", node.type.listing),
     ("arguments", Text.bracketed (node.args.map InputNode.listing)),
     ("loc", Text.orNone Location.listing node.loc)]

/-- The node in a field's place as it is listed. -/
def SlotNode.listing : SlotNode → String
  | field node => node.listing
  | input node => node.listing

/-- The node of an enum value as it is listed. -/
def ValueNode.listing (node : ValueNode) : String :=
  Text.assembled "EnumValueDefinitionNode"
    [("name", Text.quoted node.name), ("loc", Text.orNone Location.listing node.loc)]

/-- A directive node as it is listed. -/
def DirectiveNode.listing (node : DirectiveNode) : String :=
  Text.assembled "DirectiveDefinitionNode"
    [("name", Text.quoted node.name),
     ("arguments", Text.bracketed (node.args.map InputNode.listing)),
     ("locations", Text.bracketed (node.locations.map Text.quoted)),
     ("loc", Text.orNone Location.listing node.loc)]

end TypeGraph.Source
