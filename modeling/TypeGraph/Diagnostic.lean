/-
Diagnostics.

A diagnostic is a problem and the source nodes it points at.  The problem says what
is wrong as data, with types already rendered; its wording and its category are
read off it, so that both are written down in one place.
-/
import TypeGraph.Name.Grammar
import TypeGraph.Source.Node

namespace TypeGraph

open TypeGraph.Source

/-- What kind of rule a diagnostic reports. -/
inductive Category
  | structural
  | kind
  | name
  | duplicate
  | compatibility
  deriving DecidableEq, Inhabited

namespace Category

/-- The categories in their fixed order. -/
def all : List Category := [structural, kind, name, duplicate, compatibility]

/-- The name under which a category is listed. -/
def label : Category → String
  | structural => "STRUCTURAL"
  | kind => "KIND"
  | name => "NAME"
  | duplicate => "DUPLICATE"
  | compatibility => "TYPE_COMPATIBILITY"

end Category

/-- The operations a schema has a root type for. -/
inductive Operation
  | query
  | mutation
  | subscription
  deriving DecidableEq, Inhabited

namespace Operation

/-- The name of the operation in a schema definition. -/
def name : Operation → String
  | query => "query"
  | mutation => "mutation"
  | subscription => "subscription"

/-- The name of the operation at the start of a sentence. -/
def title : Operation → String
  | query => "Query"
  | mutation => "Mutation"
  | subscription => "Subscription"

end Operation

/-- The two forms of union. -/
inductive UnionForm
  | output
  | input
  deriving DecidableEq, Inhabited

namespace UnionForm

/-- What a union of this form is called. -/
def title : UnionForm → String
  | output => "Union type"
  | input => "Input Union type"

/-- What its members are called. -/
def memberTitle : UnionForm → String
  | output => "Object"
  | input => "Input Object"

/-- The kind its members must have. -/
def memberKind : UnionForm → Kind
  | output => .object
  | input => .inputObject

end UnionForm

/-- The place of a field or argument in a schema. -/
inductive Coordinate
  | field (owner name : String)
  | argument (owner inField name : String)
  | directiveArgument (directive name : String)
  deriving DecidableEq, Inhabited

namespace Coordinate

/-- The place as it is written in a message. -/
def text : Coordinate → String
  | field owner name => owner ++ "." ++ name
  | argument owner inField name => owner ++ "." ++ inField ++ "(" ++ name ++ ":)"
  | directiveArgument directive name => "@" ++ directive ++ "(" ++ name ++ ":)"

/-- What stands at the place. -/
def title : Coordinate → String
  | field _ _ => "Field"
  | argument _ _ _ => "Field argument"
  | directiveArgument _ _ => "Argument"

end Coordinate

/-- What is wrong.  `shown`, `expected` and `found` are types as a reader sees them. -/
inductive Problem
  | missingQuery
  | rootKind (operation : Operation) (shown : String)
  | notDirective (shown : String)
  | notType (shown : String)
  | badName (flaw : NameFlaw)
  | definedTwice (place : Coordinate)
  | notOutput (place : Coordinate) (shown : String)
  | notInput (place : Coordinate) (shown : String)
  | noFields (owner : String)
  | noInputFields (owner : String)
  | noValues (owner : String)
  | noMembers (form : UnionForm) (owner : String)
  | memberTwice (form : UnionForm) (owner member : String)
  | memberKind (form : UnionForm) (owner shown : String)
  | valueTwice (owner value : String)
  | reservedValue (owner value : String)
  | claimTwice (owner interface : String)
  | claimKind (owner shown : String)
  | fieldMissing (interface field owner : String)
  | fieldMismatch (interface field expected owner found : String)
  | argumentMissing (interface field argument owner : String)
  | argumentMismatch (interface field argument expected owner found : String)
  | argumentRequired (owner field argument shown interface : String)
  | stated (text : String) (category : Category)
  deriving DecidableEq, Inhabited

namespace Problem

/-- The wording of a problem. -/
def message : Problem → String
  | missingQuery => "Query root type must be provided."
  | rootKind .query shown =>
    Operation.query.title ++ " root type must be Object type, it cannot be " ++ shown ++ "."
  | rootKind operation shown =>
    operation.title ++ " root type must be Object type if provided, it cannot be " ++ shown ++ "."
  | notDirective shown => "Expected directive but got: " ++ shown ++ "."
  | notType shown => "Expected GraphQL named type but got: " ++ shown ++ "."
  | badName flaw => flaw.message
  | definedTwice place => place.title ++ " " ++ place.text ++ " can only be defined once."
  | notOutput place shown =>
    "The type of " ++ place.text ++ " must be Output Type but got: " ++ shown ++ "."
  | notInput place shown =>
    "The type of " ++ place.text ++ " must be Input Type but got: " ++ shown ++ "."
  | noFields owner => "Type " ++ owner ++ " must define one or more fields."
  | noInputFields owner => "Input Object type " ++ owner ++ " must define one or more fields."
  | noValues owner => "Enum type " ++ owner ++ " must define one or more values."
  | noMembers form owner => form.title ++ " " ++ owner ++ " must define one or more member types."
  | memberTwice form owner member =>
    form.title ++ " " ++ owner ++ " can only include type " ++ member ++ " once."
  | memberKind form owner shown =>
    form.title ++ " " ++ owner ++ " can only include " ++ form.memberTitle ++
      " types, it cannot include " ++ shown ++ "."
  | valueTwice owner value => "Enum type " ++ owner ++ " can include value " ++ value ++ " only once."
  | reservedValue owner value => "Enum type " ++ owner ++ " cannot include value: " ++ value ++ "."
  | claimTwice owner interface =>
    "Type " ++ owner ++ " can only implement " ++ interface ++ " once."
  | claimKind owner shown =>
    "Type " ++ owner ++ " must only implement Interface types, it cannot implement " ++ shown ++ "."
  | fieldMissing interface field owner =>
    "Interface field " ++ interface ++ "." ++ field ++ " expected but " ++ owner ++
      " does not provide it."
  | fieldMismatch interface field expected owner found =>
    "Interface field " ++ interface ++ "." ++ field ++ " expects type " ++ expected ++ " but " ++
      owner ++ "." ++ field ++ " is type " ++ found ++ "."
  | argumentMissing interface field argument owner =>
    "Interface field argument " ++ interface ++ "." ++ field ++ "(" ++ argument ++
      ":) expected but " ++ owner ++ "." ++ field ++ " does not provide it."
  | argumentMismatch interface field argument expected owner found =>
    "Interface field argument " ++ interface ++ "." ++ field ++ "(" ++ argument ++
      ":) expects type " ++ expected ++ " but " ++ owner ++ "." ++ field ++ "(" ++ argument ++
      ":) is type " ++ found ++ "."
  | argumentRequired owner field argument shown interface =>
    "Object field argument " ++ owner ++ "." ++ field ++ "(" ++ argument ++
      ":) is of required type " ++ shown ++
      " but is not also provided by the Interface field " ++ interface ++ "." ++ field ++ "."
  | stated text _ => text

/-- The kind of rule that is broken. -/
def category : Problem → Category
  | missingQuery | noFields _ | noInputFields _ | noValues _ | noMembers _ _ => .structural
  | rootKind _ _ | notDirective _ | notType _ | memberKind _ _ _ | claimKind _ _ => .kind
  | badName _ | reservedValue _ _ => .name
  | definedTwice _ | memberTwice _ _ _ | valueTwice _ _ | claimTwice _ _ => .duplicate
  | notOutput _ _ | notInput _ _ | fieldMissing _ _ _ | fieldMismatch _ _ _ _ _
  | argumentMissing _ _ _ _ | argumentMismatch _ _ _ _ _ _ | argumentRequired _ _ _ _ _ =>
    .compatibility
  | stated _ category => category

end Problem

/-- A problem and the nodes it points at. -/
structure Diagnostic where
  problem : Problem
  nodes : List (Option Node) := []
  deriving DecidableEq, Inhabited

namespace Diagnostic

/-- A diagnostic that points at the given nodes. -/
def pointing (problem : Problem) (nodes : List Node) : Diagnostic :=
  ⟨problem, nodes.map some⟩

/-- A diagnostic that points at those of the given nodes that are there. -/
def reported (problem : Problem) (nodes : List (Option Node)) : Diagnostic :=
  pointing problem (nodes.filterMap id)

/-- A diagnostic in the reporter's own words. -/
def stated (text : String) (category : Category := .structural) (nodes : List (Option Node) := []) :
    Diagnostic :=
  ⟨.stated text category, nodes⟩

/-- The wording. -/
def message (d : Diagnostic) : String := d.problem.message

/-- The kind of rule that is broken. -/
def category (d : Diagnostic) : Category := d.problem.category

/-- The locations of those nodes that have one. -/
def locations (d : Diagnostic) : List Location :=
  d.nodes.filterMap fun node => node.bind Node.loc

/-- The wording, followed by the locations if there are any. -/
def text (d : Diagnostic) : String :=
  if d.locations.isEmpty then d.message
  else
    let places := d.locations.map fun l => toString l.line ++ ":" ++ toString l.column
    d.message ++ " (" ++ ", ".intercalate places ++ ")"

/-- Several diagnostics in one message, a blank line between them. -/
def summary (ds : List Diagnostic) : String :=
  "\n\n".intercalate (ds.map message)

end Diagnostic

end TypeGraph
