/-
Every type of the type map, each by the check for its kind.
-/
import TypeGraph.Check.Conformance
import TypeGraph.Check.Member

namespace TypeGraph

open TypeGraph.Source

namespace Scope

variable (s : Scope)

/-- Checks an object: its fields, then its claims. -/
def checkObject (id : TypeId) : List Diagnostic := s.checkFields id ++ s.checkClaims id

/-- What is checked of a type of each kind; a scalar has nothing but its name. -/
def checkByKind (id : TypeId) : List Diagnostic :=
  match (s.catalog.typeDef id).kind with
  | .scalar => []
  | .object => s.checkObject id
  | .interface => s.checkFields id
  | .union => s.checkMembers .output id
  | .inputUnion => s.checkMembers .input id
  | .enum => s.checkEnum id
  | .inputObject => s.checkInputObject id

/-- Checks a named type: its name, then what its kind asks for. -/
def checkNamedType (id : TypeId) : List Diagnostic :=
  s.checkName id.isIntrospection (s.catalog.typeDef id).name
      ((s.catalog.typeDef id).node.map Node.definition) ++
    s.checkByKind id

/-- Checks one entry of the type map. -/
def checkEntry : Ref → List Diagnostic
  | .named id => s.checkNamedType id
  | r => [.pointing (.notType (s.inspect r)) (s.catalog.node? r).toList]

/-- Checks the type map in order. -/
def checkTypes : List Diagnostic := s.schema.types.flatMap s.checkEntry

/-- Whether checking one entry takes the index of implementations. -/
def entryConsults : Ref → Bool
  | .named id => (s.catalog.typeDef id).kind == .object && s.claimsConsult id
  | _ => false

/-- Whether checking the type map takes the index of implementations. -/
def typesConsult : Bool := s.schema.types.any s.entryConsults

end Scope

end TypeGraph
