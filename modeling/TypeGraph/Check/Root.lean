/-
Root types: a query root there must be, and every root must be an object.
-/
import TypeGraph.Check.Scope

namespace TypeGraph

open TypeGraph.Source

namespace Scope

variable (s : Scope)

/-- The node of a root: where the schema definition names it, or else its own definition. -/
def rootNode? (operation : Operation) : Option Node :=
  (s.locator.typeNode? (.ofOperation operation.name)).or
    (s.catalog.node? (s.schema.root operation))

/-- Reports a root that is there and is no object. -/
def checkRootKind (operation : Operation) : List Diagnostic :=
  let root := s.schema.root operation
  if root = .null || s.catalog.isKind .object root then []
  else [.pointing (.rootKind operation (s.inspect root)) (s.rootNode? operation).toList]

/-- Reports that there is no query root. -/
def checkQueryPresent : List Diagnostic :=
  if s.schema.query = .null then
    [.pointing .missingQuery (s.schema.node.map Node.schema).toList]
  else []

/-- Checks the three root types. -/
def checkRoots : List Diagnostic :=
  s.checkQueryPresent ++ s.checkRootKind .query ++ s.checkRootKind .mutation ++
    s.checkRootKind .subscription

end Scope

end TypeGraph
