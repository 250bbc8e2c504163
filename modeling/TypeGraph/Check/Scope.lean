/-
What every check looks at, and the check of names.

A check reads a schema and the locator of its nodes, and lists what it finds.  It
changes nothing, so the order of checks is only the order of the findings.
-/
import TypeGraph.Locator

namespace TypeGraph

open TypeGraph.Source

/-- A schema and the nodes of its elements. -/
structure Scope where
  schema : Schema
  locator : Locator
  deriving Inhabited

/-- A schema with the nodes it has now. -/
def Scope.ofSchema (S : Schema) : Scope := ⟨S, .ofSchema S⟩

namespace Scope

variable (s : Scope)

/-- The catalog of the schema. -/
def catalog : Catalog := s.schema.catalog

/-- A type or other reference as diagnostics show it. -/
def inspect (r : Ref) : String := s.catalog.inspect r

/-- Reports a name that breaks the grammar, unless it is exempt or on the schema's list of
legacy names. -/
def checkName (exempt : Bool) (name : String) (node : Option Node) : List Diagnostic :=
  if s.schema.legacyNames.contains name || exempt then []
  else
    match Name.flaw? name with
    | some flaw => [.pointing (.badName flaw) node.toList]
    | none => []

/-- Checks the name of a type or directive, or another name given in its place.  The types that
describe schemas are exempt, and so is what they own. -/
def checkEntityName (entity owner : Ref) (name : Option String) : List Diagnostic :=
  match name.or (s.catalog.name? entity) with
  | some name =>
    s.checkName (entity.isIntrospection || owner.isIntrospection) name (s.catalog.node? entity)
  | none => []

end Scope

/-! ### Repeated names

Arguments, members and interface claims are lists in which a name may come twice.
The first element of a name is examined; a later one is only reported as repeated.
Elements without a name never count as repeated.
-/

/-- Marks the elements whose name is among `seen` or is borne by an earlier element. -/
def markRepeatsFrom {α : Type} (name? : α → Option String) (seen : List String) :
    List α → List (α × Bool)
  | [] => []
  | a :: rest =>
    match name? a with
    | none => (a, false) :: markRepeatsFrom name? seen rest
    | some name => (a, seen.contains name) :: markRepeatsFrom name? (name :: seen) rest

/-- Marks the elements whose name is borne by an earlier element. -/
def markRepeats {α : Type} (name? : α → Option String) (as : List α) : List (α × Bool) :=
  markRepeatsFrom name? [] as

end TypeGraph
