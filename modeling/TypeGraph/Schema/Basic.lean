/-
Schemas.

A schema is made from a catalog and a blueprint: the root types, further types, the
directives.  Making it collects the table of all types that can be reached.  From
then on the table is a part of the schema like any other: changing a definition
does not collect again.  Two results are kept once they are known, the verdict of
validation and the index of implementations.
-/
import TypeGraph.Inspect
import TypeGraph.OneShot
import TypeGraph.Schema.Collect

namespace TypeGraph

open TypeGraph.Source

/-- What a schema is made from, besides the catalog. -/
structure Blueprint where
  query : Ref := .null
  mutation : Ref := .null
  subscription : Ref := .null
  types : List Ref := []
  directives : List Ref := Specified.all.map Specified.ref
  node : Option SchemaNode := none
  legacyNames : List String := []
  assumeValid : Bool := false
  deriving Inhabited

/-- Object types by the name of an interface they claim, one entry for each claim. -/
abbrev Implementations := List (String × TypeId)

/-- A schema. -/
structure Schema where
  catalog : Catalog
  query : Ref
  mutation : Ref
  subscription : Ref
  directives : List Ref
  node : Option SchemaNode
  legacyNames : List String
  typeMap : Table Ref
  verdict : OneShot (List Diagnostic)
  implementations : OneShot Implementations
  deriving Inhabited

namespace Blueprint

/-- The types of the arguments of a directive; anything else has none. -/
def argumentTypes (c : Catalog) : Ref → List Ref
  | .directive id => (c.directiveDef id).args.map Argument.type
  | _ => []

/-- The references the collection starts from, in order. -/
def startingRefs (b : Blueprint) (c : Catalog) : List Ref :=
  [b.query, b.mutation, b.subscription] ++ b.types ++ [Builtin.schema.ref] ++
    b.directives.flatMap (argumentTypes c)

end Blueprint

namespace Schema

/-- Makes a schema; refused if two types with one name can be reached. -/
def build (c : Catalog) (b : Blueprint) : Except Fault Schema := do
  let found ← c.collectAll (b.startingRefs c)
  return {
    catalog := c
    query := b.query
    mutation := b.mutation
    subscription := b.subscription
    directives := b.directives
    node := b.node
    legacyNames := b.legacyNames
    typeMap := found.map fun _ id => .named id
    verdict := if b.assumeValid then OneShot.empty.set [] else .empty
    implementations := .empty }

variable (S : Schema)

/-- The values of the type map, in order. -/
def types : List Ref := S.typeMap.values

/-- What stands under a name in the type map; null if nothing does. -/
def getType (name : String) : Ref := (S.typeMap.get? name).getD .null

/-- Whether the reference is a directive of that name. -/
def isDirectiveNamed (name : String) (r : Ref) : Bool :=
  r.isDirective && S.catalog.name? r == some name

/-- The first directive of that name; null if there is none. -/
def getDirective (name : String) : Ref :=
  (S.directives.find? (S.isDirectiveNamed name)).getD .null

/-- The root type of an operation. -/
def root : Operation → Ref
  | .query => S.query
  | .mutation => S.mutation
  | .subscription => S.subscription

/-- The schema in a few words. -/
def summary : String :=
  "<Schema query=" ++ S.catalog.display S.query ++ " types=" ++ toString S.typeMap.size ++
    " directives=" ++ toString S.directives.length ++ ">"

end Schema

end TypeGraph
