/-
The object types behind an abstract type.

A union lists them itself.  For an interface they are the objects of the type map
that claim it; claims are indexed by the interface's name, and the index is kept
from the first time it is asked for, whatever is changed afterwards.
-/
import TypeGraph.Schema.Basic

namespace TypeGraph

namespace Schema

variable (S : Schema)

/-- The identity of an object type. -/
def objectId? (r : Ref) : Option TypeId :=
  if S.catalog.isKind .object r then r.typeId? else none

/-- The name of an interface type. -/
def interfaceName? (r : Ref) : Option String :=
  if S.catalog.isKind .interface r then S.catalog.name? r else none

/-- The claims of one entry of the type map, if it is an object. -/
def claimsOf (r : Ref) : Implementations :=
  match S.objectId? r with
  | some id =>
    ((S.catalog.typeDef id).interfaces.filterMap S.interfaceName?).map fun name => (name, id)
  | none => []

/-- The index of the type map as it is now. -/
def indexClaims : Implementations := S.types.flatMap S.claimsOf

/-- The index that look-ups use: the one kept, or else that of the type map. -/
def claimIndex : Implementations := S.implementations.content.getD S.indexClaims

/-- The object types that claim an interface of that name, once for each claim. -/
def claimants (interface : String) : List TypeId :=
  S.claimIndex.filterMap fun claim => if claim.1 = interface then some claim.2 else none

/-- The object types a union contains, or that claim to implement an interface. -/
def possibleTypes (abstract : TypeId) : List TypeId :=
  match (S.catalog.typeDef abstract).body with
  | .union members => members.filterMap S.objectId?
  | _ => S.claimants (S.catalog.typeDef abstract).name

/-- Whether the reference is one of the object types behind `abstract`. -/
def isPossible (abstract : TypeId) (member : Ref) : Bool :=
  (S.possibleTypes abstract).any fun id => decide (Ref.named id = member)

/-- Whether finding the possible types of a type takes the index. -/
def consultsIndex (abstract : TypeId) : Bool :=
  (S.catalog.typeDef abstract).kind != .union

/-- The schema after a question: if the question took the index, the index is kept. -/
def keepingIndex (consulted : Bool) : Schema :=
  if consulted then { S with implementations := S.implementations.set S.indexClaims } else S

end Schema

end TypeGraph
