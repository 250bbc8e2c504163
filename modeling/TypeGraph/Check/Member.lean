/-
Members of unions and values of enums.
-/
import TypeGraph.Check.Field

namespace TypeGraph

open TypeGraph.Source

namespace Scope

variable (s : Scope)

/-! ### Members

Unions and input unions differ only in the kind of member they take.
-/

/-- Reports a member of the wrong kind. -/
def checkMemberKind (form : UnionForm) (owner : String) (member : Ref) : List Diagnostic :=
  if s.catalog.isKind form.memberKind member then []
  else
    [.pointing (.memberKind form owner (s.inspect member))
      (s.locator.nodes (.ofMember owner (s.catalog.display member)))]

/-- Reports a second member of one name. -/
def repeatedMember (form : UnionForm) (owner member : String) : Diagnostic :=
  .pointing (.memberTwice form owner member) (s.locator.nodes (.ofMember owner member))

/-- Checks one member, knowing whether its name came before. -/
def checkMember (form : UnionForm) (owner : String) (marked : Ref × Bool) : List Diagnostic :=
  if marked.2 then
    [s.repeatedMember form owner ((s.catalog.name? marked.1).getD "")]
  else s.checkMemberKind form owner marked.1

/-- Reports a union without members. -/
def checkHasMembers (form : UnionForm) (t : TypeDef) : List Diagnostic :=
  if t.members.isEmpty then [.pointing (.noMembers form t.name) (s.typeNodes t)] else []

/-- Checks the members of a union of either form. -/
def checkMembers (form : UnionForm) (id : TypeId) : List Diagnostic :=
  let t := s.catalog.typeDef id
  s.checkHasMembers form t ++
    (markRepeats s.catalog.name? t.members).flatMap (s.checkMember form t.name)

/-! ### Values -/

/-- Reports a value that was written more than once. -/
def checkValueOnce (owner value : String) : List Diagnostic :=
  let nodes := s.locator.nodes (.ofValue owner value)
  if 1 < nodes.length then [.pointing (.valueTwice owner value) nodes] else []

/-- Reports a value whose name is reserved. -/
def checkValueReserved (owner : String) (v : EnumValue) : List Diagnostic :=
  if EnumValue.reservedNames.contains v.name then
    [.pointing (.reservedValue owner v.name) (v.node.map Node.value).toList]
  else []

/-- Checks one value. -/
def checkValue (exempt : Bool) (owner : String) (v : EnumValue) : List Diagnostic :=
  s.checkValueOnce owner v.name ++ s.checkName exempt v.name (v.node.map Node.value) ++
    checkValueReserved owner v

/-- Reports an enum without values. -/
def checkHasValues (t : TypeDef) : List Diagnostic :=
  if t.values.isEmpty then [.pointing (.noValues t.name) (s.typeNodes t)] else []

/-- Checks the values of an enum. -/
def checkEnum (id : TypeId) : List Diagnostic :=
  let t := s.catalog.typeDef id
  s.checkHasValues t ++ t.values.flatMap (s.checkValue id.isIntrospection t.name)

end Scope

end TypeGraph
