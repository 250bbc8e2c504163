/-
Interface conformance.

An object that claims an interface provides each of the interface's fields.  Its
field may return a more specific type; its arguments must have the very types of
the interface's, since callers who know only the interface supply them; and what
arguments it adds must be optional.
-/
import TypeGraph.Check.Scope
import TypeGraph.Subtype

namespace TypeGraph

open TypeGraph.Source

namespace Scope

variable (s : Scope)

/-! ### Arguments -/

/-- Checks that the object's field takes one argument of the interface's field, with its type. -/
def checkExpectedArgument (object interface : TypeDef) (field : String) (given : List Argument)
    (expected : Argument) : List Diagnostic :=
  match given.find? fun arg => arg.name == expected.name with
  | none =>
    [.reported (.argumentMissing interface.name field expected.name object.name)
      [s.locator.node? (.ofArgument interface.name field expected.name),
       s.locator.node? (.ofField object.name field)]]
  | some arg =>
    if expected.type.sameType arg.type then []
    else
      [.reported (.argumentMismatch interface.name field expected.name (s.inspect expected.type)
          object.name (s.inspect arg.type))
        [s.locator.typeNode? (.ofArgument interface.name field expected.name),
         s.locator.typeNode? (.ofArgument object.name field expected.name)]]

/-- Checks that an argument the interface does not know can be left out. -/
def checkAdditionalArgument (object interface : TypeDef) (field : String)
    (expected : List Argument) (arg : Argument) : List Diagnostic :=
  if !(expected.map Argument.name).contains arg.name && arg.type.isNonNull then
    [.reported (.argumentRequired object.name field arg.name (s.inspect arg.type) interface.name)
      [s.locator.typeNode? (.ofArgument object.name field arg.name),
       s.locator.node? (.ofField interface.name field)]]
  else []

/-- Checks the arguments of a field that both have. -/
def checkSharedArguments (object interface : TypeDef) (field : String) (given expected : Field) :
    List Diagnostic :=
  expected.args.flatMap (s.checkExpectedArgument object interface field given.args) ++
    given.args.flatMap (s.checkAdditionalArgument object interface field expected.args)

/-! ### Fields -/

/-- Checks that the object's field returns what the interface's field promises. -/
def checkSharedType (object interface : TypeDef) (field : String) (given expected : Field) :
    List Diagnostic :=
  if s.schema.isSubtype given.type expected.type then []
  else
    [.reported (.fieldMismatch interface.name field (s.inspect expected.type) object.name
        (s.inspect given.type))
      [s.locator.typeNode? (.ofField interface.name field),
       s.locator.typeNode? (.ofField object.name field)]]

/-- Reports a field that the object lacks. -/
def missingField (object interface : TypeDef) (field : String) : Diagnostic :=
  .reported (.fieldMissing interface.name field object.name)
    [s.locator.node? (.ofField interface.name field), object.node.map Node.definition]

/-- Checks that the object meets what one field of the interface asks for. -/
def checkObligation (object interface : TypeDef) (entry : String × Field) : List Diagnostic :=
  match object.fields.get? entry.1 with
  | none => [s.missingField object interface entry.1]
  | some given =>
    s.checkSharedType object interface entry.1 given entry.2 ++
      s.checkSharedArguments object interface entry.1 given entry.2

/-- Checks that the object meets what the interface asks for, field by field. -/
def checkConformance (object interface : TypeDef) : List Diagnostic :=
  interface.fields.entries.flatMap (s.checkObligation object interface)

/-! ### Claims -/

/-- Reports a claim of something that is no interface. -/
def foreignClaim (object : TypeDef) (claim : Ref) : Diagnostic :=
  .pointing (.claimKind object.name (s.inspect claim))
    ((s.locator.nodes (.ofInterface object.name (s.catalog.name? claim))).take 1)

/-- Reports a second claim of one name. -/
def repeatedClaim (object : TypeDef) (claim : String) : Diagnostic :=
  .pointing (.claimTwice object.name claim)
    (s.locator.nodes (.ofInterface object.name (some claim)))

/-- Checks one claim: that it is of an interface, and that the object meets it. -/
def checkClaim (object : TypeDef) (claim : Ref) : List Diagnostic :=
  match claim with
  | .named id =>
    if s.catalog.isKind .interface claim then s.checkConformance object (s.catalog.typeDef id)
    else [s.foreignClaim object claim]
  | _ => [s.foreignClaim object claim]

/-- Checks one claim, knowing whether its name came before. -/
def checkMarkedClaim (object : TypeDef) (marked : Ref × Bool) : List Diagnostic :=
  if marked.2 then [s.repeatedClaim object ((s.catalog.name? marked.1).getD "")]
  else s.checkClaim object marked.1

/-- Checks the claims of an object, in the order they are made. -/
def checkClaims (id : TypeId) : List Diagnostic :=
  let object := s.catalog.typeDef id
  (markRepeats s.catalog.name? object.interfaces).flatMap (s.checkMarkedClaim object)

/-! ### Use of the index

A conformance check asks subtype questions, and those may take the schema's index
of implementations, which is kept from then on.  These tests say whether one does.
-/

/-- Whether comparing one field takes the index. -/
def obligationConsults (object : TypeDef) (entry : String × Field) : Bool :=
  (object.fields.get? entry.1).any fun given =>
    s.schema.subtypeConsults given.type entry.2.type

/-- Whether checking one claim takes the index. -/
def claimConsults (object : TypeDef) (claim : Ref) : Bool :=
  match claim with
  | .named id =>
    s.catalog.isKind .interface claim &&
      (s.catalog.typeDef id).fields.entries.any (s.obligationConsults object)
  | _ => false

/-- Whether checking the claims of an object takes the index. -/
def claimsConsult (id : TypeId) : Bool :=
  let object := s.catalog.typeDef id
  (markRepeats s.catalog.name? object.interfaces).any fun marked =>
    !marked.2 && s.claimConsults object marked.1

end Scope

end TypeGraph
