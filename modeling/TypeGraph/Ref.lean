/-
References to types.

A named type is known by its identity, not by its name: two definitions with one
name are two types.  A reference holds such an identity under any nesting of list
and non-null wrappers.  Where a type is expected a schema may also hold something
that is none, and validation has to say so: a directive, an element of a definition
on its own, or a plain value; those have constructors too.  Equality of references is
identity.  Null, the Booleans, the infinities and the value that is not a number are
written by name, and each of them is one value; any other plain value is the
occurrence it came from, so that two occurrences differ however alike they look.
-/
namespace TypeGraph

/-- The types every catalog knows: five scalars and the introspection types. -/
inductive Builtin
  | string
  | int
  | float
  | boolean
  | id
  | schema
  | directive
  | directiveLocation
  | type
  | field
  | inputValue
  | enumValue
  | typeKind
  deriving DecidableEq, Inhabited

/-- The directives every catalog knows. -/
inductive Specified
  | inclusion
  | skipping
  | deprecation
  deriving DecidableEq, Inhabited

/-- The identity of a named type: a built-in one, or a definition of the catalog by position. -/
inductive TypeId
  | builtin (which : Builtin)
  | own (index : Nat)
  deriving DecidableEq, Inhabited

/-- The identity of a directive. -/
inductive DirectiveId
  | specified (which : Specified)
  | own (index : Nat)
  deriving DecidableEq, Inhabited

/-- What is shown with the node it was written at: a directive, or an element of a definition
that stands on its own, by position. -/
inductive Bearer
  | directive (id : DirectiveId)
  | element (index : Nat)
  deriving DecidableEq, Inhabited

/-- A reference to a type, or what stands in the place of one. -/
inductive Ref
  | named (id : TypeId)
  | list (inner : Ref)
  | nonNull (inner : Ref)
  | directive (id : DirectiveId)
  | element (index : Nat)
  | null
  | bool (value : Bool)
  | infinity (negative : Bool)
  | notANumber
  | value (occurrence : Nat)
  deriving DecidableEq, Inhabited

namespace Ref

/-- What is left when every wrapper is taken off. -/
def core : Ref → Ref
  | list inner => inner.core
  | nonNull inner => inner.core
  | r => r

/-- The identity of a named type that is not wrapped. -/
def typeId? : Ref → Option TypeId
  | named id => some id
  | _ => none

/-- The named type under the wrappers, if there is one. -/
def namedType? (r : Ref) : Option TypeId :=
  r.core.typeId?

/-- Whether the reference is a directive. -/
def isDirective : Ref → Bool
  | directive _ => true
  | _ => false

/-- Whether the outermost wrapper is non-null. -/
def isNonNull : Ref → Bool
  | nonNull _ => true
  | _ => false

/-- Whether the outermost wrapper is a list. -/
def isList : Ref → Bool
  | list _ => true
  | _ => false

/-- Whether there is a wrapper at all. -/
def isWrapping (r : Ref) : Bool :=
  r.isNonNull || r.isList

/-- The same type under the same wrappers. -/
def sameType : Ref → Ref → Bool
  | nonNull a, nonNull b => a.sameType b
  | list a, list b => a.sameType b
  | a, b => decide (a = b)

@[simp] theorem namedType?_named (id : TypeId) : (named id).namedType? = some id := rfl

@[simp] theorem namedType?_list (r : Ref) : (list r).namedType? = r.namedType? := rfl

@[simp] theorem namedType?_nonNull (r : Ref) : (nonNull r).namedType? = r.namedType? := rfl

end Ref

end TypeGraph
