/-
Subtyping.

A value of one type can stand where another is expected if the types are the same,
if it merely promises more (never null), element by element under a list, or if it
is an object behind an expected interface or union.  Comparing the wrappers either
settles the question or leaves one about two named types; `comparison` does that
part, which needs no look at the schema's members.
-/
import TypeGraph.Schema.Possible

namespace TypeGraph

/-- What is left of a subtype question when the wrappers have been compared. -/
inductive Comparison
  | settled (answer : Bool)
  | membership (abstract object : TypeId)
  deriving DecidableEq, Inhabited

/-- The question about two unwrapped references. -/
def Catalog.coreComparison (c : Catalog) (sub super : Ref) : Comparison :=
  if sub = super then .settled true
  else
    match sub, super with
    | .named o, .named a =>
      if c.isAbstract super && c.isKind .object sub then .membership a o else .settled false
    | _, _ => .settled false

/-- Compares the wrappers of two references. -/
def Catalog.comparison (c : Catalog) : Ref → Ref → Comparison
  | .nonNull a, .nonNull b => c.comparison a b
  | _, .nonNull _ => .settled false
  | .nonNull a, b => c.comparison a b
  | .list a, .list b => c.comparison a b
  | _, .list _ => .settled false
  | .list _, _ => .settled false
  | a, b => c.coreComparison a b

namespace Schema

variable (S : Schema)

/-- Whether a value of `sub` can stand where `super` is expected. -/
def isSubtype (sub super : Ref) : Bool :=
  match S.catalog.comparison sub super with
  | .settled answer => answer
  | .membership abstract object => S.isPossible abstract (.named object)

/-- Whether that question takes the index of implementations. -/
def subtypeConsults (sub super : Ref) : Bool :=
  match S.catalog.comparison sub super with
  | .settled _ => false
  | .membership abstract _ => S.consultsIndex abstract

end Schema

end TypeGraph
