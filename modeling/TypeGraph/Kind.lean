/-
The seven kinds of named type.
-/
namespace TypeGraph

/-- The kind of a named type. -/
inductive Kind
  | scalar
  | object
  | interface
  | union
  | inputUnion
  | enum
  | inputObject
  deriving DecidableEq, Inhabited

namespace Kind

/-- The kinds in their fixed order. -/
def all : List Kind := [scalar, object, interface, union, inputUnion, enum, inputObject]

/-- The name of a kind in introspection. -/
def name : Kind → String
  | scalar => "SCALAR"
  | object => "OBJECT"
  | interface => "INTERFACE"
  | union => "UNION"
  | inputUnion => "INPUT_UNION"
  | enum => "ENUM"
  | inputObject => "INPUT_OBJECT"

/-- The kind with that name. -/
def ofName? (s : String) : Option Kind :=
  all.find? fun k => k.name == s

/-- What the definition of a type of this kind is called in a listing. -/
def label : Kind → String
  | scalar => "ScalarType"
  | object => "ObjectType"
  | interface => "InterfaceType"
  | union => "UnionType"
  | inputUnion => "InputUnionType"
  | enum => "EnumType"
  | inputObject => "InputObjectType"

/-- Kinds whose values may be passed in.  Input unions are left out: they are accepted in input
positions by a rule of their own. -/
def isInput : Kind → Bool
  | scalar | enum | inputObject => true
  | _ => false

/-- Kinds whose values may be returned. -/
def isOutput : Kind → Bool
  | scalar | object | interface | union | enum => true
  | _ => false

/-- Kinds that stand for several object types. -/
def isAbstract : Kind → Bool
  | interface | union => true
  | _ => false

theorem mem_all (k : Kind) : k ∈ all := by
  cases k <;> decide

end Kind

end TypeGraph
