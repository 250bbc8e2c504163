/-
The built-in types and directives.

Every schema can use five scalars and three directives, and carries the types that
describe schemas themselves.  The latter have names that begin with two
underscores, which no other type may have, so name validation exempts them, by
identity.
-/
import TypeGraph.Definition

namespace TypeGraph

/-- The reason given for a deprecation that states none. -/
def defaultDeprecationReason : String := "No longer supported"

/-- Where a directive may be applied, executable locations first. -/
def directiveLocations : List String :=
  ["QUERY", "MUTATION", "SUBSCRIPTION", "FIELD", "FRAGMENT_DEFINITION", "FRAGMENT_SPREAD",
   "INLINE_FRAGMENT", "SCHEMA", "SCALAR", "OBJECT", "FIELD_DEFINITION", "ARGUMENT_DEFINITION",
   "INTERFACE", "UNION", "INPUT_UNION", "ENUM", "ENUM_VALUE", "INPUT_OBJECT",
   "INPUT_FIELD_DEFINITION"]

namespace Builtin

/-- The scalars, in the order they are listed. -/
def scalars : List Builtin := [string, int, float, boolean, id]

/-- The types that describe schemas, in the order they are listed. -/
def introspection : List Builtin :=
  [schema, directive, directiveLocation, type, field, inputValue, enumValue, typeKind]

/-- All built-in types. -/
def all : List Builtin := scalars ++ introspection

theorem mem_all (b : Builtin) : b ∈ all := by
  cases b <;> decide

/-- The name of a built-in type. -/
def name : Builtin → String
  | string => "String"
  | int => "Int"
  | float => "Float"
  | boolean => "Boolean"
  | id => "ID"
  | schema => "__Schema"
  | directive => "__Directive"
  | directiveLocation => "__DirectiveLocation"
  | type => "__Type"
  | field => "__Field"
  | inputValue => "__InputValue"
  | enumValue => "__EnumValue"
  | typeKind => "__TypeKind"

/-- A reference to the type. -/
def ref (b : Builtin) : Ref := .named (.builtin b)

/-- A reference to the type, never null. -/
def required (b : Builtin) : Ref := .nonNull b.ref

/-- A list of the type without nulls in it. -/
def listed (b : Builtin) : Ref := .list b.required

/-- A field without arguments. -/
def plainField (key : String) (type : Ref) : String × Field := (key, { type })

/-- A field whose caller chooses whether deprecated elements are listed. -/
def deprecatableField (key : String) (type : Ref) : String × Field :=
  let choice : Argument :=
    { name := "includeDeprecated", type := boolean.ref, default := .bool false }
  (key, { type, args := [choice] })

/-- An enum in which every value stands for its own name. -/
def selfNamed (names : List String) : Body :=
  .enum (names.map fun name => { name, value := .text name })

/-- What a built-in type consists of. -/
def body : Builtin → Body
  | string | int | float | boolean | id => .scalar
  | schema => .objectOf
    [plainField "types" (.nonNull type.listed),
     plainField "queryType" type.required,
     plainField "mutationType" type.ref,
     plainField "subscriptionType" type.ref,
     plainField "directives" (.nonNull directive.listed)] []
  | directive => .objectOf
    [plainField "name" string.required,
     plainField "description" string.ref,
     plainField "locations" (.nonNull directiveLocation.listed),
     plainField "args" (.nonNull inputValue.listed)] []
  | directiveLocation => selfNamed directiveLocations
  | type => .objectOf
    [plainField "kind" typeKind.required,
     plainField "name" string.ref,
     plainField "description" string.ref,
     deprecatableField "fields" field.listed,
     plainField "interfaces" type.listed,
     plainField "possibleTypes" type.listed,
     deprecatableField "enumValues" enumValue.listed,
     plainField "inputFields" inputValue.listed,
     plainField "ofType" type.ref] []
  | field => .objectOf
    [plainField "name" string.required,
     plainField "description" string.ref,
     plainField "args" (.nonNull inputValue.listed),
     plainField "type" type.required,
     plainField "isDeprecated" boolean.required,
     plainField "deprecationReason" string.ref] []
  | inputValue => .objectOf
    [plainField "name" string.required,
     plainField "description" string.ref,
     plainField "type" type.required,
     plainField "defaultValue" string.ref] []
  | enumValue => .objectOf
    [plainField "name" string.required,
     plainField "description" string.ref,
     plainField "isDeprecated" boolean.required,
     plainField "deprecationReason" string.ref] []
  | typeKind => selfNamed (Kind.all.map Kind.name ++ ["LIST", "NON_NULL"])

/-- The definition of a built-in type. -/
def definition (b : Builtin) : TypeDef := { name := b.name, body := b.body }

/-- The built-in type with that name. -/
def ofName? (s : String) : Option Builtin :=
  all.find? fun b => b.name == s

end Builtin

namespace Specified

/-- The specified directives, in the order they are listed. -/
def all : List Specified := [inclusion, skipping, deprecation]

/-- A reference to the directive. -/
def ref (d : Specified) : Ref := .directive (.specified d)

/-- A directive on a selection, guarded by a condition. -/
def guard (name : String) : DirectiveDef :=
  { name
    locations := ["FIELD", "FRAGMENT_SPREAD", "INLINE_FRAGMENT"]
    args := [{ name := "if", type := Builtin.boolean.required }] }

/-- The definition of a specified directive. -/
def definition : Specified → DirectiveDef
  | inclusion => guard "include"
  | skipping => guard "skip"
  | deprecation =>
    { name := "deprecated"
      locations := ["FIELD_DEFINITION", "ENUM_VALUE"]
      args := [{ name := "reason", type := Builtin.string.ref,
                 default := .text defaultDeprecationReason }] }

/-- The specified directive with that name. -/
def ofName? (s : String) : Option Specified :=
  all.find? fun d => d.definition.name == s

end Specified

/-- Whether the type is one of those that describe schemas. -/
def TypeId.isIntrospection : TypeId → Bool
  | .builtin b => Builtin.introspection.contains b
  | .own _ => false

/-- Whether the reference is one of the types that describe schemas, unwrapped. -/
def Ref.isIntrospection (r : Ref) : Bool := r.typeId?.any TypeId.isIntrospection

end TypeGraph
