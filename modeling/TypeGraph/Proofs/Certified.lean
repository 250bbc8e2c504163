/-
What a schema without diagnostics is.

`Certified` says it without a word about diagnostics or the order of checks.  The
rules for one element never mention whether another element was examined: a field
that was written twice, say, is wrong because of that, and its type and arguments
have to be right all the same.
-/
import TypeGraph.Check.Scope
import TypeGraph.Subtype

namespace TypeGraph

namespace Schema

variable (S : Schema)

/-! ### Names -/

/-- The grammar allows the name, or the schema's list of legacy names does. -/
def NameOk (name : String) : Prop :=
  name ∈ S.legacyNames ∨ Name.flaw? name = none

/-- The name of a type, or of something it owns.  The types that describe schemas are exempt. -/
def OwnNameOk (id : TypeId) (name : String) : Prop :=
  id.isIntrospection = true ∨ S.NameOk name

/-! ### Arguments and fields -/

/-- Arguments with proper names, no two alike, of types that can be passed in. -/
structure ArgumentsOk (nameOk : String → Prop) (args : List Argument) : Prop where
  names : ∀ arg ∈ args, nameOk arg.name
  distinct : (args.map Argument.name).Nodup
  inputs : ∀ arg ∈ args, S.catalog.acceptsInput arg.type = true

/-- A field of an object or interface: written at most once, of a type that can be returned. -/
structure FieldOk (id : TypeId) (key : String) (f : Field) : Prop where
  name : S.OwnNameOk id key
  once : ((Locator.ofSchema S).nodes (.ofField (S.catalog.typeDef id).name key)).length ≤ 1
  output : S.catalog.isOutput f.type = true
  arguments : S.ArgumentsOk (S.OwnNameOk id) f.args

/-- The fields of an object or interface. -/
structure FieldsOk (id : TypeId) : Prop where
  nonempty : (S.catalog.typeDef id).fields.entries ≠ []
  each : ∀ key f, (key, f) ∈ (S.catalog.typeDef id).fields.entries → S.FieldOk id key f

/-- The fields of an input object, of types that can be passed in. -/
structure InputFieldsOk (id : TypeId) : Prop where
  nonempty : (S.catalog.typeDef id).fields.entries ≠ []
  names : ∀ key f, (key, f) ∈ (S.catalog.typeDef id).fields.entries → S.OwnNameOk id key
  inputs : ∀ key f, (key, f) ∈ (S.catalog.typeDef id).fields.entries →
    S.catalog.acceptsInput f.type = true

/-! ### Interfaces -/

/-- A field keeps what the interface's field of that name promises. -/
structure Keeps (given expected : Field) : Prop where
  /-- It returns the promised type or a more specific one. -/
  type : S.isSubtype given.type expected.type = true
  /-- It takes the promised arguments, with the very types. -/
  takes : ∀ arg ∈ expected.args, ∃ own ∈ given.args,
    own.name = arg.name ∧ arg.type.sameType own.type = true
  /-- Its other arguments can be left out. -/
  optional : ∀ own ∈ given.args, own.name ∉ expected.args.map Argument.name →
    own.type.isNonNull = false

/-- An object has every field of an interface and keeps what it promises. -/
def Conforms (object interface : TypeDef) : Prop :=
  ∀ key expected, (key, expected) ∈ interface.fields.entries →
    ∃ given, object.fields.get? key = some given ∧ S.Keeps given expected

/-- The claims of an object: of interfaces, no two of one name, and all of them met. -/
structure ClaimsOk (id : TypeId) : Prop where
  kinds : ∀ r ∈ (S.catalog.typeDef id).interfaces, S.catalog.isKind .interface r = true
  distinct : ((S.catalog.typeDef id).interfaces.filterMap S.catalog.name?).Nodup
  met : ∀ i, .named i ∈ (S.catalog.typeDef id).interfaces →
    S.Conforms (S.catalog.typeDef id) (S.catalog.typeDef i)

/-! ### Members and values -/

/-- The members of a union of either form: of the kind it takes, no two of one name. -/
structure MembersOk (kind : Kind) (id : TypeId) : Prop where
  nonempty : (S.catalog.typeDef id).members ≠ []
  kinds : ∀ r ∈ (S.catalog.typeDef id).members, S.catalog.isKind kind r = true
  distinct : ((S.catalog.typeDef id).members.filterMap S.catalog.name?).Nodup

/-- A value of an enum: written at most once, and not a word with a meaning of its own. -/
structure ValueOk (id : TypeId) (v : EnumValue) : Prop where
  name : S.OwnNameOk id v.name
  once : ((Locator.ofSchema S).nodes (.ofValue (S.catalog.typeDef id).name v.name)).length ≤ 1
  unreserved : v.name ∉ ["true", "false", "null"]

/-- The values of an enum. -/
structure ValuesOk (id : TypeId) : Prop where
  nonempty : (S.catalog.typeDef id).values ≠ []
  each : ∀ v ∈ (S.catalog.typeDef id).values, S.ValueOk id v

/-! ### Types, directives, schemas -/

/-- What each kind of type asks for; of a scalar nothing but its name is asked. -/
def BodyOk (id : TypeId) : Prop :=
  match (S.catalog.typeDef id).kind with
  | .scalar => True
  | .object => S.FieldsOk id ∧ S.ClaimsOk id
  | .interface => S.FieldsOk id
  | .union => S.MembersOk .object id
  | .inputUnion => S.MembersOk .inputObject id
  | .enum => S.ValuesOk id
  | .inputObject => S.InputFieldsOk id

/-- A named type. -/
structure TypeOk (id : TypeId) : Prop where
  name : S.OwnNameOk id (S.catalog.typeDef id).name
  body : S.BodyOk id

/-- A directive. -/
structure DirectiveOk (d : DirectiveDef) : Prop where
  name : S.NameOk d.name
  arguments : S.ArgumentsOk S.NameOk d.args

/-- A root that may be left out: null or an object. -/
def RootOk (r : Ref) : Prop := r = .null ∨ S.catalog.isKind .object r = true

/-- A schema in which every root, directive and type is as it should be. -/
structure Certified : Prop where
  query : S.catalog.isKind .object S.query = true
  mutation : S.RootOk S.mutation
  subscription : S.RootOk S.subscription
  directives : ∀ r ∈ S.directives,
    ∃ id, r = .directive id ∧ S.DirectiveOk (S.catalog.directiveDef id)
  types : ∀ id, .named id ∈ S.types → S.TypeOk id

end Schema

end TypeGraph
