/-
References and values as text.

Three renderings.  `display` is the plain one: a type by its name, wrappers as they
are written in a schema document, a text as it stands.  `listing` is for a value
inside a larger one: texts are quoted, types say their kind, and a directive or an
element on its own lists all its parts, the node it was written at among them.
`inspect` is what diagnostics show: types and directives displayed, elements and plain
values listed.

A directive or element may come to be listed inside itself, if it has a type or value
that leads back to it.  What is being listed already is not listed again: dots stand in
its place.
-/
import TypeGraph.Catalog
import TypeGraph.Decimal.Layout
import TypeGraph.Source.Listing

namespace TypeGraph

open TypeGraph.Source

/-- The text of a Boolean. -/
def boolText (b : Bool) : String := if b then "True" else "False"

namespace Value

variable (c : Catalog) (showBearer : Bearer → String)

mutual

/-- The value as it is shown inside a larger one; `showBearer` lists directives and elements. -/
def listing : Value → String
  | null => "None"
  | bool b => boolText b
  | int i => toString i
  | float x => x.text
  | text s => Text.quoted s
  | list items => Text.bracketed (listingItems items)
  | record entries => "\x7b" ++ ", ".intercalate (listingEntries entries) ++ "\x7d"
  | type id => "<" ++ (c.typeDef id).kind.label ++ " " ++ Text.quoted (c.typeDef id).name ++ ">"
  | directive id => showBearer (.directive id)
  | element i => showBearer (.element i)
  | listOf inner => Text.assembled "ListOf" [("of_type", listing inner)]
  | nonNull inner => Text.assembled "NonNull" [("of_type", listing inner)]

/-- The items of a list. -/
def listingItems : List Value → List String
  | [] => []
  | v :: rest => listing v :: listingItems rest

/-- The entries of a record, key before value. -/
def listingEntries : List (String × Value) → List String
  | [] => []
  | (key, v) :: rest => (Text.quoted key ++ ": " ++ listing v) :: listingEntries rest

end

/-- The value on its own: a text stands without quote marks. -/
def display : Value → String
  | text s => s
  | type id => (c.typeDef id).name
  | listOf inner => "[" ++ display inner ++ "]"
  | nonNull inner => display inner ++ "!"
  | directive id => "@" ++ (c.directiveDef id).name
  | v => listing c showBearer v

/-- What sort of plain value this is. -/
def sortName : Value → String
  | null => "NoneType"
  | bool _ => "bool"
  | int _ => "int"
  | float _ => "float"
  | text _ => "str"
  | list _ => "list"
  | record _ => "dict"
  | type id => (c.typeDef id).kind.label
  | directive _ => "Directive"
  | element i => (c.element i).title
  | listOf _ => "ListOf"
  | nonNull _ => "NonNull"

end Value

namespace Catalog

variable (c : Catalog)

/-- The value a reference stands for, as an item of a list. -/
def valueOf : Ref → Value
  | .named id => .type id
  | .list inner => .listOf (valueOf inner)
  | .nonNull inner => .nonNull (valueOf inner)
  | .directive id => .directive id
  | .element i => .element i
  | .null => .null
  | .bool b => .bool b
  | .infinity negative => .float (.infinite negative)
  | .notANumber => .float .notANumber
  | .value n => c.value n

/-! ### References as text -/

/-- What is being listed already. -/
structure Listed where
  bearers : List Bearer := []
  values : List Nat := []

section Parts

variable (showBearer : Listed → Bearer → String) (listed : Listed)

/-- The reference as it is shown inside a larger value; `showBearer` lists directives and
elements. -/
def refListing : Ref → String
  | .list inner => Text.assembled "ListOf" [("of_type", refListing inner)]
  | .nonNull inner => Text.assembled "NonNull" [("of_type", refListing inner)]
  | .value n =>
    if n ∈ listed.values then "[...]"
    else (c.value n).listing c (showBearer { listed with values := n :: listed.values })
  | r => (c.valueOf r).listing c (showBearer listed)

/-- An argument as it is listed. -/
def argumentListing (arg : Argument) : String :=
  Text.assembled "Argument"
    [("name", Text.quoted arg.name), ("type", c.refListing showBearer listed arg.type),
     ("default_value", arg.default.listing c (showBearer listed)),
     ("ast_node", Text.orNone InputNode.listing arg.node)]

/-- The parts of a directive as they are listed. -/
def directiveListing (d : DirectiveDef) : String :=
  Text.assembled "Directive"
    [("name", Text.quoted d.name), ("locations", Text.bracketed (d.locations.map Text.quoted)),
     ("args", Text.bracketed (d.args.map (c.argumentListing showBearer listed))),
     ("ast_node", Text.orNone DirectiveNode.listing d.node)]

/-- The parts of an element as they are listed. -/
def elementListing : Element → String
  | .argument arg => c.argumentListing showBearer listed arg
  | .field f =>
    Text.assembled "Field"
      [("type", c.refListing showBearer listed f.type),
       ("args", Text.bracketed (f.args.map (c.argumentListing showBearer listed))),
       ("ast_node", Text.orNone SlotNode.listing f.node), ("name", Text.orNone Text.quoted f.label)]
  | .inputField f =>
    Text.assembled "InputField"
      [("type", c.refListing showBearer listed f.type),
       ("default_value", f.default.listing c (showBearer listed)),
       ("ast_node", Text.orNone InputNode.listing f.node),
       ("name", Text.orNone Text.quoted f.label)]
  | .enumValue value =>
    Text.assembled "EnumValue"
      [("name", Text.quoted value.name), ("value", value.value.listing c (showBearer listed)),
       ("ast_node", Text.orNone ValueNode.listing value.node)]

end Parts

/-- A directive or element as it is listed.  The depth bounds how many of them are listed inside
each other; they all differ. -/
def bearerListing : Nat → Listed → Bearer → String
  | 0, _, _ => "..."
  | depth + 1, listed, b =>
    if b ∈ listed.bearers then "..."
    else
      let inside := { listed with bearers := b :: listed.bearers }
      match b with
      | .directive id => c.directiveListing (bearerListing depth) inside (c.directiveDef id)
      | .element i => c.elementListing (bearerListing depth) inside (c.element i)

/-- No more directives and elements than the catalog knows are listed inside each other. -/
def bearerDepth : Nat := c.directives.size + Specified.all.length + c.elements.size + 1

/-- The reference as it is shown inside a larger value. -/
def listing (r : Ref) : String := c.refListing (c.bearerListing c.bearerDepth) {} r

/-- The reference on its own: a type as it is written in a schema document. -/
def display : Ref → String
  | .named id => (c.typeDef id).name
  | .list inner => "[" ++ display inner ++ "]"
  | .nonNull inner => display inner ++ "!"
  | .directive id => "@" ++ (c.directiveDef id).name
  | .element i => c.bearerListing c.bearerDepth {} (.element i)
  | .null => "None"
  | .bool b => boolText b
  | .infinity negative => (Decimal.Binary64.infinite negative).text
  | .notANumber => Decimal.Binary64.notANumber.text
  | .value n => (c.value n).display c (c.bearerListing c.bearerDepth { values := [n] })

/-- The reference as a diagnostic shows it. -/
def inspect : Ref → String
  | .value n => c.listing (.value n)
  | r => c.display r

/-! ### Equality by content -/

section Parts

variable (sameBearer : Bearer → Bearer → Bool)

/-- Whether two references stand for the same value. -/
def sameRef (a b : Ref) : Bool := (c.valueOf a).same sameBearer (c.valueOf b)

/-- Whether two arguments agree in every part.  A node belongs to one argument only. -/
def sameArgument (a b : Argument) : Bool :=
  a.name == b.name && c.sameRef sameBearer a.type b.type &&
    a.default.same sameBearer b.default && a.node.isNone && b.node.isNone

/-- Whether two argument lists agree in order. -/
def sameArguments (as bs : List Argument) : Bool :=
  as.length == bs.length && (as.zip bs).all fun pair => c.sameArgument sameBearer pair.1 pair.2

/-- Whether two directives agree in every part without bearing a node. -/
def sameDirective (a b : DirectiveDef) : Bool :=
  a.name == b.name && a.locations == b.locations && c.sameArguments sameBearer a.args b.args &&
    a.node.isNone && b.node.isNone

/-- Whether two elements are of one sort and agree in every part without bearing a node. -/
def sameElement : Element → Element → Bool
  | .argument a, .argument b => c.sameArgument sameBearer a b
  | .field f, .field g =>
    c.sameRef sameBearer f.type g.type && c.sameArguments sameBearer f.args g.args &&
      f.node.isNone && g.node.isNone && f.label == g.label
  | .inputField f, .inputField g =>
    c.sameRef sameBearer f.type g.type && f.default.same sameBearer g.default &&
      f.node.isNone && g.node.isNone && f.label == g.label
  | .enumValue v, .enumValue w =>
    v.name == w.name && v.value.same sameBearer w.value && v.node.isNone && w.node.isNone
  | _, _ => false

end Parts

/-- Whether two directives or elements are one, or agree in every part without bearing a node.
The depth bounds how far they are followed into each other. -/
def sameBearer : Nat → Bearer → Bearer → Bool
  | 0, a, b => decide (a = b)
  | depth + 1, a, b =>
    decide (a = b) ||
      match a, b with
      | .directive d, .directive e =>
        c.sameDirective (sameBearer depth) (c.directiveDef d) (c.directiveDef e)
      | .element i, .element j => c.sameElement (sameBearer depth) (c.element i) (c.element j)
      | _, _ => false

/-- Equality by content: named types by identity, wrappers by what they wrap, plain values,
directives and elements by their parts.  On its own, what is not a number equals nothing, itself
included. -/
def sameContent (a b : Ref) : Bool :=
  !(c.valueOf a).isNotANumber && c.sameRef (c.sameBearer c.bearerDepth) a b

end Catalog

end TypeGraph
