/-
Fields of objects and interfaces, and of input objects.

A field that was written more than once, in a definition and an extension, is
reported and not examined further.
-/
import TypeGraph.Check.Scope

namespace TypeGraph

open TypeGraph.Source

namespace Scope

variable (s : Scope)

/-! ### Arguments -/

/-- Reports an argument that cannot be passed in. -/
def checkArgumentType (owner field : String) (arg : Argument) : List Diagnostic :=
  if s.catalog.acceptsInput arg.type then []
  else
    [.pointing (.notInput (.argument owner field arg.name) (s.inspect arg.type))
      (s.locator.typeNode? (.ofArgument owner field arg.name)).toList]

/-- Reports a second argument of one name. -/
def repeatedArgument (owner field : String) (arg : Argument) : Diagnostic :=
  .pointing (.definedTwice (.argument owner field arg.name))
    (s.locator.nodes (.ofArgument owner field arg.name))

/-- Checks one argument, knowing whether its name came before. -/
def checkArgument (exempt : Bool) (owner field : String) (marked : Argument × Bool) :
    List Diagnostic :=
  s.checkName exempt marked.1.name (marked.1.node.map Node.input) ++
    if marked.2 then [s.repeatedArgument owner field marked.1]
    else s.checkArgumentType owner field marked.1

/-- Checks the arguments of a field. -/
def checkArguments (exempt : Bool) (owner field : String) (args : List Argument) :
    List Diagnostic :=
  (markRepeats (fun arg => some arg.name) args).flatMap (s.checkArgument exempt owner field)

/-! ### Fields -/

/-- Reports a field whose type cannot be returned. -/
def checkOutput (owner field : String) (type : Ref) : List Diagnostic :=
  if s.catalog.isOutput type then []
  else
    [.pointing (.notOutput (.field owner field) (s.inspect type))
      (s.locator.typeNode? (.ofField owner field)).toList]

/-- Checks what one field is made of, or reports that it was written more than once. -/
def checkFieldContent (exempt : Bool) (owner field : String) (f : Field) : List Diagnostic :=
  let nodes := s.locator.nodes (.ofField owner field)
  if 1 < nodes.length then [.pointing (.definedTwice (.field owner field)) nodes]
  else s.checkOutput owner field f.type ++ s.checkArguments exempt owner field f.args

/-- Checks one field under its key. -/
def checkField (exempt : Bool) (owner : String) (entry : String × Field) : List Diagnostic :=
  s.checkName exempt entry.1 (entry.2.node.map SlotNode.toNode) ++
    s.checkFieldContent exempt owner entry.1 entry.2

/-- The nodes of a type, by its name. -/
def typeNodes (t : TypeDef) : List Node := s.locator.nodes (.ofType (some t.name))

/-- Reports a type without fields. -/
def checkHasFields (t : TypeDef) : List Diagnostic :=
  if t.fields.isEmpty then [.pointing (.noFields t.name) (s.typeNodes t)] else []

/-- Checks the fields of an object or interface. -/
def checkFields (id : TypeId) : List Diagnostic :=
  let t := s.catalog.typeDef id
  s.checkHasFields t ++ t.fields.entries.flatMap (s.checkField id.isIntrospection t.name)

/-! ### Fields of input objects -/

/-- Reports a field that cannot be passed in. -/
def checkInput (owner field : String) (type : Ref) : List Diagnostic :=
  if s.catalog.acceptsInput type then []
  else
    [.pointing (.notInput (.field owner field) (s.inspect type))
      (s.locator.typeNode? (.ofField owner field)).toList]

/-- Checks one input field under its key. -/
def checkInputField (exempt : Bool) (owner : String) (entry : String × Field) : List Diagnostic :=
  s.checkName exempt entry.1 (entry.2.node.map SlotNode.toNode) ++
    s.checkInput owner entry.1 entry.2.type

/-- Reports an input object without fields. -/
def checkHasInputFields (t : TypeDef) : List Diagnostic :=
  if t.fields.isEmpty then [.pointing (.noInputFields t.name) (s.typeNodes t)] else []

/-- Checks the fields of an input object. -/
def checkInputObject (id : TypeId) : List Diagnostic :=
  let t := s.catalog.typeDef id
  s.checkHasInputFields t ++
    t.fields.entries.flatMap (s.checkInputField id.isIntrospection t.name)

end Scope

end TypeGraph
