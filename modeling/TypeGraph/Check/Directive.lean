/-
Directives: each has a proper name, and distinct arguments of input types.
-/
import TypeGraph.Check.Scope

namespace TypeGraph

open TypeGraph.Source

namespace Scope

variable (s : Scope)

/-- Reports an argument that cannot be passed in. -/
def checkDirectiveArgumentType (directive : String) (arg : Argument) : List Diagnostic :=
  if s.catalog.acceptsInput arg.type then []
  else
    [.pointing (.notInput (.directiveArgument directive arg.name) (s.inspect arg.type))
      (s.locator.typeNode? (.ofDirectiveArgument directive arg.name)).toList]

/-- Reports a second argument of one name. -/
def repeatedDirectiveArgument (directive : String) (arg : Argument) : Diagnostic :=
  .pointing (.definedTwice (.directiveArgument directive arg.name))
    (s.locator.nodes (.ofDirectiveArgument directive arg.name))

/-- Checks one argument, knowing whether its name came before. -/
def checkDirectiveArgument (directive : String) (marked : Argument × Bool) : List Diagnostic :=
  s.checkName false marked.1.name (marked.1.node.map Node.input) ++
    if marked.2 then [s.repeatedDirectiveArgument directive marked.1]
    else s.checkDirectiveArgumentType directive marked.1

/-- Checks the name and the arguments of a directive definition. -/
def checkDirectiveDef (d : DirectiveDef) : List Diagnostic :=
  s.checkName false d.name (d.node.map Node.directive) ++
    (markRepeats (fun arg => some arg.name) d.args).flatMap (s.checkDirectiveArgument d.name)

/-- Checks one element of the list of directives. -/
def checkDirective : Ref → List Diagnostic
  | .directive id => s.checkDirectiveDef (s.catalog.directiveDef id)
  | r => [.pointing (.notDirective (s.inspect r)) (s.catalog.node? r).toList]

/-- Checks the directives in the order they are registered. -/
def checkDirectives : List Diagnostic :=
  s.schema.directives.flatMap s.checkDirective

end Scope

end TypeGraph
