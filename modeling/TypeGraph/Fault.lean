/-
Requests that cannot be answered.

A broken schema is no fault: validation describes it.  A fault is a request that
makes no sense, a catalog that cannot be made into a schema, or a strict request
for a schema that has diagnostics.
-/
import TypeGraph.Diagnostic

namespace TypeGraph

/-- Why a request was refused. -/
inductive Fault
  | nameNotText (sort : String)
  | badName (flaw : NameFlaw)
  | noAlternatives
  | ambiguousName (name : String)
  | notSchema (shown : String)
  | unknownMode (shown : String)
  | invalid (diagnostics : List Diagnostic)
  deriving DecidableEq, Inhabited

/-- The wording of a refusal. -/
def Fault.message : Fault → String
  | nameNotText sort => "Expected name to be a string, got " ++ sort
  | badName flaw => flaw.message
  | noAlternatives => "or_list requires at least one item"
  | ambiguousName name =>
    "Schema must contain unique named types but contains multiple types named \"" ++ name ++ "\"."
  | notSchema shown => "Expected " ++ shown ++ " to be a Schema."
  | unknownMode shown => "Unknown validation mode: " ++ shown
  | invalid diagnostics => Diagnostic.summary diagnostics

end TypeGraph
