/-
Validation of a whole schema.

Validators are registered with a phase and run phase by phase, in the order of
registration within a phase.  They share a context, into which each reports what it
finds.  A schema is validated once: the verdict is kept, and asking again hands it
out.
-/
import TypeGraph.Check.Directive
import TypeGraph.Check.NamedType
import TypeGraph.Check.Root

namespace TypeGraph

/-- The phases of validation. -/
inductive Phase
  | rootTypes
  | directives
  | types
  deriving DecidableEq, Inhabited

namespace Phase

/-- The phases in the order they run. -/
def all : List Phase := [rootTypes, directives, types]

/-- The name under which a phase is listed. -/
def label : Phase → String
  | rootTypes => "ROOT_TYPES"
  | directives => "DIRECTIVES"
  | types => "TYPES"

/-- The phase with that label. -/
def ofLabel? (s : String) : Option Phase :=
  all.find? fun p => p.label == s

end Phase

/-- What validators share: a schema, the nodes of its elements, and what has been reported. -/
structure Context where
  schema : Schema
  locator : Locator
  reported : List Diagnostic := []
  deriving Inhabited

namespace Context

/-- A new context for a schema. -/
def ofSchema (S : Schema) : Context := { schema := S, locator := .ofSchema S }

variable (ctx : Context)

/-- What checks look at. -/
def scope : Scope := ⟨ctx.schema, ctx.locator⟩

/-- The context in which more has been reported. -/
def report (more : List Diagnostic) : Context :=
  { ctx with reported := ctx.reported ++ more }

/-- The context after a question: if the question took the index, the schema keeps it. -/
def keepingIndex (consulted : Bool) : Context :=
  { ctx with schema := ctx.schema.keepingIndex consulted }

end Context

/-- A named check that belongs to a phase.  It is handed a context and leaves it changed. -/
structure Validator where
  name : String
  phase : Phase
  check : Context → Context

namespace Validator

/-- A validator that reports what it finds in a schema; `consults` tells whether finding it takes
the index of implementations. -/
def finding (name : String) (phase : Phase) (find : Scope → List Diagnostic)
    (consults : Scope → Bool) : Validator :=
  ⟨name, phase, fun ctx => (ctx.report (find ctx.scope)).keepingIndex (consults ctx.scope)⟩

/-- The validator of root types. -/
def rootTypes : Validator := finding "root_types" .rootTypes Scope.checkRoots fun _ => false

/-- The validator of the type map. -/
def namedTypes : Validator := finding "named_types" .types Scope.checkTypes Scope.typesConsult

/-- The validator of directives. -/
def directives : Validator :=
  finding "directives" .directives Scope.checkDirectives fun _ => false

/-- The built-in validators, in the order they are registered. -/
def builtin : List Validator := [rootTypes, namedTypes, directives]

/-- A validator that reports one thing, whatever it is shown. -/
def stating (name : String) (phase : Phase) (text : String) : Validator :=
  ⟨name, phase, fun ctx => ctx.report [.stated text]⟩

/-- Runs validators one after the other. -/
def inTurn (validators : List Validator) (ctx : Context) : Context :=
  validators.foldl (fun ctx v => v.check ctx) ctx

/-- Runs the validators of one phase, in the order they are registered. -/
def runPhase (validators : List Validator) (ctx : Context) (phase : Phase) : Context :=
  inTurn (validators.filter fun v => v.phase = phase) ctx

/-- Runs all validators, phase by phase. -/
def run (validators : List Validator) (ctx : Context) : Context :=
  Phase.all.foldl (runPhase validators) ctx

end Validator

/-- A note on what validation did. -/
inductive LogEntry
  | reused (schema : String)
  | started (schema : String)
  | finished (count : Nat)
  deriving DecidableEq, Inhabited

namespace LogEntry

/-- How important a note is. -/
def level : LogEntry → String
  | reused _ | started _ => "DEBUG"
  | finished _ => "INFO"

/-- The wording of a note. -/
def message : LogEntry → String
  | reused schema => "Using cached validation result for " ++ schema
  | started schema => "Validating " ++ schema
  | finished count => "Schema validation produced " ++ toString count ++ " error(s)"

end LogEntry

/-- How strictly a schema is checked. -/
inductive Mode
  | strict
  | normal
  | none
  deriving DecidableEq, Inhabited

/-- The mode with that name. -/
def Mode.ofName? : String → Option Mode
  | "strict" => some .strict
  | "normal" => some .normal
  | "none" => some .none
  | _ => Option.none

/-- The answer to a request on a schema, what was noted down, and the schema afterwards. -/
structure Outcome (α : Type) where
  answer : α
  log : List LogEntry
  schema : Schema
  deriving Inhabited

/-- The same outcome with another answer. -/
def Outcome.map {α β : Type} (f : α → β) (o : Outcome α) : Outcome β :=
  ⟨f o.answer, o.log, o.schema⟩

namespace Schema

variable (S : Schema)

/-- What the validators find in the schema as it is, whatever verdict is kept. -/
def diagnose (validators : List Validator := Validator.builtin) : List Diagnostic :=
  (Validator.run validators (Context.ofSchema S)).reported

/-- The schema after the built-in validators have run. -/
def afterPass : Schema := (Validator.run Validator.builtin (Context.ofSchema S)).schema

/-- Validates afresh, noting the start and the end. -/
def freshPass : StateM (List LogEntry) (List Diagnostic) := do
  modify (· ++ [.started S.summary])
  let found := S.diagnose
  modify (· ++ [.finished found.length])
  return found

/-- The verdict of the schema: the one kept, or else that of a fresh pass, which is kept. -/
def validate : Outcome (List Diagnostic) :=
  let noted := if S.verdict.isFilled then [.reused S.summary] else []
  let ((verdict, cell), log) := (S.verdict.getOrCompute S.freshPass).run noted
  let after := if S.verdict.isFilled then S else S.afterPass
  ⟨verdict, log, { after with verdict := cell }⟩

/-- Accepts a verdict without diagnostics. -/
def acceptVerdict : List Diagnostic → Except Fault Unit
  | [] => .ok ()
  | verdict => .error (.invalid verdict)

/-- Refuses a schema that has diagnostics. -/
def assertValid : Outcome (Except Fault Unit) := S.validate.map acceptVerdict

/-- Checks a schema in a mode: strictly, by listing the verdict, or not at all. -/
def checkIn : Mode → Outcome (Except Fault (List Diagnostic))
  | .none => ⟨.ok [], [], S⟩
  | .strict => S.assertValid.map fun accepted => accepted.map fun _ => []
  | .normal => S.validate.map .ok

/-- Checks a schema in the mode of that name. -/
def check (mode : String) : Outcome (Except Fault (List Diagnostic)) :=
  match Mode.ofName? mode with
  | some m => S.checkIn m
  | none => ⟨.error (.unknownMode (Text.quoted mode)), [], S⟩

/-- Sets the verdict, unless there is one. -/
def setVerdict (verdict : List Diagnostic) : Schema :=
  { S with verdict := S.verdict.set verdict }

end Schema

/-- Validating something that is no schema is refused. -/
def validateOther (c : Catalog) (r : Ref) : Except Fault (List Diagnostic) :=
  .error (.notSchema (c.listing r))

end TypeGraph
