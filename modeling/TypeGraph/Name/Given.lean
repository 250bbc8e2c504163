/-
Names given as values: only a text can be a name.
-/
import TypeGraph.Fault
import TypeGraph.Inspect

namespace TypeGraph.Name

/-- The text of a name, refused if the value is none. -/
def textOf : Value → Except Fault String
  | .text name => .ok name
  | v => .error (.nameNotText (v.sortName {}))

/-- The flaw of a given name, if it has one. -/
def flawOf (v : Value) : Except Fault (Option NameFlaw) :=
  (textOf v).map flaw?

/-- The given name itself, refused if it has a flaw. -/
def assertValid (v : Value) : Except Fault String := do
  let name ← textOf v
  match flaw? name with
  | some flaw => .error (.badName flaw)
  | none => .ok name

end TypeGraph.Name
