/-
A choice in words: "A", "A or B", "A, B, or C".
-/
import TypeGraph.Fault

namespace TypeGraph.Choice

/-- How many alternatives are named at most. -/
def maxShown : Nat := 5

/-- The alternatives in words, the first few of them.  Without any alternative there is nothing
to say, and the request is refused. -/
def phrase (items : List String) : Except Fault String :=
  match items.take maxShown with
  | [] => .error .noAlternatives
  | [a] => .ok a
  | [a, b] => .ok (a ++ " or " ++ b)
  | a :: b :: c :: rest =>
    let shown := a :: b :: c :: rest
    .ok (", ".intercalate shown.dropLast ++ ", or " ++ shown.getLastD "")

/-- The alternatives in words, each in double quote marks. -/
def quotedPhrase (items : List String) : Except Fault String :=
  phrase (items.map fun item => "\"" ++ item ++ "\"")

end TypeGraph.Choice
