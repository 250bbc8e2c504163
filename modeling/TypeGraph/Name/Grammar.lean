/-
The grammar of names.

A name is an ASCII letter or underscore followed by any number of letters, digits
and underscores.  Names that begin with two underscores are kept for
introspection; that is tested first, so such a name is called reserved also when
the rest of it breaks the grammar.
-/
namespace TypeGraph

/-- What is wrong with a name. -/
inductive NameFlaw
  | reserved (name : String)
  | malformed (name : String)
  deriving DecidableEq, Inhabited

namespace NameFlaw

/-- The name that has the flaw. -/
def name : NameFlaw → String
  | reserved name => name
  | malformed name => name

/-- What is reported. -/
def message : NameFlaw → String
  | reserved name =>
    "Name \"" ++ name ++
      "\" must not begin with \"__\", which is reserved by GraphQL introspection."
  | malformed name => "Names must match /^[_a-zA-Z][_a-zA-Z0-9]*$/ but \"" ++ name ++ "\" does not."

end NameFlaw

namespace Name

/-- Whether a character may begin a name. -/
def isStart (c : Char) : Bool := c == '_' || c.isAlpha

/-- Whether a character may stand inside a name. -/
def isPart (c : Char) : Bool := isStart c || c.isDigit

/-- Whether the characters form a name. -/
def matchesGrammar : List Char → Bool
  | [] => false
  | c :: rest => isStart c && rest.all isPart

/-- Whether the characters begin with two underscores. -/
def isReserved : List Char → Bool
  | '_' :: '_' :: _ => true
  | _ => false

/-- The flaw of a name, if it has one. -/
def flaw? (name : String) : Option NameFlaw :=
  if isReserved name.toList then some (.reserved name)
  else if matchesGrammar name.toList then none
  else some (.malformed name)

end Name

end TypeGraph
