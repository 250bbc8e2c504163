/-
Plain values.

Defaults of arguments, values of enums, and whatever a schema holds where a type
was expected.  A list may hold types, directives and elements of definitions beside
plain values, so those are values as well.
-/
import TypeGraph.Decimal.Binary64
import TypeGraph.Ref

namespace TypeGraph

open TypeGraph.Decimal (Binary64)

/-- A plain value.  The entries of a record keep their order. -/
inductive Value
  | null
  | bool (b : Bool)
  | int (i : Int)
  | float (x : Binary64)
  | text (s : String)
  | list (items : List Value)
  | record (entries : List (String × Value))
  | type (id : TypeId)
  | directive (id : DirectiveId)
  | element (index : Nat)
  | listOf (inner : Value)
  | nonNull (inner : Value)
  deriving Inhabited

/-- A number by its exact worth: `mantissa · 2 ^ exponent`, or an infinity. -/
inductive Number
  | dyadic (mantissa exponent : Int)
  | infinite (negative : Bool)

/-- Whether two numbers are worth the same. -/
def Number.sameWorth : Number → Number → Bool
  | .dyadic m p, .dyadic n q =>
    if p ≤ q then m == n * Int.pow 2 (q - p).toNat else m * Int.pow 2 (p - q).toNat == n
  | .infinite s, .infinite t => s == t
  | _, _ => false

namespace Value

/-- The number a value stands for: a Boolean counts as zero or one. -/
def number? : Value → Option Number
  | bool b => some (.dyadic (if b then 1 else 0) 0)
  | int i => some (.dyadic i 0)
  | float (.finite negative m q) => some (.dyadic (if negative then -(m : Int) else m) q)
  | float (.infinite negative) => some (.infinite negative)
  | _ => none

/-- Whether the value is the one that is not a number. -/
def isNotANumber : Value → Bool
  | float .notANumber => true
  | _ => false

/-- Whether two values are numbers of the same worth. -/
def sameNumber (a b : Value) : Bool :=
  match a.number?, b.number? with
  | some x, some y => x.sameWorth y
  | _, _ => false

mutual

/-- Equality of two parts at the same place of larger values.  Numbers are compared by worth,
lists in order, records without regard to order, types by identity; `sameBearer` compares
directives and elements.  The value that is not a number has no worth, but it is one value. -/
def same (sameBearer : Bearer → Bearer → Bool) : Value → Value → Bool
  | null, null => true
  | text s, text t => s == t
  | float .notANumber, float .notANumber => true
  | list xs, list ys => sameItems sameBearer xs ys
  | record xs, record ys => xs.length == ys.length && sameEntries sameBearer xs ys
  | type i, type j => decide (i = j)
  | directive d, directive e => sameBearer (.directive d) (.directive e)
  | element i, element j => sameBearer (.element i) (.element j)
  | listOf a, listOf b => same sameBearer a b
  | nonNull a, nonNull b => same sameBearer a b
  | a, b => a.sameNumber b

/-- Equality of two lists, item by item. -/
def sameItems (sameBearer : Bearer → Bearer → Bool) : List Value → List Value → Bool
  | [], [] => true
  | x :: xs, y :: ys => same sameBearer x y && sameItems sameBearer xs ys
  | _, _ => false

/-- Whether every entry of the first record has an equal one in the second. -/
def sameEntries (sameBearer : Bearer → Bearer → Bool) :
    List (String × Value) → List (String × Value) → Bool
  | [], _ => true
  | (key, x) :: xs, ys =>
    (match ys.lookup key with
      | some y => same sameBearer x y
      | none => false) && sameEntries sameBearer xs ys

end

end Value

end TypeGraph
