/-
The layout of a floating-point number as text.

The digits come from `shortest`; this file only decides where the point goes.  A
number whose leading digit stands at `10 ^ -4` up to `10 ^ 15` is written
positionally and keeps at least one decimal place, so that it can be told from a
whole number; any other has an exponent of at least two digits with its sign.
-/
import TypeGraph.Decimal.Shortest
import TypeGraph.Text.Quoted

namespace TypeGraph.Decimal

/-- Digits with the point after the first `point` of them, zeros filled in on either side. -/
def positional (digits : List Char) (point : Int) : List Char :=
  if point ≤ 0 then '0' :: '.' :: (List.replicate (-point).toNat '0' ++ digits)
  else
    let whole := digits.take point.toNat
    let places := digits.drop point.toNat
    whole ++ List.replicate (point.toNat - whole.length) '0' ++
      '.' :: (if places.isEmpty then ['0'] else places)

/-- Digits with the point after the first one and the power of ten behind. -/
def withExponent (digits : List Char) (exponent : Int) : List Char :=
  let places := digits.drop 1
  digits.take 1 ++ (if places.isEmpty then [] else '.' :: places) ++
    'e' :: (if exponent < 0 then '-' else '+') :: Text.padLeft 2 (Nat.toDigits 10 exponent.natAbs)

/-- The text of an unsigned decimal. -/
def Scientific.layout (s : Scientific) : List Char :=
  let digits := Nat.toDigits 10 s.digits
  let point := (digits.length : Int) + s.exponent
  if -4 < point ∧ point ≤ 16 then positional digits point else withExponent digits (point - 1)

/-- The text of a value of the format. -/
def Binary64.text : Binary64 → String
  | .finite negative m q =>
    String.ofList ((if negative then ['-'] else []) ++ (shortest m q).layout)
  | .infinite negative => if negative then "-inf" else "inf"
  | .notANumber => "nan"

end TypeGraph.Decimal
