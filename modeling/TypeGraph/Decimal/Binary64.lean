/-
Binary floating point with 53 bits of significand.

A finite number is `± significand · 2 ^ exponent`, kept in the one form the format
allows: the significand has at most 53 bits, and fewer than 53 only at the least
exponent.  `ofDecimal` reads a decimal exactly as the format defines it: the
nearest representable number, ties to the even significand, too large a value to
infinity.  Beside these the format has one value that is not a number.
-/
namespace TypeGraph.Decimal

/-- A value of the format; a zero keeps its sign. -/
inductive Binary64
  | finite (negative : Bool) (significand : Nat) (exponent : Int)
  | infinite (negative : Bool)
  | notANumber
  deriving DecidableEq, Inhabited

/-- The exponent of the smallest numbers of the format. -/
def leastExponent : Int := -1074

/-- The least significand with all its digits, `2 ^ 52`. -/
def leastNormal : Nat := Nat.pow 2 52

/-- Quotient to the nearest whole number, a half to the even one. -/
def roundDiv (num den : Nat) : Nat :=
  let quotient := num / den
  let twice := 2 * (num % den)
  if twice < den then quotient
  else if den < twice then quotient + 1
  else quotient + quotient % 2

/-- `n · b ^ e` over a denominator, for an exponent of either sign. -/
def scaled (n b : Nat) (e : Int) : Nat × Nat :=
  if 0 ≤ e then (n * b.pow e.toNat, 1) else (n, b.pow (-e).toNat)

/-- The greatest `e` with `2 ^ e ≤ num / den`, for a positive quotient. -/
def floorLog2 (num den : Nat) : Int :=
  let guess : Int := (num.log2 : Int) - (den.log2 : Int)
  let low := scaled den 2 guess
  if low.1 ≤ num * low.2 then guess else guess - 1

namespace Binary64

/-- The nearest number to `num / den`, both positive. -/
def ofRatio (negative : Bool) (num den : Nat) : Binary64 :=
  let exponent := max (floorLog2 num den - 52) leastExponent
  let grid := scaled 1 2 exponent
  let significand := roundDiv (num * grid.2) (den * grid.1)
  let carried := significand = 2 * leastNormal
  let exponent := if carried then exponent + 1 else exponent
  let significand := if carried then leastNormal else significand
  if 971 < exponent then .infinite negative else .finite negative significand exponent

/-- The nearest number to `digits · 10 ^ exponent`.  Far outside the format's range the
answer is zero or infinity without computing the power. -/
def ofDecimal (negative : Bool) (digits : Nat) (exponent : Int) : Binary64 :=
  let magnitude := ((Nat.toDigits 10 digits).length : Int) + exponent
  if digits = 0 ∨ magnitude < -400 then .finite negative 0 leastExponent
  else if 400 < magnitude then .infinite negative
  else
    let ratio := scaled digits 10 exponent
    ofRatio negative ratio.1 ratio.2

end Binary64

end TypeGraph.Decimal
