/-
  Repunits.Pair
  ────────────────────────────────
  **Sum, product, difference and floor division of a pair of integers.**

  Integers are 64-bit words. A result outside their range is a fault that
  names the operation. Floor division rounds the quotient down, so the
  remainder has the sign of the divisor; it is truncating division,
  corrected by one where the remainder is not zero and its sign differs
  from the divisor's.
-/
import Repunits.Fault

namespace Repunits

/-! ## §1. Floor division. -/

/-- Quotient and remainder of floor division. Besides a zero divisor only the least integer
divided by minus one is refused, since its quotient has no place in the range. -/
def floorDivRem (a b : Int64) : Except Fault (Int64 × Int64) :=
  if b = 0 then .error .divisionByZero
  else if a = Int64.minValue ∧ b = -1 then .error (.overflow (.result .quotient a b))
  else
    let q := a / b
    let r := a % b
    if r ≠ 0 ∧ (decide (r < 0) != decide (b < 0)) then .ok (q - 1, r + b) else .ok (q, r)

/-! ## §2. Everything about one pair. -/

/-- The exact value of an operation on two integers, if it is in range. -/
def fit (op : Operation) (a b : Int64) (exact : Int) : Except Fault Int64 :=
  if Int64.minValue.toInt ≤ exact ∧ exact ≤ Int64.maxValue.toInt then .ok (Int64.ofInt exact)
  else .error (.overflow (.result op a b))

/-- A pair with its sum, product, difference, floor quotient and remainder. -/
structure PairSummary where
  a : Int64
  b : Int64
  sum : Int64
  product : Int64
  difference : Int64
  quotient : Int64
  remainder : Int64
deriving DecidableEq

/-- Works out a pair. The operations are tried in the order sum, product, difference, division,
and the first that fails gives the fault. -/
def PairSummary.of (a b : Int64) : Except Fault PairSummary := do
  let sum ← fit .sum a b (a.toInt + b.toInt)
  let product ← fit .product a b (a.toInt * b.toInt)
  let difference ← fit .difference a b (a.toInt - b.toInt)
  let (quotient, remainder) ← floorDivRem a b
  return { a, b, sum, product, difference, quotient, remainder }

end Repunits
