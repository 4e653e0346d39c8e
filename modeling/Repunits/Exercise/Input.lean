/-
  Repunits.Exercise.Input
  ────────────────────────────────
  **Reading the input of the exercises.**

  Both inputs are words between blanks. The repunit exercise reads the
  number of divisors and then the divisors; words after the last of them
  count for nothing. The pair exercise reads integers two by two to the
  end of the text. Of several bad words the leftmost is reported.
-/
import Repunits.Fault
import Repunits.Text.Blank
import Repunits.Text.Integer

namespace Repunits.Exercise

/-! ## §1. Divisors. -/

/-- How many integers of 128 bits are negative; the others are one less than this at most. -/
def half128 : Nat := 0x80000000000000000000000000000000

/-- One divisor: an integer of 128 bits, positive, and small enough for a word. -/
def readDivisor (token : List Char) : Except Fault UInt64 :=
  match Text.readBetween? (-half128) (half128 - 1) token with
  | none => .error (.invalidInput (.notInteger (String.ofList token)))
  | some v =>
    if v ≤ 0 then .error (.invalidInput (.notPositive v))
    else if v < UInt64.size then .ok (UInt64.ofNat v.toNat)
    else .error (.invalidInput (.tooLarge v))

/-- The divisors that a text announces and lists. -/
def readDivisors (text : String) : Except Fault (List UInt64) :=
  match Text.words text.toList with
  | [] => .error (.invalidInput .noCount)
  | first :: tokens =>
    match Text.readBelow? UInt64.size first with
    | none => .error (.invalidInput (.badCount (String.ofList first)))
    | some count => do
      let ds ← (tokens.take count).mapM readDivisor
      if ds.length < count then .error (.invalidInput (.tooFew count ds.length)) else .ok ds

/-! ## §2. Pairs. -/

/-- One half of a pair. -/
def readWord (token : List Char) : Except Fault Int64 :=
  match Text.readBetween? Int64.minValue.toInt Int64.maxValue.toInt token with
  | none => .error (.invalidInput (.notWord (String.ofList token)))
  | some v => .ok (Int64.ofInt v)

/-- Takes values two by two; a last one without partner is refused. -/
def pairUp : List Int64 → Except Fault (List (Int64 × Int64))
  | [] => .ok []
  | [v] => .error (.invalidInput (.unpaired v))
  | a :: b :: rest => (pairUp rest).map ((a, b) :: ·)

/-- The pairs that a text lists. -/
def readPairs (text : String) : Except Fault (List (Int64 × Int64)) := do
  let values ← (Text.words text.toList).mapM readWord
  pairUp values

end Repunits.Exercise
