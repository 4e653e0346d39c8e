/-
  Repunits.Text.Integer
  ────────────────────────────────
  **Reading decimal integers.**

  A decimal numeral is one or more ASCII digits; it may begin with a plus
  sign, and where negative numbers are meant with a minus sign instead.
  A reader also has a range: a numeral outside it is refused, however
  long it is. Nothing else is skipped or accepted, blanks included.
-/

namespace Repunits.Text

/-- The value of one decimal digit. -/
def digitValue (c : Char) : Nat := c.toNat - '0'.toNat

/-- The value of a run of decimal digits, most significant first. -/
def digitsValue (cs : List Char) : Nat :=
  cs.foldl (fun v c => 10 * v + digitValue c) 0

/-- Is the text a non-empty run of decimal digits? -/
def isDigits (cs : List Char) : Bool := !cs.isEmpty && cs.all Char.isDigit

/-- The value of a non-empty run of decimal digits. -/
def readDigits? (cs : List Char) : Option Nat :=
  if isDigits cs then some (digitsValue cs) else none

/-- The value of a numeral without minus sign. -/
def readNat? : List Char → Option Nat
  | '+' :: cs => readDigits? cs
  | cs => readDigits? cs

/-- The value of a numeral with any sign or none. -/
def readInt? : List Char → Option Int
  | '-' :: cs => (readDigits? cs).map fun n => -(n : Int)
  | cs => (readNat? cs).map fun n => (n : Int)

/-- A numeral without minus sign whose value is below `bound`. -/
def readBelow? (bound : Nat) (cs : List Char) : Option Nat :=
  (readNat? cs).filter (· < bound)

/-- A numeral whose value lies between `lo` and `hi`. -/
def readBetween? (lo hi : Int) (cs : List Char) : Option Int :=
  (readInt? cs).filter fun v => lo ≤ v && v ≤ hi

end Repunits.Text
