/-
  Repunits.Numeral
  ────────────────────────────────
  **Natural numbers of any size, as decimal digits.**

  A `Numeral` is a list of digits, the least significant first. `value`
  is the number it denotes; it is `Canonical` when it has at least one
  digit, every digit is at most nine, and the top digit is not zero
  unless it is the only one. Addition and multiplication take a 32-bit
  operand and carry in one 64-bit word; the remainder walks the digits
  from the top.
-/
import Repunits.Fault
import Repunits.Text.Blank
import Repunits.Text.Integer

namespace Repunits

/-! ## §1. Digits and what they denote. -/

/-- A natural number in decimal, least significant digit first. -/
structure Numeral where
  digits : List UInt8
deriving DecidableEq

namespace Numeral

/-- The number that a list of digits denotes, least significant digit first. -/
def valueOf (ds : List UInt8) : Nat := ds.foldr (fun d v => d.toNat + 10 * v) 0

@[simp] theorem valueOf_nil : valueOf [] = 0 := rfl

@[simp] theorem valueOf_cons (d : UInt8) (ds : List UInt8) :
    valueOf (d :: ds) = d.toNat + 10 * valueOf ds := rfl

/-- The number denoted. -/
def value (a : Numeral) : Nat := valueOf a.digits

/-- The normal form: digits up to nine, at least one of them, and no zero on top of others. -/
structure Canonical (a : Numeral) : Prop where
  nonempty : a.digits ≠ []
  digit_le : ∀ d ∈ a.digits, d ≤ 9
  top_ne_zero : a.digits.getLast? = some 0 → a.digits = [0]

/-- The number one. -/
def one : Numeral := ⟨[1]⟩

/-- How many decimal digits the numeral has; zero has one. -/
def digitCount (a : Numeral) : Nat := a.digits.length

/-- Drops the zeros on top. -/
def stripTop (ds : List UInt8) : List UInt8 := (ds.reverse.dropWhile (· == 0)).reverse

/-- The normal form of a list of digits. -/
def ofDigits (ds : List UInt8) : Numeral :=
  match stripTop ds with
  | [] => ⟨[0]⟩
  | kept => ⟨kept⟩

/-! ## §2. Arithmetic with a word. -/

/-- The decimal digits of a carry that has outlived the digits it is added to; none for zero. -/
def spill (carry : UInt64) : List UInt8 :=
  if carry = 0 then [] else (carry % 10).toUInt8 :: spill (carry / 10)
termination_by carry.toNat
decreasing_by
  have : carry.toNat ≠ 0 := fun h => by simp_all [← UInt64.toNat_inj]
  simp only [UInt64.toNat_div, UInt64.reduceToNat]
  omega

/-- The low digit of a carry loses nothing as a byte. -/
theorem toNat_lowDigit (carry : UInt64) : (carry % 10).toUInt8.toNat = carry.toNat % 10 := by
  have : carry.toNat % 10 < 10 := Nat.mod_lt _ (by decide)
  simp only [UInt64.toNat_toUInt8, UInt64.toNat_mod, UInt64.reduceToNat]
  omega

/-- The digits of a carry denote it. -/
theorem valueOf_spill (carry : UInt64) : valueOf (spill carry) = carry.toNat := by
  fun_induction spill carry with
  | case1 => rfl
  | case2 carry h ih =>
    rw [valueOf_cons, toNat_lowDigit, ih, UInt64.toNat_div]
    show carry.toNat % 10 + 10 * (carry.toNat / 10) = carry.toNat
    omega

/-- Adds a carry from the least digit upwards, and stops where nothing is carried on. -/
def addCarry : List UInt8 → UInt64 → List UInt8
  | [], carry => spill carry
  | d :: ds, carry =>
    if carry = 0 then d :: ds
    else
      let sum := d.toUInt64 + carry
      (sum % 10).toUInt8 :: addCarry ds (sum / 10)

/-- Multiplies each digit and adds what is carried up from the digits below. -/
def mulCarry (n : UInt64) : List UInt8 → UInt64 → List UInt8
  | [], carry => spill carry
  | d :: ds, carry =>
    let product := d.toUInt64 * n + carry
    (product % 10).toUInt8 :: mulCarry n ds (product / 10)

/-- The sum with a word. The result needs no normalising: a carry never leaves a zero on top. -/
def add (a : Numeral) (n : UInt32) : Numeral := ⟨addCarry a.digits n.toUInt64⟩

/-- The product with a word, normalised, since a product with zero is all zeros. -/
def mul (a : Numeral) (n : UInt32) : Numeral := ofDigits (mulCarry n.toUInt64 a.digits 0)

/-- The remainder of the number that a list of digits denotes, found from the top digit down. -/
def remOf (ds : List UInt8) (m : Nat) : Nat := ds.foldr (fun d r => (r * 10 + d.toNat) % m) 0

/-- Walking the digits from the top finds the remainder of the number denoted. -/
theorem remOf_eq (ds : List UInt8) (m : Nat) : remOf ds m = valueOf ds % m := by
  induction ds with
  | nil => rw [remOf, List.foldr_nil, valueOf_nil, Nat.zero_mod]
  | cons d ds ih =>
    show (remOf ds m * 10 + d.toNat) % m = _
    rw [ih, valueOf_cons, Nat.add_comm d.toNat, Nat.mul_comm 10, Nat.add_mod, Nat.mod_mul_mod,
      ← Nat.add_mod]

/-- The remainder of division by a word. -/
def rem (a : Numeral) (d : UInt64) : Except Fault UInt64 :=
  if d = 0 then .error .divisionByZero else .ok (UInt64.ofNat (remOf a.digits d.toNat))

/-! ## §3. Text. -/

/-- The digit that a character stands for. -/
def digitOfChar (c : Char) : UInt8 := UInt8.ofNat (Text.digitValue c)

/-- Reads a text, blanks at its ends aside, that holds decimal digits and nothing else. The fault
names the last character that is no digit. -/
def ofText (text : String) : Except Fault Numeral :=
  match Text.trim text.toList with
  | [] => .error (.invalidInput .emptyNumber)
  | cs =>
    match cs.reverse.find? (fun c => !c.isDigit) with
    | some c => .error (.invalidInput (.notDigit c))
    | none => .ok (ofDigits (cs.reverse.map digitOfChar))

/-- The digits in reading order. -/
def chars (a : Numeral) : List Char := a.digits.reverse.map fun d => Nat.digitChar d.toNat

/-- The decimal text of the number. -/
def toText (a : Numeral) : String := String.ofList a.chars

/-- The numeral with its digits as they are held, as a debugging aid. -/
def inspect (a : Numeral) : String :=
  let shown := ", ".intercalate (a.digits.map fun d => toString d.toNat)
  s!"BigInt \x7b digits: [{shown}] \x7d"

end Numeral

end Repunits
