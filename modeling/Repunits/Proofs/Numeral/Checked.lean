/-
  Repunits.Proofs.Numeral.Checked
  ────────────────────────────────
  **The digit loops compute nothing that does not fit.**

  A sum or a product that is too large for its word would be wrapped
  round without notice, and so would a number that is cut to a digit. So
  each loop is written once more with every step checked: sums and
  products have to fit the word that they are computed in, a digit has to
  be one, a remainder has to be below its divisor, and a check that fails
  leaves no result. On numerals in normal form no check fails, and the
  checked loops give what the plain ones give.

  Main results:
    * `add?_eq`, `mul?_eq` — sums and products with a word of 32 bits.
    * `rem?_eq` — remainders of division by a word of 64 bits.
-/
import Repunits.Proofs.Numeral.Carry

namespace Repunits

/-! ## §1. Checks. -/

/-- A number as a word of 64 bits, if it fits. -/
def word? (v : Nat) : Option UInt64 := if v < 2 ^ 64 then some (UInt64.ofNat v) else none

/-- A number that fits a word of 128 bits. -/
def doubleWord? (v : Nat) : Option Nat := if v < 2 ^ 128 then some v else none

/-- A word as a decimal digit, if it is one. -/
def digit? (w : UInt64) : Option UInt8 := if w < 10 then some w.toUInt8 else none

/-- A remainder as a word, if it is below the divisor. -/
def below? (d : UInt64) (r : Nat) : Option UInt64 :=
  if r < d.toNat then some (UInt64.ofNat r) else none

/-- Passing a check of a word. -/
theorem word?_toNat (w : UInt64) : word? w.toNat = some w := by
  unfold word?
  rw [if_pos w.toNat_lt, UInt64.ofNat_toNat]

theorem doubleWord?_of_lt {v : Nat} (h : v < 2 ^ 128) : doubleWord? v = some v := if_pos h

theorem below?_of_lt {d : UInt64} {r : Nat} (h : r < d.toNat) :
    below? d r = some (UInt64.ofNat r) := if_pos h

theorem digit?_mod (w : UInt64) : digit? (w % 10) = some (w % 10).toUInt8 := by
  apply if_pos
  rw [UInt64.lt_iff_toNat_lt, UInt64.toNat_mod]
  exact Nat.mod_lt _ (by decide)

namespace Numeral

/-! ## §2. The loops, with every step checked. -/

/-- The digits of a carry that has outlived the digits it is added to. -/
def spill? (carry : UInt64) : Option (List UInt8) :=
  if carry = 0 then some []
  else do
    let low ← digit? (carry % 10)
    let above ← spill? (carry / 10)
    return low :: above
termination_by carry.toNat
decreasing_by
  rename_i hc
  have hpos := toNat_pos hc
  simp only [UInt64.toNat_div, UInt64.reduceToNat]
  omega

/-- Adds a carry from the least digit upwards. -/
def addCarry? : List UInt8 → UInt64 → Option (List UInt8)
  | [], carry => spill? carry
  | d :: ds, carry =>
    if carry = 0 then some (d :: ds)
    else do
      let sum ← word? (d.toNat + carry.toNat)
      let low ← digit? (sum % 10)
      let above ← addCarry? ds (sum / 10)
      return low :: above

/-- Multiplies each digit and adds what is carried up. -/
def mulCarry? (n : UInt64) : List UInt8 → UInt64 → Option (List UInt8)
  | [], carry => spill? carry
  | d :: ds, carry => do
    let product ← word? (d.toNat * n.toNat)
    let sum ← word? (product.toNat + carry.toNat)
    let low ← digit? (sum % 10)
    let above ← mulCarry? n ds (sum / 10)
    return low :: above

/-- Walks the digits from the top with a remainder in a word of 128 bits. -/
def remOf? (m : Nat) : List UInt8 → Option Nat
  | [] => some 0
  | d :: ds => do
    let r ← remOf? m ds
    let shifted ← doubleWord? (r * 10)
    let sum ← doubleWord? (shifted + d.toNat)
    return sum % m

/-- The sum with a word, every step checked. -/
def add? (a : Numeral) (n : UInt32) : Option Numeral := do
  let digits ← addCarry? a.digits n.toUInt64
  return ⟨digits⟩

/-- The product with a word, every step checked. -/
def mul? (a : Numeral) (n : UInt32) : Option Numeral := do
  let digits ← mulCarry? n.toUInt64 a.digits 0
  return ofDigits digits

/-- The remainder of division by a word, every step checked. -/
def rem? (a : Numeral) (d : UInt64) : Option (Except Fault UInt64) :=
  if d = 0 then some (.error .divisionByZero)
  else do
    let r ← remOf? d.toNat a.digits
    let word ← below? d r
    return .ok word

/-! ## §3. No check fails. -/

theorem spill?_eq (carry : UInt64) : spill? carry = some (spill carry) := by
  fun_induction spill carry with
  | case1 =>
    unfold spill?
    rfl
  | case2 carry h ih =>
    unfold spill?
    rw [if_neg h, digit?_mod, ih]
    rfl

/-- **The addition loop stays in its word**: it adds a digit to a carry of no more than 32 bits, and
the carry only gets smaller. -/
theorem addCarry?_eq (ds : List UInt8) (carry : UInt64) (h : carry.toNat + 255 < 2 ^ 64) :
    addCarry? ds carry = some (addCarry ds carry) := by
  induction ds generalizing carry with
  | nil => exact spill?_eq carry
  | cons d ds ih =>
    unfold addCarry? addCarry
    by_cases hc : carry = 0
    · rw [if_pos hc, if_pos hc]
    · rw [if_neg hc, if_neg hc, ← toNat_sum d carry h, word?_toNat]
      show (digit? ((d.toUInt64 + carry) % 10)).bind _ = _
      rw [digit?_mod]
      show (addCarry? ds ((d.toUInt64 + carry) / 10)).bind _ = _
      rw [ih _ (carry_add_bound d h)]
      rfl

/-- **The multiplication loop stays in its word**: the product of a digit and the factor fits, and so
does the sum with the carry, which stays below the factor. -/
theorem mulCarry?_eq (n : UInt32) {ds : List UInt8} (hds : Decimal ds) (carry : UInt64)
    (hc : carry.toNat ≤ n.toNat) :
    mulCarry? n.toUInt64 ds carry = some (mulCarry n.toUInt64 ds carry) := by
  induction ds generalizing carry with
  | nil => exact spill?_eq carry
  | cons d ds ih =>
    obtain ⟨hd, hrest⟩ := decimal_cons.mp hds
    have hproduct : (d.toUInt64 * n.toUInt64).toNat = d.toNat * n.toUInt64.toNat := by
      rw [toNat_digit_mul hd, UInt32.toNat_toUInt64]
    have hsum : (d.toUInt64 * n.toUInt64 + carry).toNat =
        (d.toUInt64 * n.toUInt64).toNat + carry.toNat := by
      rw [toNat_product hd hc, toNat_digit_mul hd]
    unfold mulCarry? mulCarry
    rw [← hproduct, word?_toNat]
    show (word? ((d.toUInt64 * n.toUInt64).toNat + carry.toNat)).bind _ = _
    rw [← hsum, word?_toNat]
    show (digit? ((d.toUInt64 * n.toUInt64 + carry) % 10)).bind _ = _
    rw [digit?_mod]
    show (mulCarry? n.toUInt64 ds ((d.toUInt64 * n.toUInt64 + carry) / 10)).bind _ = _
    rw [ih hrest _ (carry_mul_le hd hc)]
    rfl

theorem remOf_lt {m : Nat} (hm : 0 < m) (ds : List UInt8) : remOf ds m < m := by
  rw [remOf_eq]
  exact Nat.mod_lt _ hm

/-- **The remainder loop stays in its word**: the remainder is below the divisor, so that ten times
the remainder and a digit are far below 128 bits. -/
theorem remOf?_eq {m : Nat} (hm : 0 < m) (hm' : m < 2 ^ 64) (ds : List UInt8) :
    remOf? m ds = some (remOf ds m) := by
  induction ds with
  | nil => rfl
  | cons d ds ih =>
    have hr := remOf_lt hm ds
    have hd : d.toNat < 256 := d.toNat_lt
    unfold remOf?
    rw [ih]
    show (doubleWord? (remOf ds m * 10)).bind _ = _
    rw [doubleWord?_of_lt (by omega)]
    show (doubleWord? (remOf ds m * 10 + d.toNat)).bind _ = _
    rw [doubleWord?_of_lt (by omega)]
    rfl

/-! ## §4. The operations. -/

/-- **A sum is computed within its words**, whatever the numeral and the word. -/
theorem add?_eq (a : Numeral) (n : UInt32) : a.add? n = some (a.add n) := by
  unfold add?
  rw [addCarry?_eq _ _ (word_bound n)]
  rfl

/-- **A product is computed within its words.** -/
theorem mul?_eq {a : Numeral} (ha : a.Canonical) (n : UInt32) : a.mul? n = some (a.mul n) := by
  unfold mul?
  rw [mulCarry?_eq n ha.digit_le 0 (Nat.zero_le _)]
  rfl

/-- **A remainder is computed within its words**, and is below the divisor. -/
theorem rem?_eq (a : Numeral) (d : UInt64) : a.rem? d = some (a.rem d) := by
  unfold rem? rem
  by_cases hd : d = 0
  · rw [if_pos hd, if_pos hd]
  · have hpos := toNat_pos hd
    rw [if_neg hd, if_neg hd, remOf?_eq hpos d.toNat_lt]
    show (below? d (remOf a.digits d.toNat)).bind _ = _
    rw [below?_of_lt (remOf_lt hpos a.digits)]
    rfl

end Numeral

end Repunits
