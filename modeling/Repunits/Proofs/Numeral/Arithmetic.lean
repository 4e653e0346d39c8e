/-
  Repunits.Proofs.Numeral.Arithmetic
  ────────────────────────────────
  **Arithmetic with words is that of the natural numbers.**

  A numeral in normal form is known by the number that it denotes, and
  is shown as the decimal text of that number. So an operation that is
  exact on numbers and keeps the normal form obeys the laws of numbers
  digit by digit: there is one list of digits for each result, however
  it was computed.

  Main results:
    * `toText_eq` — the text of a numeral in normal form.
    * `mul_exact` — products with words.
    * `digits_add_of_lt`, `digits_add_of_le` — where the carry of a sum
      ends, below the top or above it.
    * `add_exact` — sums with words.
    * `rem_exact` — remainders of division by words, of sums and of
      products too.
-/
import Repunits.Proofs.Numeral.NormalForm

namespace Repunits.Numeral

/-! ## §1. The text of a number. -/

theorem chars_cons (d : UInt8) (ds : List UInt8) :
    chars ⟨d :: ds⟩ = chars ⟨ds⟩ ++ [Nat.digitChar d.toNat] := by
  simp [chars]

/-- Digits below a top digit other than zero are shown as the number that they denote. -/
theorem chars_eq_toDigits {ds : List UInt8} (hds : Decimal ds) (hne : ds ≠ [])
    (htop : ds.getLast? ≠ some 0) : chars ⟨ds⟩ = Nat.toDigits 10 (valueOf ds) := by
  induction ds with
  | nil => exact absurd rfl hne
  | cons d ds ih =>
    obtain ⟨hd, hrest⟩ := decimal_cons.mp hds
    have hlt : d.toNat < 10 := Nat.lt_succ_of_le (UInt8.le_iff_toNat_le.mp hd)
    have hlow : Nat.toDigits 10 d.toNat = [Nat.digitChar d.toNat] := Nat.toDigits_of_lt_base hlt
    rw [chars_cons, valueOf_cons]
    cases ds with
    | nil => exact hlow.symm
    | cons e es =>
      rw [List.getLast?_cons_cons] at htop
      have hcan : (⟨e :: es⟩ : Numeral).Canonical :=
        ⟨List.cons_ne_nil e es, hrest, fun h => absurd h htop⟩
      -- The digits above do not denote zero, so that the low digit stands behind theirs.
      have hpos : 0 < valueOf (e :: es) := Nat.pos_of_ne_zero (value_ne_zero hcan htop)
      rw [ih hrest (List.cons_ne_nil e es) htop, ← hlow,
        Nat.toDigits_append_toDigits (by decide) hpos hlt, Nat.add_comm]

/-- **A numeral in normal form is shown** as the decimal text of the number that it denotes. -/
theorem toText_eq {a : Numeral} (ha : a.Canonical) : a.toText = toString a.value := by
  have hchars : a.chars = Nat.toDigits 10 a.value := by
    rcases ha.zero_or_top with hzero | htop
    · rw [chars, value, hzero]
      rfl
    · exact chars_eq_toDigits ha.digit_le ha.nonempty htop
  rw [toText, hchars, ← Text.toList_toString_nat, String.ofList_toList]

/-! ## §2. Products. -/

/-- Two factors that are multiplied as words are multiplied as numbers, if the product is a word. -/
theorem mul_mul {a : Numeral} (ha : a.Canonical) {m n : UInt32}
    (h : m.toNat * n.toNat < 2 ^ 32) : (a.mul m).mul n = a.mul (m * n) := by
  have hword : (m * n).toNat = m.toNat * n.toNat := by
    rw [UInt32.toNat_mul, Nat.mod_eq_of_lt h]
  apply Canonical.ext (Canonical.mul _ n) (Canonical.mul a (m * n))
  calc ((a.mul m).mul n).value
      = (a.mul m).value * n.toNat := value_mul (Canonical.mul a m) n
    _ = a.value * m.toNat * n.toNat := by rw [value_mul ha]
    _ = a.value * (m * n).toNat := by rw [Nat.mul_assoc, hword]
    _ = (a.mul (m * n)).value := (value_mul ha (m * n)).symm

/-- **A product with a word is exact**, whatever the word: zero and the largest are no exception. It
denotes the product of the numbers, it is in normal form again, and it is shown as the decimal text of
the product; the numeral itself is a value and stays as it was. So multiplying by two words in turn
gives the digits of multiplying by their product, where that is a word. -/
theorem mul_exact {a : Numeral} (ha : a.Canonical) (n : UInt32) :
    (a.mul n).value = a.value * n.toNat ∧ (a.mul n).Canonical ∧
      (a.mul n).toText = toString (a.value * n.toNat) ∧
      ∀ m : UInt32, m.toNat * n.toNat < 2 ^ 32 → (a.mul m).mul n = a.mul (m * n) := by
  have hcan := Canonical.mul a n
  refine ⟨value_mul ha n, hcan, ?_, fun m => mul_mul ha⟩
  rw [toText_eq hcan, value_mul ha]

/-- Ninety-nine times the largest word, at once and in two steps, and times zero. -/
theorem mul_exact_largestWord :
    let a := one.add 98
    (a.mul 4294967295).value = 425201762205 ∧ (a.mul 4294967295).toText = "425201762205" ∧
      (a.mul 0).toText = "0" ∧ (a.mul 65535).mul 65537 = a.mul 4294967295 := by
  intro a
  have ha : a.Canonical := canonical_one.add 98
  have hvalue : a.value = 99 := by decide +kernel
  obtain ⟨hlargest, -, hshown, -⟩ := mul_exact ha 4294967295
  obtain ⟨-, -, hzero, -⟩ := mul_exact ha 0
  obtain ⟨-, -, -, htwice⟩ := mul_exact ha 65537
  rw [hvalue] at hlargest hshown hzero
  exact ⟨hlargest, hshown, hzero, htwice 65535 (by decide)⟩

/-! ## §3. Sums. -/

/-- Where the low digits hold the sum, the digits above them stay as they are. -/
theorem digits_add_of_lt {a : Numeral} {low high : List UInt8} (ha : a.digits = low ++ high)
    {n : UInt32} (h : valueOf low + n.toNat < 10 ^ low.length) :
    ∃ low', low'.length = low.length ∧ (a.add n).digits = low' ++ high := by
  obtain ⟨low', carry, hlength, -, hloop, hvalue⟩ :=
    addCarry_append low high n.toUInt64 (word_bound n)
  rw [UInt32.toNat_toUInt64] at hvalue
  -- A carry out of the low digits would weigh more than the sum.
  have hzero : carry = 0 := by
    apply UInt64.toNat_inj.mp
    by_contra hne
    have hpos : 1 ≤ carry.toNat := Nat.pos_of_ne_zero hne
    have hle := Nat.mul_le_mul_left (10 ^ low.length) hpos
    omega
  refine ⟨low', hlength, ?_⟩
  show addCarry a.digits n.toUInt64 = _
  rw [ha, hloop, hzero, addCarry_zero]

/-- Where all digits together do not hold the sum, the rest of it is put on top of them. -/
theorem digits_add_of_le {a : Numeral} (ha : a.Canonical) {n : UInt32}
    (h : 10 ^ a.digitCount ≤ a.value + n.toNat) :
    ∃ low top, (a.add n).digits = low ++ top ∧ low.length = a.digitCount ∧
      valueOf low = (a.value + n.toNat) % 10 ^ a.digitCount ∧
      valueOf top = (a.value + n.toNat) / 10 ^ a.digitCount ∧
      top ≠ [] ∧ top.getLast? ≠ some 0 := by
  obtain ⟨low, carry, hlength, hdecimal, hloop, hvalue⟩ :=
    addCarry_append a.digits [] n.toUInt64 (word_bound n)
  rw [List.append_nil, addCarry] at hloop
  rw [UInt32.toNat_toUInt64] at hvalue
  have hsum : valueOf low + 10 ^ a.digitCount * carry.toNat = a.value + n.toNat := hvalue
  have hlt : valueOf low < 10 ^ a.digitCount := by
    have hlow := valueOf_lt (hdecimal ha.digit_le)
    rwa [hlength] at hlow
  have hmod : valueOf low = (a.value + n.toNat) % 10 ^ a.digitCount := by
    rw [← hsum, Nat.add_mul_mod_self_left, Nat.mod_eq_of_lt hlt]
  have hdiv : carry.toNat = (a.value + n.toNat) / 10 ^ a.digitCount := by
    rw [← hsum, Nat.add_mul_div_left _ _ (by positivity), Nat.div_eq_of_lt hlt, Nat.zero_add]
  refine ⟨low, spill carry, hloop, hlength, hmod, ?_, ?_, top_spill_ne_zero carry⟩
  · rw [valueOf_spill, hdiv]
  · -- Something is left of the sum, so that something is put on top.
    intro hnil
    have hleft : 0 < (a.value + n.toNat) / 10 ^ a.digitCount := Nat.div_pos h (by positivity)
    have hnone := valueOf_spill carry
    rw [hnil, valueOf_nil, hdiv] at hnone
    omega

/-- Two words that are added one after the other are added as numbers, if their sum is a word. -/
theorem add_add {a : Numeral} (ha : a.Canonical) {m n : UInt32}
    (h : m.toNat + n.toNat < 2 ^ 32) : (a.add m).add n = a.add (m + n) := by
  have hword : (m + n).toNat = m.toNat + n.toNat := by
    rw [UInt32.toNat_add, Nat.mod_eq_of_lt h]
  apply Canonical.ext ((ha.add m).add n) (ha.add (m + n))
  calc ((a.add m).add n).value
      = a.value + m.toNat + n.toNat := by rw [value_add, value_add]
    _ = a.value + (m + n).toNat := by rw [Nat.add_assoc, hword]
    _ = (a.add (m + n)).value := (value_add a (m + n)).symm

/-- **A sum with a word is exact, and in normal form** with nothing done to make it so. Where the carry
ends below the top, the digits above it are kept, as many and as they are; where it outlives all
digits, what is left of it is put on top of them, in digits of which the last is not zero. So adding
two words in turn gives the digits of adding their sum, where that is a word. -/
theorem add_exact {a : Numeral} (ha : a.Canonical) (n : UInt32) :
    (a.add n).value = a.value + n.toNat ∧ (a.add n).Canonical ∧
      -- the early end
      (∀ low high, a.digits = low ++ high → valueOf low + n.toNat < 10 ^ low.length →
        ∃ low', low'.length = low.length ∧ (a.add n).digits = low' ++ high) ∧
      -- a carry that outlives the digits
      (10 ^ a.digitCount ≤ a.value + n.toNat →
        ∃ low top, (a.add n).digits = low ++ top ∧ low.length = a.digitCount ∧
          valueOf low = (a.value + n.toNat) % 10 ^ a.digitCount ∧
          valueOf top = (a.value + n.toNat) / 10 ^ a.digitCount ∧
          top ≠ [] ∧ top.getLast? ≠ some 0) ∧
      -- two words in turn
      ∀ m : UInt32, m.toNat + n.toNat < 2 ^ 32 → (a.add m).add n = a.add (m + n) :=
  ⟨value_add a n, ha.add n, fun _ _ hsplit => digits_add_of_lt hsplit, digits_add_of_le ha,
    fun _ => add_add ha⟩

/-- A carry that ends below the top of 2999399, the largest word on top of zero, and the largest word
in two steps. -/
theorem add_exact_largestWord :
    let a : Numeral := ⟨[9, 9, 3, 9, 9, 9, 2]⟩
    let zero : Numeral := ⟨[0]⟩
    a.Canonical ∧ zero.Canonical ∧
      (∃ low', low'.length = 3 ∧ (a.add 1).digits = low' ++ [9, 9, 9, 2]) ∧
      (∃ low top, (zero.add 4294967295).digits = low ++ top ∧ low.length = 1 ∧
        valueOf top = 429496729 ∧ top.getLast? ≠ some 0) ∧
      (a.add 4294967294).add 1 = a.add 4294967295 := by
  intro a zero
  have ha : a.Canonical := by decide
  have hzero : zero.Canonical := by decide
  obtain ⟨-, -, hearly, -, htwice⟩ := add_exact ha 1
  obtain ⟨-, -, -, hoverflow, -⟩ := add_exact hzero 4294967295
  obtain ⟨low, top, hdigits, hlength, -, htop, -, hlast⟩ := hoverflow (by decide)
  exact ⟨ha, hzero, hearly [9, 9, 3] [9, 9, 9, 2] rfl (by decide),
    ⟨low, top, hdigits, hlength, htop.trans (by decide), hlast⟩, htwice 4294967294 (by decide)⟩

/-! ## §4. Remainders. -/

/-- The remainder of division by a word is a word. -/
theorem exists_rem (a : Numeral) {d : UInt64} (hd : d ≠ 0) :
    ∃ r, a.rem d = .ok r ∧ r.toNat = a.value % d.toNat := by
  refine ⟨_, rem_eq a hd, ?_⟩
  have hlt : a.value % d.toNat < 2 ^ 64 := (Nat.mod_lt _ (toNat_pos hd)).trans d.toNat_lt
  exact UInt64.toNat_ofNat_of_lt' hlt

theorem rem_eq_divisionByZero_iff (a : Numeral) (d : UInt64) :
    a.rem d = .error .divisionByZero ↔ d = 0 := by
  constructor
  · intro h
    by_contra hd
    rw [rem_eq a hd] at h
    cases h
  · intro hd
    exact if_pos hd

/-- **A remainder is exact for every divisor.** Zero is refused, and no other divisor is. The remainder
of a sum or of a product with a word is known from the remainder and the word alone. -/
theorem rem_exact {a : Numeral} (ha : a.Canonical) (d : UInt64) :
    (a.rem d = .error .divisionByZero ↔ d = 0) ∧
      (d ≠ 0 → ∃ r, a.rem d = .ok r ∧ r.toNat = a.value % d.toNat ∧ ∀ n : UInt32,
        (∃ s, (a.add n).rem d = .ok s ∧ s.toNat = (r.toNat + n.toNat) % d.toNat) ∧
        ∃ p, (a.mul n).rem d = .ok p ∧ p.toNat = r.toNat * n.toNat % d.toNat) := by
  refine ⟨rem_eq_divisionByZero_iff a d, ?_⟩
  intro hd
  obtain ⟨r, hr, hvalue⟩ := exists_rem a hd
  refine ⟨r, hr, hvalue, ?_⟩
  intro n
  obtain ⟨s, hs, hsum⟩ := exists_rem (a.add n) hd
  obtain ⟨p, hp, hproduct⟩ := exists_rem (a.mul n) hd
  refine ⟨⟨s, hs, ?_⟩, p, hp, ?_⟩
  · rw [hsum, value_add, hvalue, Nat.mod_add_mod]
  · rw [hproduct, value_mul ha, hvalue, Nat.mod_mul_mod]

/-- Twenty-two ones, more than a word holds, by the largest word: the remainder, and those of the
numeral and a word more and of its product with one. -/
theorem rem_exact_largestWord :
    let a : Numeral := ⟨List.replicate 22 1⟩
    let d : UInt64 := 18446744073709551615
    a.Canonical ∧ d ≠ 0 ∧ a.rem d = .ok 4306466688538014211 ∧
      (∃ s, (a.add 4294967295).rem d = .ok s ∧ s.toNat = 4306466692832981506) ∧
      (∃ p, (a.mul 4294967295).rem d = .ok p ∧ p.toNat = 13517780094900712095) ∧
      a.rem 0 = .error .divisionByZero := by
  intro a d
  have ha : a.Canonical := by decide
  have hd : d ≠ 0 := by decide
  obtain ⟨-, hrem⟩ := rem_exact ha d
  obtain ⟨r, hr, hvalue, hword⟩ := hrem hd
  obtain ⟨⟨s, hs, hsum⟩, p, hp, hproduct⟩ := hword 4294967295
  have hr' : r.toNat = 4306466688538014211 := hvalue.trans (by decide +kernel)
  have hword' : r = 4306466688538014211 := UInt64.toNat_inj.mp hr'
  rw [hr'] at hsum hproduct
  exact ⟨ha, hd, by rw [hr, hword'], ⟨s, hs, hsum.trans (by decide)⟩,
    ⟨p, hp, hproduct.trans (by decide)⟩, (rem_exact ha 0).1.mpr rfl⟩

end Repunits.Numeral
