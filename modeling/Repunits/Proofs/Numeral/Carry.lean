/-
  Repunits.Proofs.Numeral.Carry
  ────────────────────────────────
  **The carry loops compute the sum and the product.**

  Addition and multiplication by a word walk the digits upwards with a
  carry in one 64-bit word. The invariant of both walks is a weighted
  sum: the digits written so far, and the carry times their weight, make
  up the number computed so far. A sum keeps the carry below the word's
  end; a product keeps it below the factor.

  Main results:
    * `addCarry_append` — the loop of a sum, taken apart at any digit.
    * `value_add`, `value_mul` — the operations are exact on the numbers
      that the numerals denote.
    * `Canonical.add`, `Canonical.mul` — they keep the normal form; the
      sum does so with no normalising.
    * `Canonical.ext` — a number has one normal form.
    * `rem_eq` — the remainder is that of the number denoted.
-/
import Mathlib.Data.Nat.Digits.Lemmas
import Repunits.Numeral

namespace Repunits.Numeral

/-! ## §1. Decimal digit lists. -/

/-- Every digit is at most nine. -/
def Decimal (ds : List UInt8) : Prop := ∀ d ∈ ds, d ≤ 9

-- Not through the whole type of digits, which is finite too.
instance (ds : List UInt8) : Decidable (Decimal ds) :=
  List.decidableBAll (fun d => d ≤ 9) ds

theorem decimal_nil : Decimal [] := by
  intro d hd
  simp at hd

theorem decimal_cons {d : UInt8} {ds : List UInt8} :
    Decimal (d :: ds) ↔ d ≤ 9 ∧ Decimal ds := by
  unfold Decimal
  simp

theorem valueOf_append (ds es : List UInt8) :
    valueOf (ds ++ es) = valueOf ds + 10 ^ ds.length * valueOf es := by
  induction ds with
  | nil => simp
  | cons d ds ih =>
    rw [List.cons_append, valueOf_cons, valueOf_cons, ih, List.length_cons, pow_succ]
    ring

/-- Decimal digits denote a number below the next power of ten. -/
theorem valueOf_lt {ds : List UInt8} (hds : Decimal ds) : valueOf ds < 10 ^ ds.length := by
  induction ds with
  | nil => simp
  | cons d ds ih =>
    obtain ⟨hd, hrest⟩ := decimal_cons.mp hds
    have hd' : d.toNat ≤ 9 := UInt8.le_iff_toNat_le.mp hd
    have hlt := ih hrest
    rw [valueOf_cons, List.length_cons, pow_succ]
    omega

/-- The low digit of a word and the word without it. -/
theorem lowDigit_add_rest (w : UInt64) :
    (w % 10).toUInt8.toNat + 10 * (w / 10).toNat = w.toNat := by
  rw [toNat_lowDigit, UInt64.toNat_div]
  show w.toNat % 10 + 10 * (w.toNat / 10) = w.toNat
  omega

theorem lowDigit_le (w : UInt64) : (w % 10).toUInt8 ≤ 9 := by
  rw [UInt8.le_iff_toNat_le, toNat_lowDigit]
  show w.toNat % 10 ≤ 9
  omega

theorem decimal_spill (carry : UInt64) : Decimal (spill carry) := by
  fun_induction spill carry with
  | case1 => exact decimal_nil
  | case2 carry h ih => exact decimal_cons.mpr ⟨lowDigit_le carry, ih⟩

/-- A digit below spilled ones is on top only where nothing was spilled. -/
theorem top_cons_spill_ne_zero (d : UInt8) (carry : UInt64) (h : d ≠ 0 ∨ carry ≠ 0) :
    (d :: spill carry).getLast? ≠ some 0 := by
  fun_induction spill carry generalizing d with
  | case1 =>
    have hd : d ≠ 0 := by simpa using h
    simpa using hd
  | case2 carry hc ih =>
    rw [List.getLast?_cons_cons]
    apply ih
    -- A low digit of zero and nothing above it would make the carry zero.
    by_contra hne
    push Not at hne
    have hw := lowDigit_add_rest carry
    rw [hne.1, hne.2] at hw
    exact hc (UInt64.toNat_inj.mp hw.symm)

/-- Spilled digits never end in a zero on top. -/
theorem top_spill_ne_zero (carry : UInt64) : (spill carry).getLast? ≠ some 0 := by
  -- They end as they would above any digit; one is as good as another.
  cases hs : spill carry with
  | nil => simp
  | cons x xs =>
    have hx := top_cons_spill_ne_zero 1 carry (Or.inl (by decide))
    rwa [hs, List.getLast?_cons_cons] at hx

/-! ## §2. The sum. -/

theorem toNat_sum (d : UInt8) (carry : UInt64) (h : carry.toNat + 255 < 2 ^ 64) :
    (d.toUInt64 + carry).toNat = d.toNat + carry.toNat := by
  have hd : d.toNat < 256 := d.toNat_lt
  rw [UInt64.toNat_add, UInt8.toNat_toUInt64]
  omega

/-- The carry of a sum stays below the word's end. -/
theorem carry_add_bound (d : UInt8) {carry : UInt64} (h : carry.toNat + 255 < 2 ^ 64) :
    ((d.toUInt64 + carry) / 10).toNat + 255 < 2 ^ 64 := by
  have hd : d.toNat < 256 := d.toNat_lt
  have hrest := lowDigit_add_rest (d.toUInt64 + carry)
  rw [toNat_sum d carry h] at hrest
  omega

/-- Without a carry the loop stops and keeps the digits. -/
theorem addCarry_zero (ds : List UInt8) : addCarry ds 0 = ds := by
  cases ds with
  | nil => simp [addCarry, spill]
  | cons d ds => simp [addCarry]

/-- **The addition loop works its way up**: it rewrites the low digits and hands a carry on to those
above, and the two make up the sum. -/
theorem addCarry_append (low high : List UInt8) (carry : UInt64)
    (h : carry.toNat + 255 < 2 ^ 64) :
    ∃ low' carry', low'.length = low.length ∧ (Decimal low → Decimal low') ∧
      addCarry (low ++ high) carry = low' ++ addCarry high carry' ∧
      valueOf low' + 10 ^ low.length * carry'.toNat = valueOf low + carry.toNat := by
  induction low generalizing carry with
  | nil => exact ⟨[], carry, rfl, id, rfl, by simp⟩
  | cons d low ih =>
    by_cases hc : carry = 0
    · refine ⟨d :: low, 0, rfl, id, ?_, ?_⟩
      · rw [hc, addCarry_zero, addCarry_zero]
      · simp [hc]
    · -- The sum fits into the word, so its low digit and the rest of it make it up.
      have hrest := lowDigit_add_rest (d.toUInt64 + carry)
      rw [toNat_sum d carry h] at hrest
      obtain ⟨low', carry', hlength, hdecimal, hloop, hvalue⟩ := ih _ (carry_add_bound d h)
      refine ⟨((d.toUInt64 + carry) % 10).toUInt8 :: low', carry', ?_, ?_, ?_, ?_⟩
      · rw [List.length_cons, List.length_cons, hlength]
      · intro hds
        exact decimal_cons.mpr ⟨lowDigit_le _, hdecimal (decimal_cons.mp hds).2⟩
      · rw [List.cons_append, addCarry, if_neg hc, List.cons_append, ← hloop]
      · rw [valueOf_cons, valueOf_cons, List.length_cons, pow_succ, Nat.mul_right_comm]
        omega

/-- **The addition loop is exact**, whatever the digits. -/
theorem valueOf_addCarry (ds : List UInt8) (carry : UInt64) (h : carry.toNat + 255 < 2 ^ 64) :
    valueOf (addCarry ds carry) = valueOf ds + carry.toNat := by
  obtain ⟨low, rest, hlength, -, hloop, hvalue⟩ := addCarry_append ds [] carry h
  rw [List.append_nil] at hloop
  rw [hloop, valueOf_append, hlength, addCarry, valueOf_spill, hvalue]

theorem decimal_addCarry {ds : List UInt8} (hds : Decimal ds) (carry : UInt64) :
    Decimal (addCarry ds carry) := by
  induction ds generalizing carry with
  | nil => exact decimal_spill carry
  | cons d ds ih =>
    unfold addCarry
    split
    · exact hds
    · exact decimal_cons.mpr ⟨lowDigit_le _, ih (decimal_cons.mp hds).2 _⟩

theorem addCarry_ne_nil {ds : List UInt8} (hds : ds ≠ []) (carry : UInt64) :
    addCarry ds carry ≠ [] := by
  cases ds with
  | nil => exact absurd rfl hds
  | cons d ds =>
    unfold addCarry
    split <;> simp

/-- One digit and a carry never leave a zero on top. -/
theorem top_addCarry_singleton (d : UInt8) {carry : UInt64} (hc : carry ≠ 0)
    (h : carry.toNat + 255 < 2 ^ 64) : (addCarry [d] carry).getLast? ≠ some 0 := by
  unfold addCarry
  rw [if_neg hc]
  apply top_cons_spill_ne_zero
  -- If the sum left nothing at all, the carry would be zero.
  by_contra hne
  push Not at hne
  have hw := lowDigit_add_rest (d.toUInt64 + carry)
  rw [hne.1, hne.2, toNat_sum d carry h] at hw
  have hc' : carry.toNat = 0 := by
    have : (0 : UInt8).toNat + 10 * (0 : UInt64).toNat = 0 := rfl
    omega
  exact hc (UInt64.toNat_inj.mp hc')

/-- The addition loop never puts a zero on top, which is why a sum needs no normalising. -/
theorem top_addCarry_ne_zero (ds : List UInt8) (carry : UInt64) (h : carry.toNat + 255 < 2 ^ 64)
    (htop : ds.getLast? ≠ some 0) : (addCarry ds carry).getLast? ≠ some 0 := by
  induction ds generalizing carry with
  | nil => exact top_spill_ne_zero carry
  | cons d ds ih =>
    by_cases hc : carry = 0
    · rw [addCarry, if_pos hc]
      exact htop
    · cases ds with
      | nil => exact top_addCarry_singleton d hc h
      | cons e es =>
        -- The digits above end in no zero, and something is left of them.
        rw [List.getLast?_cons_cons] at htop
        have ih' := ih _ (carry_add_bound d h) htop
        rw [addCarry, if_neg hc]
        obtain ⟨x, xs, hx⟩ := List.exists_cons_of_ne_nil
          (addCarry_ne_nil (List.cons_ne_nil e es) ((d.toUInt64 + carry) / 10))
        simp only [hx] at ih' ⊢
        rwa [List.getLast?_cons_cons]

/-! ## §3. The product. -/

theorem digit_mul_le {d : UInt8} (hd : d ≤ 9) (n : Nat) : d.toNat * n ≤ 9 * n :=
  Nat.mul_le_mul_right n (UInt8.le_iff_toNat_le.mp hd)

/-- A digit and a factor of 32 bits are multiplied within the word. -/
theorem toNat_digit_mul {d : UInt8} (hd : d ≤ 9) (n : UInt32) :
    (d.toUInt64 * n.toUInt64).toNat = d.toNat * n.toNat := by
  have hn : n.toNat < 2 ^ 32 := n.toNat_lt
  have hmul := digit_mul_le hd n.toNat
  rw [UInt64.toNat_mul, UInt8.toNat_toUInt64, UInt32.toNat_toUInt64]
  exact Nat.mod_eq_of_lt (by omega)

theorem toNat_product {d : UInt8} (hd : d ≤ 9) {n : UInt32} {carry : UInt64}
    (hc : carry.toNat ≤ n.toNat) :
    (d.toUInt64 * n.toUInt64 + carry).toNat = d.toNat * n.toNat + carry.toNat := by
  have hn : n.toNat < 2 ^ 32 := n.toNat_lt
  have hmul := digit_mul_le hd n.toNat
  -- Nine times a 32-bit factor, and a carry no larger than the factor, fit into the word.
  rw [UInt64.toNat_add, toNat_digit_mul hd]
  exact Nat.mod_eq_of_lt (by omega)

/-- The carry of a product stays below the factor. -/
theorem carry_mul_le {d : UInt8} (hd : d ≤ 9) {n : UInt32} {carry : UInt64}
    (hc : carry.toNat ≤ n.toNat) :
    ((d.toUInt64 * n.toUInt64 + carry) / 10).toNat ≤ n.toNat := by
  have hmul := digit_mul_le hd n.toNat
  have hrest := lowDigit_add_rest (d.toUInt64 * n.toUInt64 + carry)
  rw [toNat_product hd hc] at hrest
  omega

/-- **The multiplication loop is exact** on decimal digits. -/
theorem valueOf_mulCarry (n : UInt32) {ds : List UInt8} (hds : Decimal ds) (carry : UInt64)
    (hc : carry.toNat ≤ n.toNat) :
    valueOf (mulCarry n.toUInt64 ds carry) = valueOf ds * n.toNat + carry.toNat := by
  induction ds generalizing carry with
  | nil => rw [mulCarry, valueOf_spill, valueOf_nil, Nat.zero_mul, Nat.zero_add]
  | cons d ds ih =>
    obtain ⟨hd, hds'⟩ := decimal_cons.mp hds
    have hrest := lowDigit_add_rest (d.toUInt64 * n.toUInt64 + carry)
    rw [toNat_product hd hc] at hrest
    show valueOf (_ :: mulCarry n.toUInt64 ds _) = _
    rw [valueOf_cons, ih hds' _ (carry_mul_le hd hc), valueOf_cons, Nat.add_mul, Nat.mul_assoc]
    omega

theorem decimal_mulCarry (n : UInt64) (ds : List UInt8) (carry : UInt64) :
    Decimal (mulCarry n ds carry) := by
  induction ds generalizing carry with
  | nil => exact decimal_spill carry
  | cons d ds ih => exact decimal_cons.mpr ⟨lowDigit_le _, ih _⟩

/-! ## §4. The normal form. -/

theorem canonical_iff (a : Numeral) :
    a.Canonical ↔
      a.digits ≠ [] ∧ Decimal a.digits ∧ (a.digits.getLast? = some 0 → a.digits = [0]) := by
  constructor
  · intro h
    exact ⟨h.nonempty, h.digit_le, h.top_ne_zero⟩
  · rintro ⟨hne, hdecimal, htop⟩
    exact ⟨hne, hdecimal, htop⟩

instance (a : Numeral) : Decidable a.Canonical := decidable_of_iff _ (canonical_iff a).symm

theorem stripTop_append_zero (ds : List UInt8) : stripTop (ds ++ [0]) = stripTop ds := by
  simp [stripTop]

theorem stripTop_eq_self {ds : List UInt8} (h : ds.getLast? ≠ some 0) : stripTop ds = ds := by
  induction ds using List.reverseRecOn with
  | nil => rfl
  | append_singleton ds d =>
    have hd : d ≠ 0 := by simpa using h
    simp [stripTop, hd]

/-- Dropping the zeros on top keeps the number and leaves no zero on top. -/
theorem stripTop_spec (ds : List UInt8) :
    valueOf (stripTop ds) = valueOf ds ∧ (stripTop ds).getLast? ≠ some 0 ∧
      (Decimal ds → Decimal (stripTop ds)) := by
  induction ds using List.reverseRecOn with
  | nil => exact ⟨rfl, by simp [stripTop], id⟩
  | append_singleton ds d ih =>
    by_cases hd : d = 0
    · -- A zero on top weighs nothing.
      rw [hd, stripTop_append_zero, valueOf_append]
      refine ⟨by simpa using ih.1, ih.2.1, ?_⟩
      intro hds
      exact ih.2.2 fun x hx => hds x (List.mem_append_left _ hx)
    · have htop : (ds ++ [d]).getLast? ≠ some 0 := by simpa using hd
      rw [stripTop_eq_self htop]
      exact ⟨rfl, htop, id⟩

theorem value_ofDigits (ds : List UInt8) : (ofDigits ds).value = valueOf ds := by
  have h := (stripTop_spec ds).1
  unfold ofDigits
  split
  · rename_i hs
    rw [hs] at h
    exact h
  · exact h

/-- Decimal digits are put into normal form. -/
theorem canonical_ofDigits {ds : List UInt8} (hds : Decimal ds) : (ofDigits ds).Canonical := by
  obtain ⟨-, htop, hdec⟩ := stripTop_spec ds
  unfold ofDigits
  split
  · exact ⟨by simp, by simp, fun _ => rfl⟩
  · rename_i hne
    exact ⟨hne, hdec hds, fun h => absurd h htop⟩

theorem canonical_one : one.Canonical := by decide

theorem valueOf_eq_ofDigits (ds : List UInt8) :
    valueOf ds = Nat.ofDigits 10 (ds.map UInt8.toNat) := by
  induction ds with
  | nil => rfl
  | cons d ds ih => rw [valueOf_cons, ih, List.map_cons, Nat.ofDigits_cons]

/-- The digits of a number are those of a list that denotes it, if the top one is not zero. -/
theorem digits_valueOf {ds : List UInt8} (hds : Decimal ds) (htop : ds.getLast? ≠ some 0) :
    Nat.digits 10 (valueOf ds) = ds.map UInt8.toNat := by
  rw [valueOf_eq_ofDigits]
  apply Nat.digits_ofDigits 10 (by decide)
  · intro l hl
    obtain ⟨d, hd, rfl⟩ := List.mem_map.mp hl
    have hd9 : d.toNat ≤ 9 := UInt8.le_iff_toNat_le.mp (hds d hd)
    omega
  · intro hne h0
    rw [List.getLast_map] at h0
    have hne' : ds ≠ [] := by simpa using hne
    apply htop
    rw [List.getLast?_eq_some_getLast hne']
    exact congrArg some (UInt8.toNat_inj.mp h0)

/-- A numeral in normal form is zero, or its top digit is not. -/
theorem Canonical.zero_or_top {a : Numeral} (ha : a.Canonical) :
    a.digits = [0] ∨ a.digits.getLast? ≠ some 0 := by
  by_cases h : a.digits.getLast? = some 0
  · exact Or.inl (ha.top_ne_zero h)
  · exact Or.inr h

/-- A numeral in normal form whose top digit is not zero does not denote zero. -/
theorem value_ne_zero {a : Numeral} (ha : a.Canonical) (htop : a.digits.getLast? ≠ some 0) :
    a.value ≠ 0 := by
  intro h0
  have hd := digits_valueOf ha.digit_le htop
  rw [show valueOf a.digits = 0 from h0, Nat.digits_zero] at hd
  exact ha.nonempty (List.map_eq_nil_iff.mp hd.symm)

/-- **A number has one normal form.** -/
theorem Canonical.ext {a b : Numeral} (ha : a.Canonical) (hb : b.Canonical)
    (h : a.value = b.value) : a = b := by
  -- The digit zero alone denotes zero, and no other normal form does.
  rcases ha.zero_or_top with ha0 | hat <;> rcases hb.zero_or_top with hb0 | hbt
  · cases a; cases b; simp_all
  · have hv : a.value = 0 := by rw [value, ha0]; rfl
    exact absurd (h ▸ hv) (value_ne_zero hb hbt)
  · have hv : b.value = 0 := by rw [value, hb0]; rfl
    exact absurd (h.trans hv) (value_ne_zero ha hat)
  · have hda := digits_valueOf ha.digit_le hat
    have hdb := digits_valueOf hb.digit_le hbt
    have hmap : a.digits.map UInt8.toNat = b.digits.map UInt8.toNat := by
      rw [← hda, ← hdb]
      exact congrArg _ h
    have hinj : Function.Injective UInt8.toNat := fun _ _ => UInt8.toNat_inj.mp
    cases a; cases b
    exact congrArg Numeral.mk (hinj.list_map hmap)

/-! ## §5. The operations. -/

theorem word_bound (n : UInt32) : n.toUInt64.toNat + 255 < 2 ^ 64 := by
  have hn : n.toNat < 2 ^ 32 := n.toNat_lt
  rw [UInt32.toNat_toUInt64]
  omega

theorem value_add (a : Numeral) (n : UInt32) : (a.add n).value = a.value + n.toNat := by
  show valueOf (addCarry a.digits n.toUInt64) = _
  rw [valueOf_addCarry _ _ (word_bound n), UInt32.toNat_toUInt64]
  rfl

theorem Canonical.add {a : Numeral} (ha : a.Canonical) (n : UInt32) : (a.add n).Canonical := by
  refine ⟨addCarry_ne_nil ha.nonempty _, decimal_addCarry ha.digit_le _, ?_⟩
  intro h
  -- To zero alone the loop adds a first digit; other numerals keep a top digit other than zero.
  rcases ha.zero_or_top with ha0 | htop
  · by_cases hn : n.toUInt64 = 0
    · show addCarry a.digits n.toUInt64 = [0]
      rw [ha0, hn]
      rfl
    · refine absurd h ?_
      show (addCarry a.digits n.toUInt64).getLast? ≠ some 0
      rw [ha0]
      exact top_addCarry_singleton 0 hn (word_bound n)
  · exact absurd h (top_addCarry_ne_zero _ _ (word_bound n) htop)

theorem value_mul {a : Numeral} (ha : a.Canonical) (n : UInt32) :
    (a.mul n).value = a.value * n.toNat := by
  unfold mul
  rw [value_ofDigits, valueOf_mulCarry n ha.digit_le 0 (Nat.zero_le _)]
  rfl

theorem Canonical.mul (a : Numeral) (n : UInt32) : (a.mul n).Canonical :=
  canonical_ofDigits (decimal_mulCarry _ _ _)

theorem toNat_pos {d : UInt64} (hd : d ≠ 0) : 0 < d.toNat :=
  Nat.pos_of_ne_zero fun h => hd (UInt64.toNat_inj.mp h)

/-- **The remainder is that of the number denoted.** -/
theorem rem_eq (a : Numeral) {d : UInt64} (hd : d ≠ 0) :
    a.rem d = .ok (UInt64.ofNat (a.value % d.toNat)) := by
  unfold rem
  rw [if_neg hd, remOf_eq]
  rfl

end Repunits.Numeral
