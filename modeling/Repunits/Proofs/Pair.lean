/-
  Repunits.Proofs.Pair
  ────────────────────────────────
  **A pair that is worked out has its exact results.**

  A sum, product or difference is refused where it leaves the range of a
  word, so that one which is given is exact. Floor division is known by
  what it leaves: a remainder smaller than the divisor and of its sign.
  Truncating division leaves one of the dividend's sign; where the signs
  differ, one step down mends it, and the step stays in the range since
  the divisor has at least two units there. A pair is refused for the
  first of its results that leaves the range; the quotient is never that
  one, because the sum of the pair would have been refused before it.

  Main results:
    * `IsFloorDivision.eq` — there is one floor division.
    * `IsFloorDivision.eq_floor` — its quotient is the ratio, rounded down.
    * `floorDivRem_exact` — what `floorDivRem` gives is that.
    * `floorDivRem_wholeRange` — all that `floorDivRem` can come to.
    * `PairSummary.exact_of` — the results of a pair are exact.
    * `PairSummary.of_wholeRange` — all that a pair can come to.
-/
import Mathlib.Data.Rat.Floor
import Mathlib.Tactic.Ring
import Repunits.Pair
import Repunits.Proofs.Steps

namespace Repunits

/-! ## §1. Floor division of integers. -/

/-- Dividing `a` by `b` leaves `r`, which is smaller than `b` and not of the opposite sign. -/
structure IsFloorDivision (a b q r : Int) : Prop where
  eq_add : a = q * b + r
  natAbs_lt : r.natAbs < b.natAbs
  sign : r ≠ 0 → (r < 0 ↔ b < 0)

/-- **There is one floor division.** -/
theorem IsFloorDivision.eq {a b q r : Int} (h : IsFloorDivision a b q r) :
    q = a.fdiv b ∧ r = a.fmod b := by
  obtain ⟨heq, hlt, hsign⟩ := h
  have heq' : r + b * q = a := by rw [heq]; ring
  rcases Int.lt_or_gt_of_ne (show b ≠ 0 by omega) with hneg | hpos
  · obtain ⟨hq, hr⟩ := (Int.fdiv_fmod_unique' hneg).mpr ⟨heq', by omega, by omega⟩
    exact ⟨hq.symm, hr.symm⟩
  · obtain ⟨hq, hr⟩ := (Int.fdiv_fmod_unique hpos).mpr ⟨heq', by omega, by omega⟩
    exact ⟨hq.symm, hr.symm⟩

/-- The quotient of floor division is the ratio of the two integers, rounded down. -/
theorem IsFloorDivision.eq_floor {a b q r : Int} (h : IsFloorDivision a b q r) :
    q = ⌊(a : ℚ) / b⌋ := by
  obtain ⟨heq, hlt, hsign⟩ := h
  have hnext : (q + 1) * b = q * b + b := by ring
  symm
  rw [Int.floor_eq_iff]
  rcases Int.lt_or_gt_of_ne (show b ≠ 0 by omega) with hneg | hpos
  · -- Below zero the remainder is not positive and lies above the divisor.
    have hle : a ≤ q * b := by omega
    have hgt : (q + 1) * b < a := by omega
    have hneg' : (b : ℚ) < 0 := by exact_mod_cast hneg
    rw [le_div_iff_of_neg hneg', div_lt_iff_of_neg hneg']
    exact ⟨by exact_mod_cast hle, by exact_mod_cast hgt⟩
  · have hle : q * b ≤ a := by omega
    have hlt' : a < (q + 1) * b := by omega
    have hpos' : (0 : ℚ) < b := by exact_mod_cast hpos
    rw [le_div_iff₀ hpos', div_lt_iff₀ hpos']
    exact ⟨by exact_mod_cast hle, by exact_mod_cast hlt'⟩

theorem tdiv_mul_add_tmod (a b : Int) : a = a.tdiv b * b + a.tmod b := by
  rw [Int.mul_comm]
  exact (Int.mul_tdiv_add_tmod a b).symm

theorem natAbs_tmod_lt (a : Int) {b : Int} (hb : b ≠ 0) : (a.tmod b).natAbs < b.natAbs := by
  rw [Int.natAbs_tmod]
  exact Nat.mod_lt _ (Int.natAbs_pos.mpr hb)

/-- Truncating division is floor division, unless the signs of divisor and remainder differ. -/
theorem isFloorDivision_tdiv {a b : Int} (hb : b ≠ 0)
    (h : a.tmod b ≠ 0 → (a.tmod b < 0 ↔ b < 0)) :
    IsFloorDivision a b (a.tdiv b) (a.tmod b) :=
  ⟨tdiv_mul_add_tmod a b, natAbs_tmod_lt a hb, h⟩

/-- Where they differ, floor division is one step further down. -/
theorem isFloorDivision_tdiv_sub_one {a b : Int} (hb : b ≠ 0) (hne : a.tmod b ≠ 0)
    (h : ¬ (a.tmod b < 0 ↔ b < 0)) :
    IsFloorDivision a b (a.tdiv b - 1) (a.tmod b + b) := by
  have hlt := natAbs_tmod_lt a hb
  constructor
  · calc a = a.tdiv b * b + a.tmod b := tdiv_mul_add_tmod a b
      _ = (a.tdiv b - 1) * b + (a.tmod b + b) := by ring
  · omega
  · omega

/-- A division that leaves something has a quotient of at most half the dividend. -/
theorem two_mul_natAbs_tdiv_le {a b : Int} (hb : b ≠ 0) (hne : a.tmod b ≠ 0) :
    2 * (a.tdiv b).natAbs ≤ a.natAbs := by
  have hlt := natAbs_tmod_lt a hb
  have htwo : 2 ≤ b.natAbs := by omega
  have hquotient : (a.tdiv b).natAbs ≤ a.natAbs / 2 := by
    rw [Int.natAbs_tdiv]
    exact Nat.div_le_div_left htwo (by decide)
  omega

/-! ## §2. Floor division of words. -/

/-- Words add up where the sum has a place in the range. -/
theorem toInt_add_of_mem {a b : Int64} (hlo : -2 ^ 63 ≤ a.toInt + b.toInt)
    (hhi : a.toInt + b.toInt < 2 ^ 63) : (a + b).toInt = a.toInt + b.toInt := by
  rw [Int64.toInt_add]
  exact Int.bmod_eq_of_le_mul_two (by omega) (by omega)

theorem toInt_sub_of_mem {a b : Int64} (hlo : -2 ^ 63 ≤ a.toInt - b.toInt)
    (hhi : a.toInt - b.toInt < 2 ^ 63) : (a - b).toInt = a.toInt - b.toInt := by
  rw [Int64.toInt_sub]
  exact Int.bmod_eq_of_le_mul_two (by omega) (by omega)

theorem toInt_ne_zero {b : Int64} (hb : b ≠ 0) : b.toInt ≠ 0 := by
  intro h
  exact hb (Int64.toInt_inj.mp (h.trans Int64.toInt_zero.symm))

theorem toInt_div_of_not_least {a b : Int64} (h : ¬ (a = Int64.minValue ∧ b = -1)) :
    (a / b).toInt = a.toInt.tdiv b.toInt := by
  rcases Decidable.not_and_iff_not_or_not.mp h with ha | hb
  · exact Int64.toInt_div_of_ne_left a b ha
  · exact Int64.toInt_div_of_ne_right a b hb

/-- **The step that mends a division stays in the range**: a quotient that leaves something is at most
half as large as the dividend can be, and divisor and remainder have different signs. -/
theorem mend_mem {a b : Int64} (hb : b.toInt ≠ 0) (hne : a.toInt.tmod b.toInt ≠ 0)
    (h : ¬ (a.toInt.tmod b.toInt < 0 ↔ b.toInt < 0)) :
    (-2 ^ 63 ≤ a.toInt.tdiv b.toInt - 1 ∧ a.toInt.tdiv b.toInt - 1 < 2 ^ 63) ∧
      -2 ^ 63 ≤ a.toInt.tmod b.toInt + b.toInt ∧ a.toInt.tmod b.toInt + b.toInt < 2 ^ 63 := by
  have hhalf := two_mul_natAbs_tdiv_le hb hne
  have hsmall := natAbs_tmod_lt a.toInt hb
  have ha := a.le_toInt
  have ha' := a.toInt_lt
  have hbound := b.le_toInt
  have hbound' := b.toInt_lt
  omega

/-- The remainder of words is that of their values, and is zero where that is. -/
theorem mod_ne_zero_iff (a b : Int64) : a % b ≠ 0 ↔ a.toInt.tmod b.toInt ≠ 0 := by
  rw [← Int64.toInt_mod, ← Int64.toInt_zero, Ne, Ne, Int64.toInt_inj]

theorem mod_neg_iff (a b : Int64) : a % b < 0 ↔ a.toInt.tmod b.toInt < 0 := by
  rw [← Int64.toInt_mod, Int64.lt_iff_toInt_lt, Int64.toInt_zero]

/-- **Floor division of words is the floor division of their values**: the step that mends the
quotient and the remainder keeps both in the range. -/
theorem exists_floorDivRem {a b : Int64} (hb : b ≠ 0) (hleast : ¬ (a = Int64.minValue ∧ b = -1)) :
    ∃ q r, floorDivRem a b = .ok (q, r) ∧
      IsFloorDivision a.toInt b.toInt q.toInt r.toInt := by
  have hb' := toInt_ne_zero hb
  have hq : (a / b).toInt = a.toInt.tdiv b.toInt := toInt_div_of_not_least hleast
  have hr : (a % b).toInt = a.toInt.tmod b.toInt := Int64.toInt_mod a b
  have hsign : (decide (a % b < 0) != decide (b < 0)) = true ↔
      ¬ (a.toInt.tmod b.toInt < 0 ↔ b.toInt < 0) := by
    rw [bne_iff_ne, Ne, decide_eq_decide, mod_neg_iff, Int64.lt_iff_toInt_lt, Int64.toInt_zero]
  unfold floorDivRem
  rw [if_neg hb, if_neg hleast]
  dsimp only
  by_cases hmend : a % b ≠ 0 ∧ (decide (a % b < 0) != decide (b < 0)) = true
  · obtain ⟨hne, hdiffer⟩ := hmend
    have hne' := (mod_ne_zero_iff a b).mp hne
    have hdiffer' := hsign.mp hdiffer
    obtain ⟨⟨hqlo, hqhi⟩, hrlo, hrhi⟩ := mend_mem hb' hne' hdiffer'
    have hone : (1 : Int64).toInt = 1 := by decide
    have hq' : (a / b - 1).toInt = a.toInt.tdiv b.toInt - 1 := by
      rw [toInt_sub_of_mem, hq, hone] <;> rw [hq, hone] <;> assumption
    have hr' : (a % b + b).toInt = a.toInt.tmod b.toInt + b.toInt := by
      rw [toInt_add_of_mem, hr] <;> rw [hr] <;> assumption
    refine ⟨a / b - 1, a % b + b, if_pos ⟨hne, hdiffer⟩, ?_⟩
    rw [hq', hr']
    exact isFloorDivision_tdiv_sub_one hb' hne' hdiffer'
  · refine ⟨a / b, a % b, if_neg hmend, ?_⟩
    rw [hq, hr]
    apply isFloorDivision_tdiv hb'
    intro hne'
    by_contra hdiffer'
    exact hmend ⟨(mod_ne_zero_iff a b).mpr hne', hsign.mpr hdiffer'⟩

/-- The text of an operation that overflowed: its operands, and its sign between blanks. -/
theorem Excess.text_result (op : Operation) (a b : Int64) :
    (Excess.result op a b).text = toString a ++ (" " ++ op.sign ++ " ") ++ toString b := by
  show toString a ++ " " ++ op.sign ++ " " ++ toString b = _
  simp only [String.append_assoc]

/-- **All that a floor division can come to.** -/
theorem floorDivRem_cases (a b : Int64) :
    (b = 0 ∧ floorDivRem a b = .error .divisionByZero) ∨
    ((a = Int64.minValue ∧ b = -1) ∧
      floorDivRem a b = .error (.overflow (.result .quotient a b))) ∨
    ∃ q r, (b ≠ 0 ∧ ¬ (a = Int64.minValue ∧ b = -1)) ∧ floorDivRem a b = .ok (q, r) ∧
      IsFloorDivision a.toInt b.toInt q.toInt r.toInt := by
  by_cases hb : b = 0
  · exact Or.inl ⟨hb, if_pos hb⟩
  · by_cases hleast : a = Int64.minValue ∧ b = -1
    · refine Or.inr (Or.inl ⟨hleast, ?_⟩)
      unfold floorDivRem
      rw [if_neg hb, if_pos hleast]
    · obtain ⟨q, r, h, hdivision⟩ := exists_floorDivRem hb hleast
      exact Or.inr (Or.inr ⟨q, r, ⟨hb, hleast⟩, h, hdivision⟩)

/-- What floor division gives is exact. -/
theorem floorDivRem_exact {a b q r : Int64} (h : floorDivRem a b = .ok (q, r)) :
    IsFloorDivision a.toInt b.toInt q.toInt r.toInt := by
  rcases floorDivRem_cases a b with ⟨-, h'⟩ | ⟨-, h'⟩ | ⟨q', r', -, h', hdivision⟩
  · simp [h'] at h
  · simp [h'] at h
  · obtain ⟨rfl, rfl⟩ := Prod.mk.inj (Except.ok.inj (h'.symm.trans h))
    exact hdivision

theorem floorDivRem_eq_divisionByZero_iff (a b : Int64) :
    floorDivRem a b = .error .divisionByZero ↔ b = 0 := by
  rcases floorDivRem_cases a b with ⟨hb, h⟩ | ⟨⟨-, hb⟩, h⟩ | ⟨q, r, ⟨hb, -⟩, h, -⟩
  · rw [h]
    simp [hb]
  · rw [h]
    simp [hb]
  · rw [h]
    simp [hb]

theorem floorDivRem_eq_overflow_iff (a b : Int64) (e : Excess) :
    floorDivRem a b = .error (.overflow e) ↔
      (a = Int64.minValue ∧ b = -1) ∧ e = .result .quotient a b := by
  rcases floorDivRem_cases a b with ⟨hb, h⟩ | ⟨hleast, h⟩ | ⟨q, r, ⟨-, hleast⟩, h, -⟩
  · rw [h]
    simp [hb]
  · rw [h]
    simp [hleast, eq_comm]
  · rw [h]
    simp [hleast]

/-- **Floor division over the whole range of words.** A zero divisor is refused, and so is the least
word divided by minus one, by the text of that division; nothing else is. Any other division leaves
less than the divisor, and nothing of the opposite sign; its quotient is the ratio of the two, rounded
down, and no other two integers divide so. Where truncating division has to be mended, the mended
quotient and remainder have their places in the range. -/
theorem floorDivRem_wholeRange (a b : Int64) :
    -- a zero divisor
    (floorDivRem a b = .error .divisionByZero ↔ b = 0) ∧
    -- a quotient that has no place in the range
    ((∃ e, floorDivRem a b = .error (.overflow e)) ↔ a = Int64.minValue ∧ b = -1) ∧
    (∀ e, floorDivRem a b = .error (.overflow e) →
      e.text = toString a ++ " / " ++ toString b) ∧
    -- any other division
    (b ≠ 0 → ¬ (a = Int64.minValue ∧ b = -1) →
      ∃ q r, floorDivRem a b = .ok (q, r) ∧
        IsFloorDivision a.toInt b.toInt q.toInt r.toInt ∧
        q.toInt = ⌊(a.toInt : ℚ) / b.toInt⌋ ∧
        ∀ q' r' : Int, IsFloorDivision a.toInt b.toInt q' r' → q' = q.toInt ∧ r' = r.toInt) ∧
    -- the step that mends a division
    (b ≠ 0 → a % b ≠ 0 → ¬ (a % b < 0 ↔ b < 0) →
      (-2 ^ 63 ≤ (a / b).toInt - 1 ∧ (a / b).toInt - 1 < 2 ^ 63) ∧
        -2 ^ 63 ≤ (a % b).toInt + b.toInt ∧ (a % b).toInt + b.toInt < 2 ^ 63) := by
  refine ⟨floorDivRem_eq_divisionByZero_iff a b, ?_, ?_, ?_, ?_⟩
  · simp only [floorDivRem_eq_overflow_iff, exists_and_left, exists_eq, and_true]
  · intro e he
    rw [((floorDivRem_eq_overflow_iff a b e).mp he).2]
    exact Excess.text_result .quotient a b
  · intro hb hleast
    obtain ⟨q, r, h, hdivision⟩ := exists_floorDivRem hb hleast
    refine ⟨q, r, h, hdivision, hdivision.eq_floor, ?_⟩
    intro q' r' hdivision'
    obtain ⟨hq, hr⟩ := hdivision.eq
    obtain ⟨hq', hr'⟩ := hdivision'.eq
    exact ⟨hq'.trans hq.symm, hr'.trans hr.symm⟩
  · intro hb hne hdiffer
    have hleast : ¬ (a = Int64.minValue ∧ b = -1) := by
      -- The least word leaves nothing when it is divided by minus one.
      intro ⟨ha, hb'⟩
      exact hne (by rw [ha, hb']; decide)
    rw [mod_neg_iff, Int64.lt_iff_toInt_lt, Int64.toInt_zero] at hdiffer
    rw [toInt_div_of_not_least hleast, Int64.toInt_mod]
    exact mend_mem (toInt_ne_zero hb) ((mod_ne_zero_iff a b).mp hne) hdiffer

/-- The least word by zero, by minus one, and by the greatest word, where truncating division has to be
mended. -/
theorem floorDivRem_wholeRange_least :
    let a := Int64.minValue
    let b := Int64.maxValue
    b ≠ 0 ∧ ¬ (a = Int64.minValue ∧ b = -1) ∧ a % b ≠ 0 ∧ ¬ (a % b < 0 ↔ b < 0) ∧
      floorDivRem a 0 = .error .divisionByZero ∧
      (∃ e, floorDivRem a (-1) = .error (.overflow e) ∧
        e.text = "-9223372036854775808 / -1") ∧
      (∃ q r, floorDivRem a b = .ok (q, r) ∧ q.toInt = -2 ∧ r.toInt = 9223372036854775806) ∧
      -2 ^ 63 ≤ (a / b).toInt - 1 := by
  intro a b
  have hb : b ≠ 0 := by decide
  have hleast : ¬ (a = Int64.minValue ∧ b = -1) := by decide
  have hne : a % b ≠ 0 := by decide
  have hdiffer : ¬ (a % b < 0 ↔ b < 0) := by decide
  obtain ⟨hzero, -⟩ := floorDivRem_wholeRange a 0
  obtain ⟨-, hoverflow, htext, -⟩ := floorDivRem_wholeRange a (-1)
  obtain ⟨-, -, -, hother, hmend⟩ := floorDivRem_wholeRange a b
  obtain ⟨e, he⟩ := hoverflow.mpr ⟨rfl, rfl⟩
  obtain ⟨q, r, h, -, -, hunique⟩ := hother hb hleast
  obtain ⟨hq, hr⟩ := hunique (-2) 9223372036854775806 ⟨by decide, by decide, by decide⟩
  exact ⟨hb, hleast, hne, hdiffer, hzero.mpr rfl, ⟨e, he, (htext e he).trans (by decide)⟩,
    ⟨q, r, h, hq.symm, hr.symm⟩, (hmend hb hne hdiffer).1.1⟩

/-! ## §3. Everything about one pair. -/

/-- What an operation gives that stays in the range is exact. -/
theorem fit_exact {op : Operation} {a b v : Int64} {exact : Int} (h : fit op a b exact = .ok v) :
    v.toInt = exact := by
  unfold fit at h
  split at h
  · rename_i hrange
    rw [Int64.toInt_minValue, Int64.toInt_maxValue] at hrange
    cases h
    exact Int64.toInt_ofInt_of_le hrange.1 (by omega)
  · cases h

/-- The results of a summary are those of its pair, over the integers. -/
structure PairSummary.Exact (s : PairSummary) : Prop where
  sum : s.sum.toInt = s.a.toInt + s.b.toInt
  product : s.product.toInt = s.a.toInt * s.b.toInt
  difference : s.difference.toInt = s.a.toInt - s.b.toInt
  division : IsFloorDivision s.a.toInt s.b.toInt s.quotient.toInt s.remainder.toInt

/-- **The results of a pair that is worked out are exact.** -/
theorem PairSummary.exact_of {a b : Int64} {s : PairSummary} (h : PairSummary.of a b = .ok s) :
    s.a = a ∧ s.b = b ∧ s.Exact := by
  unfold PairSummary.of at h
  obtain ⟨sum, hsum, h⟩ := bind_eq_ok h
  obtain ⟨product, hproduct, h⟩ := bind_eq_ok h
  obtain ⟨difference, hdifference, h⟩ := bind_eq_ok h
  obtain ⟨⟨quotient, remainder⟩, hdivision, h⟩ := bind_eq_ok h
  cases h
  exact ⟨rfl, rfl, fit_exact hsum, fit_exact hproduct, fit_exact hdifference,
    floorDivRem_exact hdivision⟩

/-! ## §4. All that a pair can come to. -/

/-- The integer has a place in the range of words. -/
def InRange (v : Int) : Prop := -2 ^ 63 ≤ v ∧ v < 2 ^ 63

instance (v : Int) : Decidable (InRange v) := inferInstanceAs (Decidable (_ ∧ _))

/-- What an operation comes to over the integers. -/
def Operation.exact : Operation → Int → Int → Int
  | .sum, a, b => a + b
  | .product, a, b => a * b
  | .difference, a, b => a - b
  | .quotient, a, b => a.fdiv b

/-- What it comes to on two words has a place in their range. -/
def Operation.Fits (op : Operation) (a b : Int64) : Prop := InRange (op.exact a.toInt b.toInt)

instance Operation.decidableFits (op : Operation) (a b : Int64) : Decidable (op.Fits a b) :=
  inferInstanceAs (Decidable (InRange _))

/-- The first of the three operations before the division whose result has no place in the range. -/
def PairSummary.excess? (a b : Int64) : Option Operation :=
  [.sum, .product, .difference].find? fun op => ¬ op.Fits a b

/-- An operation is refused just where its result has no place in the range. -/
theorem fit_eq (op : Operation) (a b : Int64) (exact : Int) :
    fit op a b exact = if InRange exact then .ok (Int64.ofInt exact)
      else .error (.overflow (.result op a b)) := by
  have hiff : Int64.minValue.toInt ≤ exact ∧ exact ≤ Int64.maxValue.toInt ↔ InRange exact := by
    rw [Int64.toInt_minValue, Int64.toInt_maxValue]
    unfold InRange
    omega
  unfold fit
  simp only [hiff]

/-- The text of an overflow tells which operation it was. -/
theorem Excess.text_result_inj {op op' : Operation} {a b : Int64} :
    (Excess.result op a b).text = (Excess.result op' a b).text ↔ op = op' := by
  rw [text_result, text_result, String.append_left_inj, String.append_right_inj]
  cases op <;> cases op' <;> decide

namespace PairSummary

/-- **A pair is worked out in two parts**: the first operation that leaves the range is reported, and
where none does all depends on the division. -/
theorem of_eq (a b : Int64) :
    of a b = match excess? a b with
      | some op => .error (.overflow (.result op a b))
      | none => (floorDivRem a b).map fun qr =>
          { a, b, sum := Int64.ofInt (a.toInt + b.toInt), product := Int64.ofInt (a.toInt * b.toInt),
            difference := Int64.ofInt (a.toInt - b.toInt), quotient := qr.1, remainder := qr.2 } := by
  unfold of excess?
  simp only [fit_eq, List.find?_cons, Operation.Fits, Operation.exact]
  by_cases hsum : InRange (a.toInt + b.toInt)
  · by_cases hproduct : InRange (a.toInt * b.toInt)
    · by_cases hdifference : InRange (a.toInt - b.toInt)
      · simp only [hsum, hproduct, hdifference]
        cases floorDivRem a b <;> rfl
      · simp only [hsum, hproduct, hdifference]
        rfl
    · simp only [hsum, hproduct]
      rfl
  · simp only [hsum]
    rfl

theorem excess?_eq_none_iff (a b : Int64) :
    excess? a b = none ↔ Operation.sum.Fits a b ∧ Operation.product.Fits a b ∧
      Operation.difference.Fits a b := by
  rw [excess?, List.find?_eq_none]
  simp only [decide_eq_true_eq, not_not, List.forall_mem_cons]
  simp

/-- The division is not among the operations tried before it. -/
theorem ne_quotient_of_excess? {a b : Int64} {op : Operation} (h : excess? a b = some op) :
    op ≠ .quotient := by
  have hmem := List.mem_of_find?_eq_some h
  intro hop
  rw [hop] at hmem
  exact absurd hmem (by decide)

/-- A zero divisor leaves the three other results in the range. -/
theorem excess?_zero (a : Int64) : excess? a 0 = none := by
  have hlo := a.le_toInt
  have hhi := a.toInt_lt
  rw [excess?_eq_none_iff, Operation.Fits, Operation.Fits, Operation.Fits, Int64.toInt_zero]
  refine ⟨?_, ?_, ?_⟩
  · show InRange (a.toInt + 0)
    rw [Int.add_zero]
    exact ⟨hlo, hhi⟩
  · show InRange (a.toInt * 0)
    rw [Int.mul_zero]
    decide
  · show InRange (a.toInt - 0)
    rw [Int.sub_zero]
    exact ⟨hlo, hhi⟩

/-- The only pair whose quotient has no place in the range has no sum there either. -/
theorem not_fits_sum_of_least {a b : Int64} (h : a = Int64.minValue ∧ b = -1) :
    ¬ Operation.sum.Fits a b := by
  obtain ⟨ha, hb⟩ := h
  rw [ha, hb]
  decide

/-- **All that a pair can come to.** -/
theorem of_cases (a b : Int64) :
    (b = 0 ∧ excess? a b = none ∧ of a b = .error .divisionByZero) ∨
    (∃ op, b ≠ 0 ∧ excess? a b = some op ∧ of a b = .error (.overflow (.result op a b))) ∨
    ∃ s, b ≠ 0 ∧ excess? a b = none ∧ of a b = .ok s := by
  cases hexcess : excess? a b with
  | some op =>
    have hb : b ≠ 0 := by
      intro hb
      rw [hb, excess?_zero] at hexcess
      cases hexcess
    exact Or.inr (Or.inl ⟨op, hb, rfl, by rw [of_eq, hexcess]⟩)
  | none =>
    have hof := of_eq a b
    rw [hexcess] at hof
    rcases floorDivRem_cases a b with ⟨hb, h⟩ | ⟨hleast, -⟩ | ⟨q, r, ⟨hb, -⟩, h, -⟩
    · rw [h] at hof
      exact Or.inl ⟨hb, rfl, hof⟩
    · -- Its sum would have been reported.
      exact absurd ((excess?_eq_none_iff a b).mp hexcess).1 (not_fits_sum_of_least hleast)
    · rw [h] at hof
      exact Or.inr (Or.inr ⟨_, hb, rfl, hof⟩)

theorem of_eq_divisionByZero_iff (a b : Int64) : of a b = .error .divisionByZero ↔ b = 0 := by
  rcases of_cases a b with ⟨hb, -, h⟩ | ⟨op, hb, -, h⟩ | ⟨s, hb, -, h⟩
  · rw [h]
    simp [hb]
  · rw [h]
    simp [hb]
  · rw [h]
    simp [hb]

theorem of_eq_overflow_iff (a b : Int64) (e : Excess) :
    of a b = .error (.overflow e) ↔ ∃ op, excess? a b = some op ∧ e = .result op a b := by
  rcases of_cases a b with ⟨-, hexcess, h⟩ | ⟨op, -, hexcess, h⟩ | ⟨s, -, hexcess, h⟩
  · rw [h, hexcess]
    simp
  · rw [h, hexcess]
    simp [eq_comm]
  · rw [h, hexcess]
    simp

theorem exists_of_eq_ok_iff (a b : Int64) :
    (∃ s, of a b = .ok s) ↔ b ≠ 0 ∧ excess? a b = none := by
  rcases of_cases a b with ⟨hb, -, h⟩ | ⟨op, -, hexcess, h⟩ | ⟨s, hb, hexcess, h⟩
  · rw [h]
    simp [hb]
  · rw [h, hexcess]
    simp
  · rw [h, hexcess]
    simp [hb]

theorem exists_of_eq_overflow_iff (a b : Int64) :
    (∃ e, of a b = .error (.overflow e)) ↔ b ≠ 0 ∧ ¬ excess? a b = none := by
  rcases of_cases a b with ⟨hb, -, h⟩ | ⟨op, hb, hexcess, h⟩ | ⟨s, -, hexcess, h⟩
  · rw [h]
    simp [hb]
  · rw [h, hexcess]
    simp [hb]
  · rw [h, hexcess]
    simp

/-- **A pair over the whole range of words.** It is worked out just if its second part is not zero and
sum, product and difference have their places in the range; then each result is the one over the
integers, the quotient rounded down, and quotient and remainder give the first part back. A zero
divisor is reported as such, whatever it divides. Any other pair is refused for the first of sum,
product and difference that has no place in the range, by the text of that operation. A quotient is
never reported: the one pair of words whose quotient has no place in the range has no sum there. -/
theorem of_wholeRange (a b : Int64) :
    -- a pair that is worked out
    ((∃ s, of a b = .ok s) ↔ b ≠ 0 ∧ Operation.sum.Fits a b ∧ Operation.product.Fits a b ∧
      Operation.difference.Fits a b) ∧
    (∀ s, of a b = .ok s → (s.a = a ∧ s.b = b) ∧ s.sum.toInt = a.toInt + b.toInt ∧
      s.product.toInt = a.toInt * b.toInt ∧ s.difference.toInt = a.toInt - b.toInt ∧
      s.quotient.toInt = ⌊(a.toInt : ℚ) / b.toInt⌋ ∧
      a.toInt = s.quotient.toInt * b.toInt + s.remainder.toInt ∧
      IsFloorDivision a.toInt b.toInt s.quotient.toInt s.remainder.toInt) ∧
    -- a zero divisor
    (of a b = .error .divisionByZero ↔ b = 0) ∧
    -- a result that has no place in the range
    ((∃ e, of a b = .error (.overflow e)) ↔
      b ≠ 0 ∧ ¬ (Operation.sum.Fits a b ∧ Operation.product.Fits a b ∧
        Operation.difference.Fits a b)) ∧
    (∀ e, of a b = .error (.overflow e) → ∃ op : Operation,
      [.sum, .product, .difference].find? (fun op => ¬ op.Fits a b) = some op ∧
      e.text = toString a ++ (" " ++ op.sign ++ " ") ++ toString b) ∧
    Operation.sum.sign = "+" ∧ Operation.product.sign = "*" ∧ Operation.difference.sign = "-" ∧
    -- the quotient
    (∀ e, floorDivRem a b = .error (.overflow e) → ¬ Operation.sum.Fits a b) ∧
    (∀ e, of a b = .error (.overflow e) → e.text ≠ toString a ++ " / " ++ toString b) ∧
    -- nothing else
    ∀ f, of a b = .error f → f = .divisionByZero ∨ ∃ e, f = .overflow e := by
  have hfits := excess?_eq_none_iff a b
  refine ⟨?_, ?_, of_eq_divisionByZero_iff a b, ?_, ?_, rfl, rfl, rfl, ?_, ?_, ?_⟩
  · rw [exists_of_eq_ok_iff, hfits]
  · intro s h
    obtain ⟨ha, hb, hexact⟩ := exact_of h
    subst ha hb
    obtain ⟨hsum, hproduct, hdifference, hdivision⟩ := hexact
    exact ⟨⟨rfl, rfl⟩, hsum, hproduct, hdifference, hdivision.eq_floor, hdivision.eq_add, hdivision⟩
  · rw [exists_of_eq_overflow_iff, hfits]
  · intro e h
    obtain ⟨op, hop, he⟩ := (of_eq_overflow_iff a b e).mp h
    refine ⟨op, hop, ?_⟩
    rw [he]
    exact Excess.text_result op a b
  · intro e h
    exact not_fits_sum_of_least ((floorDivRem_eq_overflow_iff a b e).mp h).1
  · intro e h
    obtain ⟨op, hop, he⟩ := (of_eq_overflow_iff a b e).mp h
    rw [he]
    intro htext
    have htext' : (Excess.result op a b).text = (Excess.result .quotient a b).text :=
      htext.trans (Excess.text_result .quotient a b).symm
    exact ne_quotient_of_excess? hop (Excess.text_result_inj.mp htext')
  · intro f h
    rcases of_cases a b with ⟨-, -, h'⟩ | ⟨op, -, -, h'⟩ | ⟨s, -, -, h'⟩
    · rw [h'] at h
      exact Or.inl (Except.error.inj h).symm
    · rw [h'] at h
      exact Or.inr ⟨_, (Except.error.inj h).symm⟩
    · rw [h'] at h
      cases h

/-- The least word with minus one, with one and with zero, and a pair that is worked out. -/
theorem of_wholeRange_leastWord :
    let a := Int64.minValue
    (∃ e, of a (-1) = .error (.overflow e) ∧ e.text = "-9223372036854775808 + -1") ∧
      (∃ e, of a 1 = .error (.overflow e) ∧ e.text = "-9223372036854775808 - 1") ∧
      of a 0 = .error .divisionByZero ∧
      ∃ s, of (-7) 2 = .ok s ∧ s.product.toInt = -14 ∧ s.quotient.toInt = -4 ∧
        s.remainder.toInt = 1 := by
  intro a
  obtain ⟨-, -, -, hminus, htextMinus, -⟩ := of_wholeRange a (-1)
  obtain ⟨-, -, -, hone, htextOne, -⟩ := of_wholeRange a 1
  obtain ⟨-, -, hzero, -⟩ := of_wholeRange a 0
  obtain ⟨hworked, hexact, -⟩ := of_wholeRange (-7) 2
  obtain ⟨e, he⟩ := hminus.mpr (by decide)
  obtain ⟨op, hop, htext⟩ := htextMinus e he
  obtain rfl : .sum = op := Option.some.inj hop
  obtain ⟨e', he'⟩ := hone.mpr (by decide)
  obtain ⟨op', hop', htext'⟩ := htextOne e' he'
  obtain rfl : .difference = op' := Option.some.inj hop'
  obtain ⟨s, hs⟩ := hworked.mpr (by decide)
  obtain ⟨-, -, hproduct, -, -, -, hdivision⟩ := hexact s hs
  have hother : IsFloorDivision (-7) 2 (-4) 1 := ⟨by decide, by decide, by decide⟩
  exact ⟨⟨e, he, htext⟩, ⟨e', he', htext'⟩, hzero.mpr rfl,
    ⟨s, hs, hproduct, hdivision.eq.1.trans hother.eq.1.symm, hdivision.eq.2.trans hother.eq.2.symm⟩⟩

end PairSummary

end Repunits
