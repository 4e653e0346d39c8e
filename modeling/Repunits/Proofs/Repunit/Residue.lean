/-
  Repunits.Proofs.Repunit.Residue
  ────────────────────────────────
  **Repunits modulo a number.**

  A longer repunit is a shorter one, shifted, and the shorter one again;
  so two repunits with one residue modulo `d` differ by a shifted
  repunit, and `d`, if it is coprime with ten, divides that repunit
  itself. Of the first `d + 1` repunits two have one residue: hence the
  least repunit length of `d` is at most `d`.

  Main results:
    * `repunit_eq_pow_div` — `repunit k = (10 ^ k - 1) / 9`.
    * `exists_isLeastLength` — a number coprime with ten has a least
      repunit length, and it is at most the number.
    * `exists_dvd_repunit_iff` — the numbers that divide a repunit are
      those coprime with ten.
-/
import Mathlib.Data.Finset.Card
import Mathlib.Data.Nat.GCD.Basic
import Mathlib.Tactic.Ring
import Repunits.Repunit.Basic

namespace Repunits

/-! ## §1. The closed form, and how repunits add up. -/

theorem nine_mul_repunit_add_one (k : Nat) : 9 * repunit k + 1 = 10 ^ k := by
  induction k with
  | zero => rfl
  | succ k ih =>
    rw [repunit_succ, pow_succ, ← ih]
    ring

/-- **The closed form of a repunit.** -/
theorem repunit_eq_pow_div (k : Nat) : repunit k = (10 ^ k - 1) / 9 := by
  have h := nine_mul_repunit_add_one k
  omega

/-- A repunit is its first ones, shifted, and its last ones. -/
theorem repunit_add (m n : Nat) : repunit (m + n) = repunit m * 10 ^ n + repunit n := by
  induction n with
  | zero => simp
  | succ n ih =>
    rw [← Nat.add_assoc, repunit_succ, ih, repunit_succ, pow_succ]
    ring

/-! ## §2. Two lengths with one residue. -/

/-- Ten can be cancelled modulo a number coprime with it. -/
theorem dvd_repunit_of_dvd_shift {d m n : Nat} (hd : Nat.Coprime d 10)
    (h : d ∣ repunit m * 10 ^ n) : d ∣ repunit m :=
  Nat.Coprime.dvd_of_dvd_mul_right (Nat.Coprime.pow_right n hd) h

theorem dvd_repunit_sub {d i j : Nat} (hd : Nat.Coprime d 10) (hij : i ≤ j)
    (h : repunit i % d = repunit j % d) : d ∣ repunit (j - i) := by
  apply dvd_repunit_of_dvd_shift (n := i) hd
  -- The difference of the two is the repunit of the lengths' difference, shifted.
  have hadd := repunit_add (j - i) i
  rw [Nat.sub_add_cancel hij] at hadd
  have hsub : d ∣ repunit j - repunit i :=
    Nat.dvd_of_mod_eq_zero (Nat.sub_mod_eq_zero_of_mod_eq h.symm)
  rwa [hadd, Nat.add_sub_cancel] at hsub

/-- Of the repunits of lengths `0` to `d`, two have one residue modulo `d`. -/
theorem exists_repunit_mod_eq {d : Nat} (hd : 0 < d) :
    ∃ i j, i < j ∧ j ≤ d ∧ repunit i % d = repunit j % d := by
  -- There is one length more than there are residues.
  have hcard : (Finset.range d).card < (Finset.range (d + 1)).card := by simp
  have hmaps : ∀ k ∈ Finset.range (d + 1), repunit k % d ∈ Finset.range d := by
    intro k _
    exact Finset.mem_range.mpr (Nat.mod_lt _ hd)
  obtain ⟨i, hi, j, hj, hne, heq⟩ :=
    Finset.exists_ne_map_eq_of_card_lt_of_maps_to hcard hmaps
  rw [Finset.mem_range] at hi hj
  rcases Nat.lt_or_gt_of_ne hne with hlt | hgt
  · exact ⟨i, j, hlt, by omega, heq⟩
  · exact ⟨j, i, hgt, by omega, heq.symm⟩

theorem pos_of_coprime_ten {d : Nat} (hd : Nat.Coprime d 10) : 0 < d := by
  rcases Nat.eq_zero_or_pos d with rfl | h
  · exact absurd hd (by decide)
  · exact h

/-- A number coprime with ten divides a non-empty repunit no longer than the number. -/
theorem exists_dvd_repunit {d : Nat} (hd : Nat.Coprime d 10) :
    ∃ k, 1 ≤ k ∧ k ≤ d ∧ d ∣ repunit k := by
  obtain ⟨i, j, hij, hj, heq⟩ := exists_repunit_mod_eq (pos_of_coprime_ten hd)
  exact ⟨j - i, by omega, by omega, dvd_repunit_sub hd (by omega) heq⟩

/-- A repunit ends in a one, so it shares no factor with ten. -/
theorem coprime_repunit_ten {k : Nat} (hk : 1 ≤ k) : Nat.Coprime (repunit k) 10 := by
  obtain ⟨n, rfl⟩ : ∃ n, k = n + 1 := ⟨k - 1, (Nat.sub_add_cancel hk).symm⟩
  rw [repunit_succ, Nat.coprime_mul_left_add_left]
  decide

/-- **The numbers that divide a non-empty repunit** are those coprime with ten. -/
theorem exists_dvd_repunit_iff (d : Nat) : (∃ k, 1 ≤ k ∧ d ∣ repunit k) ↔ Nat.Coprime d 10 := by
  constructor
  · rintro ⟨k, hk, hdvd⟩
    exact Nat.Coprime.coprime_dvd_left hdvd (coprime_repunit_ten hk)
  · intro hd
    obtain ⟨k, hk, -, hdvd⟩ := exists_dvd_repunit hd
    exact ⟨k, hk, hdvd⟩

/-! ## §3. The least length. -/

/-- Where some length will do there is a least one. -/
theorem exists_isLeastLength_le {d n : Nat} (h : ∃ k, 1 ≤ k ∧ k ≤ n ∧ d ∣ repunit k) :
    ∃ k, k ≤ n ∧ IsLeastLength d k := by
  classical
  obtain ⟨hpos, hle, hdvd⟩ := Nat.find_spec h
  refine ⟨Nat.find h, hle, hpos, hdvd, ?_⟩
  intro j hj hlt hj'
  exact Nat.find_min h hlt ⟨hj, by omega, hj'⟩

/-- **A number coprime with ten has a least repunit length, which is at most the number.** -/
theorem exists_isLeastLength {d : Nat} (hd : Nat.Coprime d 10) :
    ∃ k, k ≤ d ∧ IsLeastLength d k :=
  exists_isLeastLength_le (exists_dvd_repunit hd)

/-- A number that has a least repunit length is coprime with ten. -/
theorem IsLeastLength.coprime {d k : Nat} (h : IsLeastLength d k) : Nat.Coprime d 10 :=
  (exists_dvd_repunit_iff d).mp ⟨k, h.pos, h.dvd⟩

theorem IsLeastLength.le {d k : Nat} (h : IsLeastLength d k) : k ≤ d := by
  obtain ⟨l, hle, hl⟩ := exists_isLeastLength h.coprime
  rw [h.unique hl]
  exact hle

end Repunits
