/-
  Repunits.Proofs.Repunit.Period
  ────────────────────────────────
  **The carried remainders are those of the table, and they come round.**

  The remainder probe does not look at the length that it is asked for:
  what counts is how often it has been called. Its `n`-th answer is the
  residue of the `n`-th repunit, as a table of that size gives it. The
  residues repeat after `p` calls, from the first call on, if the divisor
  divides the repunit of length `p`; if it is coprime with ten, so that
  ten can be cancelled, they repeat in no other case.

  Main results:
    * `remainders_eq` — the answers are the residues.
    * `periodic_residue_iff` — when the residues repeat.
    * `remainders_periodic` — the answers, the table, and the period.
-/
import Mathlib.Algebra.Ring.Periodic
import Repunits.Proofs.Repunit.Order

namespace Repunits

/-! ## §1. A probe called again and again. -/

section

variable {σ : Type} (probe : Nat → σ → Except Fault UInt64 × σ) (lengths : Nat → Nat) (s : σ)

/-- The state of a probe after its first `n` calls, which are for these lengths. -/
def handedOn : Nat → σ
  | 0 => s
  | n + 1 => (probe (lengths n) (handedOn n)).2

/-- What it answers to the call after those. -/
def answerTo (n : Nat) : Except Fault UInt64 := (probe (lengths n) (handedOn probe lengths s n)).1

end

/-- The answers of the remainder probe to successive calls, which are for these lengths. -/
def remainders (d : UInt64) (lengths : Nat → Nat) : Nat → Except Fault UInt64 :=
  answerTo (probeRemainder d) lengths 0

/-- The remainder that is carried is that of as many ones as there were calls. -/
theorem handedOn_probeRemainder (d : UInt64) (lengths : Nat → Nat) (n : Nat) :
    handedOn (probeRemainder d) lengths 0 n = repunit n % d.toNat := by
  induction n with
  | zero => exact (Nat.zero_mod _).symm
  | succ n ih =>
    show nextRemainder d (handedOn (probeRemainder d) lengths 0 n) = _
    rw [ih, nextRemainder_eq]

/-- **The answers are the residues of the repunits**, one after the other, whatever the lengths asked
for. -/
theorem remainders_eq (d : UInt64) (lengths : Nat → Nat) (n : Nat) :
    remainders d lengths n = .ok (residue d (n + 1)) := by
  show Except.ok (UInt64.ofNat (nextRemainder d (handedOn (probeRemainder d) lengths 0 n))) = _
  rw [handedOn_probeRemainder, nextRemainder_eq]
  rfl

/-! ## §2. When the residues repeat. -/

/-- **The residues repeat after the lengths that will do**, and after no others. -/
theorem periodic_residue_iff {d : UInt64} (hd : Nat.Coprime d.toNat 10) (p : Nat) :
    Function.Periodic (fun n => residue d (n + 1)) p ↔ d.toNat ∣ repunit p := by
  have hne := ne_zero_of_coprime hd
  constructor
  · intro hperiodic
    -- One period past the first call the residue is that of a single one again.
    have hfirst : residue d (p + 1) = residue d 1 := by
      simpa using hperiodic 0
    exact dvd_repunit_sub hd (by omega) ((residue_eq_iff hne _ _).mp hfirst.symm)
  · intro hdvd n
    show residue d (n + p + 1) = residue d (n + 1)
    rw [residue_eq_iff hne, show n + p + 1 = p + (n + 1) by omega, repunit_add, Nat.add_mod,
      Nat.mod_eq_zero_of_dvd (Dvd.dvd.mul_right hdvd _), Nat.zero_add, Nat.mod_mod]

/-- The answers of the remainder probe repeat after the multiples of the least length. -/
theorem IsLeastLength.periodic_iff {d : UInt64} {k : Nat} (hk : IsLeastLength d.toNat k)
    (lengths : Nat → Nat) (p : Nat) :
    Function.Periodic (remainders d lengths) p ↔ k ∣ p := by
  rw [← hk.dvd_repunit_iff, ← periodic_residue_iff hk.coprime]
  simp only [Function.Periodic, remainders_eq, Except.ok.injEq]

/-- The first answer of zero is that for the least length. -/
theorem IsLeastLength.isLeast_zero {d : UInt64} {n : Nat} (hk : IsLeastLength d.toNat (n + 1))
    (lengths : Nat → Nat) :
    IsLeast {i | remainders d lengths i = .ok 0} n := by
  have hne := ne_zero_of_coprime hk.coprime
  have hzero : ∀ i, remainders d lengths i = .ok 0 ↔
      d.toNat ∣ repunit (i + 1) := by
    intro i
    rw [remainders_eq, Except.ok.injEq, residue_eq_zero_iff hne]
  refine ⟨(hzero n).mpr hk.dvd, ?_⟩
  intro i hi
  by_contra hlt
  exact hk.least (i + 1) (by omega) (by omega) ((hzero i).mp hi)

/-! ## §3. The answers, the table, and the period. -/

/-- **The carried remainder is that of the numeral, and the remainders are purely periodic.** The answers
are counted from zero: answer `n` is that to call number `n + 1`. Whatever lengths the calls are for, it
is the remainder of the repunit of length `n + 1`, and any table with that many entries has an entry of
this length with this remainder. If the divisor is coprime with ten, the answers repeat from the first
one on, and their least period is the number of the first call that is answered with zero. -/
theorem remainders_periodic {d : UInt64} (hd : d ≠ 0) (lengths : Nat → Nat) :
    -- the answers and the table
    (∀ n, ∃ r, remainders d lengths n = .ok r ∧ r.toNat = (10 ^ (n + 1) - 1) / 9 % d.toNat ∧
      ∀ t : Table, t.Reachable → n + 1 ≤ t.size →
        ∃ a, t.get? (n + 1) = some a ∧ a.rem d = .ok r) ∧
    -- the period
    (Nat.Coprime d.toNat 10 → ∃ n, IsLeast {i | remainders d lengths i = .ok 0} n ∧
      IsLeast {p | 1 ≤ p ∧ Function.Periodic (remainders d lengths) p} (n + 1) ∧
      ∀ p, Function.Periodic (remainders d lengths) p ↔ n + 1 ∣ p) := by
  constructor
  · intro n
    refine ⟨residue d (n + 1), remainders_eq d lengths n, ?_, ?_⟩
    · rw [toNat_residue hd, repunit_eq_pow_div]
    · intro t ht hsize
      refine ⟨Numeral.ones (n + 1), ?_, rem_ones hd (n + 1)⟩
      rw [Table.get?_of_exact ht.exact, if_pos ⟨Nat.le_add_left 1 n, hsize⟩]
  · intro hcop
    obtain ⟨k, -, hk⟩ := exists_isLeastLength hcop
    obtain ⟨n, rfl⟩ : ∃ n, k = n + 1 := ⟨k - 1, (Nat.sub_add_cancel hk.pos).symm⟩
    refine ⟨n, hk.isLeast_zero lengths, ⟨⟨hk.pos, ?_⟩, ?_⟩, hk.periodic_iff lengths⟩
    · exact (hk.periodic_iff lengths (n + 1)).mpr (Nat.dvd_refl _)
    · rintro p ⟨hp, hperiodic⟩
      exact Nat.le_of_dvd hp ((hk.periodic_iff lengths p).mp hperiodic)

/-- Seven has the period six, though the probe is asked for one length only. Twelve, which shares a factor
with ten, leaves seven of the fourth repunit, by the probe and by a table of five. -/
theorem remainders_periodic_sevenAndTwelve :
    let t := Table.ofLength 5
    (7 : UInt64) ≠ 0 ∧ Nat.Coprime (7 : UInt64).toNat 10 ∧
      IsLeast {p | 1 ≤ p ∧ Function.Periodic (remainders 7 fun _ => 1) p} 6 ∧
      (12 : UInt64) ≠ 0 ∧ t.Reachable ∧ 4 ≤ t.size ∧
      remainders 12 (fun i => i + 1) 3 = .ok 7 ∧
      ∃ a, t.get? 4 = some a ∧ a.rem 12 = .ok 7 := by
  intro t
  have hseven : (7 : UInt64) ≠ 0 := by decide
  have hcop : Nat.Coprime (7 : UInt64).toNat 10 := by decide
  have htwelve : (12 : UInt64) ≠ 0 := by decide
  have ht : t.Reachable := .ofLength 5
  have hsize : 4 ≤ t.size := by decide +kernel
  obtain ⟨-, hperiod⟩ := remainders_periodic hseven fun _ => 1
  obtain ⟨n, hzero, hleast, -⟩ := hperiod hcop
  obtain rfl : n = 5 := by
    have hsixth : remainders 7 (fun _ => 1) 5 = .ok 0 := by decide +kernel
    have hle : n ≤ 5 := hzero.2 hsixth
    have hn : remainders 7 (fun _ => 1) n = .ok 0 := hzero.1
    by_contra hne
    have hlt : n < 5 := by omega
    interval_cases n <;> revert hn <;> decide +kernel
  obtain ⟨htold, -⟩ := remainders_periodic htwelve fun i => i + 1
  obtain ⟨r, hr, -, htable⟩ := htold 3
  have hlast : remainders 12 (fun i => i + 1) 3 = .ok 7 := by decide +kernel
  obtain rfl : r = 7 := Except.ok.inj (hr.symm.trans hlast)
  exact ⟨hseven, hcop, hleast, htwelve, ht, hsize, hlast, htable t ht hsize⟩

end Repunits
