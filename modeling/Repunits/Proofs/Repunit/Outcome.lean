/-
  Repunits.Proofs.Repunit.Outcome
  ────────────────────────────────
  **What a finder reports, under either strategy.**

  `Report.Answers d bound` says in terms of repunits alone what the
  search for `d` with lengths up to `bound` has to report; there is one
  such report. Both probes tell the residues of the repunits: the
  remainder probe because its state is the residue of the repunit before,
  the table probe because its table is exact. So both strategies give
  that report, and all that a search does to the finder is to extend an
  exact table as far as it has tested (`Finder.reached`).

  Main results:
    * `Report.Answers.unique` — one report answers.
    * `search_answers` — the search with a probe that tells the residues.
    * `report_answers`, `report_snd` — the report of a finder whose table
      is exact, and the finder after it.
-/
import Mathlib.Data.Nat.Prime.Basic
import Repunits.Proofs.Repunit.Search
import Repunits.Proofs.Repunit.Table
import Repunits.Repunit.Finder

namespace Repunits

open Numeral (ones)

/-! ## §1. Divisors. -/

theorem coprime_ten_iff (n : Nat) : Nat.Coprime n 10 ↔ ¬ 2 ∣ n ∧ ¬ 5 ∣ n := by
  rw [show (10 : Nat) = 2 * 5 from rfl, Nat.coprime_mul_iff_right, Nat.coprime_comm,
    Nat.Prime.coprime_iff_not_dvd (by decide), Nat.coprime_comm,
    Nat.Prime.coprime_iff_not_dvd (by decide)]

theorem mod_eq_zero_iff_dvd (d m : UInt64) : d % m = 0 ↔ m.toNat ∣ d.toNat := by
  rw [← UInt64.toNat_inj, UInt64.toNat_mod]
  exact (Nat.dvd_iff_mod_eq_zero).symm

/-- **The divisors that are searched for are those coprime with ten.** -/
theorem checkDivisor_eq_ok_iff (d : UInt64) :
    checkDivisor d = .ok () ↔ Nat.Coprime d.toNat 10 := by
  have h2 : d % 2 = 0 ↔ 2 ∣ d.toNat := mod_eq_zero_iff_dvd d 2
  have h5 : d % 5 = 0 ↔ 5 ∣ d.toNat := mod_eq_zero_iff_dvd d 5
  rw [coprime_ten_iff, ← h2, ← h5]
  unfold checkDivisor
  by_cases h0 : d = 0
  · rw [if_pos h0, h0]
    simp
  · rw [if_neg h0]
    by_cases h : d % 2 = 0 ∨ d % 5 = 0
    · rw [if_pos h]
      simp only [reduceCtorEq, false_iff]
      tauto
    · rw [if_neg h]
      simp only [true_iff]
      tauto

theorem ne_zero_of_coprime {d : UInt64} (hd : Nat.Coprime d.toNat 10) : d ≠ 0 := by
  rintro rfl
  exact absurd hd (by decide)

/-! ## §2. The report that answers. -/

/-- What the search for `d` has to report, with lengths up to `bound`. -/
inductive Report.Answers (d : UInt64) (bound : Nat) : Report → Prop where
  | refused {e : Fault} (h : checkDivisor d = .error e) : Answers d bound ⟨0, .error e⟩
  | found {k : Nat} (hd : Nat.Coprime d.toNat 10) (hk : k ≤ bound)
      (h : IsLeastLength d.toNat k) : Answers d bound ⟨k, .ok k⟩
  | exhausted (hd : Nat.Coprime d.toNat 10)
      (h : ∀ k, 1 ≤ k → k ≤ bound → ¬ d.toNat ∣ repunit k) :
      Answers d bound ⟨bound, .error (.limitExceeded d bound)⟩

/-- A refused divisor is not coprime with ten. -/
theorem not_coprime_of_refused {d : UInt64} {e : Fault} (h : checkDivisor d = .error e) :
    ¬ Nat.Coprime d.toNat 10 := by
  intro hd
  rw [(checkDivisor_eq_ok_iff d).mpr hd] at h
  cases h

/-- **One report answers.** -/
theorem Report.Answers.unique {d : UInt64} {bound : Nat} {r r' : Report}
    (h : r.Answers d bound) (h' : r'.Answers d bound) : r = r' := by
  cases h with
  | refused he =>
    cases h' with
    | refused he' =>
      rw [he] at he'
      cases he'
      rfl
    | found hd _ _ => exact absurd hd (not_coprime_of_refused he)
    | exhausted hd _ => exact absurd hd (not_coprime_of_refused he)
  | found hd hk hl =>
    cases h' with
    | refused he' => exact absurd hd (not_coprime_of_refused he')
    | found _ _ hl' => rw [hl.unique hl']
    | exhausted _ hn => exact absurd hl.dvd (hn _ hl.pos hk)
  | exhausted hd hn =>
    cases h' with
    | refused he' => exact absurd hd (not_coprime_of_refused he')
    | found _ hk hl => exact absurd hl.dvd (hn _ hl.pos hk)
    | exhausted _ _ => rfl

/-! ## §3. Probes that tell the residues. -/

/-- The residue of a repunit, in a word. -/
def residue (d : UInt64) (k : Nat) : UInt64 := UInt64.ofNat (repunit k % d.toNat)

/-- A residue is below the divisor, so that the word holds all of it. -/
theorem toNat_residue {d : UInt64} (hd : d ≠ 0) (k : Nat) :
    (residue d k).toNat = repunit k % d.toNat := by
  have hlt : repunit k % d.toNat < 2 ^ 64 :=
    (Nat.mod_lt _ (Numeral.toNat_pos hd)).trans d.toNat_lt
  exact UInt64.toNat_ofNat_of_lt' hlt

theorem residue_eq_iff {d : UInt64} (hd : d ≠ 0) (k l : Nat) :
    residue d k = residue d l ↔ repunit k % d.toNat = repunit l % d.toNat := by
  rw [← UInt64.toNat_inj, toNat_residue hd, toNat_residue hd]

theorem residue_eq_zero_iff {d : UInt64} (hd : d ≠ 0) (k : Nat) :
    residue d k = 0 ↔ d.toNat ∣ repunit k := by
  rw [Nat.dvd_iff_mod_eq_zero, ← UInt64.toNat_inj, toNat_residue hd]
  rfl

/-- A probe that tells the residues of the repunits, `Inv n` being what it keeps of its state
after `n` calls. -/
structure TellsResidues {σ : Type} (d : UInt64) (probe : Nat → σ → Except Fault UInt64 × σ)
    (Inv : Nat → σ → Prop) : Prop where
  tells : ∀ n s, Inv n s → (probe (n + 1) s).1 = .ok (residue d (n + 1))
  keeps : ∀ n s, Inv n s → Inv (n + 1) (probe (n + 1) s).2

section

variable {σ : Type} {d : UInt64} {probe : Nat → σ → Except Fault UInt64 × σ}
variable {Inv : Nat → σ → Prop} {s : σ}

theorem TellsResidues.probed (hp : TellsResidues d probe Inv) (h0 : Inv 0 s) (n : Nat) :
    Inv n (probed probe s n) := by
  induction n with
  | zero => exact h0
  | succ n ih => exact hp.keeps n _ ih

theorem TellsResidues.answerAfter (hp : TellsResidues d probe Inv) (h0 : Inv 0 s) (n : Nat) :
    answerAfter probe s n = .ok (residue d (n + 1)) :=
  hp.tells n _ (hp.probed h0 n)

/-- Such a probe is quiet where the divisor does not divide the repunit. -/
theorem TellsResidues.quiet (hp : TellsResidues d probe Inv) (h0 : Inv 0 s) (hd : d ≠ 0) {n : Nat}
    (hn : ¬ d.toNat ∣ repunit (n + 1)) : Quiet (Repunits.answerAfter probe s n) :=
  ⟨_, hp.answerAfter h0 n, fun h => hn ((residue_eq_zero_iff hd _).mp h)⟩

/-- Such a probe is quiet before the least length. -/
theorem TellsResidues.quiet_before (hp : TellsResidues d probe Inv) (h0 : Inv 0 s) (hd : d ≠ 0)
    {n : Nat} (hk : IsLeastLength d.toNat (n + 1)) {j : Nat} (hj : j < n) :
    Quiet (Repunits.answerAfter probe s j) :=
  hp.quiet h0 hd (hk.least (j + 1) (by omega) (by omega))

/-- Such a probe answers zero at the least length. -/
theorem TellsResidues.zero_at (hp : TellsResidues d probe Inv) (h0 : Inv 0 s) (hd : d ≠ 0)
    {n : Nat} (hk : IsLeastLength d.toNat (n + 1)) :
    Repunits.answerAfter probe s n = .ok 0 := by
  rw [hp.answerAfter h0, (residue_eq_zero_iff hd _).mpr hk.dvd]

/-- **A search with a probe that tells the residues** reports what it has to, and has called the
probe as often as it says. -/
theorem search_answers (limit : Option Nat) (hp : TellsResidues d probe Inv) (h0 : Inv 0 s)
    (hd : Nat.Coprime d.toNat 10) :
    (search d limit probe s).1.Answers d (limit.getD maxLength) ∧
      Inv (search d limit probe s).1.tested (search d limit probe s).2 := by
  have hne := ne_zero_of_coprime hd
  by_cases h : ∃ k, 1 ≤ k ∧ k ≤ limit.getD maxLength ∧ d.toNat ∣ repunit k
  · -- Some length within the bound will do: the search ends at the least.
    obtain ⟨k, hle, hk⟩ := exists_isLeastLength_le h
    obtain ⟨n, rfl⟩ : ∃ n, k = n + 1 := ⟨k - 1, (Nat.sub_add_cancel hk.pos).symm⟩
    rw [search_of_zero d hle (fun j => hp.quiet_before h0 hne hk) (hp.zero_at h0 hne hk)]
    exact ⟨.found hd hle hk, hp.probed h0 (n + 1)⟩
  · -- None will do: the search goes on until the bound is passed.
    have hnone : ∀ k, 1 ≤ k → k ≤ limit.getD maxLength → ¬ d.toNat ∣ repunit k :=
      fun k h1 h2 h3 => h ⟨k, h1, h2, h3⟩
    have hquiet : ∀ j, j < limit.getD maxLength → Quiet (Repunits.answerAfter probe s j) := by
      intro j hj
      exact hp.quiet h0 hne (hnone (j + 1) (by omega) hj)
    rw [search_of_limit d hquiet]
    exact ⟨.exhausted hd hnone, hp.probed h0 _⟩

end

/-! ## §4. The two probes. -/

theorem nextRemainder_eq (d : UInt64) (n : Nat) :
    nextRemainder d (repunit n % d.toNat) = repunit (n + 1) % d.toNat := by
  unfold nextRemainder
  rw [Nat.add_mod, Nat.mod_mul_mod, ← Nat.add_mod, repunit_succ, Nat.mul_comm]

/-- The state of the remainder probe is the residue of the repunit before. -/
theorem tellsResidues_probeRemainder (d : UInt64) :
    TellsResidues d (probeRemainder d) fun n r => r = repunit n % d.toNat := by
  constructor
  · rintro n r rfl
    show Except.ok (UInt64.ofNat (nextRemainder d (repunit n % d.toNat))) = _
    rw [nextRemainder_eq]
    rfl
  · rintro n r rfl
    exact nextRemainder_eq d n

theorem rem_ones {d : UInt64} (hd : d ≠ 0) (k : Nat) : (ones k).rem d = .ok (residue d k) := by
  rw [Numeral.rem_eq _ hd, Numeral.value_ones]
  rfl

/-- The state of the table probe is the table it began with, extended as far as it was called. -/
theorem tellsResidues_probeTable {d : UInt64} (hd : d ≠ 0) {t : Table} (ht : t.Exact) :
    TellsResidues d (probeTable d) fun n s => s = t.extendTo n := by
  have hprobe : ∀ n, probeTable d (n + 1) (t.extendTo n) =
      (.ok (residue d (n + 1)), t.extendTo (n + 1)) := by
    intro n
    unfold probeTable
    -- The search asks for one length after the other, so the table grows by one entry at most.
    rw [Table.repunit_of_exact (ht.extendTo n) (Nat.le_add_left 1 n), Table.extendTo_extendTo ht,
      Nat.max_eq_right (Nat.le_succ n)]
    show ((ones (n + 1)).rem d, _) = _
    rw [rem_ones hd]
  constructor
  · rintro n s rfl
    rw [hprobe]
  · rintro n s rfl
    rw [hprobe]

/-! ## §5. Finders. -/

namespace Finder

/-- The finder when its searches have tested lengths up to `n`. -/
def reached (f : Finder) (n : Nat) : Finder :=
  match f.strategy with
  | .table => { f with table := f.table.extendTo n }
  | .remainder => f

@[simp] theorem reached_strategy (f : Finder) (n : Nat) : (f.reached n).strategy = f.strategy := by
  unfold reached
  split <;> rfl

@[simp] theorem reached_limit (f : Finder) (n : Nat) : (f.reached n).limit = f.limit := by
  unfold reached
  split <;> rfl

theorem exact_reached {f : Finder} (hf : f.table.Exact) (n : Nat) : (f.reached n).table.Exact := by
  unfold reached
  split
  · exact hf.extendTo n
  · exact hf

/-- **The report of a finder is the one that answers**, under both strategies. -/
theorem report_answers {f : Finder} (hf : f.table.Exact) (d : UInt64) :
    (f.report d).1.Answers d f.bound := by
  unfold report
  cases hd : checkDivisor d with
  | error e => exact .refused hd
  | ok _ =>
    have hcop := (checkDivisor_eq_ok_iff d).mp hd
    obtain ⟨t, strategy, limit⟩ := f
    cases strategy with
    | remainder =>
      exact (search_answers limit (tellsResidues_probeRemainder d) (Nat.zero_mod _).symm hcop).1
    | table =>
      exact (search_answers limit (tellsResidues_probeTable (ne_zero_of_coprime hcop) hf)
        (Table.extendTo_zero t).symm hcop).1

/-- **A search extends the table as far as it has tested**, and does nothing else to the finder. -/
theorem report_snd {f : Finder} (hf : f.table.Exact) (d : UInt64) :
    (f.report d).2 = f.reached (f.report d).1.tested := by
  obtain ⟨t, strategy, limit⟩ := f
  unfold report
  cases hd : checkDivisor d with
  | error e =>
    cases strategy with
    | remainder => rfl
    | table =>
      show _ = ({ table := t.extendTo 0, strategy := .table, limit } : Finder)
      rw [Table.extendTo_zero]
  | ok _ =>
    have hcop := (checkDivisor_eq_ok_iff d).mp hd
    cases strategy with
    | remainder => rfl
    | table =>
      have h := (search_answers limit (tellsResidues_probeTable (ne_zero_of_coprime hcop) hf)
        (Table.extendTo_zero t).symm hcop).2
      show Finder.mk (search d limit (probeTable d) t).2 .table limit = _
      rw [h]
      rfl

/-- Finders with exact tables and one limit report alike. -/
theorem report_fst_eq {f g : Finder} (hf : f.table.Exact) (hg : g.table.Exact)
    (h : f.limit = g.limit) (d : UInt64) : (f.report d).1 = (g.report d).1 := by
  have hb : f.bound = g.bound := by rw [bound, bound, h]
  exact (report_answers hf d).unique (hb ▸ report_answers hg d)

end Finder

end Repunits
