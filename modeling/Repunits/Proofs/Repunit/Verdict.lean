/-
  Repunits.Proofs.Repunit.Verdict
  ────────────────────────────────
  **What comes of a search, by divisor and limit alone.**

  A search ends in one of four ways: the divisor is zero, it shares a
  factor with ten, no length within the limit will do, or the least
  length is found. `Verdict` has one constructor for each of them, and
  says when it is the case, in terms of repunits and without the bound
  that every search has. The two come to the same, since a divisor
  coprime with ten has a least length no larger than itself.

  Main results:
    * `Verdict.unique` — there is one verdict.
    * `find_eq_iff_verdict` — the verdict is what a finder finds.
    * `find_outcome` — every outcome by its exact condition.
-/
import Repunits.Proofs.Repunit.Session

namespace Repunits

/-! ## §1. The ways to end. -/

/-- What comes of the search for `d`, with a limit on lengths or without. -/
inductive Verdict (d : UInt64) (limit : Option Nat) : Except Fault Nat → Prop where
  | zero (h : d = 0) : Verdict d limit (.error (.invalidInput .zeroDivisor))
  | shared (hne : d ≠ 0) (h : ¬ Nat.Coprime d.toNat 10) : Verdict d limit (.error (.notCoprime d))
  | exceeded {L : Nat} (hd : Nat.Coprime d.toNat 10) (hlimit : limit = some L)
      (hnone : ∀ k, 1 ≤ k → k ≤ L → ¬ d.toNat ∣ repunit k) :
      Verdict d limit (.error (.limitExceeded d L))
  | found {k : Nat} (hk : IsLeastLength d.toNat k) (hle : ∀ L, limit = some L → k ≤ L) :
      Verdict d limit (.ok k)

/-- The length that a divisor has fits into a word, because the divisor does. -/
theorem IsLeastLength.le_maxLength {d : UInt64} {k : Nat} (h : IsLeastLength d.toNat k) :
    k ≤ maxLength := by
  have hle := h.le
  have hlt : d.toNat < UInt64.size := d.toNat_lt
  unfold maxLength
  omega

/-! ## §2. Verdicts and reports. -/

/-- A refused divisor is zero or shares a factor with ten. -/
theorem verdict_of_refused {d : UInt64} {e : Fault} (h : checkDivisor d = .error e)
    (limit : Option Nat) : Verdict d limit (.error e) := by
  have hshared := not_coprime_of_refused h
  unfold checkDivisor at h
  by_cases hzero : d = 0
  · rw [if_pos hzero] at h
    cases h
    exact .zero hzero
  · rw [if_neg hzero] at h
    split at h
    · cases h
      exact .shared hzero hshared
    · cases h

theorem refused_of_not_coprime {d : UInt64} (hne : d ≠ 0) (h : ¬ Nat.Coprime d.toNat 10) :
    checkDivisor d = .error (.notCoprime d) := by
  have hok := mt (checkDivisor_eq_ok_iff d).mp h
  unfold checkDivisor at hok ⊢
  rw [if_neg hne] at hok ⊢
  by_cases hfactor : d % 2 = 0 ∨ d % 5 = 0
  · rw [if_pos hfactor]
  · rw [if_neg hfactor] at hok
    exact absurd rfl hok

/-- The report that answers holds a verdict. -/
theorem Report.Answers.verdict {d : UInt64} {limit : Option Nat} {report : Report}
    (h : report.Answers d (limit.getD maxLength)) : Verdict d limit report.result := by
  cases h with
  | refused he => exact verdict_of_refused he limit
  | found hd hk hl =>
    refine .found hl ?_
    rintro L rfl
    exact hk
  | exhausted hd hnone =>
    cases limit with
    | some L => exact .exceeded hd rfl hnone
    | none =>
      -- Without a limit the least length would have been found.
      obtain ⟨k, -, hk⟩ := exists_isLeastLength hd
      exact absurd hk.dvd (hnone k hk.pos hk.le_maxLength)

/-- Every verdict is held by a report that answers. -/
theorem Verdict.answers {d : UInt64} {limit : Option Nat} {r : Except Fault Nat}
    (h : Verdict d limit r) : ∃ n, (Report.mk n r).Answers d (limit.getD maxLength) := by
  cases h with
  | zero hzero =>
    subst hzero
    exact ⟨0, .refused rfl⟩
  | shared hne hshared => exact ⟨0, .refused (refused_of_not_coprime hne hshared)⟩
  | exceeded hd hlimit hnone =>
    subst hlimit
    exact ⟨_, .exhausted hd hnone⟩
  | found hk hle => exact ⟨_, .found hk.coprime (le_getD_maxLength hk.le_maxLength hle) hk⟩

/-- **There is one verdict**, because there is one report that answers. -/
theorem Verdict.unique {d : UInt64} {limit : Option Nat} {r r' : Except Fault Nat}
    (h : Verdict d limit r) (h' : Verdict d limit r') : r = r' := by
  obtain ⟨n, hn⟩ := h.answers
  obtain ⟨n', hn'⟩ := h'.answers
  exact congrArg Report.result (hn.unique hn')

namespace Finder

/-- **The verdict is what a finder finds**, whatever its strategy and its table. -/
theorem find_eq_iff_verdict {f : Finder} (hf : f.table.Exact) (d : UInt64)
    (r : Except Fault Nat) : (f.find d).1 = r ↔ Verdict d f.limit r := by
  have hverdict : Verdict d f.limit (f.find d).1 := (report_answers hf d).verdict
  constructor
  · rintro rfl
    exact hverdict
  · intro h
    exact hverdict.unique h

end Finder

/-! ## §3. Each verdict by its condition. -/

section

variable {d : UInt64} {limit : Option Nat}

theorem verdict_zero_iff : Verdict d limit (.error (.invalidInput .zeroDivisor)) ↔ d = 0 := by
  constructor
  · rintro ⟨h⟩
    exact h
  · exact .zero

theorem verdict_shared_iff :
    Verdict d limit (.error (.notCoprime d)) ↔ 0 < d ∧ ¬ Nat.Coprime d.toNat 10 := by
  rw [UInt64.pos_iff_ne_zero]
  constructor
  · intro h
    cases h with
    | shared hne hshared => exact ⟨hne, hshared⟩
  · rintro ⟨hne, hshared⟩
    exact .shared hne hshared

theorem verdict_exceeded_iff {L : Nat} :
    Verdict d limit (.error (.limitExceeded d L)) ↔ Nat.Coprime d.toNat 10 ∧ limit = some L ∧
      ∀ k, 1 ≤ k → k ≤ L → ¬ d.toNat ∣ repunit k := by
  constructor
  · intro h
    cases h with
    | exceeded hd hlimit hnone => exact ⟨hd, hlimit, hnone⟩
  · rintro ⟨hd, hlimit, hnone⟩
    exact .exceeded hd hlimit hnone

theorem verdict_found_iff {k : Nat} :
    Verdict d limit (.ok k) ↔ (1 ≤ k ∧ d.toNat ∣ repunit k ∧
      ∀ j, 1 ≤ j → j < k → ¬ d.toNat ∣ repunit j) ∧ ∀ L, limit = some L → k ≤ L := by
  constructor
  · intro h
    cases h with
    | found hk hle => exact ⟨⟨hk.pos, hk.dvd, hk.least⟩, hle⟩
  · rintro ⟨⟨hpos, hdvd, hleast⟩, hle⟩
    exact .found ⟨hpos, hdvd, hleast⟩ hle

/-- A number shares a factor with ten just if it divides no repunit. -/
theorem not_coprime_iff_forall (n : Nat) :
    ¬ Nat.Coprime n 10 ↔ ∀ k, 1 ≤ k → ¬ n ∣ repunit k := by
  rw [← exists_dvd_repunit_iff]
  push Not
  rfl

/-- No verdict but these. -/
theorem Verdict.cases_result {r : Except Fault Nat} (h : Verdict d limit r) :
    r = .error (.invalidInput .zeroDivisor) ∨ r = .error (.notCoprime d) ∨
      (∃ L, limit = some L ∧ r = .error (.limitExceeded d L)) ∨ ∃ k, r = .ok k := by
  cases h with
  | zero => exact Or.inl rfl
  | shared => exact Or.inr (Or.inl rfl)
  | @exceeded L _ hlimit _ => exact Or.inr (Or.inr (Or.inl ⟨L, hlimit, rfl⟩))
  | @found k _ _ => exact Or.inr (Or.inr (Or.inr ⟨k, rfl⟩))

end

namespace Finder

/-- **Every outcome of a search by its exact condition**, for both strategies, every limit and
whatever the finder was used for before. Zero is refused; a divisor that shares a factor with ten is
refused, and these are the ones that divide no repunit; the limit is reported when it is set and no
length within it will do; otherwise the least length is found. There is no other outcome, and a
limit as large as the divisor is never reported. -/
theorem find_outcome {f : Finder} (hf : f.Reachable) (d : UInt64) :
    let result := (f.find d).1
    -- zero
    (result = .error (.invalidInput .zeroDivisor) ↔ d = 0) ∧
    BadInput.zeroDivisor.text = "divisor must be positive" ∧
    -- a factor shared with ten
    (result = .error (.notCoprime d) ↔ 0 < d ∧ ¬ Nat.Coprime d.toNat 10) ∧
    (result = .error (.notCoprime d) ↔ 0 < d ∧ ∀ k, 1 ≤ k → ¬ d.toNat ∣ (10 ^ k - 1) / 9) ∧
    -- the limit
    (∀ L, result = .error (.limitExceeded d L) ↔ Nat.Coprime d.toNat 10 ∧ f.limit = some L ∧
      ∀ k, 1 ≤ k → k ≤ L → ¬ d.toNat ∣ (10 ^ k - 1) / 9) ∧
    -- the least length
    (∀ k, result = .ok k ↔ (1 ≤ k ∧ d.toNat ∣ (10 ^ k - 1) / 9 ∧
      ∀ j, 1 ≤ j → j < k → ¬ d.toNat ∣ (10 ^ j - 1) / 9) ∧ ∀ L, f.limit = some L → k ≤ L) ∧
    -- nothing else
    (result = .error (.invalidInput .zeroDivisor) ∨ result = .error (.notCoprime d) ∨
      (∃ L, f.limit = some L ∧ result = .error (.limitExceeded d L)) ∨ ∃ k, result = .ok k) ∧
    -- a limit that is large enough
    (Nat.Coprime d.toNat 10 → (∀ L, f.limit = some L → d.toNat ≤ L) →
      ∃ k, k ≤ d.toNat ∧ result = .ok k) := by
  intro result
  have hverdict : ∀ r, result = r ↔ Verdict d f.limit r := find_eq_iff_verdict hf.exact d
  simp only [← repunit_eq_pow_div, ← not_coprime_iff_forall]
  refine ⟨?_, rfl, ?_, ?_, ?_, ?_, ((hverdict result).mp rfl).cases_result, ?_⟩
  · rw [hverdict]
    exact verdict_zero_iff
  · rw [hverdict]
    exact verdict_shared_iff
  · rw [hverdict]
    exact verdict_shared_iff
  · intro L
    rw [hverdict]
    exact verdict_exceeded_iff
  · intro k
    rw [hverdict]
    exact verdict_found_iff
  · intro hd hlarge
    obtain ⟨k, hle, hk⟩ := exists_isLeastLength hd
    refine ⟨k, hle, (hverdict _).mpr (.found hk ?_)⟩
    intro L hL
    exact hle.trans (hlarge L hL)

/-- The limit is reported for seven, a factor shared with ten before it, and three is found. -/
theorem find_outcome_limitFive :
    let f := (({ strategy := .table } : Finder).serveAll [.repunit 7, .setLimit 5]).2
    f.Reachable ∧ (f.find 7).1 = .error (.limitExceeded 7 5) ∧
      (f.find 14).1 = .error (.notCoprime 14) ∧ (f.find 3).1 = .ok 3 := by
  intro f
  have hf : f.Reachable := ⟨.table, [.repunit 7, .setLimit 5], _, session_serveAll _ _⟩
  obtain ⟨-, -, -, -, hseven, -⟩ := find_outcome hf 7
  obtain ⟨-, -, hfourteen, -⟩ := find_outcome hf 14
  obtain ⟨-, -, -, -, -, hthree, -⟩ := find_outcome hf 3
  refine ⟨hf, (hseven 5).mpr ⟨by decide, rfl, ?_⟩, hfourteen.mpr (by decide),
    (hthree 3).mpr ⟨⟨by decide, by decide, ?_⟩, ?_⟩⟩
  · intro k h1 h5
    interval_cases k <;> decide
  · intro j h1 h3
    interval_cases j <;> decide
  · intro L hL
    obtain rfl : 5 = L := Option.some.inj hL
    decide

end Finder

end Repunits
