/-
  Repunits.Proofs.Repunit.Search
  ────────────────────────────────
  **A search probes the lengths one by one, for any probe.**

  A probe is quiet at a length when it answers with a remainder other
  than zero. As long as it is quiet the search goes on, one length at a
  time, and threads the state of the probe; so a search is known from
  the states that the probe runs through (`probed`) and from the first
  length at which it is not quiet.

  Main results:
    * `search_of_zero` — a first zero within the limit ends the search
      with its length.
    * `search_of_error` — a first fault within the limit ends it with that
      fault.
    * `search_of_limit` — a probe that is quiet up to the limit exhausts
      it.
-/
import Repunits.Repunit.Search

namespace Repunits

section

variable {σ : Type} (d : UInt64) (limit : Option Nat)
variable (probe : Nat → σ → Except Fault UInt64 × σ) (s : σ)

/-! ## §1. The states a probe runs through. -/

/-- The state of the probe after its calls for the lengths one to `n`. -/
def probed : Nat → σ
  | 0 => s
  | n + 1 => (probe (n + 1) (probed n)).2

/-- What the probe answers for length `n + 1`, after its calls for the lengths before. -/
def answerAfter (n : Nat) : Except Fault UInt64 := (probe (n + 1) (probed probe s n)).1

/-- An answer that lets the search go on. -/
def Quiet (answer : Except Fault UInt64) : Prop := ∃ r, answer = .ok r ∧ r ≠ 0

/-! ## §2. One probe. -/

variable {limit} {probe} {s}

theorem resume_of_quiet {answer : Except Fault UInt64} (h : Quiet answer) (bound k : Nat) :
    Stage.resume d bound k answer = Stage.ofProgress d bound (.searching (k + 1)) := by
  obtain ⟨r, rfl, hr⟩ := h
  show Stage.ofProgress d bound ((Progress.searching k).advance (r == 0)) = _
  rw [beq_false_of_ne hr]
  rfl

theorem resume_of_zero (bound k : Nat) :
    Stage.resume d bound k (.ok 0) = .ended ⟨k, .ok k⟩ := rfl

theorem resume_of_error (bound k : Nat) (e : Fault) :
    Stage.resume d bound k (.error e) = .ended ⟨k, .error e⟩ := rfl

/-- A word within the limit, if there is one, is within the bound of the search. -/
theorem le_getD_maxLength {k : Nat} (hword : k ≤ maxLength) (hlimit : ∀ L ∈ limit, k ≤ L) :
    k ≤ limit.getD maxLength := by
  cases limit with
  | none => exact hword
  | some L => exact hlimit L rfl

theorem ofProgress_of_le {bound k : Nat} (h : k ≤ bound) :
    Stage.ofProgress d bound (.searching k) = .probing k :=
  if_neg (Nat.not_lt.mpr h)

theorem ofProgress_past (bound : Nat) :
    Stage.ofProgress d bound (.searching (bound + 1)) =
      .ended ⟨bound, .error (.limitExceeded d bound)⟩ :=
  if_pos (Nat.lt_succ_self bound)

/-! ## §3. The whole search. -/

/-- **While the probe is quiet the search goes on**, with one call for each length. -/
theorem search_of_quiet {n : Nat} (hn : n ≤ limit.getD maxLength)
    (hq : ∀ j, j < n → Quiet (answerAfter probe s j)) :
    search d limit probe s =
      drive d (limit.getD maxLength) probe
        (Stage.ofProgress d (limit.getD maxLength) (.searching (n + 1))) (probed probe s n) := by
  induction n with
  | zero => rfl
  | succ n ih =>
    rw [ih (by omega) fun j hj => hq j (by omega), ofProgress_of_le d hn, drive_probing]
    show drive _ _ _ (Stage.resume _ _ _ (answerAfter probe s n)) (probed probe s (n + 1)) = _
    rw [resume_of_quiet d (hq n (Nat.lt_succ_self n))]

/-- **The first zero within the limit ends the search** with its length. -/
theorem search_of_zero {n : Nat} (hn : n + 1 ≤ limit.getD maxLength)
    (hq : ∀ j, j < n → Quiet (answerAfter probe s j)) (h : answerAfter probe s n = .ok 0) :
    search d limit probe s = (⟨n + 1, .ok (n + 1)⟩, probed probe s (n + 1)) := by
  rw [search_of_quiet d (by omega) hq, ofProgress_of_le d hn, drive_probing]
  show drive _ _ _ (Stage.resume _ _ _ (answerAfter probe s n)) (probed probe s (n + 1)) = _
  rw [h, resume_of_zero, drive_ended]

/-- **The first fault within the limit ends the search** with that fault. -/
theorem search_of_error {n : Nat} {e : Fault} (hn : n + 1 ≤ limit.getD maxLength)
    (hq : ∀ j, j < n → Quiet (answerAfter probe s j)) (h : answerAfter probe s n = .error e) :
    search d limit probe s = (⟨n + 1, .error e⟩, probed probe s (n + 1)) := by
  rw [search_of_quiet d (by omega) hq, ofProgress_of_le d hn, drive_probing]
  show drive _ _ _ (Stage.resume _ _ _ (answerAfter probe s n)) (probed probe s (n + 1)) = _
  rw [h, resume_of_error, drive_ended]

/-- **A probe that is quiet up to the limit exhausts it.** -/
theorem search_of_limit
    (hq : ∀ j, j < limit.getD maxLength → Quiet (answerAfter probe s j)) :
    search d limit probe s =
      (⟨limit.getD maxLength, .error (.limitExceeded d (limit.getD maxLength))⟩,
        probed probe s (limit.getD maxLength)) := by
  rw [search_of_quiet d (Nat.le_refl _) hq, ofProgress_past, drive_ended]

end

end Repunits
