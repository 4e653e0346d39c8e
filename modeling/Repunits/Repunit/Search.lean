/-
  Repunits.Repunit.Search
  ────────────────────────────────
  **The search for the shortest repunit that a divisor divides.**

  Lengths are tried from one upwards. A `Progress` says which length is
  being tried or which one was found; a `Stage` adds the limit on
  lengths. `drive` runs a search with any probe, that is, any stateful
  function that tells the remainder of the repunit of a given length:
  each length is probed once, in order, until a remainder is zero, the
  probe fails, or the limit is passed.
-/
import Repunits.Fault

namespace Repunits

/-! ## §1. Progress. -/

/-- Progress of a search for one divisor. -/
inductive Progress where
  /-- This length is the next to be tried. -/
  | searching (length : Nat)
  /-- This length was found. -/
  | found (length : Nat)
deriving DecidableEq

/-- A search begins with length one. -/
def Progress.start : Progress := .searching 1

/-- The progress after the current length has been tried. -/
def Progress.advance : Progress → Bool → Progress
  | .searching k, divisible => if divisible then .found k else .searching (k + 1)
  | .found k, _ => .found k

/-! ## §2. Stages, with a limit on lengths. -/

/-- A search that is over: how many lengths were probed, and what came of it. -/
structure Report where
  tested : Nat
  result : Except Fault Nat

/-- A search between two probes. -/
inductive Stage where
  /-- The repunit of this length is probed next. -/
  | probing (length : Nat)
  | ended (report : Report)

/-- Lengths are words, so a search without a limit has the largest word as its limit. -/
def maxLength : Nat := UInt64.size - 1

namespace Stage

/-- Where progress leads: on to a probe, unless the length was found or is past the limit. -/
def ofProgress (d : UInt64) (limit : Nat) : Progress → Stage
  | .found k => .ended ⟨k, .ok k⟩
  | .searching k =>
    if limit < k then .ended ⟨k - 1, .error (.limitExceeded d limit)⟩ else .probing k

/-- Where the answer of the probe of length `k` leads. -/
def resume (d : UInt64) (limit k : Nat) : Except Fault UInt64 → Stage
  | .error e => .ended ⟨k, .error e⟩
  | .ok r => ofProgress d limit ((Progress.searching k).advance (r == 0))

/-- An upper bound on the probes still to come. -/
def work (limit : Nat) : Stage → Nat
  | .probing k => limit - k + 1
  | .ended _ => 0

/-- A probe uses up work. -/
theorem work_resume_lt (d : UInt64) (limit k : Nat) (answer : Except Fault UInt64) :
    (resume d limit k answer).work limit < (Stage.probing k).work limit := by
  cases answer with
  | error e => simp [resume, work]
  | ok r =>
    by_cases hr : r == 0
    · simp [resume, Progress.advance, hr, ofProgress, work]
    · by_cases hk : limit < k + 1
      · simp [resume, Progress.advance, hr, ofProgress, hk, work]
      · simp only [resume, Progress.advance, hr, ofProgress, hk, work, if_false, Bool.false_eq_true]
        omega

end Stage

/-! ## §3. Running a search. -/

/-- Runs a search from a stage to its end, threading the state of the probe. -/
def drive {σ : Type} (d : UInt64) (limit : Nat)
    (probe : Nat → σ → Except Fault UInt64 × σ) : Stage → σ → Report × σ
  | .ended report, s => (report, s)
  | .probing k, s =>
    match probe k s with
    | (answer, s') => drive d limit probe (Stage.resume d limit k answer) s'
termination_by stage => stage.work limit
decreasing_by exact Stage.work_resume_lt d limit k _

section

variable {σ : Type} (d : UInt64) (limit : Nat) (probe : Nat → σ → Except Fault UInt64 × σ)

theorem drive_ended (report : Report) (s : σ) :
    drive d limit probe (.ended report) s = (report, s) := by
  rw [drive]

/-- One probe, and then the rest of the search. -/
theorem drive_probing (k : Nat) (s : σ) :
    drive d limit probe (.probing k) s =
      drive d limit probe (Stage.resume d limit k (probe k s).1) (probe k s).2 := by
  rw [drive]

end

/-- The whole search for one divisor. -/
def search {σ : Type} (d : UInt64) (limit : Option Nat)
    (probe : Nat → σ → Except Fault UInt64 × σ) (s : σ) : Report × σ :=
  let bound := limit.getD maxLength
  drive d bound probe (Stage.ofProgress d bound .start) s

end Repunits
