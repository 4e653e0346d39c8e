/-
  Repunits.Proofs.Exercise.Answers
  ────────────────────────────────
  **A run of an exercise settles the answers to its text.**

  The answers to a text are known before anything is written: a text that
  cannot be read has one, which is a failure; otherwise there is one for
  each divisor or pair. Every run of an exercise, whatever its options
  and the schedule of its workers, settles them in the sink it is given.

  Main results:
    * `Runs.eq_settle` — a run of an exercise settles the answers.
    * `solve_eq_owed` — the solution is what the answers come to.
    * `Runs.leaves` — both, where it is known what the answers come to.
-/
import Repunits.Exercise.Catalogue
import Repunits.Proofs.Exercise.LeastLengths
import Repunits.Proofs.Exercise.PairResults

namespace Repunits.Exercise

/-! ## §1. The answers to a text. -/

/-- The answers to a text of divisors. -/
def LeastLengths.answers (limit : Option Nat) (text : String) : List (Except Failure String) :=
  answersTo (lineDue limit) ((readDivisors text).map (·.zipIdx 1))

/-- The answers to a text, which the sink does not change. -/
def answers : Exercise → String → List (Except Failure String)
  | .leastLengths options, text => LeastLengths.answers options.limit text
  | .pairResults, text => PairResults.answers text

theorem LeastLengths.isAscii_of_lineDue (limit : Option Nat) (item : UInt64 × Nat) (text : String)
    (h : lineDue limit item = .ok text) : IsAscii text := by
  unfold lineDue line at h
  split at h
  · cases h
    exact isAscii_append_iff.mpr ⟨isAscii_nat _, by decide +kernel⟩
  · cases h

/-- The exercises write ASCII only. -/
theorem isAscii_of_answers {e : Exercise} {text line : String} (h : .ok line ∈ e.answers text) :
    IsAscii line := by
  cases e with
  | leastLengths o => exact isAscii_of_answersTo (LeastLengths.isAscii_of_lineDue o.limit) h
  | pairResults => exact isAscii_of_answersTo PairResults.isAscii_of_answer h

/-! ## §2. Runs. -/

/-- What runs of an exercise over a text can leave in the sink and come to, the workers of a search
side by side stepping under any schedule. -/
inductive Runs (text : String) (sink : Sink) : Exercise → Sink → Except Failure Unit → Prop where
  | leastLengths {o : Options} {written : Sink} {result : Except Failure Unit}
      (h : LeastLengths.Runs o text sink written result) :
      Runs text sink (.leastLengths o) written result
  | pairResults : Runs text sink .pairResults (PairResults.run text sink).sink
      (PairResults.run text sink).result

theorem LeastLengths.due_eq_settle (limit : Option Nat) (text : String) (sink : Sink) :
    due limit text sink = settle (answers limit text) sink := by
  unfold due answers
  cases readDivisors text with
  | error e => rfl
  | ok ds => rfl

/-- **Every run of an exercise** settles the answers to the text. -/
theorem Runs.eq_settle {e : Exercise} {text : String} {sink written : Sink}
    {result : Except Failure Unit} (h : Runs text sink e written result) :
    (written, result) = settle (e.answers text) sink := by
  cases h with
  | leastLengths h => exact h.eq_due.trans (LeastLengths.due_eq_settle _ text sink)
  | pairResults => exact PairResults.run_eq_settle text sink

/-- Running an exercise is one of its runs. -/
theorem runs_run (e : Exercise) (text : String) (sink : Sink) :
    Runs text sink e (e.run text sink).sink (e.run text sink).result := by
  cases e with
  | leastLengths o => exact .leastLengths .handled
  | pairResults => exact .pairResults

/-- A run in a sink without bound leaves what the answers come to. -/
theorem Runs.eq_owed {e : Exercise} {text before : String} {written : Sink}
    {result : Except Failure Unit} (h : Runs text { written := before } e written result) :
    (written, result) =
      ({ written := before ++ (owed (e.answers text)).1 }, (owed (e.answers text)).2) := by
  rw [h.eq_settle, settle_of_unbounded]

/-- **The solution** is what the answers come to, or the failure they end in. -/
theorem solve_eq_owed (e : Exercise) (text : String) :
    e.solve text = (owed (e.answers text)).2.map fun _ => (owed (e.answers text)).1 := by
  have h : ((e.run text .unbounded).sink, (e.run text .unbounded).result) =
      ({ written := "" ++ (owed (e.answers text)).1 }, (owed (e.answers text)).2) :=
    (runs_run e text .unbounded).eq_owed
  rw [String.empty_append] at h
  obtain ⟨hsink, hresult⟩ := Prod.mk.inj h
  unfold solve Outcome.solution
  rw [hsink, hresult]

/-- What a run in a sink without bound leaves, and the solution, where it is known what the answers
come to. -/
theorem Runs.leaves {e : Exercise} {text before due : String} {written : Sink}
    {result ends : Except Failure Unit} (h : Runs text { written := before } e written result)
    (howed : owed (e.answers text) = (due, ends)) :
    written = { written := before ++ due } ∧ result = ends ∧
      e.solve text = ends.map fun _ => due := by
  have hrun := h.eq_owed
  have hsolve := solve_eq_owed e text
  rw [howed] at hrun hsolve
  obtain ⟨hwritten, hresult⟩ := Prod.mk.inj hrun
  exact ⟨hwritten, hresult, hsolve⟩

end Repunits.Exercise
