/-
  Repunits.Proofs.Exercise.PairResults
  ────────────────────────────────
  **The pair exercise settles one answer for each pair.**

  The answer of a pair is its four lines, or the failure of working it
  out. Nothing is carried from one pair to the next, so a run over a text
  settles the answers of its pairs.

  Main results:
    * `run_eq_settle` — a run over a text.
    * `join_fourLines`, `isAscii_of_answer` — the lines of a pair.
-/
import Repunits.Exercise.PairResults
import Repunits.Proofs.Exercise.Delivery

namespace Repunits.Exercise.PairResults

/-! ## §1. Answers. -/

/-- The answer of a pair: its lines, or why it cannot be worked out. -/
def answer (pair : Int64 × Int64) : Except Failure String := (portion pair ()).answer

/-- The answers to a text. -/
def answers (text : String) : List (Except Failure String) := answersTo answer (readPairs text)

theorem knownByItem_portion : KnownByItem portion answer fun _ => True := by
  constructor
  · intro pair u _
    rfl
  · intro pair u _
    trivial

/-- **A run over a text** settles the answers to it. -/
theorem run_eq_settle (text : String) (sink : Sink) :
    ((run text sink).sink, (run text sink).result) = settle (answers text) sink := by
  unfold run answers
  cases readPairs text with
  | error e => rfl
  | ok pairs => exact deliver_eq_settle knownByItem_portion pairs trivial sink

/-! ## §2. Lines. -/

/-- The four lines of a pair, one by one. -/
def fourLines (s : PairSummary) : List String :=
  [s!"{s.a}+{s.b}={s.sum}\n", s!"{s.a}*{s.b}={s.product}\n", s!"{s.a}-{s.b}={s.difference}\n",
    s!"{s.a}/{s.b}={s.quotient}...{s.remainder}\n"]

theorem join_fourLines (s : PairSummary) : String.join (fourLines s) = lines s := by
  simp only [fourLines, lines, String.join_cons, String.join_nil, String.append_empty,
    String.append_assoc]

@[simp] theorem isAscii_int64 (i : Int64) : IsAscii (toString i) := isAscii_int i.toInt

theorem isAscii_fourLines (s : PairSummary) : ∀ line ∈ fourLines s, IsAscii line := by
  simp only [fourLines, List.forall_mem_cons, isAscii_append_iff, isAscii_int64, true_and]
  decide +kernel

/-- The text of an answer is ASCII. -/
theorem isAscii_of_answer (pair : Int64 × Int64) (text : String) (h : answer pair = .ok text) :
    IsAscii text := by
  unfold answer portion at h
  cases hs : PairSummary.of pair.1 pair.2 with
  | error e =>
    rw [hs] at h
    cases h
  | ok s =>
    rw [hs] at h
    cases h
    rw [← join_fourLines]
    exact isAscii_join (isAscii_fourLines s)

end Repunits.Exercise.PairResults
