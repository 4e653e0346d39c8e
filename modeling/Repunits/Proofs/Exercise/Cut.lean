/-
  Repunits.Proofs.Exercise.Cut
  ────────────────────────────────
  **A sink that fills up keeps the beginning of the answer.**

  A run of an exercise writes what its answers come to as if it were one
  text. So a sink with room for so many bytes keeps that many bytes of
  it. If the text fits, the run ends as it would with room for
  everything; if not, the write that fails ends it, also where a later
  divisor or pair would have failed.

  Main results:
    * `settle_cut` — answers settled in a sink with bounded room.
    * `run_cut_off` — an exercise with a sink that fills up.
-/
import Repunits.Proofs.Exercise.Answers

namespace Repunits.Exercise

/-! ## §1. Answers in a sink that fills up. -/

/-- **Answers settled in a sink with room for `n` bytes** leave the first `n` bytes of what they leave
in one without bound. They end alike if that is all of it, and with the failed write if it is not. -/
theorem settle_cut {answers : List (Except Failure String)}
    (h : ∀ text, .ok text ∈ answers → IsAscii text) (n : Nat) :
    let full := settle answers .unbounded
    let cut := settle answers (.ofRoom n)
    bytes cut.1.written = (bytes full.1.written).take n ∧
      ((bytes full.1.written).length ≤ n → cut.2 = full.2) ∧
      (n < (bytes full.1.written).length → cut.2 = .error { cause := .io .writeLimit }) := by
  intro full cut
  have hascii := isAscii_owed h
  have hfull : full = ({ written := (owed answers).1 }, (owed answers).2) := by
    have hsettle := settle_of_unbounded answers ""
    rwa [String.empty_append] at hsettle
  have hcut : cut = (((Sink.ofRoom n).write (owed answers).1).2,
      ending (owed answers).2 ((Sink.ofRoom n).write (owed answers).1).1) :=
    settle_eq_write answers (.ofRoom n)
  rw [hfull]
  dsimp only
  rw [length_bytes hascii]
  rcases Nat.lt_or_ge n (owed answers).1.length with hlt | hle
  · rw [Sink.ofRoom, Sink.write_of_lt hlt, String.empty_append] at hcut
    rw [hcut]
    exact ⟨bytes_takeChars hascii n, fun hle => absurd hle (Nat.not_le_of_lt hlt), fun _ => rfl⟩
  · have htake : (bytes (owed answers).1).take n = bytes (owed answers).1 :=
      List.take_of_length_le (by rw [length_bytes hascii]; exact hle)
    rw [Sink.ofRoom, Sink.write_of_le hle, String.empty_append] at hcut
    rw [hcut, htake]
    exact ⟨rfl, fun _ => rfl, fun hlt => absurd hle (Nat.not_le_of_lt hlt)⟩

/-! ## §2. Exercises with a sink that fills up. -/

/-- **A sink that fills up keeps the beginning of the answer.** With room for `n` bytes an exercise
leaves the first `n` bytes of what it leaves in a sink without bound. If that is all of it, the run
ends as it does there, in success or in the same failure; if it is not, the run ends with the failed
write and no context. So does every run under a schedule; and the four lines of a pair leave the same
whether they are written one by one or at once. -/
theorem run_cut_off (e : Exercise) (text : String) (n : Nat) :
    let full := e.run text .unbounded
    let cut := e.run text (.ofRoom n)
    bytes cut.sink.written = (bytes full.sink.written).take n ∧
    ((bytes full.sink.written).length ≤ n → cut.result = full.result) ∧
    (n < (bytes full.sink.written).length →
      cut.result = .error { context := none, cause := .io .writeLimit }) ∧
    -- any schedule, any pieces
    (∀ sink written result, Runs text sink e written result →
      written = (e.run text sink).sink ∧ result = (e.run text sink).result) ∧
    ∀ (sink : Sink) (s : PairSummary),
      sink.writeEach (PairResults.fourLines s) = sink.write (PairResults.lines s) := by
  intro full cut
  have hfull : (full.sink, full.result) = settle (e.answers text) .unbounded :=
    (runs_run e text .unbounded).eq_settle
  have hcut : (cut.sink, cut.result) = settle (e.answers text) (.ofRoom n) :=
    (runs_run e text (.ofRoom n)).eq_settle
  have hascii : ∀ line, .ok line ∈ e.answers text → IsAscii line := fun _ => isAscii_of_answers
  obtain ⟨hbytes, hfits, hover⟩ := settle_cut hascii n
  rw [← hfull, ← hcut] at hbytes hfits hover
  refine ⟨hbytes, hfits, hover, ?_, ?_⟩
  · intro sink written result h
    have heq := h.eq_settle.trans (runs_run e text sink).eq_settle.symm
    exact ⟨congrArg Prod.fst heq, congrArg Prod.snd heq⟩
  · intro sink s
    rw [Sink.writeEach_eq, PairResults.join_fourLines]

/-- The third divisor fails: with room for three bytes the second line is cut first, with room for
four the failure is reported. The second pair fails: the second line of the first is cut before. -/
theorem run_cut_off_beforeFailure :
    let divisors : Exercise := .leastLengths { strategy := .table, parallel := true }
    bytes (divisors.run "3 3 7 4" (.ofRoom 3)).sink.written = [0x33, 0x0a, 0x36] ∧
      (divisors.run "3 3 7 4" (.ofRoom 3)).result = .error { cause := .io .writeLimit } ∧
      (divisors.run "3 3 7 4" (.ofRoom 4)).result =
        .error { context := some (.divisor 3 4), cause := .fault (.notCoprime 4) } ∧
      (pairResults.run "7 -2 1 0" (.ofRoom 9)).result = .error { cause := .io .writeLimit } := by
  intro divisors
  have hfull : bytes (divisors.run "3 3 7 4" .unbounded).sink.written = [0x33, 0x0a, 0x36, 0x0a] := by
    decide +kernel
  have hfails : (divisors.run "3 3 7 4" .unbounded).result =
      .error { context := some (.divisor 3 4), cause := .fault (.notCoprime 4) } := by
    decide +kernel
  have hpairs : 9 < (bytes (pairResults.run "7 -2 1 0" .unbounded).sink.written).length := by
    decide +kernel
  obtain ⟨hbytes, -, hover, -⟩ := run_cut_off divisors "3 3 7 4" 3
  obtain ⟨-, hfits, -⟩ := run_cut_off divisors "3 3 7 4" 4
  obtain ⟨-, -, hcut, -⟩ := run_cut_off pairResults "7 -2 1 0" 9
  rw [hfull] at hbytes hover hfits
  exact ⟨hbytes, hover (by decide), (hfits (by decide)).trans hfails, hcut hpairs⟩

end Repunits.Exercise
