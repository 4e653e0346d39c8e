/-
  Repunits.Proofs.Exercise.FirstFailure
  ────────────────────────────────
  **The repunit exercise writes the lengths before the first failure.**

  What comes of the search for a divisor is known from the divisor and
  the limit (`Verdict`). So the answers to a list of divisors are the
  lines of their lengths, up to the first divisor whose search fails; the
  failure names that divisor and its position, and no divisor after it
  has a trace in the output or in the failure.

  Main results:
    * `owed_of_found`, `owed_of_failed` — what a list of divisors comes to.
    * `found_or_failed` — every list comes to one or the other.
    * `run_firstFailure` — what a run over a text leaves.
-/
import Repunits.Proofs.Exercise.Answers
import Repunits.Proofs.Exercise.Divisors
import Repunits.Proofs.Repunit.Verdict
import Repunits.Proofs.Text.Integer

namespace Repunits.Exercise.LeastLengths

/-! ## §1. Lengths that are found. -/

/-- The divisors have least lengths within the limit, and these are they. -/
def Found (limit : Option Nat) : List UInt64 → List Nat → Prop :=
  List.Forall₂ fun d k => Verdict d limit (.ok k)

/-- The line of a length: its decimal numeral. -/
def lengthLine (k : Nat) : String := toString k ++ "\n"

/-- Lengths in decimal, one to a line. -/
def lengthLines (ks : List Nat) : String := String.join (ks.map lengthLine)

/-- There are as many lines as lengths. -/
theorem count_newline_lengthLines (ks : List Nat) :
    (lengthLines ks).toList.count '\n' = ks.length := by
  have hline : ∀ k, (lengthLine k).toList.count '\n' = 1 := by
    intro k
    -- A numeral holds digits only.
    have hnone : (toString k).toList.count '\n' = 0 := by
      rw [List.count_eq_zero, Text.toList_toString_nat]
      intro hmem
      exact absurd (Text.isDigit_of_mem_numeral hmem) (by decide)
    rw [lengthLine, String.toList_append, List.count_append, hnone]
    rfl
  induction ks with
  | nil => rfl
  | cons k ks ih =>
    rw [lengthLines] at ih ⊢
    rw [List.map_cons, String.join_cons, String.toList_append, List.count_append, hline, ih,
      List.length_cons, Nat.add_comm]

/-! ## §2. Lines that are due. -/

/-- What a fresh finder finds is the verdict. -/
theorem result_eq_of_verdict {limit : Option Nat} {d : UInt64} {r : Except Fault Nat}
    (h : Verdict d limit r) : (Finder.report { limit } d).1.result = r :=
  (Finder.find_eq_iff_verdict Table.exact_new d r).mpr h

theorem lineDue_of_found {limit : Option Nat} {d : UInt64} {k : Nat}
    (h : Verdict d limit (.ok k)) (position : Nat) :
    lineDue limit (d, position) = .ok (lengthLine k) := by
  unfold lineDue line
  rw [result_eq_of_verdict h]
  rfl

theorem lineDue_of_failed {limit : Option Nat} {d : UInt64} {e : Fault}
    (h : Verdict d limit (.error e)) (position : Nat) :
    lineDue limit (d, position) =
      .error { context := some (.divisor position d), cause := .fault e } := by
  unfold lineDue line
  rw [result_eq_of_verdict h]

/-- The lines due to divisors from any position on, if all their lengths are found. -/
theorem map_lineDue_of_found {limit : Option Nat} {ds : List UInt64} {ks : List Nat}
    (h : Found limit ds ks) (position : Nat) :
    (ds.zipIdx position).map (lineDue limit) = (ks.map lengthLine).map .ok := by
  induction h generalizing position with
  | nil => rfl
  | cons hd _ ih =>
    rw [List.zipIdx_cons, List.map_cons, List.map_cons, List.map_cons, lineDue_of_found hd, ih]

/-- **Lengths that are all found** come to their lines. -/
theorem owed_of_found {limit : Option Nat} {ds : List UInt64} {ks : List Nat}
    (h : Found limit ds ks) : owed (linesDue limit ds) = (lengthLines ks, .ok ()) := by
  rw [linesDue, map_lineDue_of_found h, owed_map_ok]
  rfl

/-- **The first search that fails** ends the lines, whatever divisors come after. -/
theorem owed_of_failed {limit : Option Nat} {front : List UInt64} {ks : List Nat} {d : UInt64}
    {e : Fault} (hfront : Found limit front ks) (hd : Verdict d limit (.error e))
    (back : List UInt64) :
    owed (linesDue limit (front ++ d :: back)) = (lengthLines ks,
      .error { context := some (.divisor (front.length + 1) d), cause := .fault e }) := by
  rw [linesDue, List.zipIdx_append, List.map_append, map_lineDue_of_found hfront,
    List.zipIdx_cons, List.map_cons, lineDue_of_failed hd, owed_append_error, Nat.add_comm 1]
  rfl

/-- **Every list** has all its lengths found, or a first search that fails. -/
theorem found_or_failed (limit : Option Nat) (ds : List UInt64) :
    (∃ ks, Found limit ds ks) ∨ ∃ front d back ks e, ds = front ++ d :: back ∧
      Found limit front ks ∧ Verdict d limit (.error e) := by
  have hverdict : ∀ d r, (Finder.find { limit } d).1 = r ↔ Verdict d limit r :=
    Finder.find_eq_iff_verdict (f := { limit }) Table.exact_new
  have hfound : ∀ ds : List UInt64, (∀ d ∈ ds, ∃ k, (Finder.find { limit } d).1 = .ok k) →
      ∃ ks, Found limit ds ks := by
    intro ds h
    simp only [hverdict] at h
    exact exists_forall₂ h
  rcases ok_or_first_error (fun d => (Finder.find { limit } d).1) ds with
    hall | ⟨front, d, back, e, hds, hfront, hd⟩
  · exact Or.inl (hfound ds hall)
  · obtain ⟨ks, hks⟩ := hfound front hfront
    exact Or.inr ⟨front, d, back, ks, e, hds, hks, (hverdict d _).mp hd⟩

/-- A divisor other than zero fails in one of two ways. -/
theorem fault_of_failed {limit : Option Nat} {d : UInt64} {e : Fault} (hne : d ≠ 0)
    (h : Verdict d limit (.error e)) :
    e = .notCoprime d ∨ ∃ L, limit = some L ∧ e = .limitExceeded d L := by
  cases h with
  | zero hzero => exact absurd hzero hne
  | shared => exact Or.inl rfl
  | exceeded _ hlimit _ => exact Or.inr ⟨_, hlimit, rfl⟩

/-! ## §3. Runs over a text. -/

theorem answers_of_error {text : String} {e : Fault} (h : readDivisors text = .error e)
    (limit : Option Nat) : answers limit text = [.error { cause := .fault e }] := by
  rw [answers, h]
  rfl

theorem answers_of_ok {text : String} {ds : List UInt64} (h : readDivisors text = .ok ds)
    (limit : Option Nat) : answers limit text = linesDue limit ds := by
  rw [answers, h]
  rfl

/-- What a run leaves, where it is known what the answers to the text come to. -/
theorem Runs.leaves {o : Options} {text before due : String} {written : Sink}
    {result ends : Except Failure Unit} (h : Runs o text { written := before } written result)
    (howed : owed (answers o.limit text) = (due, ends)) :
    written = { written := before ++ due } ∧ result = ends ∧
      solve (.leastLengths o) text = ends.map fun _ => due :=
  (Exercise.Runs.leastLengths h).leaves howed

/-- **What a run over a text leaves**, under all options and every schedule. A text that cannot be
read leaves nothing, and the failure has no context. Otherwise the lengths before the first search
that fails are written, one to a line; the failure names the position and the divisor, and no divisor
after that one has a trace. If no search fails there is one line for each divisor. The solution is
the text written, or the failure. -/
theorem run_firstFailure {o : Options} {text before : String} {written : Sink}
    {result : Except Failure Unit} (h : Runs o text { written := before } written result) :
    -- a text that cannot be read
    (∀ e, readDivisors text = .error e →
      let failure : Failure := { context := none, cause := .fault e }
      written = { written := before } ∧ result = .error failure ∧ failure.chain = [e.message] ∧
      solve (.leastLengths o) text = .error failure) ∧
    ∀ ds, readDivisors text = .ok ds →
      -- all lengths are found
      (∀ ks, Found o.limit ds ks →
        written = { written := before ++ lengthLines ks } ∧ result = .ok () ∧
        (lengthLines ks).toList.count '\n' = ds.length ∧
        solve (.leastLengths o) text = .ok (lengthLines ks)) ∧
      -- the search for `d` is the first that fails
      (∀ front d back ks e, ds = front ++ d :: back → Found o.limit front ks →
        Verdict d o.limit (.error e) →
        let failure : Failure :=
          { context := some (.divisor (front.length + 1) d), cause := .fault e }
        written = { written := before ++ lengthLines ks } ∧ result = .error failure ∧
        failure.chain = [s!"divisor #{front.length + 1} ({d})", e.message] ∧
        (e = .notCoprime d ∨ ∃ L, o.limit = some L ∧ e = .limitExceeded d L) ∧
        solve (.leastLengths o) text = .error failure ∧
        ∀ text' back' written' result', readDivisors text' = .ok (front ++ d :: back') →
          Runs o text' { written := before } written' result' →
          written' = written ∧ result' = result) ∧
      -- one or the other is the case
      ((∃ ks, Found o.limit ds ks) ∨ ∃ front d back ks e, ds = front ++ d :: back ∧
        Found o.limit front ks ∧ Verdict d o.limit (.error e)) := by
  refine ⟨?_, ?_⟩
  · intro e hread
    have howed : owed (answers o.limit text) = ("", .error { cause := .fault e }) := by
      rw [answers_of_error hread]
      rfl
    obtain ⟨hwritten, hresult, hsolve⟩ := h.leaves howed
    rw [String.append_empty] at hwritten
    exact ⟨hwritten, hresult, rfl, hsolve⟩
  · intro ds hread
    refine ⟨?_, ?_, found_or_failed o.limit ds⟩
    · intro ks hks
      have howed : owed (answers o.limit text) = (lengthLines ks, .ok ()) := by
        rw [answers_of_ok hread, owed_of_found hks]
      obtain ⟨hwritten, hresult, hsolve⟩ := h.leaves howed
      rw [count_newline_lengthLines]
      exact ⟨hwritten, hresult, hks.length_eq.symm, hsolve⟩
    · rintro front d back ks e rfl hfront hd failure
      have howed : ∀ text back, readDivisors text = .ok (front ++ d :: back) →
          owed (answers o.limit text) = (lengthLines ks, .error failure) := by
        intro text back hread
        rw [answers_of_ok hread, owed_of_failed hfront hd]
      have hne : d ≠ 0 := readDivisors_ne_zero hread d (List.mem_append_right _ List.mem_cons_self)
      obtain ⟨hwritten, hresult, hsolve⟩ := h.leaves (howed text back hread)
      refine ⟨hwritten, hresult, rfl, fault_of_failed hne hd, hsolve, ?_⟩
      intro text' back' written' result' hread' h'
      obtain ⟨hwritten', hresult', -⟩ := h'.leaves (howed text' back' hread')
      exact ⟨hwritten'.trans hwritten.symm, hresult'.trans hresult.symm⟩

/-- Three workers by turns, the second of which exceeds the limit: its divisor may as well be the
last one. -/
theorem run_firstFailure_second :
    let o : Options := { strategy := .table, limit := some 5, parallel := true }
    let failure : Failure :=
      { context := some (.divisor 2 7), cause := .fault (.limitExceeded 7 5) }
    ∃ written result, Runs o "3\n3 7 9" { written := "> " } written result ∧
      written = { written := "> 3\n" } ∧ result = .error failure ∧
      failure.chain = ["divisor #2 (7)", "No repunit of length <= 5 is divisible by 7"] ∧
      solve (.leastLengths o) "3\n3 7 9" = .error failure ∧
      (run o "2 3 7" { written := "> " }).sink = written := by
  intro o failure
  have hread : readDivisors "3\n3 7 9" = .ok [3, 7, 9] := by decide +kernel
  have hread' : readDivisors "2 3 7" = .ok [3, 7] := by decide +kernel
  have hdone : ((o.finder.pool [3, 7, 9]).run o.finder.bound
      (List.replicate 18 [2, 0, 1]).flatten).reports?.isSome = true :=
    Pool.reports?_of_turns _ (by decide +kernel)
  obtain ⟨reports, hreports⟩ := Option.isSome_iff_exists.mp hdone
  have hruns : Runs o "3\n3 7 9" { written := "> " } _ _ := .scheduled hread rfl _ hreports
  have hthree : Found (some 5) [3] [3] := by
    refine .cons (.found ⟨by decide, by decide, by decide⟩ ?_) .nil
    rintro L ⟨⟩
    decide
  have hseven : Verdict 7 (some 5) (.error (.limitExceeded 7 5)) := by
    refine .exceeded (by decide) rfl ?_
    intro k h1 h5
    interval_cases k <;> decide
  obtain ⟨-, hall⟩ := run_firstFailure hruns
  obtain ⟨-, hfailed, -⟩ := hall _ hread
  obtain ⟨hwritten, hresult, hchain, -, hsolve, hlater⟩ :=
    hfailed [3] 7 [9] [3] _ rfl hthree hseven
  obtain ⟨hsame, -⟩ := hlater "2 3 7" [] _ _ hread' .handled
  exact ⟨_, _, hruns, hwritten, hresult, hchain, hsolve, hsame⟩

end Repunits.Exercise.LeastLengths
