/-
  Repunits.Proofs.Exercise.PairLines
  ────────────────────────────────
  **The pair exercise writes four exact lines for each pair.**

  A text is read as a whole before anything is written. Then the lines of
  one pair after the other follow, with the results of the pair over the
  integers, up to the first pair that cannot be worked out; the failure
  names that pair, and no line of it is written. No pair leaves a trace
  in what is written for another, so that a text can be run in two parts.

  Main results:
    * `lines_eq_exactLines` — the lines of a pair that is worked out.
    * `worksOut_or_failed` — every list of pairs has a first that fails,
      or none.
    * `run_fourLines` — what a run over a text leaves, and over two texts
      with blanks between them.
-/
import Repunits.Proofs.Exercise.Answers
import Repunits.Proofs.Exercise.Pairs
import Repunits.Proofs.Pair

namespace Repunits.Exercise.PairResults

/-! ## §1. The lines of a pair. -/

/-- The pair can be worked out. -/
def WorksOut (pair : Int64 × Int64) : Prop := ∃ s, PairSummary.of pair.1 pair.2 = .ok s

/-- The four lines of a pair, with its results over the integers: sum, product, difference, and the
quotient and remainder of floor division. -/
def exactLines (pair : Int64 × Int64) : String :=
  let a := pair.1.toInt
  let b := pair.2.toInt
  s!"{a}+{b}={a + b}\n" ++ s!"{a}*{b}={a * b}\n" ++ s!"{a}-{b}={a - b}\n" ++
    s!"{a}/{b}={a.fdiv b}...{a.fmod b}\n"

/-- A word is shown as its value. -/
theorem toString_int64 (i : Int64) : toString i = toString i.toInt := rfl

/-- **The lines of a pair that is worked out are exact.** -/
theorem lines_eq_exactLines {a b : Int64} {s : PairSummary} (h : PairSummary.of a b = .ok s) :
    lines s = exactLines (a, b) := by
  obtain ⟨rfl, rfl, hexact⟩ := PairSummary.exact_of h
  obtain ⟨hquotient, hremainder⟩ := hexact.division.eq
  unfold lines exactLines
  simp only [toString_int64, hexact.sum, hexact.product, hexact.difference, hquotient, hremainder]

/-! ## §2. Answers. -/

theorem answer_of_worksOut {pair : Int64 × Int64} (h : WorksOut pair) :
    answer pair = .ok (exactLines pair) := by
  obtain ⟨s, hs⟩ := h
  unfold answer portion
  rw [hs, ← lines_eq_exactLines hs]

theorem answer_of_failed {a b : Int64} {e : Fault} (h : PairSummary.of a b = .error e) :
    answer (a, b) = .error { context := some (.pair a b), cause := .fault e } := by
  unfold answer portion
  rw [h]

theorem map_answer_of_worksOut {pairs : List (Int64 × Int64)} (h : ∀ pair ∈ pairs, WorksOut pair) :
    pairs.map answer = (pairs.map exactLines).map .ok := by
  rw [List.map_map]
  apply List.map_congr_left
  intro pair hpair
  exact answer_of_worksOut (h pair hpair)

/-- **Pairs that are all worked out** come to their lines. -/
theorem owed_of_worksOut {pairs : List (Int64 × Int64)} (h : ∀ pair ∈ pairs, WorksOut pair) :
    owed (pairs.map answer) = (String.join (pairs.map exactLines), .ok ()) := by
  rw [map_answer_of_worksOut h, owed_map_ok]

/-- **The first pair that fails** ends the lines, whatever pairs come after. -/
theorem owed_of_failed {front : List (Int64 × Int64)} {a b : Int64} {e : Fault}
    (hfront : ∀ pair ∈ front, WorksOut pair) (h : PairSummary.of a b = .error e)
    (back : List (Int64 × Int64)) :
    owed ((front ++ (a, b) :: back).map answer) = (String.join (front.map exactLines),
      .error { context := some (.pair a b), cause := .fault e }) := by
  rw [List.map_append, List.map_cons, map_answer_of_worksOut hfront, answer_of_failed h,
    owed_append_error]

/-- **Every list of pairs** is worked out, or has a first pair that fails. -/
theorem worksOut_or_failed (pairs : List (Int64 × Int64)) :
    (∀ pair ∈ pairs, WorksOut pair) ∨ ∃ front a b back e, pairs = front ++ (a, b) :: back ∧
      (∀ pair ∈ front, WorksOut pair) ∧ PairSummary.of a b = .error e := by
  rcases ok_or_first_error (fun pair : Int64 × Int64 => PairSummary.of pair.1 pair.2) pairs with
    hall | ⟨front, ⟨a, b⟩, back, e, hpairs, hfront, hfails⟩
  · exact Or.inl hall
  · exact Or.inr ⟨front, a, b, back, e, hpairs, hfront, hfails⟩

/-! ## §3. Runs over a text. -/

theorem answers_of_error {text : String} {e : Fault} (h : readPairs text = .error e) :
    answers text = [.error { cause := .fault e }] := by
  rw [answers, h]
  rfl

theorem answers_of_ok {text : String} {pairs : List (Int64 × Int64)}
    (h : readPairs text = .ok pairs) : answers text = pairs.map answer := by
  rw [answers, h]
  rfl

/-- The answers to two texts with blanks between them. -/
theorem answers_append {text blanks text' : String} {pairs pairs' : List (Int64 × Int64)}
    (hne : blanks ≠ "") (hblank : ∀ c ∈ blanks.toList, Text.isBlank c = true)
    (h : readPairs text = .ok pairs) (h' : readPairs text' = .ok pairs') :
    answers (text ++ blanks ++ text') = answers text ++ answers text' := by
  rw [answers_of_ok (readPairs_append hne hblank h h'), answers_of_ok h, answers_of_ok h',
    List.map_append]

/-- What a run leaves, where it is known what the answers to the text come to. -/
theorem run_leaves {text due : String} {ends : Except Failure Unit}
    (howed : owed (answers text) = (due, ends)) (before : String) :
    (run text { written := before }).sink = { written := before ++ due } ∧
      (run text { written := before }).result = ends ∧
      solve .pairResults text = ends.map fun _ => due :=
  (runs_run .pairResults text { written := before }).leaves howed

/-- **A run over two texts** with blanks between them ends with the first if that fails, and else goes
on as a run over the second does alone. -/
theorem run_append {text blanks text' : String} {pairs pairs' : List (Int64 × Int64)}
    (hne : blanks ≠ "") (hblank : ∀ c ∈ blanks.toList, Text.isBlank c = true)
    (h : readPairs text = .ok pairs) (h' : readPairs text' = .ok pairs') (before : String) :
    let first := run text { written := before }
    let second := run text' .unbounded
    let together := run (text ++ blanks ++ text') { written := before }
    (∀ e, first.result = .error e → together.sink = first.sink ∧ together.result = .error e) ∧
      (first.result = .ok () →
        together.sink.written = first.sink.written ++ second.sink.written ∧
        together.result = second.result) := by
  intro first second together
  rcases howed : owed (answers text) with ⟨due, ends⟩
  rcases howed' : owed (answers text') with ⟨due', ends'⟩
  obtain ⟨hfirst, hends, -⟩ := run_leaves howed before
  obtain ⟨hsecond, hends', -⟩ := run_leaves howed' ""
  have hall := owed_append (answers text) (answers text')
  rw [← answers_append hne hblank h h', howed, howed'] at hall
  obtain ⟨htogether, hresult, -⟩ := run_leaves hall before
  cases ends with
  | error f =>
    constructor
    · intro e he
      exact ⟨htogether.trans hfirst.symm, hresult.trans (hends.symm.trans he)⟩
    · intro hok
      cases hends.symm.trans hok
  | ok u =>
    constructor
    · intro e he
      cases hends.symm.trans he
    · intro _
      have hwritten : together.sink.written = before ++ (due ++ due') :=
        congrArg Sink.written htogether
      have hwritten' : second.sink.written = "" ++ due' := congrArg Sink.written hsecond
      rw [hwritten, hwritten', show first.sink = _ from hfirst, String.empty_append]
      exact ⟨(String.append_assoc ..).symm, hresult.trans hends'.symm⟩

/-- **What a run over a text leaves.** A text that cannot be read leaves nothing, and the failure has
no context. Otherwise the four lines of each pair before the first one that fails are written, with
the exact results; the failure names the pair. If no pair fails the lines of all are written. The
solution is the text written, or the failure. A run over two texts with blanks between them ends with
the first if that fails, and else goes on as a run over the second does alone. -/
theorem run_fourLines (text before : String) :
    let outcome := run text { written := before }
    -- a text that cannot be read
    (∀ e, readPairs text = .error e →
      let failure : Failure := { context := none, cause := .fault e }
      outcome.sink = { written := before } ∧ outcome.result = .error failure ∧
      failure.chain = [e.message] ∧ solve .pairResults text = .error failure) ∧
    (∀ pairs, readPairs text = .ok pairs →
      -- all pairs are worked out
      ((∀ pair ∈ pairs, WorksOut pair) →
        outcome.sink = { written := before ++ String.join (pairs.map exactLines) } ∧
        outcome.result = .ok () ∧
        solve .pairResults text = .ok (String.join (pairs.map exactLines))) ∧
      -- the pair of `a` and `b` is the first that fails
      (∀ front a b back e, pairs = front ++ (a, b) :: back → (∀ pair ∈ front, WorksOut pair) →
        PairSummary.of a b = .error e →
        let failure : Failure := { context := some (.pair a b), cause := .fault e }
        outcome.sink = { written := before ++ String.join (front.map exactLines) } ∧
        outcome.result = .error failure ∧
        failure.chain = [s!"pair {a} {b}", e.message] ∧
        solve .pairResults text = .error failure) ∧
      -- one or the other is the case
      ((∀ pair ∈ pairs, WorksOut pair) ∨ ∃ front a b back e, pairs = front ++ (a, b) :: back ∧
        (∀ pair ∈ front, WorksOut pair) ∧ PairSummary.of a b = .error e)) ∧
    -- two texts
    ∀ blanks text' pairs pairs', readPairs text = .ok pairs → readPairs text' = .ok pairs' →
      blanks ≠ "" → (∀ c ∈ blanks.toList, Text.isBlank c = true) →
      let second := run text' .unbounded
      let together := run (text ++ blanks ++ text') { written := before }
      (∀ e, outcome.result = .error e →
        together.sink = outcome.sink ∧ together.result = .error e) ∧
      (outcome.result = .ok () →
        together.sink.written = outcome.sink.written ++ second.sink.written ∧
        together.result = second.result) := by
  intro outcome
  refine ⟨?_, ?_, ?_⟩
  · intro e hread failure
    have howed : owed (answers text) = ("", .error failure) := by
      rw [answers_of_error hread]
      rfl
    obtain ⟨hsink, hresult, hsolve⟩ := run_leaves howed before
    rw [String.append_empty] at hsink
    exact ⟨hsink, hresult, rfl, hsolve⟩
  · intro pairs hread
    refine ⟨?_, ?_, worksOut_or_failed pairs⟩
    · intro hall
      have howed : owed (answers text) = (String.join (pairs.map exactLines), .ok ()) := by
        rw [answers_of_ok hread, owed_of_worksOut hall]
      exact run_leaves howed before
    · rintro front a b back e rfl hfront hfails failure
      have howed : owed (answers text) =
          (String.join (front.map exactLines), .error failure) := by
        rw [answers_of_ok hread, owed_of_failed hfront hfails]
      obtain ⟨hsink, hresult, hsolve⟩ := run_leaves howed before
      exact ⟨hsink, hresult, rfl, hsolve⟩
  · intro blanks text' pairs pairs' h h' hne hblank
    exact run_append hne hblank h h' before

/-- The second of three pairs fails, alone and behind another text; a last word that is no integer
leaves nothing of the pairs before it. -/
theorem run_fourLines_secondFails :
    let failure : Failure := { context := some (.pair 1 0), cause := .fault .divisionByZero }
    let text := "4 2\n1 0 -3 3"
    let before : Sink := { written := "> " }
    (run text before).sink.written = "> 4+2=6\n4*2=8\n4-2=2\n4/2=2...0\n" ∧
      (run text before).result = .error failure ∧
      failure.chain = ["pair 1 0", "Division by zero"] ∧
      (run ("7 -2" ++ "\u00a0\n" ++ text) before).sink.written =
        "> 7+-2=5\n7*-2=-14\n7--2=9\n7/-2=-4...-1\n4+2=6\n4*2=8\n4-2=2\n4/2=2...0\n" ∧
      (run ("7 -2" ++ "\u00a0\n" ++ text) before).result = .error failure ∧
      (run "7 -2 1 x" before).sink = before ∧
      solve .pairResults "7 -2 1 x" =
        .error { cause := .fault (.invalidInput (.notWord "x")) } := by
  intro failure text before
  have hread : readPairs text = .ok [(4, 2), (1, 0), (-3, 3)] := by decide +kernel
  have hread' : readPairs "7 -2" = .ok [(7, -2)] := by decide +kernel
  have hbad : readPairs "7 -2 1 x" = .error (.invalidInput (.notWord "x")) := by decide +kernel
  have hfour : WorksOut (4, 2) := ⟨_, rfl⟩
  have hseven : WorksOut (7, -2) := ⟨_, rfl⟩
  have hfront : ∀ pair ∈ [((4 : Int64), (2 : Int64))], WorksOut pair := by simpa using hfour
  have hall : ∀ pair ∈ [((7 : Int64), (-2 : Int64))], WorksOut pair := by simpa using hseven
  obtain ⟨-, hpairs, -⟩ := run_fourLines text "> "
  obtain ⟨-, hfailed, -⟩ := hpairs _ hread
  obtain ⟨hsink, hresult, hchain, -⟩ := hfailed _ _ _ _ _ rfl hfront rfl
  obtain ⟨-, hpairs', hjoined⟩ := run_fourLines "7 -2" "> "
  obtain ⟨hworked, -⟩ := hpairs' _ hread'
  obtain ⟨hsink', hresult', -⟩ := hworked hall
  have hblank : "\u00a0\n".toList.all Text.isBlank = true := by decide +kernel
  obtain ⟨-, htogether⟩ :=
    hjoined "\u00a0\n" text _ _ hread' hread (by decide) (List.all_eq_true.mp hblank)
  obtain ⟨hwritten, hresult''⟩ := htogether hresult'
  obtain ⟨hnothing, -⟩ := run_fourLines "7 -2 1 x" "> "
  obtain ⟨hempty, -, -, hsolve⟩ := hnothing _ hbad
  have hlines : "> " ++ String.join ([(4, 2)].map exactLines) =
      "> 4+2=6\n4*2=8\n4-2=2\n4/2=2...0\n" := by decide +kernel
  have hlines' : "> " ++ String.join ([(7, -2)].map exactLines) =
      "> 7+-2=5\n7*-2=-14\n7--2=9\n7/-2=-4...-1\n" := by decide +kernel
  have halone : (run text .unbounded).sink.written = "4+2=6\n4*2=8\n4-2=2\n4/2=2...0\n" := by
    decide +kernel
  have hfails : (run text .unbounded).result = .error failure := by decide +kernel
  refine ⟨?_, hresult, hchain, ?_, hresult''.trans hfails, hempty, hsolve⟩
  · rw [hsink, hlines]
  · rw [hwritten, hsink', hlines', halone]
    rfl

end Repunits.Exercise.PairResults
