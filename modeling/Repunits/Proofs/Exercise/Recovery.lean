/-
  Repunits.Proofs.Exercise.Recovery
  ────────────────────────────────
  **The pairs can be told from the lines written for them.**

  The lines glue signed numbers to signs of operations, so that a minus
  sign may be either. In the line of the sum no plus sign belongs to a
  number, and no equals sign does in any line: what stands before the one
  and between the two are the numerals of the pair. The lines of a pair
  hold four line ends and the lines of the next follow, so that the whole
  list can be read off.

  Main results:
    * `operands_equation` — the pair of the line of a sum.
    * `recover_join` — the pairs of all lines.
    * `solve_eq_solve_iff` — two solutions are equal exactly for equal
      lists of pairs.
-/
import Repunits.Proofs.Exercise.PairLines
import Repunits.Proofs.Text.Integer
import Repunits.Proofs.Text.Words

namespace Repunits.Exercise.PairResults

/-! ## §1. Reading the lines. -/

/-- The pair that the line of a sum is about. -/
def operands (line : List Char) : Except Fault (Int64 × Int64) := do
  let a ← readWord (line.takeWhile (· ≠ '+'))
  let b ← readWord (((line.dropWhile (· ≠ '+')).drop 1).takeWhile (· ≠ '='))
  return (a, b)

/-- The pairs that lines are about, of which every four belong to one. -/
def operandsOfLines : List (List Char) → Except Fault (List (Int64 × Int64))
  | sum :: _ :: _ :: _ :: later => do
    let pair ← operands sum
    let pairs ← operandsOfLines later
    return pair :: pairs
  | _ => .ok []

/-- The pairs that a solution is about. -/
def recover (solution : String) : Except Fault (List (Int64 × Int64)) :=
  operandsOfLines (solution.toList.splitOn '\n')

/-! ## §2. One line. -/

/-- A line without its end: two operands with the sign of an operation between them, and the
result. -/
def equation (sign : Char) (a b : Int) (result : String) : List Char :=
  (toString a).toList ++ sign :: ((toString b).toList ++ '=' :: result.toList)

/-- A line in front of others is split off at its end, since it holds no line end of its own. -/
theorem splitOn_equation {sign : Char} {result : String} (hsign : sign ≠ '\n')
    (hresult : '\n' ∉ result.toList) (a b : Int) (later : List Char) :
    (equation sign a b result ++ '\n' :: later).splitOn '\n' =
      equation sign a b result :: later.splitOn '\n' := by
  have hnumeral : ∀ i : Int, '\n' ∉ (toString i).toList := Text.notMem_toString_int (by decide) rfl
  have hline : '\n' ∉ equation sign a b result := by
    simp only [equation, List.mem_append, List.mem_cons, not_or]
    exact ⟨hnumeral a, hsign.symm, hnumeral b, by decide, hresult⟩
  exact List.splitOn_append_cons_self_of_not_mem hline later

/-- A word is read back from its numeral. -/
theorem readWord_toString (v : Int64) : readWord (toString v.toInt).toList = .ok v :=
  readWord_of_isHalf (Text.isInteger_toString v.toInt)

/-- **The pair of the line of a sum** is read off, whatever the signs and lengths of the two. -/
theorem operands_equation (a b : Int64) (result : String) :
    operands (equation '+' a.toInt b.toInt result) = .ok (a, b) := by
  have hplus : '+' ∉ (toString a.toInt).toList := Text.notMem_toString_int (by decide) rfl _
  have hequals : '=' ∉ (toString b.toInt).toList := Text.notMem_toString_int (by decide) rfl _
  rw [operands, equation, Text.takeWhile_ne hplus, Text.dropWhile_ne hplus, List.drop_one,
    List.tail_cons, Text.takeWhile_ne hequals, readWord_toString, readWord_toString]
  rfl

/-! ## §3. All lines. -/

/-- The lines of a pair, character by character. -/
theorem toList_exactLines (pair : Int64 × Int64) :
    let a := pair.1.toInt
    let b := pair.2.toInt
    (exactLines pair).toList =
      equation '+' a b (toString (a + b)) ++ '\n' :: (equation '*' a b (toString (a * b)) ++
        '\n' :: (equation '-' a b (toString (a - b)) ++
          '\n' :: (equation '/' a b s!"{a.fdiv b}...{a.fmod b}" ++ ['\n']))) := by
  intro a b
  simp only [exactLines, equation, String.toList_append, List.append_assoc, List.cons_append]
  rfl

/-- **The lines of a pair in front** of others are read as the pair in front of theirs. -/
theorem operandsOfLines_exactLines (pair : Int64 × Int64) (later : List Char) :
    operandsOfLines (((exactLines pair).toList ++ later).splitOn '\n') =
      (operandsOfLines (later.splitOn '\n')).map (pair :: ·) := by
  obtain ⟨a, b⟩ := pair
  have hnumeral : ∀ i : Int, '\n' ∉ (toString i).toList := Text.notMem_toString_int (by decide) rfl
  have hdivision : ∀ q r : Int, '\n' ∉ s!"{q}...{r}".toList := by
    intro q r
    simp only [String.toList_append, List.mem_append, not_or]
    exact ⟨⟨hnumeral q, by decide⟩, hnumeral r⟩
  rw [toList_exactLines]
  simp only [List.append_assoc, List.cons_append, List.nil_append]
  rw [splitOn_equation (by decide) (hnumeral _), splitOn_equation (by decide) (hnumeral _),
    splitOn_equation (by decide) (hnumeral _), splitOn_equation (by decide) (hdivision _ _),
    operandsOfLines, operands_equation]
  cases operandsOfLines (later.splitOn '\n') <;> rfl

/-- **All pairs are recovered** from their lines, in order. -/
theorem recover_join (pairs : List (Int64 × Int64)) :
    recover (String.join (pairs.map exactLines)) = .ok pairs := by
  unfold recover
  induction pairs with
  | nil => rfl
  | cons pair rest ih =>
    rw [List.map_cons, String.join_cons, String.toList_append, operandsOfLines_exactLines, ih]
    rfl

/-! ## §4. Solutions. -/

/-- A solution is the lines of the pairs that were read, all of which are worked out. -/
theorem solution_cases {text solution : String} (h : solve .pairResults text = .ok solution) :
    ∃ pairs, readPairs text = .ok pairs ∧ solution = String.join (pairs.map exactLines) := by
  have hsolve : (owed (answers text)).2.map (fun _ => (owed (answers text)).1) = .ok solution :=
    (solve_eq_owed .pairResults text).symm.trans h
  cases hread : readPairs text with
  | error e =>
    rw [answers_of_error hread] at hsolve
    cases hsolve
  | ok pairs =>
    rw [answers_of_ok hread] at hsolve
    rcases worksOut_or_failed pairs with hall | ⟨front, a, b, back, e, rfl, hfront, hfails⟩
    · rw [owed_of_worksOut hall] at hsolve
      cases hsolve
      exact ⟨pairs, rfl, rfl⟩
    · rw [owed_of_failed hfront hfails] at hsolve
      cases hsolve

/-- **Solutions are unambiguous.** Two texts have the same solution exactly if they list the same
pairs, and the pairs of a text are recovered from its solution. -/
theorem solve_eq_solve_iff {x y s t : String} (hx : solve .pairResults x = .ok s)
    (hy : solve .pairResults y = .ok t) :
    (solve .pairResults x = solve .pairResults y ↔ readPairs x = readPairs y) ∧
      (∃ pairs, readPairs x = .ok pairs ∧ recover s = .ok pairs) ∧
      (∃ pairs, readPairs y = .ok pairs ∧ recover t = .ok pairs) := by
  obtain ⟨pairs, hread, rfl⟩ := solution_cases hx
  obtain ⟨pairs', hread', rfl⟩ := solution_cases hy
  refine ⟨?_, ⟨pairs, hread, recover_join pairs⟩, ⟨pairs', hread', recover_join pairs'⟩⟩
  constructor
  · intro h
    have hlines : String.join (pairs.map exactLines) = String.join (pairs'.map exactLines) :=
      Except.ok.inj (hx.symm.trans (h.trans hy))
    have hpairs := congrArg recover hlines
    rw [recover_join, recover_join] at hpairs
    rw [hread, hread', hpairs]
  · intro h
    cases hread.symm.trans (h.trans hread')
    exact hx.trans hy.symm

/-- Two texts for two pairs, of which the second begins with a minus sign, and a third text. -/
theorem solve_eq_solve_iff_minus :
    let solution := "7+-2=5\n7*-2=-14\n7--2=9\n7/-2=-4...-1\n-3+3=0\n-3*3=-9\n-3-3=-6\n-3/3=-1...0\n"
    let solution' := "7+2=9\n7*2=14\n7-2=5\n7/2=3...1\n"
    solve .pairResults "7 -2 -3 3" = .ok solution ∧
      solve .pairResults "+7\t-02\n-3 3\n" = .ok solution ∧
      recover solution = .ok [(7, -2), (-3, 3)] ∧
      solve .pairResults "7 2" = .ok solution' ∧
      recover solution' = .ok [(7, 2)] ∧
      readPairs "7 -2 -3 3" = readPairs "+7\t-02\n-3 3\n" ∧
      readPairs "7 -2 -3 3" ≠ readPairs "7 2" := by
  intro solution solution'
  have hx : solve .pairResults "7 -2 -3 3" = .ok solution := by decide +kernel
  have hy : solve .pairResults "+7\t-02\n-3 3\n" = .ok solution := by decide +kernel
  have hz : solve .pairResults "7 2" = .ok solution' := by decide +kernel
  have hread : readPairs "7 -2 -3 3" = .ok [(7, -2), (-3, 3)] := by decide +kernel
  have hread' : readPairs "7 2" = .ok [(7, 2)] := by decide +kernel
  obtain ⟨hsame, ⟨pairs, hpairs, hrecover⟩, -⟩ := solve_eq_solve_iff hx hy
  obtain ⟨hother, -, ⟨pairs', hpairs', hrecover'⟩⟩ := solve_eq_solve_iff hx hz
  cases hread.symm.trans hpairs
  cases hread'.symm.trans hpairs'
  refine ⟨hx, hy, hrecover, hz, hrecover', hsame.mp (hx.trans hy.symm), ?_⟩
  intro h
  have hsolutions : solution = solution' := Except.ok.inj (hx.symm.trans ((hother.mpr h).trans hz))
  exact absurd hsolutions (by decide)

end Repunits.Exercise.PairResults
