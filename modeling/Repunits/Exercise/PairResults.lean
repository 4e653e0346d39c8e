/-
  Repunits.Exercise.PairResults
  ────────────────────────────────
  **The pair exercise: four lines for each pair of integers.**

  The lines give the sum, the product, the difference, and the floor
  quotient with its remainder. The pairs before the first failing one are
  written, none of the four lines of that one is, and the failure names
  it.
-/
import Repunits.Exercise.Delivery
import Repunits.Exercise.Input
import Repunits.Pair

namespace Repunits.Exercise.PairResults

/-- The four lines of a pair. -/
def lines (s : PairSummary) : String :=
  s!"{s.a}+{s.b}={s.sum}\n" ++ s!"{s.a}*{s.b}={s.product}\n" ++
    s!"{s.a}-{s.b}={s.difference}\n" ++ s!"{s.a}/{s.b}={s.quotient}...{s.remainder}\n"

/-- Works out one pair, and writes its lines. -/
def portion (pair : Int64 × Int64) (_ : Unit) : Portion Unit :=
  match PairSummary.of pair.1 pair.2 with
  | .error e =>
    { answer := .error { context := some (.pair pair.1 pair.2), cause := .fault e }
      journal := []
      state := () }
  | .ok s =>
    { answer := .ok (lines s)
      journal := [.event (.formatting pair.1 pair.2)]
      state := () }

/-- The exercise on a text. A text that cannot be read leaves no output and no journal. -/
def run (text : String) (sink : Sink) : Outcome :=
  match readPairs text with
  | .error e => { sink, journal := [], result := .error { cause := .fault e } }
  | .ok pairs =>
    let delivery := deliver portion pairs () sink
    { sink := delivery.sink, journal := delivery.journal, result := delivery.result }

end Repunits.Exercise.PairResults
