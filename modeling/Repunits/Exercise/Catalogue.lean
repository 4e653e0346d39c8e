/-
  Repunits.Exercise.Catalogue
  ────────────────────────────────
  **The exercises, by name.**

  `Exercise.run` runs an exercise over a text and writes its answer to a
  sink; `Exercise.solve` gives the answer of a run that nothing cut
  short. `catalogue` lists the exercises with one line about each.
-/
import Repunits.Exercise.LeastLengths
import Repunits.Exercise.PairResults

namespace Repunits

/-- An exercise, with its options. -/
inductive Exercise where
  | leastLengths (options : Exercise.Options)
  | pairResults
deriving DecidableEq

namespace Exercise

/-- Runs an exercise over a text. -/
def run : Exercise → String → Sink → Outcome
  | .leastLengths options, text, sink => LeastLengths.run options text sink
  | .pairResults, text, sink => PairResults.run text sink

/-- The whole answer to a text, or why there is none. -/
def solve (e : Exercise) (text : String) : Except Failure String :=
  (e.run text .unbounded).solution

/-- An exercise as it is presented to users. -/
structure Description where
  name : String
  summary : String
deriving DecidableEq

/-- The exercises that there are. -/
def catalogue : List Description :=
  [⟨"repunit", "Shortest repunit (1, 11, 111, ...) divisible by each input integer"⟩,
   ⟨"arith", "Sum, product, difference and floor quotient/remainder of integer pairs"⟩]

end Exercise

end Repunits
