/-
  Repunits.Exercise.LeastLengths
  ────────────────────────────────
  **The repunit exercise: the least repunit length of each divisor.**

  The lengths are written one to a line, in the order of the divisors.
  Without the parallel option each divisor is searched when its line is
  due; with it all divisors are searched first. Either way the lines
  before the first failing divisor are written, and the failure names
  that divisor and its position.
-/
import Repunits.Exercise.Delivery
import Repunits.Exercise.Input
import Repunits.Log.Search

namespace Repunits.Exercise

/-- The options of the repunit exercise. -/
structure Options where
  strategy : Strategy := .remainder
  limit : Option Nat := none
  parallel : Bool := false
deriving DecidableEq

/-- The finder that the options ask for. -/
def Options.finder (o : Options) : Finder := { strategy := o.strategy, limit := o.limit }

namespace LeastLengths

/-- The line for a divisor whose search is over; positions count from one. -/
def line (position : Nat) (d : UInt64) (report : Report) : Except Failure String :=
  match report.result with
  | .ok k => .ok s!"{k}\n"
  | .error e => .error { context := some (.divisor position d), cause := .fault e }

/-- Searches one divisor, and writes its line. -/
def searchPortion (item : UInt64 × Nat) (f : Finder) : Portion Finder :=
  let (report, f', journal) := f.reportLogged item.1
  { answer := line item.2 item.1 report, journal, state := f' }

/-- The line of a divisor that was searched before. -/
def reportPortion (item : (UInt64 × Report) × Nat) (f : Finder) : Portion Finder :=
  { answer := line item.2 item.1.1 item.1.2, journal := [], state := f }

/-- Searches each divisor when its line is due. -/
def runInTurn (f : Finder) (ds : List UInt64) (sink : Sink) : Delivery Finder :=
  deliver searchPortion (ds.zipIdx 1) f sink

/-- Searches all divisors side by side, and then writes the lines. -/
def runSideBySide (f : Finder) (ds : List UInt64) (sink : Sink) : Delivery Finder :=
  let (reports, f', journal) := f.reportEachLogged ds
  let delivery := deliver reportPortion ((ds.zip reports).zipIdx 1) f' sink
  { delivery with journal := journal ++ delivery.journal }

/-- The run over divisors that have been read. The last event is logged only by a run that
succeeds. -/
def runOver (o : Options) (ds : List UInt64) (sink : Sink) : Outcome :=
  let delivery :=
    if o.parallel then runSideBySide o.finder ds sink else runInTurn o.finder ds sink
  let opening := Log.Entry.event (.started ds.length o.strategy o.parallel)
  let closing :=
    match delivery.result with
    | .ok () => [Log.Entry.event (.finished delivery.state.table.size)]
    | .error _ => []
  { sink := delivery.sink
    journal := opening :: (delivery.journal ++ closing)
    result := delivery.result }

/-- The exercise on a text. A text that cannot be read leaves no output and no journal. -/
def run (o : Options) (text : String) (sink : Sink) : Outcome :=
  match readDivisors text with
  | .error e => { sink, journal := [], result := .error { cause := .fault e } }
  | .ok ds => runOver o ds sink

end LeastLengths

end Repunits.Exercise
