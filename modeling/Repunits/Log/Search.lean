/-
  Repunits.Log.Search
  ────────────────────────────────
  **Searches that log what they do.**

  The searches of the programs, with a recorder that is handed on from
  step to step. A search says that it tests a length before it probes it,
  and that it has found one before it ends with it. So does a worker of a
  search side by side. Apart from the recorder these are the loops of
  `drive` and of `Worker.finish`.
-/
import Repunits.Log.Journal
import Repunits.Repunit.Worker

namespace Repunits

open Log (Journal Recorder)

/-- A search that ends with a length says that it has found it. -/
def Log.Recorder.noteEnd (log : Recorder) (d : UInt64) (report : Report) : Recorder :=
  match report.result with
  | .ok k => log.note (.found d k)
  | .error _ => log

/-! ## §1. One search. -/

/-- Runs a search from a stage to its end, threading the state of the probe and the recorder. -/
def driveLogged {σ : Type} (d : UInt64) (limit : Nat)
    (probe : Nat → σ → Except Fault UInt64 × σ) : Stage → σ → Recorder → Report × σ × Recorder
  | .ended report, s, log => (report, s, log.noteEnd d report)
  | .probing k, s, log =>
    match log.note (.tested d k), probe k s with
    | log', (answer, s') => driveLogged d limit probe (Stage.resume d limit k answer) s' log'
termination_by stage => stage.work limit
decreasing_by exact Stage.work_resume_lt d limit k _

/-- The whole search for one divisor. -/
def searchLogged {σ : Type} (d : UInt64) (limit : Option Nat)
    (probe : Nat → σ → Except Fault UInt64 × σ) (s : σ) : Report × σ × Journal :=
  let bound := limit.getD maxLength
  let (report, s', log) := driveLogged d bound probe (Stage.ofProgress d bound .start) s {}
  (report, s', log.journal)

/-- The search for one divisor, with its report and its journal. -/
def Finder.reportLogged (f : Finder) (d : UInt64) : Report × Finder × Journal :=
  match checkDivisor d with
  | .error e => (⟨0, .error e⟩, f, [])
  | .ok () =>
    match f with
    | { table, strategy := .remainder, limit } =>
      let (report, _, journal) := searchLogged d limit (probeRemainder d) 0
      (report, { table, strategy := .remainder, limit }, journal)
    | { table, strategy := .table, limit } =>
      let (report, table', journal) := searchLogged d limit (probeTable d) table
      (report, { table := table', strategy := .table, limit }, journal)

/-! ## §2. Searches side by side. -/

namespace Worker

/-- What a worker says as it takes its next step: that it tests a length, if it begins to probe it. -/
def noteStep (log : Recorder) (d : UInt64) : Worker → Recorder
  | .carrying k _ => log.note (.tested d k)
  | .visiting k { stage := .asking, .. } => log.note (.tested d k)
  | _ => log

/-- Runs a worker to its end with no other in between. -/
def finishLogged (d : UInt64) (limit : Nat) : Worker → Table → Recorder →
    Report × Table × Recorder
  | .finished report, t, log => (report, t, log.noteEnd d report)
  | .carrying k r, t, log =>
    match _h : (Worker.carrying k r).step d limit t with
    | (w, t') => finishLogged d limit w t' ((Worker.carrying k r).noteStep log d)
  | .visiting k call, t, log =>
    match _h : (Worker.visiting k call).step d limit t with
    | (w, t') => finishLogged d limit w t' ((Worker.visiting k call).noteStep log d)
termination_by w => w.work limit
decreasing_by
  · have := work_step_carrying_lt d limit t k r
    simp_all
  · have := work_step_visiting_lt d limit t k call
    simp_all

/-- Runs one worker for each divisor, each to its end before the next one starts. -/
def runAllLogged (strategy : Strategy) (limit : Nat) : List UInt64 → Table →
    List Report × Table × Journal
  | [], t => ([], t, [])
  | d :: ds, t =>
    let (report, t₁, log) := finishLogged d limit (start strategy d limit) t {}
    let (reports, t₂, journal) := runAllLogged strategy limit ds t₁
    (report :: reports, t₂, log.journal ++ journal)

end Worker

/-- The reports of all divisors, in their order, with the journal of their searches. -/
def Finder.reportEachLogged (f : Finder) (ds : List UInt64) : List Report × Finder × Journal :=
  match f with
  | { table, strategy, limit } =>
    let (reports, table', journal) :=
      Worker.runAllLogged strategy (limit.getD maxLength) ds table
    (reports, { table := table', strategy, limit }, journal)

end Repunits
