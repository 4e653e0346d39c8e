/-
  Repunits.Repunit.Worker
  ────────────────────────────────
  **Searches side by side on a shared table.**

  Each worker searches for one divisor. Under the table strategy a worker
  touches the shared table in the atomic steps of its calls (`Call`), and
  between two of its steps other workers may extend the table; no
  callback of a worker panics, so the table stands for its lock. Under
  the remainder strategy a worker carries a remainder of its own and does
  not touch the table at all. A schedule is a list of worker numbers, the
  order in which they step; `Worker.runAll` is the schedule in which each
  worker runs to its end before the next one starts.
-/
import Repunits.Repunit.Finder

namespace Repunits

/-! ## §1. One worker. -/

/-- A worker between two steps: the length it is at, with the call it is in, or with the remainder
of the repunit before. -/
inductive Worker where
  | visiting (length : Nat) (call : Call (Except Fault UInt64))
  | carrying (length : Nat) (remainder : Nat)
  | finished (report : Report)

namespace Worker

/-- A worker that begins its call for one length. -/
def visit (d : UInt64) (k : Nat) : Worker :=
  .visiting k { length := k, callback := (·.rem d) }

/-- A worker at a stage of its search, `probe` being how it begins to probe a length. -/
def ofStage (probe : Nat → Worker) : Stage → Worker
  | .probing k => probe k
  | .ended report => .finished report

/-- A worker that has not touched the table yet. A bad divisor ends its search at once. -/
def start (strategy : Strategy) (d : UInt64) (limit : Nat) : Worker :=
  match checkDivisor d with
  | .error e => .finished ⟨0, .error e⟩
  | .ok () =>
    match strategy with
    | .table => ofStage (visit d) (Stage.ofProgress d limit .start)
    | .remainder => ofStage (.carrying · 0) (Stage.ofProgress d limit .start)

/-- What a worker does when its call has moved on: an answer resumes the search. -/
def afterCall (d : UInt64) (limit k : Nat) (call : Call (Except Fault UInt64)) : Worker :=
  match call.answer? with
  | none => .visiting k call
  | some answer => ofStage (visit d) (Stage.resume d limit k (answer.bind id))

/-- What a worker does that carries its remainder one length on. -/
def afterProbe (d : UInt64) (limit k : Nat) (answer : Except Fault UInt64) (r : Nat) : Worker :=
  ofStage (.carrying · r) (Stage.resume d limit k answer)

/-- The report of a worker that is finished. -/
def report? : Worker → Option Report
  | .finished report => some report
  | _ => none

/-- One atomic step on the shared table. -/
def step (d : UInt64) (limit : Nat) (t : Table) : Worker → Worker × Table
  | .finished report => (.finished report, t)
  | .carrying k r =>
    let (answer, r') := probeRemainder d k r
    (afterProbe d limit k answer r', t)
  | .visiting k call =>
    let (call', t') := call.step t
    (afterCall d limit k call', t')

/-! ## §2. A worker left alone comes to an end. -/

/-- An upper bound on the steps a worker still has to take. -/
def work (limit : Nat) : Worker → Nat
  | .visiting k call => 3 * (limit - k) + 1 + call.work
  | .carrying k _ => 3 * (limit - k) + 1
  | .finished _ => 0

theorem work_visit_le (d : UInt64) (limit k : Nat) :
    (visit d k).work limit ≤ 3 * (Stage.probing k).work limit := by
  simp only [visit, work, Call.work, Stage.work]
  omega

theorem work_carrying_le (limit k r : Nat) :
    (carrying k r).work limit ≤ 3 * (Stage.probing k).work limit := by
  simp only [work, Stage.work]
  omega

theorem work_ofStage_le (limit : Nat) (probe : Nat → Worker)
    (h : ∀ k, (probe k).work limit ≤ 3 * (Stage.probing k).work limit) (stage : Stage) :
    (ofStage probe stage).work limit ≤ 3 * stage.work limit := by
  cases stage with
  | probing k => exact h k
  | ended report => simp [ofStage, work]

/-- A worker that has resumed its search has less work than one at the length before. -/
theorem work_resume_lt (d : UInt64) (limit k : Nat) (answer : Except Fault UInt64)
    (probe : Nat → Worker) (h : ∀ k, (probe k).work limit ≤ 3 * (Stage.probing k).work limit) :
    (ofStage probe (Stage.resume d limit k answer)).work limit < 3 * (limit - k) + 1 := by
  have h₁ := work_ofStage_le limit probe h (Stage.resume d limit k answer)
  have h₂ : (Stage.resume d limit k answer).work limit < limit - k + 1 :=
    Stage.work_resume_lt d limit k answer
  omega

/-- A step of a worker in a call uses up work. -/
theorem work_step_visiting_lt (d : UInt64) (limit : Nat) (t : Table) (k : Nat)
    (call : Call (Except Fault UInt64)) :
    ((Worker.visiting k call).step d limit t).1.work limit <
      (Worker.visiting k call).work limit := by
  simp only [step, afterCall]
  split
  · rename_i h
    rcases call.work_step t with hw | ⟨r, hr⟩
    · simp only [work]; omega
    · simp [Call.step, hr, Call.answer?] at h
  · rename_i answer _
    have h := work_resume_lt d limit k (answer.bind id) (visit d) (work_visit_le d limit)
    show _ < 3 * (limit - k) + 1 + call.work
    omega

/-- A step of a worker that carries its remainder uses up work. -/
theorem work_step_carrying_lt (d : UInt64) (limit : Nat) (t : Table) (k r : Nat) :
    ((Worker.carrying k r).step d limit t).1.work limit < (Worker.carrying k r).work limit :=
  work_resume_lt d limit k _ (.carrying · _) (work_carrying_le limit · _)

/-- Runs a worker to its end with no other in between. -/
def finish (d : UInt64) (limit : Nat) : Worker → Table → Report × Table
  | .finished report, t => (report, t)
  | .carrying k r, t =>
    match _h : (Worker.carrying k r).step d limit t with
    | (w, t') => finish d limit w t'
  | .visiting k call, t =>
    match _h : (Worker.visiting k call).step d limit t with
    | (w, t') => finish d limit w t'
termination_by w => w.work limit
decreasing_by
  · have := work_step_carrying_lt d limit t k r
    simp_all
  · have := work_step_visiting_lt d limit t k call
    simp_all

theorem finish_finished (d : UInt64) (limit : Nat) (report : Report) (t : Table) :
    finish d limit (.finished report) t = (report, t) := by
  rw [finish]

/-- One step, and then the rest of the run. -/
theorem finish_step (d : UInt64) (limit : Nat) (w : Worker) (t : Table) :
    finish d limit w t = finish d limit (w.step d limit t).1 (w.step d limit t).2 := by
  cases w with
  | finished report => rfl
  | carrying k r => rw [finish]
  | visiting k call => rw [finish]

/-- Runs one worker for each divisor, each to its end before the next one starts. -/
def runAll (strategy : Strategy) (limit : Nat) : List UInt64 → Table → List Report × Table
  | [], t => ([], t)
  | d :: ds, t =>
    let (report, t₁) := finish d limit (start strategy d limit) t
    let (reports, t₂) := runAll strategy limit ds t₁
    (report :: reports, t₂)

end Worker

/-! ## §3. Any order of steps. -/

/-- Workers in the midst of their searches, each with its divisor, and the table they share. -/
structure Pool where
  workers : List (UInt64 × Worker)
  table : Table

namespace Pool

/-- One worker for each divisor, none of which has touched the table yet. -/
def start (strategy : Strategy) (limit : Nat) (ds : List UInt64) (t : Table) : Pool :=
  ⟨ds.map fun d => (d, Worker.start strategy d limit), t⟩

/-- One step of worker number `i`; nothing happens when there is none. -/
def step (limit : Nat) (p : Pool) (i : Nat) : Pool :=
  match p.workers[i]? with
  | none => p
  | some (d, w) =>
    let (w', t') := w.step d limit p.table
    ⟨p.workers.set i (d, w'), t'⟩

/-- Steps of the workers in the order of a schedule. -/
def run (limit : Nat) (p : Pool) (schedule : List Nat) : Pool :=
  schedule.foldl (step limit) p

/-- The reports, once every worker is finished. -/
def reports? (p : Pool) : Option (List Report) :=
  p.workers.mapM fun (_, w) => w.report?

end Pool

/-! ## §4. Many divisors, side by side. -/

namespace Finder

/-- The pool of a finder: the table is lent to the workers. -/
def pool (f : Finder) (ds : List UInt64) : Pool := .start f.strategy f.bound ds f.table

/-- The reports of all divisors, in their order, each worker having searched for itself. The table
is lent to the workers and taken back at the end. -/
def reportEach (f : Finder) (ds : List UInt64) : List Report × Finder :=
  match f with
  | { table, strategy, limit } =>
    let (reports, table') := Worker.runAll strategy (limit.getD maxLength) ds table
    (reports, { table := table', strategy, limit })

/-- The result for each divisor, in their order; a failing divisor changes no other result. -/
def findEach (f : Finder) (ds : List UInt64) : List (Except Fault Nat) × Finder :=
  let (reports, f') := f.reportEach ds
  (reports.map (·.result), f')

end Finder

end Repunits
