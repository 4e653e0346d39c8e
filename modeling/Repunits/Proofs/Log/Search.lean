/-
  Repunits.Proofs.Log.Search
  ────────────────────────────────
  **Searches log what they do, and do nothing else for it.**

  The recorder that is handed through the loops of the logging searches
  has no say in them: without it they are the searches that do not log,
  for any probe, and the same holds of workers side by side. What the
  recorder holds is told call by call. After each turn of the loop it has
  one test for each call that the probe has had, in their order, so that
  its journal is the record of the calls (`recorded`), and behind it the
  length, if one was found. A worker that is left alone takes its calls
  apart into steps, but logs as the search does.

  Main results:
    * `driveLogged_erase`, `Worker.finishLogged_erase` — the loops without
      their recorder.
    * `events_driveLogged` — the journal and the recorded calls.
    * `Finder.events_reportLogged` — the journal of a finder's search.
    * `Worker.finishLogged_start` — that of a worker left alone.
-/
import Repunits.Log.Search
import Repunits.Proofs.Repunit.Lockstep

namespace Repunits

open Log (Event Journal Recorder)

/-! ## §1. The loop of one search. -/

section

variable {σ : Type} (d : UInt64) (probe : Nat → σ → Except Fault UInt64 × σ)

theorem driveLogged_ended (bound : Nat) (report : Report) (s : σ) (log : Recorder) :
    driveLogged d bound probe (.ended report) s log = (report, s, log.noteEnd d report) := by
  rw [driveLogged]

/-- One test that is noted, one probe, and then the rest of the search. -/
theorem driveLogged_probing (bound k : Nat) (s : σ) (log : Recorder) :
    driveLogged d bound probe (.probing k) s log =
      driveLogged d bound probe (Stage.resume d bound k (probe k s).1) (probe k s).2
        (log.note (.tested d k)) := by
  rw [driveLogged]

/-- **Without its recorder** the loop is that of a search which does not log. -/
theorem driveLogged_erase (bound : Nat) (stage : Stage) (s : σ) (log : Recorder) :
    (driveLogged d bound probe stage s log).1 = (drive d bound probe stage s).1 ∧
      (driveLogged d bound probe stage s log).2.1 = (drive d bound probe stage s).2 := by
  induction stage, s using drive.induct d bound probe generalizing log with
  | case1 report s =>
    rw [driveLogged_ended, drive_ended]
    exact ⟨rfl, rfl⟩
  | case2 k s answer s' hprobe ih =>
    rw [driveLogged_probing, drive_probing, hprobe]
    exact ih _

/-! ## §2. What the loop logs. -/

/-- The event of a call of the probe. -/
def callEvent (call : Nat × Except Fault UInt64) : Event := .tested d call.1

/-- The event of a search that ends with a length. -/
def foundEvents (report : Report) : List Event :=
  match report.result with
  | .ok k => [.found d k]
  | .error _ => []

theorem events_noteEnd (log : Recorder) (report : Report) :
    (log.noteEnd d report).journal.events = log.journal.events ++ foundEvents d report := by
  unfold Recorder.noteEnd foundEvents
  cases report.result with
  | ok k => exact Recorder.events_note log _
  | error e => exact (List.append_nil _).symm

/-- **A loop logs its calls**: a recorder that holds one test for each call so far does so to the end,
and then says what was found. -/
theorem events_driveLogged (bound : Nat) (stage : Stage) (s : σ) (log : Recorder)
    (calls : List (Nat × Except Fault UInt64))
    (h : log.journal.events = calls.map (callEvent d)) :
    (driveLogged d bound probe stage s log).2.2.journal.events =
      (drive d bound (recorded probe) stage (s, calls)).2.2.map (callEvent d) ++
        foundEvents d (drive d bound probe stage s).1 := by
  induction stage, s using drive.induct d bound probe generalizing log calls with
  | case1 report s =>
    rw [driveLogged_ended, drive_ended, drive_ended, ← h]
    exact events_noteEnd d log report
  | case2 k s answer s' hprobe ih =>
    have hrecorded : recorded probe k (s, calls) = (answer, s', calls ++ [(k, answer)]) := by
      rw [recorded, hprobe]
    rw [driveLogged_probing, drive_probing, drive_probing, hprobe, hrecorded]
    apply ih
    rw [Recorder.events_note, h, List.map_append]
    rfl

end

/-! ## §3. One search. -/

section

variable {σ : Type} (d : UInt64) (limit : Option Nat) (probe : Nat → σ → Except Fault UInt64 × σ)
variable (s : σ)

theorem searchLogged_fst : (searchLogged d limit probe s).1 = (search d limit probe s).1 :=
  (driveLogged_erase d probe _ _ s {}).1

theorem searchLogged_state : (searchLogged d limit probe s).2.1 = (search d limit probe s).2 :=
  (driveLogged_erase d probe _ _ s {}).2

/-- The events of the calls for the lengths one to `n`. -/
theorem map_callEvent_callsUpTo (n : Nat) :
    (callsUpTo probe s n).map (callEvent d) = (List.range' 1 n).map (Event.tested d) := by
  unfold callsUpTo
  rw [List.range'_eq_map_range, List.map_map, List.map_map]
  apply List.map_congr_left
  intro i _
  exact congrArg (Event.tested d) (Nat.add_comm i 1)

/-- **A search logs** a test of each length that it probed, from one upwards, and then what it
found. -/
theorem events_searchLogged :
    (searchLogged d limit probe s).2.2.events =
      (List.range' 1 (search d limit probe s).1.tested).map (Event.tested d) ++
        foundEvents d (search d limit probe s).1 := by
  -- The calls are those of the probe with a record, which has been called for one length after the other.
  obtain ⟨n, -, -, htested, hstate⟩ := search_calls d limit (recorded probe) (s, [])
  rw [(search_recorded d limit probe (s, [])).1] at htested
  rw [probed_recorded] at hstate
  have hcalls : (search d limit (recorded probe) (s, [])).2.2 = callsUpTo probe s n :=
    congrArg Prod.snd hstate
  have hevents : (searchLogged d limit probe s).2.2.events =
      (search d limit (recorded probe) (s, [])).2.2.map (callEvent d) ++
        foundEvents d (search d limit probe s).1 :=
    events_driveLogged d probe _ _ s {} [] rfl
  rw [hevents, hcalls, map_callEvent_callsUpTo, htested]

end

/-! ## §4. The search of a finder. -/

namespace Finder

theorem reportLogged_fst (f : Finder) (d : UInt64) : (f.reportLogged d).1 = (f.report d).1 := by
  obtain ⟨table, strategy, limit⟩ := f
  unfold reportLogged report
  cases checkDivisor d with
  | error e => rfl
  | ok u =>
    cases strategy with
    | remainder => exact searchLogged_fst d limit _ _
    | table => exact searchLogged_fst d limit _ _

theorem reportLogged_finder (f : Finder) (d : UInt64) :
    (f.reportLogged d).2.1 = (f.report d).2 := by
  obtain ⟨table, strategy, limit⟩ := f
  unfold reportLogged report
  cases checkDivisor d with
  | error e => rfl
  | ok u =>
    cases strategy with
    | remainder => rfl
    | table =>
      have htable := searchLogged_state d limit (probeTable d) table
      exact congrArg (fun t => (⟨t, .table, limit⟩ : Finder)) htable

/-- **A finder's search logs** its tests and what it found; a divisor that is refused leaves nothing to
be logged. -/
theorem events_reportLogged (f : Finder) (d : UInt64) :
    (f.reportLogged d).2.2.events =
      (List.range' 1 (f.report d).1.tested).map (Event.tested d) ++
        foundEvents d (f.report d).1 := by
  obtain ⟨table, strategy, limit⟩ := f
  unfold reportLogged report
  cases checkDivisor d with
  | error e => rfl
  | ok u =>
    cases strategy with
    | remainder => exact events_searchLogged d limit _ _
    | table => exact events_searchLogged d limit _ _

end Finder

/-! ## §5. Searches side by side. -/

namespace Worker

/-- One step of a worker with what it says, and then the rest of the run. -/
theorem finishLogged_step (d : UInt64) (limit : Nat) {w : Worker} (h : w.report? = none) (t : Table)
    (log : Recorder) :
    finishLogged d limit w t log =
      finishLogged d limit (w.step d limit t).1 (w.step d limit t).2 (w.noteStep log d) := by
  cases w with
  | finished report => cases h
  | carrying k r => rw [finishLogged]
  | visiting k call => rw [finishLogged]

/-- **Without its recorder** a worker runs to its end as one that does not log. -/
theorem finishLogged_erase (d : UInt64) (limit : Nat) (w : Worker) (t : Table) (log : Recorder) :
    (finishLogged d limit w t log).1 = (finish d limit w t).1 ∧
      (finishLogged d limit w t log).2.1 = (finish d limit w t).2 := by
  induction w, t using finish.induct d limit generalizing log with
  | case1 report t =>
    rw [finishLogged, finish_finished]
    exact ⟨rfl, rfl⟩
  | case2 k r t w' t' hstep ih =>
    rw [finishLogged_step d limit rfl, finish_step, hstep]
    exact ih _
  | case3 k call t w' t' hstep ih =>
    rw [finishLogged_step d limit rfl, finish_step, hstep]
    exact ih _

/-- A worker that is left alone with the table makes the search by the table: its calls are the probes. -/
theorem finishLogged_visit (d : UInt64) (limit : Nat) (stage : Stage) (t : Table) (log : Recorder) :
    finishLogged d limit (ofStage (visit d) stage) t log =
      driveLogged d limit (probeTable d) stage t log := by
  induction stage, t using drive.induct d limit (probeTable d) generalizing log with
  | case1 report t =>
    rw [driveLogged_ended, ofStage, finishLogged]
  | case2 k t answer t' hprobe ih =>
    rw [driveLogged_probing, hprobe, ← ih, ofStage, visit, finishLogged_step d limit rfl]
    cases hget : t.get? k with
    | some a =>
      -- The look-up finds the repunit, which the probe would take from the same place.
      rw [probeTable, Table.repunit_of_get? hget] at hprobe
      cases hprobe
      simp only [step, Call.step, hget]
      rfl
    | none =>
      -- The look-up misses, and the extension is the probe.
      rw [probeTable] at hprobe
      simp only [step, Call.step, hget]
      show finishLogged d limit (.visiting k _) t _ = _
      rw [finishLogged_step d limit rfl]
      rcases hrepunit : t.repunit k with ⟨found, t₁⟩
      rw [hrepunit] at hprobe
      cases hprobe
      simp only [step, Call.step, hrepunit]
      cases found with
      | error e => rfl
      | ok a => rfl

/-- A worker that carries its remainder makes the search by remainders, and leaves the table alone. -/
theorem finishLogged_carry (d : UInt64) (limit : Nat) (stage : Stage) (r : Nat) (t : Table)
    (log : Recorder) :
    finishLogged d limit (ofStage (.carrying · r) stage) t log =
      ((driveLogged d limit (probeRemainder d) stage r log).1, t,
        (driveLogged d limit (probeRemainder d) stage r log).2.2) := by
  induction stage, r using drive.induct d limit (probeRemainder d) generalizing log with
  | case1 report r =>
    rw [driveLogged_ended, ofStage, finishLogged]
  | case2 k r answer r' hprobe ih =>
    rw [driveLogged_probing, hprobe, ← ih, ofStage, finishLogged_step d limit rfl, step, hprobe]
    rfl

/-- **A worker that is left alone** makes and logs the search of a finder with its table. -/
theorem finishLogged_start (f : Finder) (d : UInt64) :
    let ended := finishLogged d f.bound (start f.strategy d f.bound) f.table {}
    (ended.1, ended.2.1, ended.2.2.journal) =
      ((f.reportLogged d).1, (f.reportLogged d).2.1.table, (f.reportLogged d).2.2) := by
  obtain ⟨table, strategy, limit⟩ := f
  unfold start Finder.reportLogged
  cases checkDivisor d with
  | error e =>
    dsimp only
    rw [finishLogged]
    rfl
  | ok u =>
    cases strategy with
    | table =>
      dsimp only
      rw [finishLogged_visit]
      rfl
    | remainder =>
      dsimp only
      rw [finishLogged_carry]
      rfl

theorem runAllLogged_erase (strategy : Strategy) (limit : Nat) (ds : List UInt64) (t : Table) :
    (runAllLogged strategy limit ds t).1 = (runAll strategy limit ds t).1 ∧
      (runAllLogged strategy limit ds t).2.1 = (runAll strategy limit ds t).2 := by
  induction ds generalizing t with
  | nil => exact ⟨rfl, rfl⟩
  | cons d ds ih =>
    obtain ⟨hreport, htable⟩ := finishLogged_erase d limit (start strategy d limit) t {}
    obtain ⟨hreports, hlast⟩ := ih (finish d limit (start strategy d limit) t).2
    unfold runAllLogged runAll
    dsimp only
    rw [hreport, htable, hreports, hlast]
    exact ⟨rfl, rfl⟩

end Worker

/-- **Without their journal** searches side by side report the same, and leave the finder the same. -/
theorem Finder.reportEachLogged_erase (f : Finder) (ds : List UInt64) :
    (f.reportEachLogged ds).1 = (f.reportEach ds).1 ∧
      (f.reportEachLogged ds).2.1 = (f.reportEach ds).2 := by
  obtain ⟨hreports, htable⟩ :=
    Worker.runAllLogged_erase f.strategy (f.limit.getD maxLength) ds f.table
  exact ⟨hreports, congrArg (fun t => (⟨t, f.strategy, f.limit⟩ : Finder)) htable⟩

end Repunits
