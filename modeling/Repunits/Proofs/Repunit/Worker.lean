/-
  Repunits.Proofs.Repunit.Worker
  ────────────────────────────────
  **Workers that search side by side report what each would report alone.**

  Between two steps a worker is on track (`Worker.OnTrack`): no length
  before the one it is at would do, and its call waits, or its remainder
  is the residue of the repunit before. What a step does to the table is
  said by one number, how far the worker has extended it, whatever other
  workers have done meanwhile. A worker that is finished has the one
  report that answers; so the reports of a pool and its table depend on
  the divisors alone, and not on the schedule.

  Main results:
    * `Worker.step_onTrack` — one step of one worker.
    * `Worker.runAll_eq` — workers that run one after the other.
    * `Pool.orderly_run`, `Pool.run_eq_runAll` — workers under any
      schedule.
    * `Pool.reports?_of_turns` — workers that have enough turns all come
      to their ends.
-/
import Repunits.Proofs.Repunit.Access
import Repunits.Proofs.Repunit.Outcome
import Repunits.Repunit.Worker

namespace Repunits

open Numeral (ones)

/-! ## §1. One worker. -/

/-- How far the table is extended by a search with this report. -/
def Report.extent (strategy : Strategy) (report : Report) : Nat :=
  match strategy with
  | .table => report.tested
  | .remainder => 0

namespace Worker

/-- The search for `d` has come to length `k`: no length before it would do. -/
structure Probing (d : UInt64) (bound k : Nat) : Prop where
  coprime : Nat.Coprime d.toNat 10
  pos : 1 ≤ k
  le : k ≤ bound
  none_before : ∀ j, 1 ≤ j → j < k → ¬ d.toNat ∣ repunit j

/-- What holds of a worker between two steps. -/
inductive OnTrack (strategy : Strategy) (d : UInt64) (bound : Nat) : Worker → Prop where
  | visiting {k : Nat} {call : Call (Except Fault UInt64)} (hs : strategy = .table)
      (hk : Probing d bound k) (hask : call.toAsk = { length := k, callback := (·.rem d) })
      (hcall : call.Waiting) : OnTrack strategy d bound (.visiting k call)
  | carrying {k : Nat} (hs : strategy = .remainder) (hk : Probing d bound k) :
      OnTrack strategy d bound (.carrying k (repunit (k - 1) % d.toNat))
  | finished {report : Report} (h : report.Answers d bound) :
      OnTrack strategy d bound (.finished report)

/-- How far a worker has extended the table. -/
def extent (strategy : Strategy) : Worker → Nat
  | .visiting k _ => k - 1
  | .carrying _ _ => 0
  | .finished report => report.extent strategy

variable {strategy : Strategy} {d : UInt64} {bound : Nat}

theorem onTrack_visit {k : Nat} (hk : Probing d bound k) :
    OnTrack .table d bound (visit d k) :=
  .visiting rfl hk rfl ⟨Or.inl rfl, rfl⟩

/-- With the residue of its length a search is over, or it goes on to the next length. -/
theorem ofStage_resume {k : Nat} (hk : Probing d bound k) (probe : Nat → Worker) :
    (∃ report : Report,
      ofStage probe (Stage.resume d bound k (.ok (residue d k))) = .finished report ∧
        report.Answers d bound ∧ report.tested = k) ∨
    (ofStage probe (Stage.resume d bound k (.ok (residue d k))) = probe (k + 1) ∧
      Probing d bound (k + 1)) := by
  have hne := ne_zero_of_coprime hk.coprime
  by_cases hdvd : d.toNat ∣ repunit k
  · left
    rw [(residue_eq_zero_iff hne k).mpr hdvd, resume_of_zero]
    exact ⟨_, rfl, .found hk.coprime hk.le ⟨hk.pos, hdvd, hk.none_before⟩, rfl⟩
  · have hquiet : Quiet (.ok (residue d k)) :=
      ⟨_, rfl, fun h => hdvd ((residue_eq_zero_iff hne k).mp h)⟩
    have hnone : ∀ j, 1 ≤ j → j < k + 1 → ¬ d.toNat ∣ repunit j := by
      intro j hj hlt
      rcases Nat.lt_succ_iff_lt_or_eq.mp hlt with hlt | rfl
      · exact hk.none_before j hj hlt
      · exact hdvd
    rw [resume_of_quiet d hquiet]
    by_cases hle : k + 1 ≤ bound
    · right
      rw [ofProgress_of_le d hle]
      exact ⟨rfl, hk.coprime, Nat.le_add_left 1 k, hle, hnone⟩
    · -- This was the last length within the bound.
      left
      obtain rfl : k = bound := Nat.le_antisymm hk.le (by omega)
      rw [ofProgress_past]
      exact ⟨_, rfl, .exhausted hk.coprime fun j hj hle => hnone j hj (by omega), rfl⟩

/-- A worker that begins is on track, and has not extended the table. -/
theorem onTrack_start (strategy : Strategy) (d : UInt64) (bound : Nat) :
    OnTrack strategy d bound (start strategy d bound) ∧
      (start strategy d bound).extent strategy = 0 := by
  unfold start
  cases hd : checkDivisor d with
  | error e =>
    refine ⟨.finished (.refused hd), ?_⟩
    cases strategy <;> rfl
  | ok _ =>
    have hcop := (checkDivisor_eq_ok_iff d).mp hd
    rcases Nat.eq_zero_or_pos bound with rfl | hpos
    · -- No length is to be tried at all.
      have hend : (Report.mk 0 (.error (.limitExceeded d 0))).Answers d 0 :=
        .exhausted hcop fun k h1 h2 => by omega
      cases strategy <;> exact ⟨.finished hend, rfl⟩
    · have hone : Probing d bound 1 := ⟨hcop, Nat.le_refl 1, hpos, fun j h1 h2 => by omega⟩
      have hstage : Stage.ofProgress d bound .start = .probing 1 := ofProgress_of_le d hpos
      cases strategy with
      | table =>
        rw [hstage]
        exact ⟨onTrack_visit hone, rfl⟩
      | remainder =>
        have hzero : 0 = repunit (1 - 1) % d.toNat := (Nat.zero_mod _).symm
        rw [hstage]
        show OnTrack _ d bound (.carrying 1 0) ∧ _
        rw [hzero]
        exact ⟨.carrying rfl hone, rfl⟩

/-- **One step of a worker** keeps it on track, and extends the table as far as the worker has then
come. -/
theorem step_onTrack {t : Table} (ht : t.Exact) {w : Worker} (hw : OnTrack strategy d bound w) :
    OnTrack strategy d bound (w.step d bound t).1 ∧
      t.Grows (w.extent strategy) (w.step d bound t).2 ((w.step d bound t).1.extent strategy) := by
  cases hw with
  | finished h => exact ⟨.finished h, .refl _ _⟩
  | @carrying k hs hk =>
    subst hs
    -- The state is the residue of the repunit before, so that the probe tells the next one.
    have hprev : nextRemainder d (repunit (k - 1) % d.toNat) = repunit k % d.toNat := by
      rw [nextRemainder_eq, Nat.sub_add_cancel hk.pos]
    have hstep : (Worker.carrying k (repunit (k - 1) % d.toNat)).step d bound t =
        (ofStage (.carrying · (repunit k % d.toNat))
          (Stage.resume d bound k (.ok (residue d k))), t) := by
      simp only [step, probeRemainder, hprev, afterProbe, residue]
    rw [hstep]
    rcases ofStage_resume hk (.carrying · (repunit k % d.toNat)) with ⟨r, hr, hr', -⟩ | ⟨hr, hk'⟩
    · rw [hr]
      exact ⟨.finished hr', .refl _ _⟩
    · rw [hr]
      exact ⟨.carrying rfl hk', .refl _ _⟩
  | @visiting k call hs hk hask hcall =>
    subst hs
    have hlength : call.length = k := congrArg Ask.length hask
    rcases Call.step_waiting ht hcall with ⟨hstep, -⟩ | ⟨hserved, hask', htable⟩
    · -- The look-up misses: the worker stays at its length.
      have hmissed : (Worker.visiting k call).step d bound t =
          (.visiting k { call with stage := .missed }, t) := by
        simp only [step, hstep, afterCall, Call.answer?]
      rw [hmissed]
      exact ⟨.visiting rfl hk hask ⟨Or.inr rfl, hcall.handed⟩, .refl _ _⟩
    · -- The call tells the residue, so the search resumes.
      have hanswer : (call.step t).1.answer? = some (.ok (.ok (residue d k))) := by
        rw [Call.answer?_of_served hserved, hask', hask, Ask.answer,
          if_neg (Nat.pos_iff_ne_zero.mp hk.pos)]
        show some (Except.ok ((ones k).rem d)) = _
        rw [rem_ones (ne_zero_of_coprime hk.coprime)]
      have hstep : (Worker.visiting k call).step d bound t =
          (ofStage (visit d) (Stage.resume d bound k (.ok (residue d k))), t.extendTo k) := by
        simp only [step, afterCall, hanswer, htable, hlength]
        rfl
      rw [hstep]
      rcases ofStage_resume hk (visit d) with ⟨r, hr, hr', htested⟩ | ⟨hr, hk'⟩
      · rw [hr]
        refine ⟨.finished hr', k, rfl, ?_⟩
        show r.tested = max (k - 1) k
        omega
      · rw [hr]
        refine ⟨onTrack_visit hk', k, rfl, ?_⟩
        show k + 1 - 1 = max (k - 1) k
        omega

/-- A step uses up work, where there is any. -/
theorem work_step_le (d : UInt64) (bound : Nat) (t : Table) (w : Worker) :
    (w.step d bound t).1.work bound ≤ w.work bound - 1 := by
  cases w with
  | finished r => exact Nat.zero_le _
  | carrying k r => exact Nat.le_sub_one_of_lt (work_step_carrying_lt d bound t k r)
  | visiting k call => exact Nat.le_sub_one_of_lt (work_step_visiting_lt d bound t k call)

/-- A worker that begins has three steps for each length, and one length beyond, at most. -/
theorem work_start_le (strategy : Strategy) (d : UInt64) (bound : Nat) :
    (start strategy d bound).work bound ≤ 3 * (bound + 1) := by
  have hstage : (Stage.ofProgress d bound .start).work bound ≤ bound + 1 := by
    rcases Nat.eq_zero_or_pos bound with rfl | hpos
    · exact Nat.zero_le _
    · have hone : Stage.ofProgress d bound .start = .probing 1 := ofProgress_of_le d hpos
      rw [hone]
      show bound - 1 + 1 ≤ bound + 1
      omega
  unfold start
  cases checkDivisor d with
  | error e => exact Nat.zero_le _
  | ok _ =>
    cases strategy with
    | table =>
      have h := work_ofStage_le bound (visit d) (work_visit_le d bound)
        (Stage.ofProgress d bound .start)
      show (ofStage (visit d) _).work bound ≤ _
      omega
    | remainder =>
      have h := work_ofStage_le bound (.carrying · 0) (work_carrying_le bound · 0)
        (Stage.ofProgress d bound .start)
      show (ofStage (.carrying · 0) _).work bound ≤ _
      omega

/-- A worker without work is finished. -/
theorem eq_finished_of_work {w : Worker} (h : w.work bound = 0) : ∃ r, w = .finished r := by
  cases w with
  | finished r => exact ⟨r, rfl⟩
  | carrying k r => exact absurd h (Nat.succ_ne_zero _)
  | visiting k call =>
    have hpos : 3 * (bound - k) + 1 + call.work = 0 := h
    omega

/-! ## §2. Workers that run one after the other. -/

/-- A worker left alone comes to the report that answers, and extends the table as far as that. -/
theorem finish_onTrack {t : Table} (ht : t.Exact) {w : Worker}
    (hw : OnTrack strategy d bound w) :
    (finish d bound w t).1.Answers d bound ∧
      t.Grows (w.extent strategy) (finish d bound w t).2
        ((finish d bound w t).1.extent strategy) := by
  -- The induction is on the worker's work, which every step uses up.
  induction hn : w.work bound using Nat.strong_induction_on generalizing t w with
  | _ n ih =>
    by_cases hzero : w.work bound = 0
    · obtain ⟨r, rfl⟩ := eq_finished_of_work hzero
      cases hw with
      | finished h =>
        rw [finish_finished]
        exact ⟨h, .refl _ _⟩
    · have hless : (w.step d bound t).1.work bound < n := by
        have hle := work_step_le d bound t w
        omega
      obtain ⟨hstep, hgrows⟩ := step_onTrack ht hw
      obtain ⟨hanswers, hgrows'⟩ := ih _ hless (hgrows.exact ht) hstep rfl
      rw [finish_step]
      exact ⟨hanswers, hgrows.trans ht hgrows'⟩

/-- **Workers that run one after the other** report what answers, in the order of their divisors,
and extend the table as far as the furthest of them. -/
theorem runAll_eq {answer : UInt64 → Report} (hanswer : ∀ d, (answer d).Answers d bound)
    {t : Table} (ht : t.Exact) (ds : List UInt64) :
    runAll strategy bound ds t =
      (ds.map answer, t.extendTo (largest (fun d => (answer d).extent strategy) ds)) := by
  induction ds generalizing t with
  | nil =>
    rw [largest_nil, Table.extendTo_zero]
    rfl
  | cons d ds ih =>
    obtain ⟨hstart, hzero⟩ := onTrack_start strategy d bound
    obtain ⟨hd, hgrows⟩ := finish_onTrack ht hstart
    have hreport : (finish d bound (start strategy d bound) t).1 = answer d :=
      hd.unique (hanswer d)
    rw [hzero, hreport] at hgrows
    simp only [runAll, hreport, hgrows.eq_extendTo, ih (ht.extendTo _), List.map_cons, largest_cons,
      Table.extendTo_extendTo ht]

end Worker

/-! ## §3. Workers under any schedule. -/

namespace Pool

variable {strategy : Strategy} {bound : Nat} {ds : List UInt64} {t : Table}

/-- How far the workers have extended the table. -/
def extent (strategy : Strategy) (p : Pool) : Nat := largest (·.2.extent strategy) p.workers

/-- Each worker has kept its divisor and is on track, and the table is the one it was at first,
extended as far as the furthest worker has come. -/
structure Orderly (strategy : Strategy) (bound : Nat) (ds : List UInt64) (t : Table) (p : Pool) :
    Prop where
  divisors_eq : p.workers.map Prod.fst = ds
  onTrack : ∀ x ∈ p.workers, x.2.OnTrack strategy x.1 bound
  table_eq : p.table = t.extendTo (p.extent strategy)

theorem orderly_start (strategy : Strategy) (bound : Nat) (ds : List UInt64) (t : Table) :
    (start strategy bound ds t).Orderly strategy bound ds t := by
  refine ⟨?_, ?_, ?_⟩
  · show (ds.map _).map Prod.fst = ds
    rw [List.map_map]
    exact List.map_id' ds
  · intro x hx
    obtain ⟨d, -, rfl⟩ := List.mem_map.mp hx
    exact (Worker.onTrack_start strategy d bound).1
  · have hzero : (start strategy bound ds t).extent strategy = 0 := by
      show largest _ (ds.map _) = 0
      rw [largest_map]
      exact largest_eq_zero _ fun d _ => (Worker.onTrack_start strategy d bound).2
    rw [hzero, Table.extendTo_zero]
    rfl

theorem step_none {p : Pool} {i : Nat} (h : p.workers[i]? = none) : p.step bound i = p := by
  simp only [step, h]

theorem step_some {p : Pool} {i : Nat} {d : UInt64} {w : Worker}
    (h : p.workers[i]? = some (d, w)) :
    p.step bound i = ⟨p.workers.set i (d, (w.step d bound p.table).1),
      (w.step d bound p.table).2⟩ := by
  simp only [step, h]

/-- **A step keeps a pool orderly.** -/
theorem orderly_step (ht : t.Exact) {p : Pool} (hp : p.Orderly strategy bound ds t) (i : Nat) :
    (p.step bound i).Orderly strategy bound ds t := by
  cases hi : p.workers[i]? with
  | none =>
    rw [step_none hi]
    exact hp
  | some x =>
    obtain ⟨d, w⟩ := x
    have hw : w.OnTrack strategy d bound := hp.onTrack (d, w) (List.mem_of_getElem? hi)
    have hexact : p.table.Exact := by
      rw [hp.table_eq]
      exact ht.extendTo _
    obtain ⟨hw', hgrows⟩ := Worker.step_onTrack hexact hw
    rw [step_some hi]
    refine ⟨?_, forall_mem_set hp.onTrack hw' i, hgrows.set ht hp.table_eq hi⟩
    rw [← hp.divisors_eq]
    exact map_set_eq_self Prod.fst hi rfl

/-- **A run keeps a pool orderly**, whatever its schedule. -/
theorem orderly_run (ht : t.Exact) {p : Pool} (hp : p.Orderly strategy bound ds t)
    (schedule : List Nat) : (p.run bound schedule).Orderly strategy bound ds t := by
  induction schedule generalizing p with
  | nil => exact hp
  | cons i schedule ih => exact ih (orderly_step ht hp i)

/-- A run neither adds workers nor loses any. -/
theorem length_run (p : Pool) (schedule : List Nat) :
    (p.run bound schedule).workers.length = p.workers.length := by
  induction schedule generalizing p with
  | nil => rfl
  | cons i schedule ih =>
    show ((p.step bound i).run bound schedule).workers.length = _
    rw [ih]
    cases hi : p.workers[i]? with
    | none => rw [step_none hi]
    | some x => rw [step_some hi, List.length_set]

/-! ## §4. The end of a run. -/

/-- Reports that are all there are the ones that answer. -/
theorem reports_eq {answer : UInt64 → Report} (hanswer : ∀ d, (answer d).Answers d bound)
    {xs : List (UInt64 × Worker)} (hx : ∀ x ∈ xs, x.2.OnTrack strategy x.1 bound)
    {reports : List Report} (h : (xs.mapM fun (_, w) => w.report?) = some reports) :
    reports = (xs.map Prod.fst).map answer ∧
      largest (·.2.extent strategy) xs =
        largest (fun d => (answer d).extent strategy) (xs.map Prod.fst) := by
  induction xs generalizing reports with
  | nil =>
    rw [List.mapM_nil] at h
    cases h
    exact ⟨rfl, rfl⟩
  | cons x xs ih =>
    obtain ⟨d, w⟩ := x
    have hw : w.OnTrack strategy d bound := hx (d, w) List.mem_cons_self
    rw [List.mapM_cons] at h
    obtain ⟨r, hr, hrest⟩ := Option.bind_eq_some_iff.mp h
    obtain ⟨rs, hrs, hcons⟩ := Option.bind_eq_some_iff.mp hrest
    cases hcons
    obtain ⟨hreports, hlargest⟩ := ih (fun y hy => hx y (List.mem_cons_of_mem _ hy)) hrs
    -- Only a finished worker has a report.
    cases hw with
    | visiting => cases hr
    | carrying => cases hr
    | finished hd =>
      cases hr
      rw [List.map_cons, List.map_cons, largest_cons, largest_cons, hlargest, ← hreports,
        hd.unique (hanswer d)]
      exact ⟨rfl, rfl⟩

/-- **Whatever the schedule**, workers that have all come to their end have the reports, and leave
the table, that they have when they run one after the other. -/
theorem run_eq_runAll {answer : UInt64 → Report} (hanswer : ∀ d, (answer d).Answers d bound)
    (ht : t.Exact) {schedule : List Nat} {reports : List Report}
    (h : ((start strategy bound ds t).run bound schedule).reports? = some reports) :
    (reports, ((start strategy bound ds t).run bound schedule).table) =
      Worker.runAll strategy bound ds t := by
  have hp := orderly_run ht (orderly_start strategy bound ds t) schedule
  obtain ⟨hreports, hlargest⟩ := reports_eq hanswer hp.onTrack h
  rw [Worker.runAll_eq hanswer ht, hreports, hp.table_eq, extent, hlargest, hp.divisors_eq]

theorem reports?_of_finished {p : Pool} (h : ∀ x ∈ p.workers, ∃ r, x.2 = .finished r) :
    p.reports?.isSome = true := by
  obtain ⟨workers, table⟩ := p
  show (workers.mapM fun x : UInt64 × Worker => x.2.report?).isSome = true
  induction workers with
  | nil => rfl
  | cons x xs ih =>
    obtain ⟨d, w⟩ := x
    obtain ⟨r, hr⟩ := h (d, w) List.mem_cons_self
    obtain rfl : w = .finished r := hr
    obtain ⟨rs, hrs⟩ :=
      Option.isSome_iff_exists.mp (ih fun y hy => h y (List.mem_cons_of_mem _ hy))
    rw [List.mapM_cons, hrs]
    rfl

/-- **Workers that have enough turns all come to their ends**, however their turns are mixed. -/
theorem reports?_of_turns (schedule : List Nat)
    (h : ∀ i < ds.length, 3 * (bound + 1) ≤ schedule.count i) :
    ((start strategy bound ds t).run bound schedule).reports?.isSome = true := by
  apply reports?_of_finished
  intro x hx
  obtain ⟨j, hj⟩ := List.getElem?_of_mem hx
  have hlt : j < ds.length := by
    have hj' := (List.getElem?_eq_some_iff.mp hj).1
    rwa [length_run, start, List.length_map] at hj'
  have hstart : (start strategy bound ds t).workers[j]? =
      some (ds[j], Worker.start strategy ds[j] bound) := by
    show (ds.map _)[j]? = _
    rw [List.getElem?_map, List.getElem?_eq_getElem hlt]
    rfl
  obtain ⟨y, hy, hwork⟩ := work_after_turns (step bound) Pool.workers (fun y => y.2.work bound)
    (fun _ => True) (fun _ _ _ => trivial) (fun p i hi => by rw [step_none hi])
    (fun p i z _ hz => ⟨(z.1, (z.2.step z.1 bound p.table).1), by rw [step_some hz],
      Worker.work_step_le z.1 bound p.table z.2⟩)
    schedule trivial hstart
  obtain rfl : y = x := Option.some.inj (hy.symm.trans hj)
  have hcount := h j hlt
  have hle := Worker.work_start_le strategy ds[j] bound
  have hzero : y.2.work bound = 0 := by
    simp only at hwork
    omega
  exact Worker.eq_finished_of_work hzero

end Pool

end Repunits
