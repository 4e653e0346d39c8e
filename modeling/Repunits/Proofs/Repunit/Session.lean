/-
  Repunits.Proofs.Repunit.Session
  ────────────────────────────────
  **A finder used over and over.**

  A session is a list of requests to one finder, each answered by
  `Finder.serve`, or, where it asks for many divisors side by side, by
  workers under any schedule that finishes them. Whatever a session asks,
  the finder's table stays exact; so each answer depends on the request
  and on the limit alone, and neither on the strategy, nor on what the
  table held before, nor on the order in which workers stepped.

  Main results:
    * `Reachable.exact` — the table of a finder that can be come by.
    * `find_isLeastLength` — what a search without a limit finds.
    * `findEach_every_schedule` — workers report what a search alone does.
    * `answers_eq` — both strategies give the same answers.
-/
import Repunits.Proofs.Repunit.Worker
import Repunits.Repunit.Session

namespace Repunits

namespace Finder

/-! ## §1. What searches do to a finder. -/

theorem reached_zero (f : Finder) : f.reached 0 = f := by
  obtain ⟨t, strategy, limit⟩ := f
  cases strategy with
  | remainder => rfl
  | table =>
    show ({ table := t.extendTo 0, strategy := .table, limit } : Finder) = _
    rw [Table.extendTo_zero]

theorem reached_reached {f : Finder} (hf : f.table.Exact) (m n : Nat) :
    (f.reached m).reached n = f.reached (max m n) := by
  obtain ⟨t, strategy, limit⟩ := f
  cases strategy with
  | remainder => rfl
  | table =>
    show ({ table := (t.extendTo m).extendTo n, strategy := .table, limit } : Finder) = _
    rw [Table.extendTo_extendTo hf]
    rfl

theorem find_snd {f : Finder} (hf : f.table.Exact) (d : UInt64) :
    (f.find d).2 = f.reached (f.report d).1.tested :=
  report_snd hf d

/-- **One after the other**, searches extend the table and do nothing else to the finder. -/
theorem findAll_snd {f : Finder} (hf : f.table.Exact) (ds : List UInt64) :
    ∃ n, (f.findAll ds).2 = f.reached n := by
  induction ds generalizing f with
  | nil => exact ⟨0, (reached_zero f).symm⟩
  | cons d ds ih =>
    have hfind := find_snd hf d
    rcases h : f.find d with ⟨e | k, f'⟩
    · -- The first fault ends it, after the search that failed.
      rw [h] at hfind
      refine ⟨(f.report d).1.tested, ?_⟩
      simp only [findAll, h]
      exact hfind
    · rw [h] at hfind
      obtain rfl : f' = _ := hfind
      obtain ⟨n, hn⟩ := ih (exact_reached hf (f.report d).1.tested)
      refine ⟨max (f.report d).1.tested n, ?_⟩
      rw [reached_reached hf] at hn
      rw [← hn]
      simp only [findAll, h]
      rcases (f.reached (f.report d).1.tested).findAll ds with ⟨e | ks, f''⟩ <;> rfl

/-- **Side by side**, each search reports what it reports alone, and the table is extended as far
as the furthest of them. -/
theorem reportEach_eq {f : Finder} (hf : f.table.Exact) (ds : List UInt64) :
    f.reportEach ds = (ds.map fun d => (f.report d).1,
      f.reached (largest (fun d => (f.report d).1.tested) ds)) := by
  have hanswer := report_answers hf
  obtain ⟨t, strategy, limit⟩ := f
  have hrun : Worker.runAll strategy (limit.getD maxLength) ds t = _ :=
    Worker.runAll_eq hanswer hf ds
  simp only [reportEach, hrun]
  cases strategy with
  | table => rfl
  | remainder =>
    -- Workers that carry remainders leave the table alone.
    have hzero : largest
        (fun d => (Finder.report ⟨t, .remainder, limit⟩ d).1.extent .remainder) ds = 0 :=
      largest_eq_zero _ fun _ _ => rfl
    rw [hzero, Table.extendTo_zero]
    rfl

theorem findEach_eq {f : Finder} (hf : f.table.Exact) (ds : List UInt64) :
    f.findEach ds = (ds.map fun d => (f.find d).1,
      f.reached (largest (fun d => (f.report d).1.tested) ds)) := by
  unfold findEach
  rw [reportEach_eq hf]
  show (((ds.map _).map _), _) = _
  rw [List.map_map]
  rfl

/-- What workers report and leave under any schedule that finishes them is what they report and
leave when they run one after the other. -/
theorem run_pool_eq_reportEach {f : Finder} (hf : f.table.Exact) {ds : List UInt64}
    {schedule : List Nat} {reports : List Report}
    (h : ((f.pool ds).run f.bound schedule).reports? = some reports) :
    (reports, { f with table := ((f.pool ds).run f.bound schedule).table }) = f.reportEach ds := by
  have hrun := Pool.run_eq_runAll (report_answers hf) hf h
  obtain ⟨t, strategy, limit⟩ := f
  simp only [bound] at hrun
  simp only [reportEach, ← hrun]
  rfl

theorem run_pool_eq {f : Finder} (hf : f.table.Exact) {ds : List UInt64} {schedule : List Nat}
    {reports : List Report} (h : ((f.pool ds).run f.bound schedule).reports? = some reports) :
    (reports.map (·.result), { f with table := ((f.pool ds).run f.bound schedule).table }) =
      f.findEach ds := by
  unfold findEach
  rw [← run_pool_eq_reportEach hf h]

/-! ## §2. Sessions. -/

/-- One use of a finder: a request is handled, or, if it is for many divisors side by side, workers
step in the order of a schedule until they are all finished. -/
inductive Serves (f : Finder) : Request → Answer → Finder → Prop where
  | handled (q : Request) : Serves f q (f.serve q).1 (f.serve q).2
  | scheduled (ds : List UInt64) (schedule : List Nat) {reports : List Report}
      (h : ((f.pool ds).run f.bound schedule).reports? = some reports) :
      Serves f (.findEach ds) (.each (reports.map (·.result)))
        { f with table := ((f.pool ds).run f.bound schedule).table }

/-- Uses of one finder, one after the other. -/
inductive Session : Finder → List Request → List Answer → Finder → Prop where
  | nil (f : Finder) : Session f [] [] f
  | cons {f g h : Finder} {q : Request} {qs : List Request} {a : Answer} {as : List Answer} :
      Serves f q a g → Session g qs as h → Session f (q :: qs) (a :: as) h

/-- The finders that can be come by: a new one, after any session. -/
def Reachable (f : Finder) : Prop :=
  ∃ (strategy : Strategy) (qs : List Request) (as : List Answer), Session { strategy } qs as f

theorem exact_serve {f : Finder} (hf : f.table.Exact) (q : Request) :
    (f.serve q).2.table.Exact := by
  cases q with
  | find d =>
    show (f.find d).2.table.Exact
    rw [find_snd hf]
    exact exact_reached hf _
  | findAll ds =>
    obtain ⟨n, hn⟩ := findAll_snd hf ds
    show (f.findAll ds).2.table.Exact
    rw [hn]
    exact exact_reached hf n
  | findEach ds =>
    show (f.findEach ds).2.table.Exact
    rw [findEach_eq hf]
    exact exact_reached hf _
  | repunit k => exact hf.repunit k
  | setLimit n => exact hf

/-- Whatever the schedule, a request is served as if it were handled at once. -/
theorem Serves.eq_serve {f g : Finder} (hf : f.table.Exact) {q : Request} {a : Answer}
    (h : Serves f q a g) : (a, g) = f.serve q := by
  cases h with
  | handled => rfl
  | scheduled ds schedule h =>
    show _ = (Answer.each (f.findEach ds).1, (f.findEach ds).2)
    rw [← run_pool_eq hf h]

/-- **A session** is what handling its requests in order makes of the finder, and keeps the table
exact. -/
theorem Session.eq_serveAll {f g : Finder} (hf : f.table.Exact) {qs : List Request}
    {as : List Answer} (h : Session f qs as g) : (as, g) = f.serveAll qs ∧ g.table.Exact := by
  induction h with
  | nil f => exact ⟨rfl, hf⟩
  | @cons f g h q qs a as hserves _ ih =>
    have heq := hserves.eq_serve hf
    have hg : g.table.Exact := by
      have hexact := exact_serve hf q
      rwa [← heq] at hexact
    obtain ⟨hrest, hh⟩ := ih hg
    refine ⟨?_, hh⟩
    simp only [serveAll, ← heq, ← hrest]

/-- Handling requests in order is a session. -/
theorem session_serveAll (f : Finder) (qs : List Request) :
    Session f qs (f.serveAll qs).1 (f.serveAll qs).2 := by
  induction qs generalizing f with
  | nil => exact .nil f
  | cons q qs ih => exact .cons (.handled q) (ih (f.serve q).2)

theorem Reachable.exact {f : Finder} (h : f.Reachable) : f.table.Exact := by
  obtain ⟨strategy, qs, as, hsession⟩ := h
  exact (hsession.eq_serveAll Table.exact_new).2

/-! ## §3. Searches without a limit. -/

/-- **A search without a limit finds the least length**, whatever the finder was used for before.
The divisor divides the repunit of that length and none of the shorter ones, the length is at most
the divisor, and no length beyond it is tested. -/
theorem find_isLeastLength {d : UInt64} (hd : Nat.Coprime d.toNat 10) :
    ∃ k, 1 ≤ k ∧ k ≤ d.toNat ∧ d.toNat ∣ (10 ^ k - 1) / 9 ∧
      (∀ j, 1 ≤ j → j < k → ¬ d.toNat ∣ (10 ^ j - 1) / 9) ∧
      ∀ f : Finder, f.Reachable → f.limit = none →
        (f.report d).1.tested = k ∧ (f.find d).1 = .ok k := by
  obtain ⟨k, hle, hk⟩ := exists_isLeastLength hd
  refine ⟨k, hk.pos, hle, ?_, ?_, ?_⟩
  · rw [← repunit_eq_pow_div]
    exact hk.dvd
  · intro j hj hlt
    rw [← repunit_eq_pow_div]
    exact hk.least j hj hlt
  · intro f hf hlimit
    -- The length fits into a word, because the divisor does.
    have hbound : k ≤ f.bound := by
      have hlt : d.toNat < UInt64.size := d.toNat_lt
      rw [bound, hlimit]
      show k ≤ UInt64.size - 1
      omega
    have hreport : (f.report d).1 = ⟨k, .ok k⟩ :=
      (report_answers hf.exact d).unique (.found hd hbound hk)
    refine ⟨congrArg Report.tested hreport, ?_⟩
    show (f.report d).1.result = .ok k
    rw [hreport]

/-- Seven, on a table that holds four repunits already. -/
theorem find_seven :
    let f := (({ strategy := .table } : Finder).serveAll [.repunit 4]).2
    Nat.Coprime (7 : UInt64).toNat 10 ∧ f.Reachable ∧ f.limit = none ∧ (f.find 7).1 = .ok 6 := by
  intro f
  have hd : Nat.Coprime (7 : UInt64).toNat 10 := by decide
  have hf : f.Reachable := ⟨.table, [.repunit 4], _, session_serveAll _ _⟩
  obtain ⟨k, hpos, hle, hdvd, hleast, hfind⟩ := find_isLeastLength hd
  obtain rfl : k = 6 := by
    have hsix : IsLeastLength 7 6 := ⟨by decide, by decide, by decide⟩
    have hk : IsLeastLength 7 k := ⟨hpos, by rwa [repunit_eq_pow_div], fun j h1 h2 => by
      rw [repunit_eq_pow_div]
      exact hleast j h1 h2⟩
    exact hk.unique hsix
  exact ⟨hd, hf, rfl, (hfind f hf rfl).2⟩

/-! ## §4. Many divisors, side by side. -/

/-- **Workers report what a search alone does, whatever the schedule.** Enough turns finish all
workers, however they are mixed. When all are finished there is one result for each divisor, in
their order, and it is what any finder with the same strategy and limit finds for that divisor
alone; results and table are those of workers that run one after the other, and so are the same
for every schedule. -/
theorem findEach_every_schedule {f : Finder} (hf : f.Reachable) (ds : List UInt64) :
    (∀ schedule : List Nat, (∀ i < ds.length, 3 * (f.bound + 1) ≤ schedule.count i) →
      ((f.pool ds).run f.bound schedule).reports?.isSome = true) ∧
    ∀ (schedule : List Nat) (reports : List Report),
      ((f.pool ds).run f.bound schedule).reports? = some reports →
      (∀ g : Finder, g.Reachable → g.strategy = f.strategy → g.limit = f.limit →
        reports.map (·.result) = ds.map fun d => (g.find d).1) ∧
      (reports.map (·.result),
        { f with table := ((f.pool ds).run f.bound schedule).table }) = f.findEach ds := by
  refine ⟨fun schedule => Pool.reports?_of_turns schedule, ?_⟩
  intro schedule reports h
  have hrun := run_pool_eq hf.exact h
  refine ⟨?_, hrun⟩
  intro g hg _ hlimit
  have hreports : reports.map (·.result) = (f.findEach ds).1 := congrArg Prod.fst hrun
  rw [hreports, findEach_eq hf.exact]
  apply List.map_congr_left
  intro d _
  show (f.report d).1.result = (g.report d).1.result
  rw [report_fst_eq hf.exact hg.exact hlimit.symm]

/-- Four workers by turns, twelve turns each. -/
def mixedTurns : List Nat := (List.replicate 12 [3, 1, 0, 2]).flatten

/-- A divisor that comes twice, a zero, and a divisor whose length is past the limit. -/
theorem findEach_mixedTurns :
    let f := (({ strategy := .table } : Finder).serveAll [.repunit 2, .setLimit 3]).2
    f.Reachable ∧ ∃ reports,
      ((f.pool [3, 0, 7, 3]).run f.bound mixedTurns).reports? = some reports ∧
      reports.map (·.result) =
        [.ok 3, .error (.invalidInput .zeroDivisor), .error (.limitExceeded 7 3), .ok 3] := by
  intro f
  have hf : f.Reachable := ⟨.table, [.repunit 2, .setLimit 3], _, session_serveAll _ _⟩
  obtain ⟨hturns, hsame⟩ := findEach_every_schedule hf [3, 0, 7, 3]
  obtain ⟨reports, h⟩ := Option.isSome_iff_exists.mp (hturns mixedTurns (by decide +kernel))
  obtain ⟨halone, -⟩ := hsame mixedTurns reports h
  refine ⟨hf, reports, h, ?_⟩
  rw [halone f hf rfl rfl]
  decide +kernel

/-! ## §5. The two strategies. -/

/-- Finders that differ in strategy and in what their tables hold, if at all. -/
structure Alike (f g : Finder) : Prop where
  left : f.table.Exact
  right : g.table.Exact
  limit_eq : f.limit = g.limit

theorem Alike.reached {f g : Finder} (h : Alike f g) (m n : Nat) :
    Alike (f.reached m) (g.reached n) := by
  refine ⟨exact_reached h.left m, exact_reached h.right n, ?_⟩
  rw [reached_limit, reached_limit, h.limit_eq]

theorem Alike.find {f g : Finder} (h : Alike f g) (d : UInt64) :
    (f.find d).1 = (g.find d).1 ∧ Alike (f.find d).2 (g.find d).2 := by
  refine ⟨congrArg Report.result (report_fst_eq h.left h.right h.limit_eq d), ?_⟩
  rw [find_snd h.left, find_snd h.right]
  exact h.reached _ _

theorem Alike.findAll {f g : Finder} (h : Alike f g) (ds : List UInt64) :
    (f.findAll ds).1 = (g.findAll ds).1 := by
  induction ds generalizing f g with
  | nil => rfl
  | cons d ds ih =>
    obtain ⟨hfst, hsnd⟩ := h.find d
    -- Both searches fail with one fault, or both find one length and the rest follows.
    rcases hf : f.find d with ⟨e | k, f'⟩ <;> rcases hg : g.find d with ⟨e' | k', g'⟩ <;>
      rw [hf, hg] at hfst hsnd <;> cases hfst <;> simp only [Finder.findAll, hf, hg]
    have hrest := ih hsnd
    rcases hf' : f'.findAll ds with ⟨e | ks, f''⟩ <;>
      rcases hg' : g'.findAll ds with ⟨e' | ks', g''⟩ <;>
      rw [hf', hg'] at hrest <;> cases hrest <;> rfl

/-- **One request**: finders that are alike answer alike, and are alike after it. -/
theorem Alike.serve {f g : Finder} (h : Alike f g) (q : Request) :
    (f.serve q).1 = (g.serve q).1 ∧ Alike (f.serve q).2 (g.serve q).2 := by
  cases q with
  | find d => exact ⟨congrArg Answer.length (h.find d).1, (h.find d).2⟩
  | findAll ds =>
    obtain ⟨m, hm⟩ := findAll_snd h.left ds
    obtain ⟨n, hn⟩ := findAll_snd h.right ds
    refine ⟨congrArg Answer.lengths (h.findAll ds), ?_⟩
    show Alike (f.findAll ds).2 (g.findAll ds).2
    rw [hm, hn]
    exact h.reached m n
  | findEach ds =>
    show Answer.each (f.findEach ds).1 = .each (g.findEach ds).1 ∧
      Alike (f.findEach ds).2 (g.findEach ds).2
    rw [findEach_eq h.left, findEach_eq h.right]
    refine ⟨congrArg Answer.each (List.map_congr_left fun d _ => (h.find d).1), h.reached _ _⟩
  | repunit k =>
    -- The tables may differ in size, but not in what they answer.
    have hnumeral : (f.table.repunit k).1 = (g.table.repunit k).1 := by
      rcases Nat.eq_zero_or_pos k with rfl | hk
      · rfl
      · rw [Table.repunit_of_exact h.left hk, Table.repunit_of_exact h.right hk]
    exact ⟨congrArg Answer.numeral hnumeral, h.left.repunit k, h.right.repunit k, h.limit_eq⟩
  | setLimit n => exact ⟨rfl, h.left, h.right, rfl⟩

/-- **Whole runs**: finders that are alike give the same answers. -/
theorem Alike.serveAll {f g : Finder} (h : Alike f g) (qs : List Request) :
    (f.serveAll qs).1 = (g.serveAll qs).1 := by
  induction qs generalizing f g with
  | nil => rfl
  | cons q qs ih =>
    obtain ⟨hanswer, hnext⟩ := h.serve q
    show (f.serve q).1 :: ((f.serve q).2.serveAll qs).1 =
      (g.serve q).1 :: ((g.serve q).2.serveAll qs).1
    rw [hanswer, ih hnext]

/-- **The two strategies are not to be told apart.** For every list of requests there is one list of
answers: handling the requests in order gives it under both strategies, and so does every session,
whatever the order in which its workers step. -/
theorem answers_eq (qs : List Request) :
    (({ strategy := .table } : Finder).serveAll qs).1 =
      (({ strategy := .remainder } : Finder).serveAll qs).1 ∧
    ∀ (strategy : Strategy) (as : List Answer) (f : Finder), Session { strategy } qs as f →
      as = (({ strategy := .table } : Finder).serveAll qs).1 := by
  have halike : ∀ s s' : Strategy, Alike { strategy := s } { strategy := s' } :=
    fun s s' => ⟨Table.exact_new, Table.exact_new, rfl⟩
  refine ⟨(halike .table .remainder).serveAll qs, ?_⟩
  intro strategy as f h
  have hrun := (h.eq_serveAll Table.exact_new).1
  rw [← (halike strategy .table).serveAll qs, ← hrun]

/-- Workers by turns on a table, and remainders carried by one worker after the other. -/
theorem answers_mixedTurns :
    let f : Finder := { strategy := .table, limit := some 3 }
    ∃ reports, ((f.pool [3, 0, 7, 3]).run f.bound mixedTurns).reports? = some reports ∧
      [.done, .each (reports.map (·.result))] =
        (Finder.serveAll { strategy := .remainder } [.setLimit 3, .findEach [3, 0, 7, 3]]).1 := by
  intro f
  have hdone : ((f.pool [3, 0, 7, 3]).run f.bound mixedTurns).reports?.isSome = true :=
    Pool.reports?_of_turns mixedTurns (by decide +kernel)
  obtain ⟨reports, h⟩ := Option.isSome_iff_exists.mp hdone
  obtain ⟨hboth, hall⟩ := answers_eq [.setLimit 3, .findEach [3, 0, 7, 3]]
  refine ⟨reports, h, ?_⟩
  rw [← hboth]
  apply hall .table
  exact .cons (.handled (.setLimit 3)) (.cons (.scheduled _ mixedTurns h) (.nil _))

end Finder

end Repunits
