/-
  Repunits.Proofs.Exercise.LeastLengths
  ────────────────────────────────
  **The repunit exercise answers alike under all options.**

  The two ways to run it are different programs: one searches a divisor
  when its line is due and stops at the first failure, the other searches
  all divisors first, by workers under any schedule, and then writes the
  lines. But the line of a divisor is known from the divisor, its
  position and the limit (`lineDue`), since a finder whose table is exact
  reports the same whatever its strategy. So both settle the same lines.

  Main results:
    * `runInTurn_eq_settle`, `runSideBySide_eq_settle` — both ways settle
      the lines that are due.
    * `Runs.eq_due` — every run over a text.
    * `outputs_agree` — no option but the limit has a trace in the output.
-/
import Mathlib.Data.List.Zip
import Repunits.Exercise.LeastLengths
import Repunits.Proofs.Exercise.Delivery
import Repunits.Proofs.Log.Search
import Repunits.Proofs.Repunit.Session

namespace Repunits.Exercise.LeastLengths

/-! ## §1. The lines that are due. -/

/-- The line that is due to a divisor at a position, under a limit. -/
def lineDue (limit : Option Nat) (item : UInt64 × Nat) : Except Failure String :=
  line item.2 item.1 (Finder.report { limit } item.1).1

/-- The lines that are due to divisors, whose positions count from one. -/
def linesDue (limit : Option Nat) (ds : List UInt64) : List (Except Failure String) :=
  (ds.zipIdx 1).map (lineDue limit)

/-- What is due to a text: nothing is written where it cannot be read. -/
def due (limit : Option Nat) (text : String) (sink : Sink) : Sink × Except Failure Unit :=
  match readDivisors text with
  | .error e => (sink, .error { cause := .fault e })
  | .ok ds => settle (linesDue limit ds) sink

/-- A finder with an exact table reports what one reports that has done nothing yet. -/
theorem line_report_eq {f : Finder} (hf : f.table.Exact) (item : UInt64 × Nat) :
    line item.2 item.1 (f.report item.1).1 = lineDue f.limit item := by
  unfold lineDue
  rw [Finder.report_fst_eq hf (g := { limit := f.limit }) Table.exact_new rfl]

/-! ## §2. One divisor after the other. -/

/-- A search leaves the finder's table exact and its limit as it was. -/
theorem knownByItem_searchPortion (limit : Option Nat) :
    KnownByItem searchPortion (lineDue limit) fun f => f.table.Exact ∧ f.limit = limit := by
  constructor
  · rintro item f ⟨hf, rfl⟩
    show line item.2 item.1 (f.reportLogged item.1).1 = _
    rw [Finder.reportLogged_fst]
    exact line_report_eq hf item
  · rintro item f ⟨hf, rfl⟩
    show (f.reportLogged item.1).2.1.table.Exact ∧ (f.reportLogged item.1).2.1.limit = f.limit
    rw [Finder.reportLogged_finder, Finder.report_snd hf]
    exact ⟨Finder.exact_reached hf _, Finder.reached_limit f _⟩

/-- **Searching each divisor when its line is due** settles the lines. -/
theorem runInTurn_eq_settle {f : Finder} (hf : f.table.Exact) (ds : List UInt64) (sink : Sink) :
    ((runInTurn f ds sink).sink, (runInTurn f ds sink).result) =
      settle (linesDue f.limit ds) sink :=
  deliver_eq_settle (knownByItem_searchPortion f.limit) (ds.zipIdx 1) ⟨hf, rfl⟩ sink

/-! ## §3. All divisors first. -/

/-- Writes the lines of divisors that workers have searched, `f` being the finder after them. -/
def deliverReports (ds : List UInt64) (reports : List Report) (f : Finder) (sink : Sink) :
    Delivery Finder :=
  deliver reportPortion ((ds.zip reports).zipIdx 1) f sink

theorem knownByItem_reportPortion :
    KnownByItem reportPortion (fun item => line item.2 item.1.1 item.1.2) fun _ => True := by
  constructor
  · intro item f _
    rfl
  · intro item f _
    trivial

/-- **Searching all divisors first** settles the same lines. -/
theorem deliverReports_eq_settle {f : Finder} (hf : f.table.Exact) (ds : List UInt64) (g : Finder)
    (sink : Sink) :
    ((deliverReports ds (f.reportEach ds).1 g sink).sink,
      (deliverReports ds (f.reportEach ds).1 g sink).result) =
      settle (linesDue f.limit ds) sink := by
  -- Each divisor stands beside its report, so that the lines are told from the divisors.
  have hlines : ((ds.zip (f.reportEach ds).1).zipIdx 1).map
      (fun item => line item.2 item.1.1 item.1.2) = linesDue f.limit ds := by
    rw [Finder.reportEach_eq hf, ← List.map_prod_left_eq_zip, List.zipIdx_map, List.map_map]
    unfold linesDue
    apply List.map_congr_left
    intro item _
    exact line_report_eq hf item
  unfold deliverReports
  rw [deliver_eq_settle knownByItem_reportPortion _ trivial, hlines]

theorem runSideBySide_eq_settle {f : Finder} (hf : f.table.Exact) (ds : List UInt64) (sink : Sink) :
    ((runSideBySide f ds sink).sink, (runSideBySide f ds sink).result) =
      settle (linesDue f.limit ds) sink := by
  have hsettle := deliverReports_eq_settle hf ds (f.reportEachLogged ds).2.1 sink
  rw [← (Finder.reportEachLogged_erase f ds).1] at hsettle
  exact hsettle

/-! ## §4. Runs over a text. -/

theorem exact_finder (o : Options) : o.finder.table.Exact := Table.exact_new

/-- **A run over a text** leaves what is due. -/
theorem run_eq_due (o : Options) (text : String) (sink : Sink) :
    ((run o text sink).sink, (run o text sink).result) = due o.limit text sink := by
  unfold run due
  cases readDivisors text with
  | error e => rfl
  | ok ds =>
    obtain ⟨strategy, limit, parallel⟩ := o
    cases parallel with
    | false => exact runInTurn_eq_settle (exact_finder ⟨strategy, limit, false⟩) ds sink
    | true => exact runSideBySide_eq_settle (exact_finder ⟨strategy, limit, true⟩) ds sink

/-- Writes the lines of divisors that workers have searched in the order of a schedule, and have
come to these reports. -/
def deliverScheduled (f : Finder) (ds : List UInt64) (schedule : List Nat) (reports : List Report)
    (sink : Sink) : Delivery Finder :=
  deliverReports ds reports { f with table := ((f.pool ds).run f.bound schedule).table } sink

/-- What runs over a text can leave in the sink and come to: searches side by side are made by
workers that step in the order of any schedule that finishes them. -/
inductive Runs (o : Options) (text : String) (sink : Sink) : Sink → Except Failure Unit → Prop where
  | handled : Runs o text sink (run o text sink).sink (run o text sink).result
  | scheduled {ds : List UInt64} (hread : readDivisors text = .ok ds) (hparallel : o.parallel = true)
      (schedule : List Nat) {reports : List Report}
      (h : ((o.finder.pool ds).run o.finder.bound schedule).reports? = some reports) :
      Runs o text sink (deliverScheduled o.finder ds schedule reports sink).sink
        (deliverScheduled o.finder ds schedule reports sink).result

/-- **Every run over a text** leaves what is due, whatever its schedule. -/
theorem Runs.eq_due {o : Options} {text : String} {sink written : Sink}
    {result : Except Failure Unit} (h : Runs o text sink written result) :
    (written, result) = due o.limit text sink := by
  cases h with
  | handled => exact run_eq_due o text sink
  | scheduled hread _ schedule h =>
    obtain rfl : _ = (o.finder.reportEach _).1 :=
      congrArg Prod.fst (Finder.run_pool_eq_reportEach (exact_finder o) h)
    unfold deliverScheduled due
    rw [deliverReports_eq_settle (exact_finder o), hread]
    rfl

/-- **The exercise answers alike under all options but the limit.** For every text, every limit and
every sink, also one that takes only so many bytes, both strategies, in turn or side by side, leave
the same in the sink and come to the same result: success, or a failure with one cause and one
context. So does every run side by side, in whatever order its workers step. -/
theorem outputs_agree (limit : Option Nat) (text : String) (sink : Sink)
    (strategy strategy' : Strategy) (parallel parallel' : Bool) :
    let o : Options := { strategy, limit, parallel }
    let o' : Options := { strategy := strategy', limit, parallel := parallel' }
    (run o text sink).sink = (run o' text sink).sink ∧
    (run o text sink).result = (run o' text sink).result ∧
    ∀ written result, Runs o text sink written result →
      written = (run o' text sink).sink ∧ result = (run o' text sink).result := by
  intro o o'
  have hall : ∀ written result, Runs o text sink written result →
      written = (run o' text sink).sink ∧ result = (run o' text sink).result := by
    intro written result h
    have heq : (written, result) = ((run o' text sink).sink, (run o' text sink).result) :=
      h.eq_due.trans (run_eq_due o' text sink).symm
    exact ⟨congrArg Prod.fst heq, congrArg Prod.snd heq⟩
  obtain ⟨hsink, hresult⟩ := hall _ _ .handled
  exact ⟨hsink, hresult, hall⟩

/-- Three workers by turns, of which the second exceeds the limit. -/
theorem outputs_agree_limitFive :
    ∃ written result, Runs { strategy := .table, limit := some 5, parallel := true } "3\n3 7 9"
        .unbounded written result ∧ written.written = "3\n" ∧
      result = .error { context := some (.divisor 2 7), cause := .fault (.limitExceeded 7 5) } := by
  have hread : readDivisors "3\n3 7 9" = .ok [3, 7, 9] := by decide +kernel
  have hdone : ((Finder.pool { strategy := .table, limit := some 5 } [3, 7, 9]).run 5
      (List.replicate 18 [2, 0, 1]).flatten).reports?.isSome = true :=
    Pool.reports?_of_turns _ (by decide +kernel)
  obtain ⟨reports, h⟩ := Option.isSome_iff_exists.mp hdone
  have hruns : Runs { strategy := .table, limit := some 5, parallel := true } "3\n3 7 9"
      .unbounded _ _ := .scheduled hread rfl _ h
  obtain ⟨-, -, hall⟩ :=
    outputs_agree (some 5) "3\n3 7 9" .unbounded .table .remainder true false
  obtain ⟨hsink, hresult⟩ := hall _ _ hruns
  refine ⟨_, _, hruns, ?_, ?_⟩
  · rw [hsink]
    decide +kernel
  · rw [hresult]
    decide +kernel

end Repunits.Exercise.LeastLengths
