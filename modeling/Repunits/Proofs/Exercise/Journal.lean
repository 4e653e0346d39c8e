/-
  Repunits.Proofs.Exercise.Journal
  ────────────────────────────────
  **What a run leaves to be logged.**

  An exercise in turn leaves the events of each item that it works out, in
  their order, up to and including the first item that fails. What they
  are is known from the item: a search tests one length after the other
  up to the least one or the limit, and says so when it has found it; a
  pair that is worked out is about to be written. Around the searches the
  number of divisors is logged, and, if none of them fails, the size of
  the table after them. Searches side by side leave the events of them
  all, also behind one that fails.

  Main results:
    * `deliver_leaves` — the events and the state of a delivery, known
      from its items.
    * `events_search` — what one search logs.
    * `runInTurn_leaves`, `runSideBySide_leaves` — searches in turn and
      side by side.
    * `events_run` — the events of a run over a text.
-/
import Repunits.Proofs.Exercise.PairLines
import Repunits.Proofs.Repunit.Footprint
import Repunits.Proofs.Repunit.InTurn

namespace Repunits.Exercise

open Log (Event Journal)

/-! ## §1. Deliveries. -/

/-- The items that are worked out where no write fails: those up to and including the first whose
answer is a failure. -/
def tried {α : Type} (answer : α → Except Failure String) : List α → List α
  | [] => []
  | a :: rest =>
    match answer a with
    | .error _ => [a]
    | .ok _ => a :: tried answer rest

section

variable {α σ : Type} {portion : α → σ → Portion σ} {answer : α → Except Failure String}
variable {Inv : σ → Prop} {logged : α → List Event}

/-- **What a delivery leaves**, in a sink without bound: the events of the items that were tried, and
the state after them. -/
theorem deliver_leaves (h : KnownByItem portion answer Inv)
    (hlogged : ∀ a s, Inv s → (portion a s).journal.events = logged a) (items : List α) {s : σ}
    (hs : Inv s) (written : String) :
    (deliver portion items s { written }).journal.events = (tried answer items).flatMap logged ∧
      (deliver portion items s { written }).state =
        (tried answer items).foldl (fun s a => (portion a s).state) s := by
  induction items generalizing s written with
  | nil => exact ⟨rfl, rfl⟩
  | cons a rest ih =>
    have hanswer := h.answer_eq a s hs
    have hkeeps := h.keeps a s hs
    have hevents := hlogged a s hs
    unfold deliver tried
    rw [← hanswer]
    rcases hp : portion a s with ⟨e | text, journal, state⟩ <;> rw [hp] at hkeeps hevents <;>
      dsimp only at hkeeps hevents ⊢
    · -- The item fails: no other is tried.
      rw [List.flatMap_singleton, List.foldl_cons, hp]
      exact ⟨hevents, rfl⟩
    · obtain ⟨hrest, hstate⟩ := ih hkeeps (written ++ text)
      rw [Sink.write_of_unbounded, List.flatMap_cons, List.foldl_cons, hp]
      dsimp only
      rw [Journal.events_append, hevents, hrest, hstate]
      exact ⟨rfl, rfl⟩

end

/-- Answers end well just if each of them is a text. -/
theorem owed_snd_eq_ok_iff (answers : List (Except Failure String)) :
    (owed answers).2 = .ok () ↔ ∀ a ∈ answers, ∃ text, a = .ok text := by
  induction answers with
  | nil => exact iff_of_true rfl (List.forall_mem_nil _)
  | cons answer rest ih =>
    rw [List.forall_mem_cons]
    cases answer with
    | error e => exact iff_of_false nofun fun h => nomatch h.1
    | ok text =>
      show (owed rest).2 = .ok () ↔ _
      rw [ih]
      exact (and_iff_right ⟨text, rfl⟩).symm

/-! ## §2. Searches. -/

namespace LeastLengths

/-- The events of the search for `d`: it tests each length up to the least one, or to the limit if
that comes first, and finds the least one if the limit allows. A divisor that shares a factor with ten
is not searched. -/
def searchLog (limit : Option Nat) (d : UInt64) : List Event :=
  let k := leastLength d.toNat
  if Nat.Coprime d.toNat 10 then
    (List.range' 1 (capped limit k)).map (Event.tested d) ++
      if ∀ L ∈ limit, k ≤ L then [.found d k] else []
  else []

/-- A search says that it has found the least length where the limit allows. -/
theorem foundEvents_report {f : Finder} (hf : f.table.Exact) (d : UInt64) :
    foundEvents d (f.report d).1 =
      if Fits f.limit d then [.found d (leastLength d.toNat)] else [] := by
  have hfits := Finder.fits_iff hf d
  have hresult : (f.report d).1.result = (f.find d).1 := rfl
  unfold foundEvents
  rw [hresult]
  rcases hr : (f.find d).1 with e | k <;> rw [hr] at hfits
  · rw [if_neg (by simp [hfits])]
  · have hverdict := (Finder.find_eq_iff_verdict hf d _).mp hr
    rw [if_pos (hfits.mpr ⟨k, rfl⟩)]
    cases hverdict with
    | found hk _ => rw [hk.eq_leastLength]

/-- **What one search logs.** -/
theorem events_search {f : Finder} (hf : f.table.Exact) (d : UInt64) :
    (f.reportLogged d).2.2.events = searchLog f.limit d := by
  unfold searchLog
  rw [Finder.events_reportLogged, Finder.report_tested hf, foundEvents_report hf]
  by_cases hd : Nat.Coprime d.toNat 10
  · have hfits : Fits f.limit d ↔ ∀ L ∈ f.limit, leastLength d.toNat ≤ L := and_iff_right hd
    rw [if_pos hd, if_congr hfits rfl rfl]
    rfl
  · have hfits : ¬ Fits f.limit d := fun h => hd h.1
    rw [if_neg hd, if_neg hfits, searchDepth_of_not_coprime hd]
    rfl

/-- **What searches side by side log**, each run to its end before the next one starts: no divisor is
left out, also not behind one whose search fails. -/
theorem events_searchEach {f : Finder} (hf : f.table.Exact) (ds : List UInt64) :
    (f.reportEachLogged ds).2.2.events = ds.flatMap (searchLog f.limit) := by
  show (Worker.runAllLogged f.strategy f.bound ds f.table).2.2.events = _
  induction ds generalizing f with
  | nil => rfl
  | cons d ds ih =>
    have hended := Worker.finishLogged_start f d
    have hevents := events_search hf d
    -- The worker leaves the table as the search of the finder does.
    obtain ⟨hreport, hrest⟩ := Prod.mk.inj hended
    obtain ⟨htable, hjournal⟩ := Prod.mk.inj hrest
    rw [Finder.reportLogged_finder, Finder.report_snd hf] at htable
    have hlater := ih (Finder.exact_reached hf (f.report d).1.tested)
    rw [Finder.reached_strategy, Finder.bound, Finder.reached_limit] at hlater
    unfold Worker.runAllLogged
    dsimp only
    rw [htable, hjournal, Journal.events_append, hevents, List.flatMap_cons, ← hlater]
    rfl

/-! ## §3. Divisors in turn. -/

/-- Each search succeeds. -/
def AllFit (limit : Option Nat) (ds : List UInt64) : Prop := ∀ d ∈ ds, Fits limit d

instance (limit : Option Nat) (ds : List UInt64) : Decidable (AllFit limit ds) :=
  List.decidableBAll _ ds

/-- The line of a divisor is due just if its search succeeds. -/
theorem lineDue_eq_ok_iff (limit : Option Nat) (item : UInt64 × Nat) :
    (∃ text, lineDue limit item = .ok text) ↔ Fits limit item.1 := by
  rw [Finder.fits_iff (f := { limit }) Table.exact_new]
  unfold lineDue line
  show _ ↔ ∃ k, (Finder.report { limit } item.1).1.result = .ok k
  rcases (Finder.report { limit } item.1).1.result with e | k
  · exact iff_of_false nofun nofun
  · exact iff_of_true ⟨_, rfl⟩ ⟨k, rfl⟩

/-- The divisors that are tried are those up to the first whose search fails. -/
theorem map_fst_tried (limit : Option Nat) (ds : List UInt64) (position : Nat) :
    (tried (lineDue limit) (ds.zipIdx position)).map Prod.fst = attempted limit ds := by
  induction ds generalizing position with
  | nil => rfl
  | cons d ds ih =>
    have hfits := lineDue_eq_ok_iff limit (d, position)
    rw [List.zipIdx_cons, tried, attempted]
    rcases hline : lineDue limit (d, position) with e | text <;> rw [hline] at hfits
    · rw [if_neg (by simp [← hfits])]
      rfl
    · rw [if_pos (hfits.mp ⟨text, rfl⟩), List.map_cons, ih]

/-- The state after searches in turn is that of the finder after one search for each divisor. -/
theorem foldl_searchPortion (f : Finder) (items : List (UInt64 × Nat)) :
    items.foldl (fun f item => (searchPortion item f).state) f =
      f.afterEach (items.map Prod.fst) := by
  have hstate : (fun (f : Finder) (item : UInt64 × Nat) => (searchPortion item f).state) =
      fun f item => (f.find item.1).2 :=
    funext fun f => funext fun item => Finder.reportLogged_finder f item.1
  rw [Finder.afterEach, List.foldl_map, hstate]

/-- **Searches in turn** leave the events of those that are tried, and the finder as they do. -/
theorem runInTurn_leaves {f : Finder} (hf : f.table.Exact) (ds : List UInt64) (written : String) :
    (runInTurn f ds { written }).journal.events =
        (attempted f.limit ds).flatMap (searchLog f.limit) ∧
      (runInTurn f ds { written }).state = f.afterEach (attempted f.limit ds) := by
  have hlogged : ∀ (item : UInt64 × Nat) (g : Finder), g.table.Exact ∧ g.limit = f.limit →
      (searchPortion item g).journal.events = searchLog f.limit item.1 := by
    rintro item g ⟨hg, hlimit⟩
    show (g.reportLogged item.1).2.2.events = _
    rw [events_search hg, hlimit]
  obtain ⟨hevents, hstate⟩ :=
    deliver_leaves (knownByItem_searchPortion f.limit) hlogged (ds.zipIdx 1) ⟨hf, rfl⟩ written
  rw [← map_fst_tried f.limit ds 1, List.flatMap_map, ← foldl_searchPortion]
  exact ⟨hevents, hstate⟩

/-- **Searches side by side** leave the events of them all; the lines that are written behind them leave
none. -/
theorem runSideBySide_leaves {f : Finder} (hf : f.table.Exact) (ds : List UInt64)
    (written : String) :
    (runSideBySide f ds { written }).journal.events = ds.flatMap (searchLog f.limit) := by
  let items := (ds.zip (f.reportEachLogged ds).1).zipIdx 1
  let lines := deliver reportPortion items (f.reportEachLogged ds).2.1 { written }
  have hboth : (runSideBySide f ds { written }).journal =
      (f.reportEachLogged ds).2.2 ++ lines.journal := rfl
  have hlines : lines.journal.events = (tried _ items).flatMap fun _ => [] :=
    (deliver_leaves knownByItem_reportPortion (fun _ _ _ => rfl) items trivial written).1
  have hnone : lines.journal.events = [] := by
    rw [hlines]
    exact List.flatMap_eq_nil_iff.mpr fun _ _ => rfl
  rw [hboth, Journal.events_append, events_searchEach hf, hnone, List.append_nil]

/-- A run in turn succeeds just if each search does. -/
theorem runInTurn_result {f : Finder} (hf : f.table.Exact) (ds : List UInt64) (written : String) :
    (runInTurn f ds { written }).result = .ok () ↔ AllFit f.limit ds := by
  have hsettle := runInTurn_eq_settle hf ds { written }
  rw [settle_of_unbounded] at hsettle
  rw [(Prod.mk.inj hsettle).2, owed_snd_eq_ok_iff, linesDue, List.forall_mem_map]
  simp only [lineDue_eq_ok_iff]
  rw [← List.forall_mem_map (f := Prod.fst), List.zipIdx_map_fst]
  rfl

theorem attempted_of_allFit {limit : Option Nat} {ds : List UInt64} (h : AllFit limit ds) :
    attempted limit ds = ds := by
  induction ds with
  | nil => rfl
  | cons d ds ih =>
    obtain ⟨hd, hds⟩ := List.forall_mem_cons.mp h
    rw [attempted, if_pos hd, ih hds]

/-- How many repunits the table of a new finder holds after it has found the length of each
divisor. -/
def cachedAfter (strategy : Strategy) (ds : List UInt64) : Nat :=
  match strategy with
  | .remainder => 1
  | .table => max 1 (largest (fun d => leastLength d.toNat) ds)

theorem size_afterEach (o : Options) {ds : List UInt64} (h : AllFit o.limit ds) :
    (o.finder.afterEach ds).table.size = cachedAfter o.strategy ds := by
  obtain ⟨strategy, limit, parallel⟩ := o
  -- Where the limit allows, a search goes as far as the least length.
  have hdepth : largest (searchDepth limit) ds = largest (fun d => leastLength d.toNat) ds :=
    largest_congr _ fun d hd => capped_eq_self (h d hd).2
  rw [Finder.afterEach_eq (exact_finder _)]
  cases strategy with
  | remainder => rfl
  | table =>
    rw [Finder.size_reached_of_table rfl]
    show max 1 (largest (searchDepth limit) ds) = _
    rw [hdepth]
    rfl

/-- The events of a run in turn over divisors. -/
def log (o : Options) (ds : List UInt64) : List Event :=
  .started ds.length o.strategy false ::
    ((attempted o.limit ds).flatMap (searchLog o.limit) ++
      if AllFit o.limit ds then [.finished (cachedAfter o.strategy ds)] else [])

theorem events_runOver {o : Options} (h : o.parallel = false) (ds : List UInt64)
    (written : String) : (runOver o ds { written }).journal.events = log o ds := by
  have hexact := exact_finder o
  obtain ⟨hevents, hstate⟩ := runInTurn_leaves hexact ds written
  have hresult := runInTurn_result hexact ds written
  have hlimit : o.finder.limit = o.limit := rfl
  rw [hlimit] at hevents hstate hresult
  unfold runOver log
  simp only [h, Bool.false_eq_true, if_false]
  rcases hr : (runInTurn o.finder ds { written }).result with e | u <;> rw [hr] at hresult
  · have hfails : ¬ AllFit o.limit ds := fun hall => nomatch hresult.mpr hall
    rw [if_neg hfails, ← hevents, List.append_nil, List.append_nil]
    rfl
  · have hall : AllFit o.limit ds := hresult.mp rfl
    rw [attempted_of_allFit hall] at hevents hstate
    rw [if_pos hall, attempted_of_allFit hall, ← hevents, hstate, size_afterEach o hall]
    show _ :: Journal.events (_ ++ _) = _
    rw [Journal.events_append]
    rfl

end LeastLengths

/-! ## §4. Pairs. -/

namespace PairResults

/-- The events of a run over pairs: one for each that is worked out, up to the first that fails. -/
def log (pairs : List (Int64 × Int64)) : List Event :=
  (pairs.takeWhile fun pair => (PairSummary.of pair.1 pair.2).isOk).map fun pair =>
    .formatting pair.1 pair.2

/-- The events of one pair. -/
def pairLog (pair : Int64 × Int64) : List Event := (portion pair ()).journal.events

theorem flatMap_tried (pairs : List (Int64 × Int64)) :
    (tried answer pairs).flatMap pairLog = log pairs := by
  induction pairs with
  | nil => rfl
  | cons pair rest ih =>
    obtain ⟨a, b⟩ := pair
    unfold log at ih ⊢
    rw [tried]
    cases hs : PairSummary.of a b with
    | error e =>
      rw [answer_of_failed hs, List.takeWhile_cons_of_neg (by rw [hs]; nofun)]
      dsimp only
      rw [List.flatMap_singleton, pairLog, portion, hs]
      rfl
    | ok summary =>
      have hworks : WorksOut (a, b) := ⟨summary, hs⟩
      rw [answer_of_worksOut hworks, List.takeWhile_cons_of_pos (by rw [hs]; rfl)]
      dsimp only
      rw [List.flatMap_cons, ih, pairLog, portion, hs]
      rfl

theorem events_deliver (pairs : List (Int64 × Int64)) (written : String) :
    (deliver portion pairs () { written }).journal.events = log pairs := by
  rw [← flatMap_tried]
  exact (deliver_leaves knownByItem_portion (fun _ _ _ => rfl) pairs trivial written).1

end PairResults

/-! ## §5. Runs over a text. -/

/-- The exercise is run in turn, and not by workers side by side. -/
def InTurn : Exercise → Prop
  | .leastLengths o => o.parallel = false
  | .pairResults => True

/-- The events of a run in turn over a text; there are none where it cannot be read. -/
def log (e : Exercise) (text : String) : List Event :=
  match e with
  | .leastLengths o =>
    match readDivisors text with
    | .error _ => []
    | .ok ds => LeastLengths.log o ds
  | .pairResults =>
    match readPairs text with
    | .error _ => []
    | .ok pairs => PairResults.log pairs

/-- **What a run in turn over a text leaves to be logged.** -/
theorem events_run {e : Exercise} (h : e.InTurn) (text : String) :
    (e.run text .unbounded).journal.events = e.log text := by
  cases e with
  | leastLengths o =>
    show (LeastLengths.run o text .unbounded).journal.events =
      match readDivisors text with
      | .error _ => []
      | .ok ds => LeastLengths.log o ds
    unfold LeastLengths.run
    cases readDivisors text with
    | error e => rfl
    | ok ds => exact LeastLengths.events_runOver h ds ""
  | pairResults =>
    show (PairResults.run text .unbounded).journal.events =
      match readPairs text with
      | .error _ => []
      | .ok pairs => PairResults.log pairs
    unfold PairResults.run
    cases readPairs text with
    | error e => rfl
    | ok pairs => exact PairResults.events_deliver pairs ""

end Repunits.Exercise
