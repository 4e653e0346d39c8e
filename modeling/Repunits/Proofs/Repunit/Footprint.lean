/-
  Repunits.Proofs.Repunit.Footprint
  ────────────────────────────────
  **What searches leave in a finder's table.**

  A search for `d` goes up to the least length of `d`, or up to the limit
  if that comes first (`searchDepth`); a refused divisor is not searched at
  all. Under the table strategy this is how far the table is extended,
  whether the search succeeds or not; under the remainder strategy the
  table is left alone. Of many divisors, those searched in turn count up
  to the first that fails (`attempted`), those searched side by side all
  count.

  Main results:
    * `report_tested` — one search tests the lengths up to its depth.
    * `Serves.eq_reached` — a request extends the table as far as the
      deepest of its searches.
    * `table_footprint` — what the three kinds of search leave.
-/
import Repunits.Proofs.Repunit.Order

namespace Repunits

/-! ## §1. How far a search goes. -/

/-- A length, or the limit if there is one that comes first. -/
def capped : Option Nat → Nat → Nat
  | none, k => k
  | some L, k => min k L

/-- The length up to which the search for `d` goes; zero for a divisor that is refused. -/
def searchDepth (limit : Option Nat) (d : UInt64) : Nat := capped limit (leastLength d.toNat)

/-- The search for `d` succeeds: it has a least length, which is within the limit. -/
def Fits (limit : Option Nat) (d : UInt64) : Prop :=
  Nat.Coprime d.toNat 10 ∧ ∀ L ∈ limit, leastLength d.toNat ≤ L

instance (limit : Option Nat) (d : UInt64) : Decidable (Fits limit d) :=
  inferInstanceAs (Decidable (_ ∧ _))

/-- The divisors up to and including the first whose search fails. -/
def attempted (limit : Option Nat) : List UInt64 → List UInt64
  | [] => []
  | d :: ds => if Fits limit d then d :: attempted limit ds else [d]

@[simp] theorem capped_zero (limit : Option Nat) : capped limit 0 = 0 := by
  cases limit with
  | none => rfl
  | some L => exact Nat.zero_min L

theorem capped_eq_self {limit : Option Nat} {k : Nat} (h : ∀ L ∈ limit, k ≤ L) :
    capped limit k = k := by
  cases limit with
  | none => rfl
  | some L => exact Nat.min_eq_left (h L rfl)

theorem searchDepth_le {L : Nat} (d : UInt64) : searchDepth (some L) d ≤ L := Nat.min_le_right _ _

theorem searchDepth_of_not_coprime {d : UInt64} (hd : ¬ Nat.Coprime d.toNat 10)
    (limit : Option Nat) : searchDepth limit d = 0 := by
  rw [searchDepth, leastLength_of_not_coprime hd, capped_zero]

/-- Divisors that are refused count for nothing among others. -/
theorem largest_searchDepth_filter (limit : Option Nat) (ds : List UInt64) :
    largest (searchDepth limit) (ds.filter fun d => Nat.Coprime d.toNat 10) =
      largest (searchDepth limit) ds := by
  induction ds with
  | nil => rfl
  | cons d ds ih =>
    by_cases hd : Nat.Coprime d.toNat 10
    · rw [List.filter_cons_of_pos (by simpa using hd), largest_cons, largest_cons, ih]
    · rw [List.filter_cons_of_neg (by simpa using hd), largest_cons, ih,
        searchDepth_of_not_coprime hd, Nat.zero_max]

namespace Finder

/-- **One search** tests the lengths up to its depth, whether it succeeds or not. -/
theorem report_tested {f : Finder} (hf : f.table.Exact) (d : UInt64) :
    (f.report d).1.tested = searchDepth f.limit d := by
  have hanswers := report_answers hf d
  have hbound : f.bound = f.limit.getD maxLength := rfl
  generalize (f.report d).1 = report at hanswers ⊢
  generalize f.limit = limit at hbound ⊢
  cases hanswers with
  | refused h => exact (searchDepth_of_not_coprime (not_coprime_of_refused h) limit).symm
  | @found k hd hk hl =>
    have hcapped : capped limit k = k := by
      apply capped_eq_self
      rintro L rfl
      rw [hbound] at hk
      exact hk
    rw [searchDepth, ← hl.eq_leastLength, hcapped]
  | exhausted hd hnone =>
    have hl := isLeastLength_leastLength hd
    -- The least length is past the bound, which thus is a limit that was set.
    have hlt : f.bound < leastLength d.toNat :=
      Nat.lt_of_not_le fun hle => hnone _ hl.pos hle hl.dvd
    rw [hbound] at hlt ⊢
    cases limit with
    | none => exact absurd hl.le_maxLength (Nat.not_le_of_lt hlt)
    | some L => exact (Nat.min_eq_right (Nat.le_of_lt hlt)).symm

theorem fits_iff {f : Finder} (hf : f.table.Exact) (d : UInt64) :
    Fits f.limit d ↔ ∃ k, (f.find d).1 = .ok k := by
  constructor
  · rintro ⟨hd, hle⟩
    refine ⟨leastLength d.toNat, (find_eq_iff_verdict hf d _).mpr ?_⟩
    exact .found (isLeastLength_leastLength hd) hle
  · rintro ⟨k, hk⟩
    cases (find_eq_iff_verdict hf d _).mp hk with
    | found hl hle =>
      refine ⟨hl.coprime, ?_⟩
      rw [← hl.eq_leastLength]
      exact hle

/-! ## §2. What a search leaves. -/

/-- One search extends the table as far as its depth. -/
theorem find_snd_eq {f : Finder} (hf : f.table.Exact) (d : UInt64) :
    (f.find d).2 = f.reached (searchDepth f.limit d) := by
  rw [find_snd hf, report_tested hf]

/-- **One after the other**, searches extend the table as far as the deepest of them, up to the
first that fails. -/
theorem findAll_snd_eq {f : Finder} (hf : f.table.Exact) (ds : List UInt64) :
    (f.findAll ds).2 = f.reached (largest (searchDepth f.limit) (attempted f.limit ds)) := by
  induction ds generalizing f with
  | nil => exact (reached_zero f).symm
  | cons d ds ih =>
    have hsnd := find_snd_eq hf d
    have hfits := fits_iff hf d
    rcases h : f.find d with ⟨e | k, f'⟩
    · -- The search fails: no other follows.
      rw [h] at hsnd hfits
      have hno : ¬ Fits f.limit d := by simp [hfits]
      rw [attempted, if_neg hno, largest_cons, largest_nil, Nat.max_zero, ← hsnd]
      simp only [findAll, h]
    · rw [h] at hsnd hfits
      obtain rfl : f' = _ := hsnd
      have hrest := ih (exact_reached hf (searchDepth f.limit d))
      rw [reached_limit, reached_reached hf] at hrest
      rw [attempted, if_pos (hfits.mpr ⟨k, rfl⟩), largest_cons, ← hrest]
      simp only [findAll, h]
      rcases (f.reached (searchDepth f.limit d)).findAll ds with ⟨e | ks, f''⟩ <;> rfl

/-- **Side by side**, searches extend the table as far as the deepest of them. -/
theorem findEach_snd_eq {f : Finder} (hf : f.table.Exact) (ds : List UInt64) :
    (f.findEach ds).2 = f.reached (largest (searchDepth f.limit) ds) := by
  rw [findEach_eq hf, largest_congr _ fun d _ => report_tested hf d]

end Finder

/-! ## §3. What a request leaves. -/

/-- The requests that search for divisors. -/
def Request.IsSearch : Request → Prop
  | .find _ | .findAll _ | .findEach _ => True
  | .repunit _ | .setLimit _ => False

/-- How far the searches of a request go. -/
def Request.depth (limit : Option Nat) : Request → Nat
  | .find d => searchDepth limit d
  | .findAll ds => largest (searchDepth limit) (attempted limit ds)
  | .findEach ds => largest (searchDepth limit) ds
  | .repunit _ | .setLimit _ => 0

/-- Under a limit no search goes past it. -/
theorem Request.depth_le (q : Request) (L : Nat) : q.depth (some L) ≤ L := by
  cases q with
  | find d => exact searchDepth_le d
  | findAll ds => exact largest_le _ fun d _ => searchDepth_le d
  | findEach ds => exact largest_le _ fun d _ => searchDepth_le d
  | repunit k => exact Nat.zero_le L
  | setLimit n => exact Nat.zero_le L

namespace Finder

/-- **A request for searches** extends the table as far as the deepest of them, and does nothing
else to the finder, whatever the schedule of its workers. -/
theorem Serves.eq_reached {f g : Finder} (hf : f.table.Exact) {q : Request} {a : Answer}
    (h : Serves f q a g) (hq : q.IsSearch) : g = f.reached (q.depth f.limit) := by
  have hserve : g = (f.serve q).2 := congrArg Prod.snd (h.eq_serve hf)
  rw [hserve]
  cases q with
  | find d => exact find_snd_eq hf d
  | findAll ds => exact findAll_snd_eq hf ds
  | findEach ds => exact findEach_snd_eq hf ds
  | repunit k => exact absurd hq id
  | setLimit n => exact absurd hq id

theorem reached_of_remainder {f : Finder} (h : f.strategy = .remainder) (n : Nat) :
    f.reached n = f := by
  unfold reached
  rw [h]

theorem size_reached_of_table {f : Finder} (h : f.strategy = .table) (n : Nat) :
    (f.reached n).table.size = max f.table.size n := by
  unfold reached
  rw [h]
  exact f.table.size_extendTo n

theorem prefix_reached {f : Finder} (hf : f.table.Exact) (n : Nat) :
    f.table.entries.toList <+: (f.reached n).table.entries.toList := by
  unfold reached
  split
  · exact Table.prefix_extendTo hf n
  · exact List.prefix_refl _

/-- **No request loses an entry** or changes the strategy, and only one sets the limit. -/
theorem Serves.keeps {f g : Finder} (hf : f.table.Exact) {q : Request} {a : Answer}
    (h : Serves f q a g) : f.table.entries.toList <+: g.table.entries.toList ∧
      g.strategy = f.strategy ∧ ((∀ n, q ≠ .setLimit n) → g.limit = f.limit) := by
  by_cases hq : q.IsSearch
  · rw [h.eq_reached hf hq, reached_strategy, reached_limit]
    exact ⟨prefix_reached hf _, rfl, fun _ => rfl⟩
  · have hserve : g = (f.serve q).2 := congrArg Prod.snd (h.eq_serve hf)
    rw [hserve]
    cases q with
    | find d => exact absurd trivial hq
    | findAll ds => exact absurd trivial hq
    | findEach ds => exact absurd trivial hq
    | setLimit n => exact ⟨List.prefix_refl _, rfl, fun hne => absurd rfl (hne n)⟩
    | repunit k =>
      refine ⟨?_, rfl, fun _ => rfl⟩
      show _ <+: (f.table.repunit k).2.entries.toList
      rcases Nat.eq_zero_or_pos k with rfl | hk
      · exact List.prefix_refl _
      · rw [Table.repunit_of_exact hf hk]
        exact Table.prefix_extendTo hf k

/-- **What searches leave in the table.** Under the table strategy a refused divisor leaves the
finder as it was, and any other extends the table to its least length or the limit, whichever comes
first. Searches side by side, under any schedule, extend it as far as the deepest of them; searches
in turn count up to the first that fails. Under the remainder strategy the table stays as it was.
Entries, strategy and limit are kept, and no search takes the table past the limit. -/
theorem table_footprint {f : Finder} (hf : f.Reachable) :
    let m := f.table.size
    let deepest (ds : List UInt64) :=
      largest (fun d => capped f.limit (leastLength d.toNat))
        (ds.filter fun d => Nat.Coprime d.toNat 10)
    -- least lengths, and the searches that succeed
    (∀ d : Nat, Nat.Coprime d 10 → IsLeastLength d (leastLength d)) ∧
    (∀ d, Fits f.limit d ↔ ∃ k, (f.find d).1 = .ok k) ∧
    -- the table strategy
    (f.strategy = .table →
      (∀ d, ¬ Nat.Coprime d.toNat 10 → (f.find d).2 = f) ∧
      (∀ d, Nat.Coprime d.toNat 10 →
        (f.find d).2.table.size = max m (capped f.limit (leastLength d.toNat))) ∧
      (∀ ds a g, Serves f (.findEach ds) a g → g.table.size = max m (deepest ds)) ∧
      ∀ ds, (f.findAll ds).2.table.size = max m (deepest (attempted f.limit ds))) ∧
    -- the remainder strategy, and the limit
    (∀ q a g, q.IsSearch → Serves f q a g →
      (f.strategy = .remainder → g.table = f.table) ∧
      ∀ L, f.limit = some L → g.table.size ≤ max m L) ∧
    -- what is kept
    ∀ q a g, Serves f q a g → f.table.entries.toList <+: g.table.entries.toList ∧
      g.strategy = f.strategy ∧ ((∀ n, q ≠ .setLimit n) → g.limit = f.limit) := by
  intro m deepest
  have hexact := hf.exact
  have hdeepest : ∀ ds, deepest ds = largest (searchDepth f.limit) ds :=
    largest_searchDepth_filter f.limit
  refine ⟨fun d => isLeastLength_leastLength, fits_iff hexact, ?_, ?_, ?_⟩
  · intro htable
    refine ⟨?_, ?_, ?_, ?_⟩
    · intro d hd
      rw [find_snd_eq hexact, searchDepth_of_not_coprime hd, reached_zero]
    · intro d _
      rw [find_snd_eq hexact, size_reached_of_table htable]
      rfl
    · intro ds a g h
      rw [h.eq_reached hexact trivial, size_reached_of_table htable, hdeepest]
      rfl
    · intro ds
      rw [findAll_snd_eq hexact, size_reached_of_table htable, hdeepest]
  · intro q a g hq h
    rw [h.eq_reached hexact hq]
    refine ⟨?_, ?_⟩
    · intro hremainder
      rw [reached_of_remainder hremainder]
    · intro L hL
      have hle := q.depth_le L
      cases hs : f.strategy with
      | table =>
        rw [size_reached_of_table hs, hL]
        show max m _ ≤ max m L
        omega
      | remainder =>
        rw [reached_of_remainder hs]
        exact Nat.le_max_left _ _
  · intro q a g h
    exact h.keeps hexact

/-- A limit of three: a search that exceeds it, workers by turns, and searches in turn of which the
second is refused. -/
theorem table_footprint_limitThree :
    let f := (({ strategy := .table } : Finder).serveAll [.repunit 2, .setLimit 3]).2
    f.Reachable ∧ f.strategy = .table ∧ f.table.size = 2 ∧ (f.find 4).2 = f ∧
      (f.find 7).2.table.size = 3 ∧ (f.findAll [11, 4, 3]).2.table.size = 2 ∧
      ∃ a g, Serves f (.findEach [3, 0, 7, 3]) a g ∧ g.table.size = 3 ∧ g.limit = some 3 := by
  intro f
  have hf : f.Reachable := ⟨.table, [.repunit 2, .setLimit 3], _, session_serveAll _ _⟩
  obtain ⟨-, -, htable, -, hkeeps⟩ := table_footprint hf
  obtain ⟨hrefused, hsearched, heach, hall⟩ := htable rfl
  have hdone : ((f.pool [3, 0, 7, 3]).run f.bound mixedTurns).reports?.isSome = true :=
    Pool.reports?_of_turns mixedTurns (by decide +kernel)
  obtain ⟨reports, h⟩ := Option.isSome_iff_exists.mp hdone
  have hserves : Serves f (.findEach [3, 0, 7, 3]) _ _ := .scheduled _ mixedTurns h
  refine ⟨hf, rfl, rfl, hrefused 4 (by decide), ?_, ?_, _, _, hserves, ?_, ?_⟩
  · rw [hsearched 7 (by decide)]
    decide +kernel
  · rw [hall]
    decide +kernel
  · rw [heach _ _ _ hserves]
    decide +kernel
  · exact (hkeeps _ _ _ hserves).2.2 nofun

end Finder

end Repunits
