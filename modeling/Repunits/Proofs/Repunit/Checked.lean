/-
  Repunits.Proofs.Repunit.Checked
  ────────────────────────────────
  **A search computes nothing that does not fit, and counts no further than its divisor.**

  The search is written once more with every step checked. A remainder is
  carried on in words of 128 bits, the table grows by checked products
  and sums, and the counter of lengths may not pass a given `top`. Unlike
  `search`, the checked search takes no other bound on lengths than the
  limit that was set, if one was; what ends it is the check of the
  counter. With the divisor itself for `top` no check ever fails: a
  divisor that is searched for has a least length, which is no larger
  than the divisor, and the counter does not go beyond it.

  Main results:
    * `probeRemainder?_eq`, `probeTable?_eq` — the two probes.
    * `search?_eq` — the search with a probe that tells the residues.
    * `Finder.report?_eq` — the report of a finder.
    * `Worker.OnTrack.length_le` — the counters of workers side by side.
    * `words_suffice` — the whole of it.
-/
import Repunits.Proofs.Numeral.Checked
import Repunits.Proofs.Repunit.Verdict

namespace Repunits

/-! ## §1. The search, with every step checked. -/

/-- The remainder of the next repunit, computed in words of 128 bits. -/
def nextRemainder? (d : UInt64) (r : Nat) : Option Nat := do
  let shifted ← doubleWord? (r * 10)
  let sum ← doubleWord? (shifted + 1)
  return sum % d.toNat

/-- Carries the remainder one length on, and tells it in a word of 64 bits. -/
def probeRemainder? (d : UInt64) (_length : Nat) (r : Nat) :
    Option (Except Fault UInt64 × Nat) := do
  let r' ← nextRemainder? d r
  let word ← below? d r'
  return (.ok word, r')

namespace Table

/-- One entry more. -/
def grow? (t : Table) : Option Table := do
  let shifted ← t.last.mul? 10
  let next ← shifted.add? 1
  return ⟨t.entries.push next, by simp⟩

/-- `n` entries more. -/
def growBy? : Nat → Table → Option Table
  | 0, t => some t
  | n + 1, t => do
    let t' ← t.grow?
    growBy? n t'

/-- The repunit of length `k`, read from the table when that has been extended. -/
def repunit? (t : Table) (k : Nat) : Option (Except Fault Numeral × Table) := do
  let t' ← growBy? (k - t.size) t
  return t'.repunit k

end Table

/-- Tells the remainder of the table's repunit of length `k`. -/
def probeTable? (d : UInt64) (k : Nat) (t : Table) : Option (Except Fault UInt64 × Table) := do
  let (found, t') ← t.repunit? k
  match found with
  | .error e => return (.error e, t')
  | .ok a => do
    let answer ← a.rem? d
    return (answer, t')

namespace Progress

/-- The progress after the current length has been tried, if the counter has not passed `top`. -/
def advance? (top : Nat) (p : Progress) (divisible : Bool) : Option Progress :=
  match p.advance divisible with
  | .found k => some (.found k)
  | .searching k => if k ≤ top then some (.searching k) else none

/-- An upper bound on the steps still to come. -/
def work (top : Nat) : Progress → Nat
  | .searching k => top - k + 1
  | .found _ => 0

theorem advance?_true (top k : Nat) : (searching k).advance? top true = some (.found k) := rfl

theorem advance?_false {top k : Nat} (h : k + 1 ≤ top) :
    (searching k).advance? top false = some (.searching (k + 1)) := if_pos h

/-- An advance uses up work. -/
theorem work_advance?_lt {top k : Nat} {divisible : Bool} {p : Progress}
    (h : (searching k).advance? top divisible = some p) :
    p.work top < (searching k).work top := by
  cases divisible with
  | true =>
    rw [advance?_true] at h
    cases h
    exact Nat.succ_pos _
  | false =>
    by_cases hk : k + 1 ≤ top
    · rw [advance?_false hk] at h
      cases h
      show top - (k + 1) + 1 < top - k + 1
      omega
    · rw [show (searching k).advance? top false = none from if_neg hk] at h
      cases h

end Progress

/-- Goes on from some progress to the end of the search. -/
def drive? {σ : Type} (top : Nat) (d : UInt64) (limit : Option Nat)
    (probe? : Nat → σ → Option (Except Fault UInt64 × σ)) : Progress → σ → Option (Report × σ)
  | .found k, s => some (⟨k, .ok k⟩, s)
  | .searching k, s =>
    match limit.filter (· < k) with
    | some L => some (⟨k - 1, .error (.limitExceeded d L)⟩, s)
    | none =>
      match probe? k s with
      | none => none
      | some (.error e, s') => some (⟨k, .error e⟩, s')
      | some (.ok r, s') =>
        match _h : (Progress.searching k).advance? top (r == 0) with
        | none => none
        | some p => drive? top d limit probe? p s'
termination_by p => p.work top
decreasing_by exact Progress.work_advance?_lt _h

/-- The whole search for one divisor. -/
def search? {σ : Type} (top : Nat) (d : UInt64) (limit : Option Nat)
    (probe? : Nat → σ → Option (Except Fault UInt64 × σ)) (s : σ) : Option (Report × σ) :=
  drive? top d limit probe? .start s

/-- The search for one divisor, with its report. -/
def Finder.report? (top : Nat) (f : Finder) (d : UInt64) : Option (Report × Finder) :=
  match checkDivisor d with
  | .error e => some (⟨0, .error e⟩, f)
  | .ok () =>
    match f with
    | { table, strategy := .remainder, limit } => do
      let (report, _) ← search? top d limit (probeRemainder? d) 0
      return (report, { table, strategy := .remainder, limit })
    | { table, strategy := .table, limit } => do
      let (report, table') ← search? top d limit (probeTable? d) table
      return (report, { table := table', strategy := .table, limit })

/-! ## §2. The two probes. -/

/-- **The carried remainder stays in its words**: it is below the divisor, so that ten times the
remainder and one are far below 128 bits. -/
theorem probeRemainder?_eq {d : UInt64} (k : Nat) {r : Nat} (hr : r < d.toNat) :
    probeRemainder? d k r = some (probeRemainder d k r) := by
  have hd : d.toNat < 2 ^ 64 := d.toNat_lt
  have hnext : nextRemainder d r < d.toNat := Nat.mod_lt _ (by omega)
  unfold probeRemainder? nextRemainder?
  rw [doubleWord?_of_lt (by omega)]
  show ((doubleWord? (r * 10 + 1)).bind _).bind _ = _
  rw [doubleWord?_of_lt (by omega)]
  show (below? d (nextRemainder d r)).bind _ = _
  rw [below?_of_lt hnext]
  rfl

namespace Table

/-- **The table grows within its words.** -/
theorem grow?_eq {t : Table} (ht : t.Exact) : t.grow? = some t.grow := by
  have hlast : t.last.Canonical := by
    rw [last_of_exact ht]
    exact Numeral.canonical_ones t.size_pos
  unfold grow?
  rw [Numeral.mul?_eq hlast]
  show ((t.last.mul 10).add? 1).bind _ = _
  rw [Numeral.add?_eq]
  rfl

theorem growBy?_eq {t : Table} (ht : t.Exact) (n : Nat) : growBy? n t = some (growBy n t) := by
  induction n generalizing t with
  | zero => rfl
  | succ n ih =>
    unfold growBy?
    rw [grow?_eq ht]
    exact ih ht.grow

theorem repunit?_eq {t : Table} (ht : t.Exact) (k : Nat) : t.repunit? k = some (t.repunit k) := by
  unfold repunit?
  rw [growBy?_eq ht]
  show some ((t.extendTo k).repunit k) = _
  rcases Nat.eq_zero_or_pos k with rfl | hk
  · rw [extendTo_zero]
  · rw [repunit_of_exact (ht.extendTo k) hk, repunit_of_exact ht hk, extendTo_extendTo ht,
      Nat.max_self]

end Table

/-- **The table probe stays in its words.** -/
theorem probeTable?_eq (d : UInt64) (k : Nat) {t : Table} (ht : t.Exact) :
    probeTable? d k t = some (probeTable d k t) := by
  unfold probeTable? probeTable
  rw [Table.repunit?_eq ht]
  rcases t.repunit k with ⟨e | a, t'⟩
  · rfl
  · show (a.rem? d).bind _ = _
    rw [Numeral.rem?_eq]
    rfl

/-! ## §3. The counter. -/

section

variable {σ : Type} {top : Nat} {d : UInt64} {limit : Option Nat} {s : σ}
variable {probe? : Nat → σ → Option (Except Fault UInt64 × σ)}
variable {probe : Nat → σ → Except Fault UInt64 × σ}

theorem drive?_found (k : Nat) :
    drive? top d limit probe? (.found k) s = some (⟨k, .ok k⟩, s) := by
  unfold drive?
  rfl

theorem drive?_past {k L : Nat} (h : L < k) :
    drive? top d (some L) probe? (.searching k) s =
      some (⟨k - 1, .error (.limitExceeded d L)⟩, s) := by
  have hlimit : (some L).filter (· < k) = some L := by simp [h]
  rw [drive?, hlimit]

/-- A length within the limit is not past it. -/
theorem filter_lt_eq_none {k : Nat} (hk : ∀ L ∈ limit, k ≤ L) : limit.filter (· < k) = none := by
  rw [Option.filter_eq_none_iff]
  intro L hL
  simpa using hk L hL

/-- One probe within the limit, and then the rest of the search. -/
theorem drive?_probe {k : Nat} (hk : ∀ L ∈ limit, k ≤ L) {r : UInt64} {s' : σ}
    (hprobe : probe? k s = some (.ok r, s')) {p : Progress}
    (hp : (Progress.searching k).advance? top (r == 0) = some p) :
    drive? top d limit probe? (.searching k) s = drive? top d limit probe? p s' := by
  rw [drive?, filter_lt_eq_none hk, hprobe]
  dsimp only
  split
  · rename_i hnone
    rw [hp] at hnone
    cases hnone
  · rename_i p' hp'
    rw [hp] at hp'
    cases hp'
    rfl

/-- The checked probe answers what the plain one does, in each state that the plain one runs through. -/
def Checks (probe? : Nat → σ → Option (Except Fault UInt64 × σ))
    (probe : Nat → σ → Except Fault UInt64 × σ) (s : σ) : Prop :=
  ∀ n, probe? (n + 1) (probed probe s n) = some (probe (n + 1) (probed probe s n))

theorem Checks.probe?_eq (hprobe : Checks probe? probe s) {n : Nat} {r : UInt64}
    (h : answerAfter probe s n = .ok r) :
    probe? (n + 1) (probed probe s n) = some (.ok r, probed probe s (n + 1)) := by
  rw [hprobe, ← h]
  rfl

/-- **While the probe is quiet the checked search goes on**, as far as its counter may count. -/
theorem search?_of_quiet (hprobe : Checks probe? probe s) {n : Nat} (hn : ∀ L ∈ limit, n ≤ L)
    (htop : n + 1 ≤ top) (hq : ∀ j, j < n → Quiet (answerAfter probe s j)) :
    search? top d limit probe? s =
      drive? top d limit probe? (.searching (n + 1)) (probed probe s n) := by
  induction n with
  | zero => rfl
  | succ n ih =>
    obtain ⟨r, hr, hne⟩ := hq n (Nat.lt_succ_self n)
    have hnext : (Progress.searching (n + 1)).advance? top (r == 0) =
        some (.searching (n + 1 + 1)) := by
      rw [beq_false_of_ne hne]
      exact Progress.advance?_false htop
    rw [ih (fun L hL => Nat.le_of_succ_le (hn L hL)) (by omega) fun j hj => hq j (by omega)]
    exact drive?_probe hn (hprobe.probe?_eq hr) hnext

/-- The first zero within the limit ends the checked search with its length, which the counter has come
to and does not pass. -/
theorem search?_of_zero (hprobe : Checks probe? probe s) {n : Nat} (hn : ∀ L ∈ limit, n + 1 ≤ L)
    (htop : n + 1 ≤ top) (hq : ∀ j, j < n → Quiet (answerAfter probe s j))
    (h : answerAfter probe s n = .ok 0) :
    search? top d limit probe? s = some (⟨n + 1, .ok (n + 1)⟩, probed probe s (n + 1)) := by
  rw [search?_of_quiet hprobe (fun L hL => Nat.le_of_succ_le (hn L hL)) htop hq,
    drive?_probe hn (hprobe.probe?_eq h) (Progress.advance?_true _ _), drive?_found]

/-- A probe that is quiet up to the limit exhausts it, with a counter one past the limit. -/
theorem search?_of_limit (hprobe : Checks probe? probe s) {L : Nat} (htop : L + 1 ≤ top)
    (hq : ∀ j, j < L → Quiet (answerAfter probe s j)) :
    search? top d (some L) probe? s =
      some (⟨L, .error (.limitExceeded d L)⟩, probed probe s L) := by
  have hlimit : ∀ L' ∈ some L, L ≤ L' := by
    intro L' hL'
    exact Nat.le_of_eq (Option.some.inj hL')
  rw [search?_of_quiet hprobe hlimit htop hq, drive?_past (Nat.lt_succ_self L)]
  rfl

/-- **The counter stays within the divisor.** A search with a probe that tells the residues comes to its
end with a counter that does not pass the divisor, whatever the limit, and reports what the search
without checks reports. -/
theorem search?_eq {Inv : Nat → σ → Prop} (hp : TellsResidues d probe Inv) (h0 : Inv 0 s)
    (hprobe : ∀ n s, Inv n s → probe? (n + 1) s = some (probe (n + 1) s))
    (hd : Nat.Coprime d.toNat 10) (limit : Option Nat) :
    search? d.toNat d limit probe? s = some (search d limit probe s) := by
  have hne := ne_zero_of_coprime hd
  have hchecks : Checks probe? probe s := fun n => hprobe n _ (hp.probed h0 n)
  obtain ⟨k, hle, hk⟩ := exists_isLeastLength hd
  obtain ⟨n, rfl⟩ : ∃ n, k = n + 1 := ⟨k - 1, (Nat.sub_add_cancel hk.pos).symm⟩
  have hquiet : ∀ j, j < n → Quiet (answerAfter probe s j) := fun j => hp.quiet_before h0 hne hk
  by_cases hlimit : ∀ L ∈ limit, n + 1 ≤ L
  · -- The least length is within the limit, and ends the search.
    have hbound : n + 1 ≤ limit.getD maxLength := le_getD_maxLength hk.le_maxLength hlimit
    have hzero := hp.zero_at h0 hne hk
    rw [search_of_zero d hbound hquiet hzero, search?_of_zero hchecks hlimit hle hquiet hzero]
  · -- The limit comes first, and so does its end of the search.
    push Not at hlimit
    obtain ⟨L, hL, hlt⟩ := hlimit
    obtain rfl : limit = some L := hL
    have hquiet' : ∀ j, j < L → Quiet (answerAfter probe s j) := by
      intro j hj
      exact hquiet j (by omega)
    have hsearch : search d (some L) probe s =
        (⟨L, .error (.limitExceeded d L)⟩, probed probe s L) := search_of_limit d hquiet'
    rw [hsearch, search?_of_limit hchecks (by omega) hquiet']

end

/-- **The report of a finder is computed within its words**, with a counter that does not pass the
divisor. -/
theorem Finder.report?_eq {f : Finder} (hf : f.table.Exact) (d : UInt64) :
    f.report? d.toNat d = some (f.report d) := by
  unfold report? report
  cases hd : checkDivisor d with
  | error e => rfl
  | ok _ =>
    have hcop := (checkDivisor_eq_ok_iff d).mp hd
    have hpos := Numeral.toNat_pos (ne_zero_of_coprime hcop)
    obtain ⟨t, strategy, limit⟩ := f
    cases strategy with
    | remainder =>
      have hsearch := search?_eq (tellsResidues_probeRemainder d) (Nat.zero_mod _).symm
        (fun n r hr => probeRemainder?_eq (n + 1) (by rw [hr]; exact Nat.mod_lt _ hpos)) hcop limit
      show (search? d.toNat d limit (probeRemainder? d) 0).bind _ = _
      rw [hsearch]
      rfl
    | table =>
      have hsearch := search?_eq (tellsResidues_probeTable (ne_zero_of_coprime hcop) hf)
        (Table.extendTo_zero t).symm
        (fun n s hs => probeTable?_eq d (n + 1) (by rw [hs]; exact hf.extendTo n)) hcop limit
      show (search? d.toNat d limit (probeTable? d) t).bind _ = _
      rw [hsearch]
      rfl

/-! ## §4. Workers side by side. -/

namespace Worker

/-- The counter of a worker that is not finished. -/
def length? : Worker → Option Nat
  | .visiting k _ => some k
  | .carrying k _ => some k
  | .finished _ => none

/-- A search that has come to some length has come no further than its least length. -/
theorem Probing.le_of_isLeastLength {d : UInt64} {bound k l : Nat} (hk : Probing d bound k)
    (hl : IsLeastLength d.toNat l) : k ≤ l := by
  by_contra hlt
  exact hk.none_before l hl.pos (by omega) hl.dvd

/-- **A worker counts no further than its divisor**: it has not done so yet, and will not do so when it
goes on from a length that does not do. -/
theorem OnTrack.length_le {strategy : Strategy} {d : UInt64} {bound : Nat} {w : Worker}
    (hw : OnTrack strategy d bound w) {k : Nat} (hk : w.length? = some k) :
    k ≤ d.toNat ∧ (¬ d.toNat ∣ repunit k → k + 1 ≤ d.toNat) := by
  have hprobing : Probing d bound k := by
    cases hw with
    | visiting _ h => cases hk; exact h
    | carrying _ h => cases hk; exact h
    | finished => cases hk
  obtain ⟨l, hle, hl⟩ := exists_isLeastLength hprobing.coprime
  have hkl := hprobing.le_of_isLeastLength hl
  refine ⟨by omega, ?_⟩
  intro hno
  have hne : k ≠ l := by
    rintro rfl
    exact hno hl.dvd
  omega

/-- The remainder that a worker carries is below its divisor. -/
theorem OnTrack.remainder_lt {strategy : Strategy} {d : UInt64} {bound k r : Nat}
    (hw : OnTrack strategy d bound (.carrying k r)) : r < d.toNat := by
  cases hw with
  | carrying _ h => exact Nat.mod_lt _ (pos_of_coprime_ten h.coprime)

end Worker

/-! ## §5. The whole of it. -/

/-- **Words suffice.** Sums and products of numerals with words of 32 bits, remainders of division by
words of 64 bits, and the remainder that is carried from one repunit to the next, after any number of
steps: with every sum, product, digit and remainder checked against the word that it is put in, each
comes to the same as without. So does the whole search for a divisor, under both strategies, with any
limit or none and whatever the finder was used for before, while its counter may not pass the divisor,
which is a word. And however the turns of workers are mixed, none of their counters has passed its
divisor, nor does it when it is advanced. -/
theorem words_suffice :
    -- sums, products and remainders
    (∀ a : Numeral, a.Canonical → ∀ n : UInt32,
      a.add? n = some (a.add n) ∧ a.mul? n = some (a.mul n)) ∧
    (∀ (a : Numeral) (d : UInt64), a.rem? d = some (a.rem d)) ∧
    -- the carried remainder
    (∀ d : UInt64, d ≠ 0 → ∀ n r, r = probed (probeRemainder d) 0 n →
      r < d.toNat ∧ probeRemainder? d (n + 1) r = some (probeRemainder d (n + 1) r)) ∧
    ∀ f : Finder, f.Reachable →
      -- one search
      (∀ d, f.report? d.toNat d = some (f.report d)) ∧
      -- searches side by side
      ∀ (ds : List UInt64) (schedule : List Nat) (d : UInt64) (w : Worker),
        (d, w) ∈ ((f.pool ds).run f.bound schedule).workers →
        (∀ k, w.length? = some k →
          k ≤ d.toNat ∧ (¬ d.toNat ∣ repunit k → k + 1 ≤ d.toNat)) ∧
        ∀ k r, w = .carrying k r → probeRemainder? d k r = some (probeRemainder d k r) := by
  refine ⟨?_, Numeral.rem?_eq, ?_, ?_⟩
  · intro a ha n
    exact ⟨a.add?_eq n, Numeral.mul?_eq ha n⟩
  · intro d hd n r hr
    have hprobed := (tellsResidues_probeRemainder d).probed (Nat.zero_mod _).symm n
    have hlt : r < d.toNat := by
      rw [hr, hprobed]
      exact Nat.mod_lt _ (Numeral.toNat_pos hd)
    exact ⟨hlt, probeRemainder?_eq (n + 1) hlt⟩
  · intro f hf
    refine ⟨Finder.report?_eq hf.exact, ?_⟩
    intro ds schedule d w hw
    have hpool := Pool.orderly_run hf.exact (Pool.orderly_start f.strategy f.bound ds f.table)
      schedule
    have hworker : w.OnTrack f.strategy d f.bound := hpool.onTrack (d, w) hw
    refine ⟨fun k => hworker.length_le, ?_⟩
    intro k r hcarrying
    rw [hcarrying] at hworker
    exact probeRemainder?_eq k hworker.remainder_lt

/-- Ninety-nine times the largest word, and by the largest; the repunit of twenty-one ones by the
largest word; the search for seven on a table, within five; and a worker that has come to length
three. -/
theorem words_suffice_largestWord :
    let a : Numeral := ⟨[9, 9]⟩
    let d : UInt64 := 18446744073709551615
    let f := (({ strategy := .table } : Finder).serveAll [.repunit 4, .setLimit 5]).2
    let g : Finder := {}
    a.Canonical ∧ d ≠ 0 ∧ f.Reachable ∧ g.Reachable ∧
      a.mul? 4294967295 = some ⟨[5, 0, 2, 2, 6, 7, 1, 0, 2, 5, 2, 4]⟩ ∧
      a.rem? d = some (.ok 99) ∧
      probeRemainder? d 21 11111111111111111111 =
        some (.ok 430646668853801421, 430646668853801421) ∧
      (∃ f', f.report? 7 7 = some (⟨5, .error (.limitExceeded 7 5)⟩, f')) ∧
      (7, Worker.carrying 3 4) ∈ ((g.pool [7]).run g.bound [0, 0]).workers ∧
      probeRemainder? 7 3 4 = some (.ok 6, 6) := by
  intro a d f g
  have ha : a.Canonical := by decide
  have hd : d ≠ 0 := by decide
  have hf : f.Reachable := ⟨.table, [.repunit 4, .setLimit 5], _, Finder.session_serveAll _ _⟩
  have hg : g.Reachable := ⟨.remainder, [], [], .nil _⟩
  obtain ⟨hproduct, hremainder, hcarried, hfinder⟩ := words_suffice
  have hword : 11111111111111111111 = probed (probeRemainder d) 0 20 := by decide +kernel
  have hworker : (7, Worker.carrying 3 4) ∈ ((g.pool [7]).run g.bound [0, 0]).workers :=
    List.mem_singleton.mpr rfl
  refine ⟨ha, hd, hf, hg, ?_, ?_, ?_, ?_, hworker, ?_⟩
  · rw [(hproduct a ha 4294967295).2]
    decide +kernel
  · rw [hremainder a d]
    decide +kernel
  · rw [(hcarried d hd 20 _ hword).2]
    decide +kernel
  · have hnone : ∀ k, 1 ≤ k → k ≤ 5 → ¬ (7 : UInt64).toNat ∣ repunit k := by
      intro k h1 h5
      interval_cases k <;> decide
    have hreport : (f.report 7).1 = ⟨5, .error (.limitExceeded 7 5)⟩ :=
      (Finder.report_answers hf.exact 7).unique (.exhausted (by decide) hnone)
    refine ⟨(f.report 7).2, ?_⟩
    rw [← hreport]
    exact (hfinder f hf).1 7
  · rw [((hfinder g hg).2 [7] [0, 0] 7 _ hworker).2 3 4 rfl]
    decide +kernel

end Repunits
