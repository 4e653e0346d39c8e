/-
  Repunits.Proofs.Repunit.Queries
  ────────────────────────────────
  **A table that is asked over and over.**

  A query asks a table for a repunit, looks up one that may be there,
  lists the entries or counts them. Only the first kind can change the
  table, and then it appends the repunits that are missing. So after any
  queries the table is the one they began with, extended as far as the
  furthest of them (`answerAll_snd`), and what it answers next is known
  from its size alone (`answer_of_exact`).

  Main results:
    * `answer_of_exact` — one query.
    * `answerAll_snd` — a run of queries.
    * `answerAll_invariant` — the table after any run, and its answers.
-/
import Repunits.Proofs.Repunit.Table
import Repunits.Proofs.Schedule

namespace Repunits

namespace Table

open Numeral (ones)

/-! ## §1. Queries. -/

/-- One use of a table. -/
inductive Query where
  /-- The repunit of this length, the table being extended if it is too short. -/
  | repunit (k : Nat)
  /-- The repunit of this length, if the table holds it. -/
  | find (k : Nat)
  /-- All entries, in order. -/
  | list
  /-- The number of entries. -/
  | count

/-- What a query gives back. -/
inductive Reply where
  | numeral (result : Except Fault Numeral)
  | entry (found : Option Numeral)
  | entries (all : List Numeral)
  | count (n : Nat)

/-- Answers one query. -/
def answer (t : Table) : Query → Reply × Table
  | .repunit k => let (result, t') := t.repunit k; (.numeral result, t')
  | .find k => (.entry (t.get? k), t)
  | .list => (.entries t.entries.toList, t)
  | .count => (.count t.size, t)

/-- Answers queries in order. -/
def answerAll (t : Table) : List Query → List Reply × Table
  | [] => ([], t)
  | q :: qs =>
    let (reply, t') := t.answer q
    let (replies, t'') := t'.answerAll qs
    (reply :: replies, t'')

/-! ## §2. One query. -/

/-- How far a query extends a table. -/
def Query.reach : Query → Nat
  | .repunit k => k
  | .find _ | .list | .count => 0

/-- The reply due from a table that holds the repunits of lengths one to `n`. -/
def Query.due (n : Nat) : Query → Reply
  | .repunit k => .numeral (if k = 0 then .error (.invalidInput .zeroLength) else .ok (ones k))
  | .find k => .entry (if 1 ≤ k ∧ k ≤ n then some (ones k) else none)
  | .list => .entries ((List.range' 1 n).map ones)
  | .count => .count n

/-- **One query** on an exact table: its reply, and how far it extends the table. -/
theorem answer_of_exact {t : Table} (ht : t.Exact) (q : Query) :
    t.answer q = (q.due t.size, t.extendTo q.reach) := by
  cases q with
  | repunit k =>
    show (Reply.numeral (t.repunit k).1, (t.repunit k).2) = (_, t.extendTo k)
    by_cases hk : k = 0
    · subst hk
      rw [repunit_zero_eq, extendTo_zero]
      rfl
    · rw [repunit_of_exact ht (Nat.pos_of_ne_zero hk), Query.due, if_neg hk]
  | find k =>
    show (Reply.entry (t.get? k), t) = (_, t.extendTo 0)
    rw [get?_of_exact ht, extendTo_zero]
    rfl
  | list =>
    show (Reply.entries t.entries.toList, t) = (_, t.extendTo 0)
    rw [extendTo_zero, ht]
    rfl
  | count =>
    show (Reply.count t.size, t) = (_, t.extendTo 0)
    rw [extendTo_zero]
    rfl

/-! ## §3. Runs of queries. -/

/-- **A run of queries** extends the table as far as the furthest of them, and does nothing else. -/
theorem answerAll_snd {t : Table} (ht : t.Exact) (qs : List Query) :
    (t.answerAll qs).2 = t.extendTo (largest Query.reach qs) := by
  induction qs generalizing t with
  | nil =>
    rw [largest_nil, extendTo_zero]
    rfl
  | cons q qs ih =>
    have hq : (t.answer q).2 = t.extendTo q.reach := congrArg Prod.snd (answer_of_exact ht q)
    show ((t.answer q).2.answerAll qs).2 = _
    rw [hq, ih (ht.extendTo _), extendTo_extendTo ht, largest_cons]

/-- **After any run of queries** a table holds the repunits of lengths one to its size, in order,
and each is written with as many ones as its length says. The next query for a repunit answers with
it and appends what is missing; one of length zero is refused; all others change nothing. -/
theorem answerAll_invariant (n : Nat) (qs : List Query) :
    let t := ((ofLength n).answerAll qs).2
    -- the repunits
    (∀ k, (ones k).value = (10 ^ k - 1) / 9 ∧
      (ones k).toText = String.ofList (List.replicate k '1') ∧ (ones k).digitCount = k) ∧
    -- the table at first, and after the queries
    new = ofLength 0 ∧ (ofLength n).size = max 1 n ∧
    t.entries.toList = (List.range' 1 t.size).map ones ∧
    1 ≤ t.size ∧ t.size = max (max 1 n) (largest Query.reach qs) ∧
    -- the next query
    (∀ k, 1 ≤ k → ∃ t', t.answer (.repunit k) = (.numeral (.ok (ones k)), t') ∧
      t.entries.toList <+: t'.entries.toList ∧ t'.size = max t.size k) ∧
    t.answer (.repunit 0) = (.numeral (.error (.invalidInput .zeroLength)), t) ∧
    (∀ k, t.answer (.find k) = (.entry (t.get? k), t)) ∧
    (∀ k a, t.get? k = some a ↔ (1 ≤ k ∧ k ≤ t.size) ∧ a = ones k) ∧
    t.answer .list = (.entries t.entries.toList, t) ∧
    t.answer .count = (.count t.size, t) := by
  intro t
  have hstart : (ofLength n).Exact := exact_new.extendTo n
  have hrun : t = (ofLength n).extendTo (largest Query.reach qs) := answerAll_snd hstart qs
  have ht : t.Exact := by
    rw [hrun]
    exact hstart.extendTo _
  have hsize : t.size = max (max 1 n) (largest Query.reach qs) := by
    rw [hrun, size_extendTo, size_ofLength]
  refine ⟨?_, rfl, size_ofLength n, ht, t.size_pos, hsize, ?_, rfl, fun _ => rfl, ?_, rfl, rfl⟩
  · intro k
    exact ⟨by rw [Numeral.value_ones, repunit_eq_pow_div], Numeral.toText_ones k,
      Numeral.digitCount_ones k⟩
  · intro k hk
    refine ⟨t.extendTo k, ?_, prefix_extendTo ht k, t.size_extendTo k⟩
    rw [answer_of_exact ht, Query.due, if_neg (by omega)]
    rfl
  · intro k a
    rw [get?_of_exact ht]
    by_cases hk : 1 ≤ k ∧ k ≤ t.size
    · rw [if_pos hk, Option.some.injEq]
      simp only [hk, and_self, true_and]
      exact eq_comm
    · rw [if_neg hk]
      simp [hk]

/-- A look-up that misses, an extension, and a length that is refused. -/
theorem answerAll_missThenExtend :
    let t := ((ofLength 3).answerAll [.find 5, .repunit 5, .repunit 0, .list]).2
    t.size = 5 ∧ t.get? 6 = none ∧
      ∃ t', t.answer (.repunit 9) = (.numeral (.ok (ones 9)), t') ∧ t'.size = 9 := by
  intro t
  obtain ⟨-, -, -, -, -, hsize, hrepunit, -, -, hget, -, -⟩ :=
    answerAll_invariant 3 [.find 5, .repunit 5, .repunit 0, .list]
  have hfive : t.size = 5 := hsize
  obtain ⟨t', ht', -, hnine⟩ := hrepunit 9 (by decide)
  refine ⟨hfive, ?_, t', ht', ?_⟩
  · rw [Option.eq_none_iff_forall_ne_some]
    intro a ha
    have hle : 6 ≤ t.size := ((hget 6 a).mp ha).1.2
    omega
  · have hmax : t'.size = max t.size 9 := hnine
    omega

end Table

end Repunits
