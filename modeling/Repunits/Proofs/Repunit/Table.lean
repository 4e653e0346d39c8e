/-
  Repunits.Proofs.Repunit.Table
  ────────────────────────────────
  **A table holds the repunits of lengths one to its size.**

  `Table.Exact` is the invariant of tables: the entries are the repunits,
  in order, with none left out. An exact table is known by its size
  alone, so that everything a call does to it is said by one number.

  Main results:
    * `Table.Reachable.exact` — every table that can be made is exact.
    * `Table.Exact.eq_of_size_eq` — exact tables of one size are equal.
    * `get?_of_exact`, `repunit_of_exact` — a look-up and an extension in
      terms of the size.
-/
import Repunits.Proofs.Numeral.Carry
import Repunits.Proofs.Repunit.Residue
import Repunits.Repunit.Table

namespace Repunits

/-! ## §1. The numerals written with ones only. -/

namespace Numeral

/-- The numeral written with `k` ones. -/
def ones (k : Nat) : Numeral := ⟨List.replicate k 1⟩

theorem value_ones (k : Nat) : (ones k).value = repunit k := by
  show valueOf (List.replicate k 1) = _
  induction k with
  | zero => rfl
  | succ k ih =>
    rw [List.replicate_succ, valueOf_cons, ih, repunit_succ, Nat.add_comm]
    rfl

theorem digitCount_ones (k : Nat) : (ones k).digitCount = k := List.length_replicate

theorem toText_ones (k : Nat) : (ones k).toText = String.ofList (List.replicate k '1') := by
  unfold toText chars ones
  rw [List.reverse_replicate, List.map_replicate]
  rfl

theorem canonical_ones {k : Nat} (hk : 1 ≤ k) : (ones k).Canonical := by
  refine ⟨?_, ?_, ?_⟩
  · intro h
    have hlen : (List.replicate k (1 : UInt8)).length = 0 := congrArg List.length h
    rw [List.length_replicate] at hlen
    omega
  · intro d hd
    rw [List.eq_of_mem_replicate hd]
    decide
  · intro h
    have h0 := List.eq_of_mem_replicate (List.mem_of_getLast? h)
    exact absurd h0 (by decide)

/-- One digit more: ten times a repunit and one is the next repunit. -/
theorem mul_add_ones {k : Nat} (hk : 1 ≤ k) : ((ones k).mul 10).add 1 = ones (k + 1) := by
  -- Both are in normal form, so that it is enough to compare the numbers.
  apply Canonical.ext ((Canonical.mul _ _).add _) (canonical_ones (by omega))
  rw [value_add, value_mul (canonical_ones hk), value_ones, value_ones, repunit_succ]
  show repunit k * 10 + 1 = _
  omega

end Numeral

namespace Table

open Numeral (ones)

/-! ## §2. Exact tables. -/

/-- The entries are the repunits of lengths one to the table's size, in this order. -/
def Exact (t : Table) : Prop := t.entries.toList = (List.range' 1 t.size).map ones

theorem Exact.eq_of_size_eq {s t : Table} (hs : s.Exact) (ht : t.Exact) (h : s.size = t.size) :
    s = t := by
  have hl : s.entries.toList = t.entries.toList := by rw [hs, ht, h]
  have he : s.entries = t.entries := Array.toList_inj.mp hl
  cases s; cases t
  simp only at he
  subst he
  rfl

theorem exact_new : new.Exact := rfl

theorem getElem?_of_exact {t : Table} (ht : t.Exact) (i : Nat) :
    t.entries[i]? = if i < t.size then some (ones (i + 1)) else none := by
  rw [← Array.getElem?_toList, ht, List.getElem?_map]
  by_cases hi : i < t.size
  · rw [if_pos hi, List.getElem?_range' hi, Option.map_some, Nat.one_mul, Nat.add_comm]
  · rw [if_neg hi, List.getElem?_eq_none (by simpa using hi)]
    rfl

theorem last_of_exact {t : Table} (ht : t.Exact) : t.last = ones t.size := by
  have hpos := t.size_pos
  have h := getElem?_of_exact ht (t.size - 1)
  rw [if_pos (by omega), Nat.sub_add_cancel hpos] at h
  exact (Array.getElem?_eq_some_iff.mp h).2

/-- **One entry more is the next repunit.** -/
theorem Exact.grow {t : Table} (ht : t.Exact) : t.grow.Exact := by
  have hnext : (t.last.mul 10).add 1 = ones (t.size + 1) := by
    rw [last_of_exact ht]
    exact Numeral.mul_add_ones t.size_pos
  unfold Exact
  rw [size_grow, List.range'_concat, List.map_append, ← ht, Nat.one_mul, Nat.add_comm 1]
  show (t.entries.push ((t.last.mul 10).add 1)).toList = _
  rw [hnext, Array.toList_push]
  rfl

theorem Exact.growBy {t : Table} (ht : t.Exact) (n : Nat) : (growBy n t).Exact := by
  induction n generalizing t with
  | zero => exact ht
  | succ n ih => exact ih ht.grow

theorem Exact.extendTo {t : Table} (ht : t.Exact) (k : Nat) : (t.extendTo k).Exact :=
  ht.growBy _

/-- A table that is long enough is left as it is. -/
theorem extendTo_of_le {t : Table} {k : Nat} (h : k ≤ t.size) : t.extendTo k = t := by
  unfold Table.extendTo
  rw [Nat.sub_eq_zero_of_le h]
  rfl

@[simp] theorem extendTo_zero (t : Table) : t.extendTo 0 = t := extendTo_of_le (Nat.zero_le _)

/-- Extending twice extends as far as the further of the two. -/
theorem extendTo_extendTo {t : Table} (ht : t.Exact) (m n : Nat) :
    (t.extendTo m).extendTo n = t.extendTo (max m n) := by
  apply ((ht.extendTo m).extendTo n).eq_of_size_eq (ht.extendTo _)
  rw [size_extendTo, size_extendTo, size_extendTo]
  omega

/-- The entries of an exact table past its first `n`. -/
theorem drop_of_exact {t : Table} (ht : t.Exact) (n : Nat) :
    t.entries.toList.drop n = (List.range' (n + 1) (t.size - n)).map ones := by
  rw [ht, ← List.map_drop, List.drop_range', Nat.mul_one, Nat.add_comm]

/-- A longer exact table begins with the entries of a shorter one. -/
theorem append_drop_of_exact {s t : Table} (hs : s.Exact) (ht : t.Exact) (h : s.size ≤ t.size) :
    s.entries.toList ++ t.entries.toList.drop s.size = t.entries.toList := by
  have htake : t.entries.toList.take s.size = s.entries.toList := by
    rw [ht, ← List.map_take, List.take_range'_of_length_ge h, ← hs]
  rw [← htake, List.take_append_drop]

/-- **Extending appends**: no entry is changed or lost. -/
theorem prefix_extendTo {t : Table} (ht : t.Exact) (k : Nat) :
    t.entries.toList <+: (t.extendTo k).entries.toList := by
  have hle : t.size ≤ (t.extendTo k).size := by
    rw [size_extendTo]
    exact Nat.le_max_left _ _
  rw [← append_drop_of_exact ht (ht.extendTo k) hle]
  exact List.prefix_append _ _

/-- The entries of an exact table denote the repunits. -/
theorem values_of_exact {t : Table} (ht : t.Exact) :
    t.entries.toList.map Numeral.value =
      (List.range' 1 t.size).map fun k => (10 ^ k - 1) / 9 := by
  rw [ht, List.map_map]
  apply List.map_congr_left
  intro k _
  show (ones k).value = _
  rw [Numeral.value_ones, repunit_eq_pow_div]

/-! ## §3. Calls on an exact table. -/

/-- **A look-up finds the lengths up to the table's size, and those only.** -/
theorem get?_of_exact {t : Table} (ht : t.Exact) (k : Nat) :
    t.get? k = if 1 ≤ k ∧ k ≤ t.size then some (ones k) else none := by
  unfold get?
  -- Lengths count from one, entries from zero.
  by_cases hk : k = 0
  · rw [if_pos hk, if_neg (by omega)]
  · rw [if_neg hk, getElem?_of_exact ht, Nat.sub_add_cancel (by omega)]
    by_cases hs : k ≤ t.size
    · rw [if_pos (by omega), if_pos (by omega)]
    · rw [if_neg (by omega), if_neg (by omega)]

theorem repunit_zero_eq (t : Table) : t.repunit 0 = (.error (.invalidInput .zeroLength), t) := rfl

/-- An entry that is there is handed out as it stands. -/
theorem repunit_of_get? {t : Table} {k : Nat} {a : Numeral} (h : t.get? k = some a) :
    t.repunit k = (.ok a, t) := by
  unfold get? at h
  split at h
  · cases h
  · rename_i hk
    obtain ⟨hlt, rfl⟩ := Array.getElem?_eq_some_iff.mp h
    have hle : k ≤ t.size := by
      show k ≤ t.entries.size
      omega
    unfold repunit
    simp only [hk, extendTo_of_le hle, dif_neg, not_false_eq_true]

/-- **An extension answers with the repunit asked for.** -/
theorem repunit_of_exact {t : Table} (ht : t.Exact) {k : Nat} (hk : 1 ≤ k) :
    t.repunit k = (.ok (ones k), t.extendTo k) := by
  have hsize := t.size_extendTo k
  have h := getElem?_of_exact (ht.extendTo k) (k - 1)
  rw [if_pos (by omega), Nat.sub_add_cancel hk] at h
  unfold Table.repunit
  rw [dif_neg (by omega)]
  exact congrArg (fun a => (Except.ok a, t.extendTo k)) (Array.getElem?_eq_some_iff.mp h).2

theorem Exact.repunit {t : Table} (ht : t.Exact) (k : Nat) : (t.repunit k).2.Exact := by
  rcases Nat.eq_zero_or_pos k with rfl | hk
  · exact ht
  · rw [repunit_of_exact ht hk]
    exact ht.extendTo k

/-! ## §4. The tables that can be made. -/

theorem size_ofLength (n : Nat) : (ofLength n).size = max 1 n := size_extendTo new n

/-- A new table of any length, and what asking for repunits makes of a table. -/
inductive Reachable : Table → Prop where
  | ofLength (n : Nat) : Reachable (.ofLength n)
  | repunit {t : Table} (k : Nat) : Reachable t → Reachable (t.repunit k).2

/-- **Every table that can be made is exact.** -/
theorem Reachable.exact {t : Table} (h : t.Reachable) : t.Exact := by
  induction h with
  | ofLength n => exact exact_new.extendTo n
  | repunit k _ ih => exact ih.repunit k

end Table

end Repunits
