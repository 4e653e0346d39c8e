/-
  Repunits.Proofs.Repunit.Order
  ────────────────────────────────
  **The least repunit length is the order of ten.**

  Nine times a repunit and one is a power of ten. So a modulus divides
  nine times the repunit of length `n` just if the `n`-th power of ten is
  one modulo it, and the lengths at which this is the case are the
  multiples of the order of ten. For the modulus `9 * d` the nine cancels
  and the order is the least length of `d`; for the modulus `d` it
  cancels only where `d` is no multiple of three.

  Main results:
    * `pow_ten_eq_one_iff` — repunits and powers of ten.
    * `IsLeastLength.dvd_repunit_iff` — the lengths that will do are the
      multiples of the least one.
    * `find_order` — what a finder finds is that order.
    * `find_lcm` — least lengths respect least common multiples.
-/
import Mathlib.Data.ZMod.Basic
import Mathlib.GroupTheory.OrderOfElement
import Repunits.Proofs.Repunit.Verdict

namespace Repunits

/-! ## §1. The least length as a number. -/

/-- The least repunit length of a number; zero where no repunit is a multiple of it. No length beyond
the number itself has to be tried. -/
def leastLength (d : Nat) : Nat := ((List.range' 1 d).find? fun k => d ∣ repunit k).getD 0

theorem isLeastLength_leastLength {d : Nat} (hd : Nat.Coprime d 10) :
    IsLeastLength d (leastLength d) := by
  obtain ⟨k, hle, hk⟩ := exists_isLeastLength hd
  have hpos := hk.pos
  have hfind : ((List.range' 1 d).find? fun k => d ∣ repunit k) = some k := by
    rw [List.find?_range'_eq_some]
    refine ⟨by simpa using hk.dvd, List.mem_range'_1.mpr ⟨hpos, by omega⟩, ?_⟩
    intro j hj hlt
    simpa using hk.least j hj hlt
  rw [leastLength, hfind]
  exact hk

theorem leastLength_of_not_coprime {d : Nat} (hd : ¬ Nat.Coprime d 10) : leastLength d = 0 := by
  have hnone : ((List.range' 1 d).find? fun k => d ∣ repunit k) = none := by
    rw [List.find?_eq_none]
    intro k hk
    have hpos : 1 ≤ k := (List.mem_range'_1.mp hk).1
    simpa using fun hdvd => hd ((exists_dvd_repunit_iff d).mp ⟨k, hpos, hdvd⟩)
  rw [leastLength, hnone]
  rfl

theorem IsLeastLength.eq_leastLength {d k : Nat} (h : IsLeastLength d k) : k = leastLength d :=
  h.unique (isLeastLength_leastLength h.coprime)

/-! ## §2. Repunits and powers of ten. -/

/-- **A power of ten is one modulo the divisors of nine repunits.** -/
theorem pow_ten_eq_one_iff (m n : Nat) : (10 : ZMod m) ^ n = 1 ↔ m ∣ 9 * repunit n := by
  have hpow : (10 : ZMod m) ^ n = ((9 * repunit n : Nat) : ZMod m) + 1 := by
    have hcast := congrArg (Nat.cast : Nat → ZMod m) (nine_mul_repunit_add_one n)
    push_cast at hcast ⊢
    exact hcast.symm
  rw [hpow, add_eq_right, ZMod.natCast_eq_zero_iff]

/-- Modulo `9 * d` the nine cancels. -/
theorem dvd_repunit_iff_orderOf_nine_mul (d n : Nat) :
    d ∣ repunit n ↔ orderOf (10 : ZMod (9 * d)) ∣ n := by
  rw [orderOf_dvd_iff_pow_eq_one, pow_ten_eq_one_iff, Nat.mul_dvd_mul_iff_left (by decide)]

/-- Modulo `d` the nine cancels if `d` is no multiple of three. -/
theorem dvd_repunit_iff_orderOf {d : Nat} (hd : ¬ 3 ∣ d) (n : Nat) :
    d ∣ repunit n ↔ orderOf (10 : ZMod d) ∣ n := by
  have hnine : Nat.Coprime d (3 ^ 2) := Nat.Prime.coprime_pow_of_not_dvd (by decide) hd
  rw [orderOf_dvd_iff_pow_eq_one, pow_ten_eq_one_iff]
  exact (Nat.Coprime.dvd_mul_left hnine).symm

/-! ## §3. The multiples of the least length. -/

/-- Where the lengths that will do are the multiples of one number, it is the least of them. -/
theorem IsLeastLength.eq_of_dvd_iff {d k o : Nat} (hk : IsLeastLength d k)
    (h : ∀ n, d ∣ repunit n ↔ o ∣ n) : k = o := by
  have hok : o ∣ k := (h k).mp hk.dvd
  have ho : 0 < o := Nat.pos_of_dvd_of_pos hok hk.pos
  refine hk.unique ⟨ho, (h o).mpr (Nat.dvd_refl o), ?_⟩
  intro j hj hlt hj'
  have hle : o ≤ j := Nat.le_of_dvd hj ((h j).mp hj')
  omega

/-- The least length is the order of ten modulo `9 * d`. -/
theorem IsLeastLength.eq_orderOf_nine_mul {d k : Nat} (hk : IsLeastLength d k) :
    k = orderOf (10 : ZMod (9 * d)) :=
  hk.eq_of_dvd_iff (dvd_repunit_iff_orderOf_nine_mul d)

/-- **The lengths that will do** are the multiples of the least one. -/
theorem IsLeastLength.dvd_repunit_iff {d k : Nat} (hk : IsLeastLength d k) (n : Nat) :
    d ∣ repunit n ↔ k ∣ n := by
  rw [hk.eq_orderOf_nine_mul]
  exact dvd_repunit_iff_orderOf_nine_mul d n

namespace Finder

/-- **What a search without a limit finds is an order.** The divisor divides the repunit of a length,
as any table gives it, just if the length found divides that length. The length found is the order
of ten modulo nine times the divisor, and modulo the divisor if it is no multiple of three. -/
theorem find_order {d : UInt64} (hd : Nat.Coprime d.toNat 10) :
    ∃ k, (∀ f : Finder, f.Reachable → f.limit = none → (f.find d).1 = .ok k) ∧
      (∀ (t : Table) (n : Nat), t.Reachable → 1 ≤ n →
        ∃ r, (t.repunit n).1.bind (·.rem d) = .ok r ∧ (r = 0 ↔ k ∣ n)) ∧
      k = orderOf (10 : ZMod (9 * d.toNat)) ∧
      (¬ 3 ∣ d.toNat → k = orderOf (10 : ZMod d.toNat)) := by
  have hk := isLeastLength_leastLength hd
  have hne := ne_zero_of_coprime hd
  refine ⟨leastLength d.toNat, ?_, ?_, hk.eq_orderOf_nine_mul, ?_⟩
  · intro f hf hlimit
    have hfound : Verdict d f.limit (.ok (leastLength d.toNat)) := by
      refine .found hk ?_
      intro L hL
      rw [hlimit] at hL
      cases hL
    exact (find_eq_iff_verdict hf.exact d _).mpr hfound
  · intro t n ht hn
    refine ⟨residue d n, ?_, ?_⟩
    · rw [Table.repunit_of_exact ht.exact hn]
      exact rem_ones hne n
    · rw [residue_eq_zero_iff hne, hk.dvd_repunit_iff]
  · intro hthree
    exact hk.eq_of_dvd_iff (dvd_repunit_iff_orderOf hthree)

/-- Seven, whose least length is six, on a finder and a table that were used before. -/
theorem find_order_seven :
    let f := (({ strategy := .table } : Finder).serveAll [.repunit 4]).2
    let t := ((Table.ofLength 3).repunit 5).2
    Nat.Coprime (7 : UInt64).toNat 10 ∧ f.Reachable ∧ f.limit = none ∧ (f.find 7).1 = .ok 6 ∧
      t.Reachable ∧ (t.repunit 12).1.bind (·.rem 7) = .ok 0 ∧
      orderOf (10 : ZMod 63) = 6 ∧ orderOf (10 : ZMod 7) = 6 := by
  intro f t
  have hd : Nat.Coprime (7 : UInt64).toNat 10 := by decide
  have hf : f.Reachable := ⟨.table, [.repunit 4], _, session_serveAll _ _⟩
  have ht : t.Reachable := .repunit 5 (.ofLength 3)
  obtain ⟨k, hfind, htable, hnine, hthree⟩ := find_order hd
  have hk := hfind f hf rfl
  obtain rfl : k = 6 := by
    have hsix : (f.find 7).1 = .ok 6 := by decide +kernel
    exact Except.ok.inj (hk.symm.trans hsix)
  obtain ⟨r, hr, hzero⟩ := htable t 12 ht (by decide)
  obtain rfl : r = 0 := hzero.mpr (by decide)
  exact ⟨hd, hf, rfl, hk, ht, hr, hnine.symm, (hthree (by decide)).symm⟩

end Finder

/-! ## §4. Least common multiples. -/

/-- **The least length of a least common multiple** is that of the least lengths: a repunit is a
multiple of both numbers just where its length is a multiple of both least lengths. -/
theorem IsLeastLength.lcm {d e m k l : Nat} (hk : IsLeastLength d k) (hl : IsLeastLength e l)
    (hm : IsLeastLength (Nat.lcm d e) m) : m = Nat.lcm k l := by
  apply hm.eq_of_dvd_iff
  intro n
  rw [Nat.lcm_dvd_iff, hk.dvd_repunit_iff, hl.dvd_repunit_iff, Nat.lcm_dvd_iff]

/-- A multiple has a multiple of the least length. -/
theorem IsLeastLength.dvd_of_dvd {d e k l : Nat} (hk : IsLeastLength d k) (hl : IsLeastLength e l)
    (h : d ∣ e) : k ∣ l :=
  (hk.dvd_repunit_iff l).mp (Nat.dvd_trans h hl.dvd)

/-- No factor of ten is in a least common multiple that is in neither number. -/
theorem coprime_lcm {d e n : Nat} (hd : Nat.Coprime d n) (he : Nat.Coprime e n) :
    Nat.Coprime (Nat.lcm d e) n :=
  Nat.Coprime.coprime_dvd_left (Nat.lcm_dvd_mul d e) (Nat.Coprime.mul_left hd he)

namespace Finder

/-- Without a limit a finder finds the least length of every divisor that has one. -/
theorem find_of_unlimited {f : Finder} (hf : f.Reachable) (hlimit : f.limit = none) {d : UInt64}
    (hd : Nat.Coprime d.toNat 10) : (f.find d).1 = .ok (leastLength d.toNat) := by
  rw [find_eq_iff_verdict hf.exact, hlimit]
  exact .found (isLeastLength_leastLength hd) nofun

/-- **Least lengths respect least common multiples.** Finders that search without a limit, each by any
strategy and after any requests, find for the least common multiple of two divisors, if it is a word,
the least common multiple of the lengths they find for the two; and for a multiple of a divisor a
multiple of its length. -/
theorem find_lcm {d e : UInt64} (hd : Nat.Coprime d.toNat 10) (he : Nat.Coprime e.toNat 10) :
    ∃ k l, (∀ f : Finder, f.Reachable → f.limit = none →
        (f.find d).1 = .ok k ∧ (f.find e).1 = .ok l ∧
        (Nat.lcm d.toNat e.toNat < UInt64.size →
          (f.find (UInt64.ofNat (Nat.lcm d.toNat e.toNat))).1 = .ok (Nat.lcm k l))) ∧
      (d.toNat ∣ e.toNat → k ∣ l) := by
  have hk := isLeastLength_leastLength hd
  have hl := isLeastLength_leastLength he
  have hm : Nat.Coprime (Nat.lcm d.toNat e.toNat) 10 := coprime_lcm hd he
  refine ⟨leastLength d.toNat, leastLength e.toNat, ?_, hk.dvd_of_dvd hl⟩
  intro f hf hlimit
  refine ⟨find_of_unlimited hf hlimit hd, find_of_unlimited hf hlimit he, ?_⟩
  intro hfits
  -- The least common multiple loses nothing where it becomes a word.
  have hword : (UInt64.ofNat (Nat.lcm d.toNat e.toNat)).toNat = Nat.lcm d.toNat e.toNat :=
    UInt64.toNat_ofNat_of_lt' hfits
  rw [find_of_unlimited hf hlimit (by rw [hword]; exact hm), hword,
    hk.lcm hl (isLeastLength_leastLength hm)]

/-- Seven and nine, whose lengths are six and nine, and their least common multiple, on finders of both
strategies that were used before. Seven divides that multiple, and six its length. -/
theorem find_lcm_sevenAndNine :
    let f := (({ strategy := .table } : Finder).serveAll [.findAll [13, 4], .repunit 3]).2
    let g := (({ strategy := .remainder } : Finder).serveAll [.findEach [9, 7]]).2
    f.Reachable ∧ g.Reachable ∧ f.limit = none ∧ g.limit = none ∧
      (f.find 7).1 = .ok 6 ∧ (g.find 9).1 = .ok 9 ∧ (f.find 63).1 = .ok 18 ∧
      (g.find 63).1 = .ok 18 ∧ (7 : UInt64).toNat ∣ (63 : UInt64).toNat ∧ 6 ∣ 18 := by
  intro f g
  have hf : f.Reachable := ⟨.table, [.findAll [13, 4], .repunit 3], _, session_serveAll _ _⟩
  have hg : g.Reachable := ⟨.remainder, [.findEach [9, 7]], _, session_serveAll _ _⟩
  have hflimit : f.limit = none := by decide +kernel
  have hglimit : g.limit = none := by decide +kernel
  have hseven : (f.find 7).1 = .ok 6 := by decide +kernel
  have hnine : (g.find 9).1 = .ok 9 := by decide +kernel
  obtain ⟨k, l, hall, -⟩ :=
    find_lcm (d := 7) (e := 9) (by decide) (by decide)
  obtain ⟨hk, -, hlcm⟩ := hall f hf hflimit
  obtain ⟨-, hl, hlcm'⟩ := hall g hg hglimit
  obtain rfl : k = 6 := Except.ok.inj (hk.symm.trans hseven)
  obtain rfl : l = 9 := Except.ok.inj (hl.symm.trans hnine)
  have hdvd : (7 : UInt64).toNat ∣ (63 : UInt64).toNat := by decide
  obtain ⟨m, n, hall', hmultiple⟩ := find_lcm (d := 7) (e := 63) (by decide) (by decide)
  obtain ⟨hm, hn, -⟩ := hall' f hf hflimit
  obtain rfl : m = 6 := Except.ok.inj (hm.symm.trans hseven)
  obtain rfl : n = 18 := Except.ok.inj (hn.symm.trans (hlcm (by decide)))
  exact ⟨hf, hg, hflimit, hglimit, hseven, hnine, hlcm (by decide), hlcm' (by decide), hdvd,
    hmultiple hdvd⟩

end Finder

end Repunits
