/-
  Repunits.Repunit.Basic
  ────────────────────────────────
  **Repunits, and the least one that a number divides.**

  `repunit k` is the number written with `k` ones; the least repunit
  length of `d` is the length of the shortest non-empty repunit that is
  a multiple of `d`.
-/

namespace Repunits

/-- The number written with `k` ones. -/
def repunit : Nat → Nat
  | 0 => 0
  | k + 1 => 10 * repunit k + 1

@[simp] theorem repunit_zero : repunit 0 = 0 := rfl

theorem repunit_succ (k : Nat) : repunit (k + 1) = 10 * repunit k + 1 := rfl

/-- Length `k` is the least at which a repunit is a multiple of `d`. -/
structure IsLeastLength (d k : Nat) : Prop where
  pos : 1 ≤ k
  dvd : d ∣ repunit k
  least : ∀ j, 1 ≤ j → j < k → ¬ d ∣ repunit j

/-- There is at most one least length. -/
theorem IsLeastLength.unique {d k l : Nat} (hk : IsLeastLength d k) (hl : IsLeastLength d l) :
    k = l := by
  rcases Nat.lt_trichotomy k l with h | h | h
  · exact absurd hk.dvd (hl.least k hk.pos h)
  · exact h
  · exact absurd hl.dvd (hk.least l hl.pos h)

end Repunits
