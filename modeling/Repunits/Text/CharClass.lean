/-
  Repunits.Text.CharClass
  ────────────────────────────────
  **Sets of characters, given by ranges of code points.**

  A Unicode property is a finite list of closed ranges. `CharClass.has`
  tests membership, and `CharClass.has_iff` says what the test decides.
-/

namespace Repunits.Text

/-- A set of characters, as closed ranges of code points. -/
structure CharClass where
  ranges : List (Nat × Nat)

/-- Does the class hold this character? -/
def CharClass.has (s : CharClass) (c : Char) : Bool :=
  s.ranges.any fun r => decide (r.1 ≤ c.toNat ∧ c.toNat ≤ r.2)

theorem CharClass.has_iff (s : CharClass) (c : Char) :
    s.has c = true ↔ ∃ r ∈ s.ranges, r.1 ≤ c.toNat ∧ c.toNat ≤ r.2 := by
  simp [CharClass.has]

end Repunits.Text
