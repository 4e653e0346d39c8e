/-
  Repunits.Repunit.Table
  ────────────────────────────────
  **A table of repunits that grows on demand.**

  Entry `k`, counted from one, is meant to be the repunit of length `k`.
  Growing appends `10 · last + 1`; nothing is ever removed, and the table
  is never empty.
-/
import Repunits.Numeral
import Repunits.Repunit.Basic

namespace Repunits

/-- The repunits found so far, in order of length. -/
structure Table where
  entries : Array Numeral
  nonempty : 0 < entries.size := by decide

namespace Table

/-- The table that holds the number one. -/
def new : Table := ⟨#[.one], by decide⟩

/-- How many repunits the table holds. -/
def size (t : Table) : Nat := t.entries.size

/-- The entry of length `k`, if the table holds it. -/
def get? (t : Table) (k : Nat) : Option Numeral :=
  if k = 0 then none else t.entries[k - 1]?

/-- The longest entry. -/
def last (t : Table) : Numeral := t.entries.back t.nonempty

/-- One entry more. -/
def grow (t : Table) : Table :=
  ⟨t.entries.push ((t.last.mul 10).add 1), by simp⟩

/-- `n` entries more. -/
def growBy : Nat → Table → Table
  | 0, t => t
  | n + 1, t => growBy n t.grow

/-- The table with at least `k` entries. -/
def extendTo (t : Table) (k : Nat) : Table := growBy (k - t.size) t

/-- A new table with at least `k` entries. -/
def ofLength (k : Nat) : Table := new.extendTo k

theorem size_pos (t : Table) : 0 < t.size := t.nonempty

theorem size_grow (t : Table) : t.grow.size = t.size + 1 := by simp [size, grow]

theorem size_growBy (n : Nat) (t : Table) : (growBy n t).size = t.size + n := by
  induction n generalizing t with
  | zero => rfl
  | succ n ih => rw [growBy, ih, size_grow]; omega

/-- Extending never shrinks the table, and grows it no further than asked. -/
theorem size_extendTo (t : Table) (k : Nat) : (t.extendTo k).size = max t.size k := by
  rw [extendTo, size_growBy]; omega

/-- The repunit of length `k`, and the table extended as far as that needs. -/
def repunit (t : Table) (k : Nat) : Except Fault Numeral × Table :=
  if h : k = 0 then (.error (.invalidInput .zeroLength), t)
  else
    let t' := t.extendTo k
    have : k - 1 < t'.entries.size := by
      have := t.size_extendTo k
      simp only [size] at this
      show k - 1 < (t.extendTo k).entries.size
      omega
    (.ok t'.entries[k - 1], t')

end Table

end Repunits
