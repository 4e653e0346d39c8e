/-
  Repunits.Repunit.Finder
  ────────────────────────────────
  **Least repunit lengths, for one divisor or many.**

  A `Finder` has a strategy, perhaps a limit on lengths, and a table of
  repunits that lives as long as the finder. The remainder strategy
  carries `repunit k mod d` from one length to the next and leaves the
  table alone; the table strategy divides the table's entries. A search
  over many divisors either takes them one by one and stops at the first
  failure, or gives each divisor to a worker of its own (`Worker`), the
  workers sharing the table.
-/
import Repunits.Repunit.Access
import Repunits.Repunit.Search

namespace Repunits

/-! ## §1. Strategies and their probes. -/

/-- How divisibility is tested. -/
inductive Strategy where
  /-- Divide the repunits of the table. -/
  | table
  /-- Carry the remainder from one length to the next. -/
  | remainder
deriving DecidableEq

/-- Zero is no divisor, and a multiple of 2 or 5 divides no repunit. -/
def checkDivisor (d : UInt64) : Except Fault Unit :=
  if d = 0 then .error (.invalidInput .zeroDivisor)
  else if d % 2 = 0 ∨ d % 5 = 0 then .error (.notCoprime d)
  else .ok ()

/-- The remainder of the next repunit, from that of the repunit before. -/
def nextRemainder (d : UInt64) (r : Nat) : Nat := (r * 10 + 1) % d.toNat

/-- Tells `repunit k mod d` at its `k`-th call; its state is the last remainder, zero at first. -/
def probeRemainder (d : UInt64) (_length : Nat) (r : Nat) : Except Fault UInt64 × Nat :=
  let r' := nextRemainder d r
  (.ok (UInt64.ofNat r'), r')

/-- Tells the remainder of the table's repunit of length `k`, extending the table as needed. -/
def probeTable (d : UInt64) (k : Nat) (t : Table) : Except Fault UInt64 × Table :=
  let (found, t') := t.repunit k
  (found.bind (·.rem d), t')

/-! ## §2. One divisor. -/

/-- Finds least repunit lengths; the table outlives each search. -/
structure Finder where
  table : Table := .new
  strategy : Strategy := .remainder
  limit : Option Nat := none

namespace Finder

/-- No length above this one is tried. -/
def bound (f : Finder) : Nat := f.limit.getD maxLength

/-- The search for one divisor, with its report. -/
def report (f : Finder) (d : UInt64) : Report × Finder :=
  match checkDivisor d with
  | .error e => (⟨0, .error e⟩, f)
  | .ok () =>
    match f with
    | { table, strategy := .remainder, limit } =>
      ((search d limit (probeRemainder d) 0).1, { table, strategy := .remainder, limit })
    | { table, strategy := .table, limit } =>
      let (report, table') := search d limit (probeTable d) table
      (report, { table := table', strategy := .table, limit })

/-- The least repunit length of one divisor. -/
def find (f : Finder) (d : UInt64) : Except Fault Nat × Finder :=
  let (report, f') := f.report d
  (report.result, f')

/-! ## §3. Many divisors, one after the other. -/

/-- The lengths of all divisors, or the first fault; no divisor after a failing one is searched. -/
def findAll (f : Finder) : List UInt64 → Except Fault (List Nat) × Finder
  | [] => (.ok [], f)
  | d :: ds =>
    match f.find d with
    | (.error e, f') => (.error e, f')
    | (.ok k, f') =>
      match f'.findAll ds with
      | (.error e, f'') => (.error e, f'')
      | (.ok ks, f'') => (.ok (k :: ks), f'')

end Finder

end Repunits
