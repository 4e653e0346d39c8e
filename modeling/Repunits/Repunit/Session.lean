/-
  Repunits.Repunit.Session
  ────────────────────────────────
  **A finder used over and over.**

  A `Request` is one use of a finder and an `Answer` what it gives back.
  `Finder.serve` handles one request and hands on the finder, table and
  all; `Finder.serveAll` handles a list of them in order.
-/
import Repunits.Repunit.Worker

namespace Repunits

/-- One use of a finder. -/
inductive Request where
  | find (d : UInt64)
  | findAll (ds : List UInt64)
  | findEach (ds : List UInt64)
  /-- Ask the finder's table for a repunit, extending it as needed. -/
  | repunit (k : Nat)
  /-- Set the limit on lengths. -/
  | setLimit (n : Nat)
deriving DecidableEq

/-- What a request gives back. -/
inductive Answer where
  | length (result : Except Fault Nat)
  | lengths (result : Except Fault (List Nat))
  | each (results : List (Except Fault Nat))
  | numeral (result : Except Fault Numeral)
  | done

namespace Finder

/-- Gives up on lengths above `n` from now on. -/
def withLimit (f : Finder) (n : Nat) : Finder := { f with limit := some n }

/-- The repunit of length `k` from the finder's table. -/
def repunit (f : Finder) (k : Nat) : Except Fault Numeral × Finder :=
  let (result, table) := f.table.repunit k
  (result, { f with table })

/-- Handles one request. -/
def serve (f : Finder) : Request → Answer × Finder
  | .find d => let (r, f') := f.find d; (.length r, f')
  | .findAll ds => let (r, f') := f.findAll ds; (.lengths r, f')
  | .findEach ds => let (rs, f') := f.findEach ds; (.each rs, f')
  | .repunit k => let (r, f') := f.repunit k; (.numeral r, f')
  | .setLimit n => (.done, f.withLimit n)

/-- Handles requests in order. -/
def serveAll (f : Finder) : List Request → List Answer × Finder
  | [] => ([], f)
  | q :: qs =>
    let (a, f') := f.serve q
    let (as, f'') := f'.serveAll qs
    (a :: as, f'')

end Finder

end Repunits
