/-
  Repunits.Exercise.Sink
  ────────────────────────────────
  **Where the answers go.**

  A sink keeps what is written to it. One with bounded room takes as much
  of a text as there is room for and then fails; a text that just fits is
  no failure. The exercises write ASCII only, so that a byte is a
  character.
-/
import Repunits.Exercise.Failure

namespace Repunits.Exercise

/-- What was written, and how many more bytes are taken (no bound if there is no number). -/
structure Sink where
  room : Option Nat := none
  written : String := ""
deriving DecidableEq

namespace Sink

/-- A sink that takes everything. -/
def unbounded : Sink := {}

/-- A sink that takes `n` bytes. -/
def ofRoom (n : Nat) : Sink := { room := some n }

/-- Writes a text, or as much of it as there is room for. -/
def write : Sink → String → Except IoFault Unit × Sink
  | { room := none, written }, text => (.ok (), { room := none, written := written ++ text })
  | { room := some n, written }, text =>
    if text.length ≤ n then
      (.ok (), { room := some (n - text.length), written := written ++ text })
    else
      (.error .writeLimit,
        { room := some 0, written := written ++ String.ofList (text.toList.take n) })

end Sink

end Repunits.Exercise
