/-
  Repunits.Log.Event
  ────────────────────────────────
  **The events that a run can log.**

  An event has a level, a target, which is the path of the part of the
  program that it comes from, and a text with its fields. Whether it is
  logged is asked of its level and its target only.
-/
import Repunits.Log.Level
import Repunits.Repunit.Finder

namespace Repunits.Log

/-- Something worth logging. -/
inductive Event where
  /-- The repunit exercise has read its divisors. -/
  | started (count : Nat) (strategy : Strategy) (parallel : Bool)
  /-- A length is about to be probed. -/
  | tested (divisor : UInt64) (length : Nat)
  /-- A length was found. -/
  | found (divisor : UInt64) (length : Nat)
  /-- All divisors of the repunit exercise are done. -/
  | finished (cached : Nat)
  /-- The results of a pair are about to be written. -/
  | formatting (a b : Int64)
deriving DecidableEq

/-- The name of a strategy in a log line. -/
def strategyName : Strategy → String
  | .table => "Table"
  | .remainder => "Remainder"

namespace Event

/-- How grave the event is. -/
def level : Event → Level
  | .started .. => .info
  | .tested .. => .trace
  | .found .. => .debug
  | .finished .. => .info
  | .formatting .. => .debug

/-- The part of the program that the event comes from. -/
def target : Event → String
  | .started .. => "exercises::solutions::repunit"
  | .tested .. => "math::repunit"
  | .found .. => "math::repunit"
  | .finished .. => "exercises::solutions::repunit"
  | .formatting .. => "exercises::solutions::arithmetic"

/-- The message with its fields. -/
def text : Event → String
  | .started count strategy parallel =>
    let named := strategyName strategy
    s!"searching repunit multiples count={count} strategy={named} parallel={parallel}"
  | .tested divisor length => s!"test divisor={divisor} length={length}"
  | .found divisor length => s!"found repunit multiple divisor={divisor} length={length}"
  | .finished cached => s!"repunit search done cached_repunits={cached}"
  | .formatting a b => s!"formatting pair a={a} b={b}"

/-- The whole log line. -/
def line (e : Event) : String := s!"{e.level.label} {e.target}: {e.text}"

end Event

/-- Which events are logged, by level and target. -/
abbrev Admits := Level → String → Bool

/-- Is the event logged? -/
def Event.isAdmitted (admits : Admits) (e : Event) : Bool := admits e.level e.target

end Repunits.Log
