/-
  Repunits.Log.Level
  ────────────────────────────────
  **Levels of log events.**

  From `error`, the gravest, to `trace`, the most talkative. A level
  admits itself and all graver ones.
-/

namespace Repunits.Log

/-- How grave or how detailed an event is. -/
inductive Level where
  | error | warn | info | debug | trace
deriving DecidableEq

namespace Level

/-- The rank of a level: one for the gravest. -/
def rank : Level → Nat
  | .error => 1
  | .warn => 2
  | .info => 3
  | .debug => 4
  | .trace => 5

/-- The name in lower case. -/
def name : Level → String
  | .error => "error"
  | .warn => "warn"
  | .info => "info"
  | .debug => "debug"
  | .trace => "trace"

/-- The name as it stands at the head of a log line. -/
def label : Level → String
  | .error => "ERROR"
  | .warn => "WARN"
  | .info => "INFO"
  | .debug => "DEBUG"
  | .trace => "TRACE"

/-- All levels, the gravest first. -/
def all : List Level := [.error, .warn, .info, .debug, .trace]

/-- The level that a user asks for: a quiet run logs errors only, and each request for more
detail adds one level to warnings. -/
def ofVerbosity (verbose : Nat) (quiet : Bool) : Level :=
  if quiet then .error
  else
    match verbose with
    | 0 => .warn
    | 1 => .info
    | 2 => .debug
    | _ => .trace

end Level

end Repunits.Log
