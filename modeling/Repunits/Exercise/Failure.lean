/-
  Repunits.Exercise.Failure
  ────────────────────────────────
  **Why a run failed, and where.**

  A failure has a cause, which is a fault of the arithmetic or of input
  and output, and perhaps a context that says what was being done.
  `Failure.chain` tells both, the context first.
-/
import Repunits.Fault

namespace Repunits.Exercise

/-- What can go wrong in reading and writing. -/
inductive IoFault where
  /-- The output takes no more bytes. -/
  | writeLimit
  /-- No file has the name. -/
  | notFound
  /-- The name is that of a directory. -/
  | isDirectory
  /-- A file stands where the path needs a directory. -/
  | notDirectory
  /-- The path, or one name in it, is too long. -/
  | nameTooLong
  /-- The path holds a NUL. -/
  | nulInName
  /-- The bytes are not UTF-8. -/
  | notUtf8
  /-- Any other reason, in words. -/
  | other (text : String)
deriving DecidableEq

/-- The reason in words, with the system's number where it has one. -/
def IoFault.text : IoFault → String
  | .writeLimit => "write limit reached"
  | .notFound => "No such file or directory (os error 2)"
  | .isDirectory => "Is a directory (os error 21)"
  | .notDirectory => "Not a directory (os error 20)"
  | .nameTooLong => "File name too long (os error 36)"
  | .nulInName => "file name contained an unexpected NUL byte"
  | .notUtf8 => "stream did not contain valid UTF-8"
  | .other text => text

/-- What was being done when a run failed. -/
inductive Context where
  /-- The search for a divisor, by its position counted from one. -/
  | divisor (position : Nat) (d : UInt64)
  /-- Working out a pair. -/
  | pair (a b : Int64)
  | inputFile (path : String)
  | standardInput
deriving DecidableEq

/-- The context in words. -/
def Context.text : Context → String
  | .divisor position d => s!"divisor #{position} ({d})"
  | .pair a b => s!"pair {a} {b}"
  | .inputFile path => "Failed to read input file " ++ path
  | .standardInput => "Failed to read standard input"

/-- The cause of a failure. -/
inductive Cause where
  | fault (f : Fault)
  | io (f : IoFault)
deriving DecidableEq

/-- The cause in words. -/
def Cause.text : Cause → String
  | .fault f => f.message
  | .io f => f.text

/-- A failed run. -/
structure Failure where
  context : Option Context := none
  cause : Cause
deriving DecidableEq

/-- The texts of a failure, the outermost first. -/
def Failure.chain (f : Failure) : List String :=
  (f.context.map Context.text).toList ++ [f.cause.text]

end Repunits.Exercise
