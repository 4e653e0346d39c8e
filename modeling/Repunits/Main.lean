/-
  Repunits.Main
  ────────────────────────────────
  **The programs, on the real input and output.**

  Everything that is decided is decided by `Application.invocation` and
  `Invocation.perform`; here the arguments, the environment, the input
  file or standard input are read, and the transcript is printed. The
  input is read only by a run that takes one.
-/
import Repunits.Program.Standard

namespace Repunits.Program

open Repunits.Exercise

/-- The fault behind an error of the system. -/
def faultOfError (e : IO.Error) : IoFault :=
  match e with
  | .noFileOrDirectory .. => .notFound
  | .inappropriateType _ code _ => if code = 20 then .notDirectory else .isDirectory
  | .invalidArgument _ code details =>
    if code = 36 then .nameTooLong else .other details
  | other => .other (toString other)

/-- The bytes of a source. -/
def readSource (source : Source) : IO (Except IoFault ByteArray) := do
  try
    match source with
    | .standardInput => return .ok (← (← IO.getStdin).readBinToEnd)
    | .file path => return .ok (← IO.FS.readBinFile path)
  catch e => return .error (faultOfError e)

/-- The input of a command; a list takes none. -/
def readInput (command : Command) : IO (Except Failure String) := do
  match command with
  | .list => return .ok ""
  | .exercise _ source => return source.text (← readSource source)

/-- Prints a transcript and hands on its exit code. -/
def printTranscript (t : Transcript) : IO UInt32 := do
  for line in t.log do
    IO.eprintln line
  IO.print t.out
  IO.eprint t.err
  return UInt32.ofNat t.exit

/-- Runs a program. -/
def Application.execute (p : Application) (args : List String) : IO UInt32 := do
  match p.invocation .standard args with
  | .error transcript => printTranscript transcript
  | .ok inv =>
    let setting ← IO.getEnv "RUST_LOG"
    printTranscript (inv.perform .standard setting (← readInput inv.command))

/-- The program `repunit`. -/
def repunitMain (args : List String) : IO UInt32 := Application.repunit.execute args

/-- The program `arith`. -/
def arithMain (args : List String) : IO UInt32 := Application.arith.execute args

end Repunits.Program

/-- The program `exercises`. -/
def main (args : List String) : IO UInt32 := Repunits.Program.Application.exercises.execute args
