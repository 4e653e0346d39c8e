/-
  Repunits.Program.Run
  ────────────────────────────────
  **The three programs, from their arguments to their exit code.**

  The program `exercises` has its arguments read; `repunit` and `arith`
  each run one exercise over standard input and ignore their arguments.
  What a user sees of a run is a `Transcript`: the output, the log lines,
  the error text and the exit code. A run prints what its exercise wrote,
  also when it fails; a failing one says why and exits with one. How
  arguments and log filters are read is not decided here (`Libraries`),
  and neither is what a source holds (`Surroundings`).
-/
import Repunits.Program.Buffer
import Repunits.Program.Invocation

namespace Repunits.Program

open Repunits.Exercise

/-! ## §1. What a run leaves. -/

/-- What a user sees of a run. -/
structure Transcript where
  exit : Nat
  out : String := ""
  log : List String := []
  err : String := ""
deriving DecidableEq

/-- The text of a failure on the error stream: what failed, and, if that is only the context, the
cause below it. -/
def failureText (f : Failure) : String :=
  match f.chain with
  | [] => ""
  | [outer] => s!"Error: {outer}\n"
  | outer :: inner :: _ => s!"Error: {outer}\n\nCaused by:\n    {inner}\n"

/-- A run that could not even start. -/
def failed (f : Failure) : Transcript := { exit := 1, err := failureText f }

/-- The line about an exercise in the list: its name, padded, and its summary. -/
def listLine (d : Description) : String :=
  d.name ++ String.ofList (List.replicate (10 - d.name.length) ' ') ++ d.summary ++ "\n"

/-- The size of the buffer in front of the output. -/
def bufferSize : Nat := 8192

/-- A run of an exercise over a text. The buffer is flushed before the result is looked at, so that a
failing run prints what it wrote. -/
def runExercise (e : Exercise) (admits : Log.Admits) (text : String) : Transcript :=
  let outcome := e.run text .unbounded
  let buffer := ((Buffer.ofCapacity bufferSize).write outcome.sink.written).flush
  let ending : Nat × String :=
    match outcome.result with
    | .ok () => (0, "")
    | .error f => (1, failureText f)
  { exit := ending.1
    out := buffer.printed
    log := Log.Journal.lines admits outcome.journal
    err := ending.2 }

/-! ## §2. Libraries. -/

/-- What the programs leave to libraries. -/
structure Libraries where
  /-- Reads arguments. Where they lead to no run, the reader itself shows what a user sees. -/
  readArguments : List String → Except Transcript Invocation
  /-- Reads a log filter; there is none if any part of the text cannot be read. -/
  filter? : String → Option Log.Admits
  /-- Reads a log filter as far as it can be read. -/
  filter : String → Log.Admits

/-- What is logged: what the user's setting says, or, where there is none or none that can be read,
every target down to a level. -/
def Libraries.admits (lib : Libraries) (setting : Option String) (verbose : Nat) (quiet : Bool) :
    Log.Admits :=
  (setting.bind lib.filter?).getD (lib.filter (Log.Level.ofVerbosity verbose quiet).name)

/-- A run of a command, whose input, if it takes any, is at hand or could not be read. The setting
is what the user asks to be logged. -/
def Invocation.perform (inv : Invocation) (lib : Libraries) (setting : Option String)
    (input : Except Failure String) : Transcript :=
  match inv.command with
  | .list => { exit := 0, out := String.join (catalogue.map listLine) }
  | .exercise e _ =>
    match input with
    | .error f => failed f
    | .ok text => runExercise e (lib.admits setting inv.verbose inv.quiet) text

/-! ## §3. Programs. -/

/-- The programs. -/
inductive Application where
  | exercises | repunit | arith
deriving DecidableEq

/-- What a program is asked to do by its arguments. -/
def Application.invocation (p : Application) (lib : Libraries) (args : List String) :
    Except Transcript Invocation :=
  match p with
  | .exercises => lib.readArguments args
  | .repunit => .ok (standalone (.leastLengths {}))
  | .arith => .ok (standalone .pairResults)

/-- What a program can see of its surroundings: the bytes of each source, or why they cannot be read,
and what the user asks to be logged. -/
structure Surroundings where
  read : Source → Except IoFault ByteArray
  setting : Option String

/-- The input of a command; a list takes none. -/
def Command.input (c : Command) (s : Surroundings) : Except Failure String :=
  match c with
  | .list => .ok ""
  | .exercise _ source => source.text (s.read source)

/-- A whole run of a program. -/
def Application.run (p : Application) (lib : Libraries) (args : List String) (s : Surroundings) :
    Transcript :=
  match p.invocation lib args with
  | .error transcript => transcript
  | .ok inv => inv.perform lib s.setting (inv.command.input s)

end Repunits.Program
