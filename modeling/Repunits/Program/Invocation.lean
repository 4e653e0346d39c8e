/-
  Repunits.Program.Invocation
  ────────────────────────────────
  **What a program is asked to do.**

  An `Invocation` is what the arguments of a program come to: the command
  with its options and the source of its input, and how much detail is to
  be logged. An input is a text in UTF-8, read whole, from standard input
  or from the file at a path.
-/
import Repunits.Exercise.Catalogue

namespace Repunits.Program

open Repunits.Exercise

/-! ## §1. Input texts. -/

/-- Where a run takes its input from. -/
inductive Source where
  | standardInput
  | file (path : String)
deriving DecidableEq

/-- What a run says it was doing when its input could not be read. -/
def Source.context : Source → Context
  | .standardInput => .standardInput
  | .file path => .inputFile path

/-- The text that bytes encode. -/
def decode (bytes : ByteArray) : Except IoFault String :=
  match String.fromUTF8? bytes with
  | some text => .ok text
  | none => .error .notUtf8

/-- The text of an input whose bytes were read, or could not be. -/
def Source.text (source : Source) (bytes : Except IoFault ByteArray) : Except Failure String :=
  match bytes.bind decode with
  | .ok text => .ok text
  | .error e => .error { context := some source.context, cause := .io e }

/-! ## §2. Commands. -/

/-- What is to be run. -/
inductive Command where
  | list
  | exercise (e : Exercise) (source : Source)
deriving DecidableEq

/-- A command, with how often more detail was asked for, and whether less was. -/
structure Invocation where
  verbose : Nat
  quiet : Bool
  command : Command
deriving DecidableEq

/-- A run of one exercise over standard input, with no more detail than usual. -/
def standalone (e : Exercise) : Invocation :=
  { verbose := 0, quiet := false, command := .exercise e .standardInput }

end Repunits.Program
