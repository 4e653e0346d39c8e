/-
  Repunits.Program.CommandLine
  ────────────────────────────────
  **Reading a command line.**

  A command line has options, a command, and options of the command. An
  option is written long (`--input FILE`, `--input=FILE`) or short
  (`-i FILE`, `-iFILE`, `-i=FILE`), and short ones can share a dash.
  Arguments are read from left to right, and the first one that asks for
  help or for the version, or that does not fit, settles the matter.
-/
import Repunits.Program.Invocation
import Repunits.Text.Integer

namespace Repunits.Program

open Repunits.Exercise

/-! ## §1. Options and commands. -/

/-- The options. -/
inductive Opt where
  | verbose | quiet | help | version | strategy | maxLength | parallel | input
deriving DecidableEq

namespace Opt

/-- The name after two dashes. -/
def long : Opt → String
  | .verbose => "verbose"
  | .quiet => "quiet"
  | .help => "help"
  | .version => "version"
  | .strategy => "strategy"
  | .maxLength => "max-length"
  | .parallel => "parallel"
  | .input => "input"

/-- The letter after one dash. -/
def short? : Opt → Option Char
  | .verbose => some 'v'
  | .quiet => some 'q'
  | .help => some 'h'
  | .version => some 'V'
  | .strategy => some 's'
  | .maxLength => none
  | .parallel => some 'p'
  | .input => some 'i'

/-- Does a value follow the option? -/
def takesValue : Opt → Bool
  | .strategy | .maxLength | .input => true
  | _ => false

end Opt

/-- The parts of a command line: what stands before the command, and after each of them. -/
inductive Scope where
  | root | leastLengths | pairResults | list
deriving DecidableEq

namespace Scope

/-- The options that a part knows. -/
def options : Scope → List Opt
  | .root => [.verbose, .quiet, .help, .version]
  | .leastLengths => [.verbose, .quiet, .help, .strategy, .maxLength, .parallel, .input]
  | .pairResults => [.verbose, .quiet, .help, .input]
  | .list => [.verbose, .quiet, .help]

/-- The option of that name. -/
def long? (scope : Scope) (name : String) : Option Opt := scope.options.find? (·.long = name)

/-- The option of that letter. -/
def short? (scope : Scope) (c : Char) : Option Opt := scope.options.find? (·.short? = some c)

/-- The command of that name. -/
def ofCommand? (name : String) : Option Scope :=
  if name = "repunit" then some .leastLengths
  else if name = "arith" then some .pairResults
  else if name = "list" then some .list
  else none

end Scope

/-! ## §2. What options set. -/

/-- Why a command line does not lead to a run. -/
inductive Stop where
  | usage | help | version
deriving DecidableEq

/-- What the options of one part have set. -/
structure Settings where
  verbose : Nat := 0
  quiet : Bool := false
  strategy : Option Strategy := none
  maxLength : Option Nat := none
  parallel : Bool := false
  input : Option String := none
deriving DecidableEq

/-- Calls for more detail are counted in a byte, and any further ones count for nothing. -/
def maxVerbose : Nat := 255

namespace Settings

/-- An option without value. All but the call for more detail may be given once. -/
def flag (s : Settings) : Opt → Except Stop Settings
  | .verbose => .ok { s with verbose := min (s.verbose + 1) maxVerbose }
  | .quiet => if s.quiet then .error .usage else .ok { s with quiet := true }
  | .parallel => if s.parallel then .error .usage else .ok { s with parallel := true }
  | .help => .error .help
  | .version => .error .version
  | _ => .error .usage

/-- The strategy of that name. -/
def strategy? (name : List Char) : Option Strategy :=
  if name = "table".toList then some .table
  else if name = "remainder".toList then some .remainder
  else none

/-- An option with its value, which may be given once. -/
def store (s : Settings) (o : Opt) (value : List Char) : Except Stop Settings :=
  match o with
  | .strategy =>
    match s.strategy, strategy? value with
    | none, some strategy => .ok { s with strategy := some strategy }
    | _, _ => .error .usage
  | .maxLength =>
    match s.maxLength, Text.readBelow? UInt64.size value with
    | none, some n => .ok { s with maxLength := some n }
    | _, _ => .error .usage
  | .input =>
    match s.input, value with
    | none, _ :: _ => .ok { s with input := some (String.ofList value) }
    | _, _ => .error .usage
  | _ => .error .usage

end Settings

/-! ## §3. Arguments. -/

/-- What one argument leads to. -/
inductive Reading where
  /-- More settings; an option may still wait for its value. -/
  | more (settings : Settings) (waiting : Option Opt)
  /-- The argument is no option. -/
  | word
  /-- Two dashes alone: no options follow. -/
  | endOfOptions

/-- Options that share a dash, letter by letter. What follows the letter of an option with a value
is that value, after an equals sign if there is one. -/
def readLetters (scope : Scope) : List Char → Settings → Except Stop Reading
  | [], s => .ok (.more s none)
  | c :: cs, s =>
    match scope.short? c with
    | none => .error .usage
    | some o =>
      if o.takesValue then
        match cs with
        | [] => .ok (.more s (some o))
        | '=' :: value => (s.store o value).map fun s' => .more s' none
        | value => (s.store o value).map fun s' => .more s' none
      else
        match s.flag o with
        | .error stop => .error stop
        | .ok s' => readLetters scope cs s'

/-- One long option, with what follows its equals sign. -/
def readLong (scope : Scope) (name : List Char) (value : Option (List Char)) (s : Settings) :
    Except Stop Reading :=
  match scope.long? (String.ofList name) with
  | none => .error .usage
  | some o =>
    match o.takesValue, value with
    | true, none => .ok (.more s (some o))
    | true, some v => (s.store o v).map fun s' => .more s' none
    | false, none => (s.flag o).map fun s' => .more s' none
    | false, some _ => .error .usage

/-- One argument. -/
def readArgument (scope : Scope) (arg : List Char) (s : Settings) : Except Stop Reading :=
  match arg with
  | ['-', '-'] => .ok .endOfOptions
  | '-' :: '-' :: cs =>
    match cs.dropWhile (· ≠ '=') with
    | [] => readLong scope cs none s
    | _ :: value => readLong scope (cs.takeWhile (· ≠ '=')) (some value) s
  | '-' :: c :: cs => readLetters scope (c :: cs) s
  | _ => .ok .word

/-- May the argument be the value of the option before it? A dash in front would make it an option
of its own. -/
def isValue (arg : List Char) : Bool := arg = ['-'] || arg.head? ≠ some '-'

/-- Reads the options of one part up to a word or the end, and returns the arguments from that
word on. After two dashes nothing may follow. -/
def readOptions (scope : Scope) :
    List String → Option Opt → Settings → Except Stop (Settings × List String)
  | [], none, s => .ok (s, [])
  | [], some _, _ => .error .usage
  | arg :: rest, some o, s =>
    if isValue arg.toList then
      match s.store o arg.toList with
      | .error stop => .error stop
      | .ok s' => readOptions scope rest none s'
    else .error .usage
  | arg :: rest, none, s =>
    match readArgument scope arg.toList s with
    | .error stop => .error stop
    | .ok .word => .ok (s, arg :: rest)
    | .ok .endOfOptions => if rest.isEmpty then .ok (s, []) else .error .usage
    | .ok (.more s' waiting) => readOptions scope rest waiting s'

/-! ## §4. The whole command line. -/

/-- Where the settings say that the input is. -/
def Settings.source (s : Settings) : Source :=
  match s.input with
  | none => .standardInput
  | some path => .file path

/-- The options of the repunit exercise that the settings choose. -/
def Settings.options (s : Settings) : Exercise.Options :=
  { strategy := s.strategy.getD .remainder, limit := s.maxLength, parallel := s.parallel }

/-- How often the settings of both parts ask for more detail: calls after the command take the place
of those before it. -/
def verboseOf (before after : Settings) : Nat :=
  if after.verbose = 0 then before.verbose else after.verbose

/-- The command of a part, with its settings. -/
def Scope.command (scope : Scope) (s : Settings) : Except Stop Command :=
  match scope with
  | .root => .error .usage
  | .leastLengths => .ok (.exercise (.leastLengths s.options) s.source)
  | .pairResults => .ok (.exercise .pairResults s.source)
  | .list => .ok .list

/-- The command `help` takes the name of one command at most. -/
def readHelp : List String → Stop
  | [] => .help
  | [name] => if name = "help" ∨ (Scope.ofCommand? name).isSome then .help else .usage
  | _ => .usage

/-- Reads a command line. -/
def readCommandLine (args : List String) : Except Stop Invocation := do
  let (before, rest) ← readOptions .root args none {}
  match rest with
  | [] => .error .usage
  | name :: rest =>
    if name = "help" then .error (readHelp rest)
    else
      match Scope.ofCommand? name with
      | none => .error .usage
      | some scope =>
        let (after, unread) ← readOptions scope rest none {}
        if unread.isEmpty then
          let command ← scope.command after
          return { verbose := verboseOf before after, quiet := before.quiet || after.quiet, command }
        else .error .usage

end Repunits.Program
