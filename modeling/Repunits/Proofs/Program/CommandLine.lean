/-
  Repunits.Proofs.Program.CommandLine
  ────────────────────────────────
  **Every choice of options has a command line.**

  Arguments set options one after the other (`Sets`), so that a command
  line is read by reading its parts. An option that is written with two
  dashes and an equals sign sets what the value says, whatever characters
  the value holds. So each exercise can be asked for with any options, any
  source and any level of detail that the program knows.

  That they can be is all that the programs ask of the reading of
  arguments (`Libraries.ReadsOptions`).

  Main results:
    * `sets_store`, `sets_flag` — an option, with its value or without.
    * `readCommandLine_commandLine` — the whole command line.
    * `Libraries.readsOptions_standard` — the reader of the programs does
      what they ask of it.
-/
import Repunits.Program.Standard
import Repunits.Proofs.Text.Integer
import Repunits.Proofs.Text.Words

namespace Repunits.Program

open Repunits.Exercise

/-! ## §1. Arguments one after the other. -/

/-- The arguments lead from settings to settings, whatever follows them. -/
def Sets (scope : Scope) (args : List String) (s s' : Settings) : Prop :=
  ∀ rest, readOptions scope (args ++ rest) none s = readOptions scope rest none s'

variable {scope : Scope} {args args' : List String} {s s' s'' : Settings}

theorem sets_nil (s : Settings) : Sets scope [] s s := fun _ => rfl

theorem Sets.append (h : Sets scope args s s') (h' : Sets scope args' s' s'') :
    Sets scope (args ++ args') s s'' := by
  intro rest
  rw [List.append_assoc, h, h']

theorem sets_of_readArgument {arg : String}
    (h : readArgument scope arg.toList s = .ok (.more s' none)) : Sets scope [arg] s s' := by
  intro rest
  rw [List.singleton_append, readOptions, h]

/-- Arguments that are all there are lead to what they set. -/
theorem Sets.readOptions_eq (h : Sets scope args s s') :
    readOptions scope args none s = .ok (s', []) := by
  have hend := h []
  rw [List.append_nil] at hend
  exact hend

/-! ## §2. One option. -/

namespace Opt

/-- The argument that gives an option without value. -/
def plain (o : Opt) : String := "--" ++ o.long

/-- The argument that gives an option with its value. -/
def withValue (o : Opt) (value : String) : String := "--" ++ o.long ++ "=" ++ value

theorem equals_notMem_long (o : Opt) : '=' ∉ o.long.toList := by
  cases o <;> decide

end Opt

/-- An option is known by its name where it belongs. -/
theorem Scope.long?_long {o : Opt} (h : o ∈ scope.options) : scope.long? o.long = some o := by
  revert h
  cases scope <;> cases o <;> decide

theorem readArgument_plain (o : Opt) (s : Settings) :
    readArgument scope o.plain.toList s = readLong scope o.long.toList none s := by
  cases o <;> rfl

/-- What stands behind the first equals sign is the value. -/
theorem readArgument_withValue (o : Opt) (value : String) (s : Settings) :
    readArgument scope (o.withValue value).toList s =
      readLong scope o.long.toList (some value.toList) s := by
  have hchars : (o.withValue value).toList =
      '-' :: '-' :: (o.long.toList ++ '=' :: value.toList) := by
    simp only [Opt.withValue, String.toList_append, List.append_assoc]
    rfl
  have hne : o.long.toList ++ '=' :: value.toList ≠ [] := by simp
  rw [hchars, readArgument]
  · rw [Text.dropWhile_ne o.equals_notMem_long, Text.takeWhile_ne o.equals_notMem_long]
  · exact hne

variable {o : Opt}

/-- **An option without value** sets what it stands for. -/
theorem sets_flag (hscope : o ∈ scope.options) (hvalue : o.takesValue = false)
    (h : s.flag o = .ok s') : Sets scope [o.plain] s s' := by
  apply sets_of_readArgument
  rw [readArgument_plain, readLong, String.ofList_toList, Scope.long?_long hscope]
  dsimp only
  rw [hvalue, h]
  rfl

/-- **An option with its value** sets what the value says. -/
theorem sets_store {value : String} (hscope : o ∈ scope.options) (hvalue : o.takesValue = true)
    (h : s.store o value.toList = .ok s') : Sets scope [o.withValue value] s s' := by
  apply sets_of_readArgument
  rw [readArgument_withValue, readLong, String.ofList_toList, Scope.long?_long hscope]
  dsimp only
  rw [hvalue]
  dsimp only
  rw [h]
  rfl

/-! ## §3. Settings and the arguments for them. -/

/-- The arguments for a level of detail. -/
def detailArguments (verbose : Nat) (quiet : Bool) : List String :=
  List.replicate verbose Opt.verbose.plain ++ if quiet then [Opt.quiet.plain] else []

/-- The name by which a strategy is asked for. -/
def strategyName : Strategy → String
  | .table => "table"
  | .remainder => "remainder"

/-- The arguments for the options of the repunit exercise. -/
def optionArguments (o : Exercise.Options) : List String :=
  [Opt.strategy.withValue (strategyName o.strategy)] ++
    (o.limit.map fun n => Opt.maxLength.withValue (toString n)).toList ++
    if o.parallel then [Opt.parallel.plain] else []

/-- The arguments for a source. -/
def sourceArguments : Source → List String
  | .standardInput => []
  | .file path => [Opt.input.withValue path]

/-- The path of a source that is a file. -/
def Source.path? : Source → Option String
  | .standardInput => none
  | .file path => some path

/-- Calls for more detail are counted up to the largest byte. -/
theorem sets_verbose (n : Nat) :
    Sets scope (List.replicate n Opt.verbose.plain) {} { verbose := min n maxVerbose } := by
  induction n with
  | zero => exact sets_nil {}
  | succ n ih =>
    have hlast : Sets scope [Opt.verbose.plain] { verbose := min n maxVerbose }
        { verbose := min (min n maxVerbose + 1) maxVerbose } :=
      sets_flag (by cases scope <;> decide) rfl rfl
    have hcount : min (min n maxVerbose + 1) maxVerbose = min (n + 1) maxVerbose := by omega
    rw [List.replicate_succ', ← hcount]
    exact ih.append hlast

theorem sets_detailArguments (verbose : Nat) (quiet : Bool) :
    Sets scope (detailArguments verbose quiet) {} { verbose := min verbose maxVerbose, quiet } := by
  have hverbose : Sets scope (List.replicate verbose Opt.verbose.plain) {}
      { verbose := min verbose maxVerbose } := sets_verbose verbose
  cases quiet with
  | false => exact hverbose.append (sets_nil _)
  | true =>
    apply hverbose.append
    exact sets_flag (by cases scope <;> decide) rfl rfl

/-- A limit is written in decimal, and must be that of a word. -/
theorem sets_optionArguments {options : Exercise.Options}
    (hlimit : ∀ n, options.limit = some n → n < UInt64.size) (verbose : Nat) (quiet : Bool) :
    Sets .leastLengths (optionArguments options) { verbose, quiet }
      { verbose, quiet, strategy := some options.strategy, maxLength := options.limit,
        parallel := options.parallel } := by
  obtain ⟨strategy, limit, parallel⟩ := options
  have hstrategy : Sets .leastLengths [Opt.strategy.withValue (strategyName strategy)]
      { verbose, quiet } { verbose, quiet, strategy := some strategy } := by
    apply sets_store (by decide) rfl
    cases strategy <;> rfl
  have hmaxLength : Sets .leastLengths
      (limit.map fun n => Opt.maxLength.withValue (toString n)).toList
      { verbose, quiet, strategy := some strategy }
      { verbose, quiet, strategy := some strategy, maxLength := limit } := by
    cases limit with
    | none => exact sets_nil _
    | some n =>
      apply sets_store (by decide) rfl
      rw [Settings.store, Text.readBelow?_toString (hlimit n rfl)]
  have hparallel : Sets .leastLengths (if parallel then [Opt.parallel.plain] else [])
      { verbose, quiet, strategy := some strategy, maxLength := limit }
      { verbose, quiet, strategy := some strategy, maxLength := limit, parallel } := by
    cases parallel with
    | false => exact sets_nil _
    | true => exact sets_flag (by decide) rfl rfl
  exact (hstrategy.append hmaxLength).append hparallel

theorem sets_sourceArguments {source : Source} (hscope : Opt.input ∈ scope.options)
    (hpath : source ≠ .file "") (hinput : s.input = none) :
    Sets scope (sourceArguments source) s { s with input := source.path? } := by
  cases source with
  | standardInput =>
    have hsame : { s with input := none } = s := by rw [← hinput]
    rw [Source.path?, hsame]
    exact sets_nil s
  | file path =>
    apply sets_store hscope rfl
    have hne : path.toList ≠ [] := by simpa using hpath
    obtain ⟨c, cs, hchars⟩ := List.exists_cons_of_ne_nil hne
    unfold Settings.store
    dsimp only
    rw [hinput, hchars]
    dsimp only
    rw [← hchars, String.ofList_toList]
    rfl

/-! ## §4. Command lines. -/

/-- A command line that asks for an exercise. -/
def commandLine (verbose : Nat) (quiet : Bool) (e : Exercise) (source : Source) : List String :=
  match e with
  | .leastLengths o =>
    "repunit" :: (detailArguments verbose quiet ++ optionArguments o ++ sourceArguments source)
  | .pairResults => "arith" :: (detailArguments verbose quiet ++ sourceArguments source)

/-- The program knows the options: the limit is that of a word. -/
def Known : Exercise → Prop
  | .leastLengths o => ∀ n, o.limit = some n → n < UInt64.size
  | .pairResults => True

/-- A command line without options before the command. -/
theorem readCommandLine_of_options {name : String} {args : List String} {after : Settings}
    {command : Command} (hroot : readOptions .root (name :: args) none {} = .ok ({}, name :: args))
    (hhelp : name ≠ "help") (hname : Scope.ofCommand? name = some scope)
    (hafter : readOptions scope args none {} = .ok (after, []))
    (hcommand : scope.command after = .ok command) :
    readCommandLine (name :: args) =
      .ok { verbose := after.verbose, quiet := after.quiet, command } := by
  have hverbose : verboseOf {} after = after.verbose := by
    unfold verboseOf
    split
    · rename_i hzero
      exact hzero.symm
    · rfl
  unfold readCommandLine
  rw [hroot]
  dsimp only [bind, Except.bind]
  rw [if_neg hhelp, hname]
  dsimp only
  rw [hafter]
  dsimp only
  rw [hcommand, hverbose]
  rfl

/-- **Every choice of options has a command line**, with any level of detail and any source whose
path is not empty. -/
theorem readCommandLine_commandLine {e : Exercise} {source : Source} (hknown : Known e)
    (hpath : source ≠ .file "") (verbose : Nat) (quiet : Bool) :
    readCommandLine (commandLine verbose quiet e source) =
      .ok { verbose := min verbose maxVerbose, quiet, command := .exercise e source } := by
  have hdetail {scope : Scope} : Sets scope (detailArguments verbose quiet) {} _ :=
    sets_detailArguments verbose quiet
  cases e with
  | leastLengths o =>
    have hoptions := hdetail.append (sets_optionArguments hknown _ quiet)
    have hall := hoptions.append (sets_sourceArguments (by decide) hpath rfl)
    refine (readCommandLine_of_options rfl (by decide) rfl hall.readOptions_eq rfl).trans ?_
    cases source <;> rfl
  | pairResults =>
    have hall : Sets .pairResults _ _ _ :=
      hdetail.append (sets_sourceArguments (by decide) hpath rfl)
    refine (readCommandLine_of_options rfl (by decide) rfl hall.readOptions_eq rfl).trans ?_
    cases source <;> rfl

/-! ## §5. What is asked of the reader of arguments. -/

/-- What the programs ask of the reader of their arguments: options that are given in their long form
are set as they say, calls for more detail are counted in a byte, and options that are not given are as
the program has them when nothing is asked for. -/
structure Libraries.ReadsOptions (lib : Libraries) : Prop where
  given : ∀ (e : Exercise) (source : Source) (verbose : Nat) (quiet : Bool),
    Known e → source ≠ .file "" →
    lib.readArguments (commandLine verbose quiet e source) =
      .ok { verbose := min verbose 255, quiet, command := .exercise e source }
  notGiven :
    let options : Options := { strategy := .remainder, limit := none, parallel := false }
    lib.readArguments ["repunit"] =
      .ok { verbose := 0, quiet := false, command := .exercise (.leastLengths options) .standardInput }

theorem Libraries.readsOptions_standard : Libraries.standard.ReadsOptions where
  given := by
    intro e source verbose quiet hknown hpath
    show (readCommandLine (commandLine verbose quiet e source)).mapError Stop.transcript = _
    rw [readCommandLine_commandLine hknown hpath]
    rfl
  notGiven := rfl

end Repunits.Program
