/-
  Repunits.Proofs.Program.Log
  ────────────────────────────────
  **The programs log what the exercise did, down to a level.**

  The events of a run in turn are determined by the text and the options
  of the exercise. Where no setting says otherwise the program logs those
  of them that are at or above one level, in their order: a level of more
  detail adds events and changes none. Which level it is depends on how
  often more detail was asked for, and whether less was, and on nothing
  else. Of the reading of log filters nothing is used but that the name of
  a level stands for all events down to it (`Libraries.FiltersByLevel`).

  Main results:
    * `Log.Event.says_line` — the levels and the lines of the events.
    * `runExercise_log` — the log of a run of an exercise.
    * `Libraries.filtersByLevel_standard` — the filters of the programs.
    * `Application.run_log` — the log of a program.
-/
import Repunits.Proofs.Exercise.Journal
import Repunits.Proofs.Program.Run

namespace Repunits

/-! ## §1. Lines, and filters by level. -/

namespace Log

/-- The level and the line of each event. -/
inductive Event.Says : Event → Level → String → Prop where
  | started (count : Nat) {strategy : Strategy} (parallel : Bool) {name : String}
      (h : (strategy, name) ∈ [(.table, "Table"), (.remainder, "Remainder")]) :
      Says (.started count strategy parallel) .info ("INFO exercises::solutions::repunit: " ++
        s!"searching repunit multiples count={count} strategy={name} parallel={parallel}")
  | tested (d : UInt64) (k : Nat) :
      Says (.tested d k) .trace ("TRACE math::repunit: " ++ s!"test divisor={d} length={k}")
  | found (d : UInt64) (k : Nat) :
      Says (.found d k) .debug
        ("DEBUG math::repunit: " ++ s!"found repunit multiple divisor={d} length={k}")
  | finished (cached : Nat) :
      Says (.finished cached) .info ("INFO exercises::solutions::repunit: " ++
        s!"repunit search done cached_repunits={cached}")
  | formatting (a b : Int64) :
      Says (.formatting a b) .debug
        ("DEBUG exercises::solutions::arithmetic: " ++ s!"formatting pair a={a} b={b}")

/-- **Every event** is logged at its level and in its words. -/
theorem Event.says_line (e : Event) : e.Says e.level e.line := by
  cases e with
  | started count strategy parallel =>
    apply Says.started count parallel
    cases strategy <;> decide
  | tested d k => exact .tested d k
  | found d k => exact .found d k
  | finished cached => exact .finished cached
  | formatting a b => exact .formatting a b

/-- Logs every target down to a level. -/
def admitsUpTo (level : Level) : Admits := fun l _ => l.rank ≤ level.rank

/-- The log lines of the events at or above a level. -/
def linesUpTo (level : Level) (events : List Event) : List String :=
  (events.filter fun e => e.level.rank ≤ level.rank).map Event.line

theorem lines_upTo (level : Level) (j : Journal) :
    j.lines (admitsUpTo level) = linesUpTo level j.events := Journal.lines_eq _ j

/-- No event is beyond the level of most detail. -/
theorem linesUpTo_trace (events : List Event) : linesUpTo .trace events = events.map Event.line := by
  unfold linesUpTo
  rw [List.filter_eq_self.mpr]
  intro e _
  cases e <;> rfl

/-- A quiet run admits errors only. -/
theorem Level.ofVerbosity_quiet (verbose : Nat) : ofVerbosity verbose true = .error := rfl

/-- Three calls for more detail are enough. -/
theorem Level.ofVerbosity_of_three_le {verbose : Nat} (h : 3 ≤ verbose) :
    ofVerbosity verbose false = .trace := by
  obtain ⟨n, rfl⟩ := Nat.exists_eq_add_of_le' h
  rfl

/-- Calls for more detail past the largest byte would change nothing. -/
theorem Level.ofVerbosity_min (verbose : Nat) (quiet : Bool) :
    ofVerbosity (min verbose 255) quiet = ofVerbosity verbose quiet := by
  cases quiet with
  | true => rw [ofVerbosity_quiet, ofVerbosity_quiet]
  | false =>
    rcases Nat.le_total verbose 255 with hle | hge
    · rw [Nat.min_eq_left hle]
    · rw [Nat.min_eq_right hge, ofVerbosity_of_three_le (Nat.le_trans (by decide) hge)]
      rfl

end Log

/-! ## §2. Programs. -/

namespace Program

open Repunits.Exercise

/-- What the programs ask of the reader of log filters: the name of a level is the filter that logs
every target down to that level. -/
structure Libraries.FiltersByLevel (lib : Libraries) : Prop where
  filter_name : ∀ level : Log.Level, lib.filter level.name = Log.admitsUpTo level

theorem Libraries.filtersByLevel_standard : Libraries.standard.FiltersByLevel where
  filter_name := by
    intro level
    have hread : Log.Filter.ofTextLossy level.name = .upTo level := by
      cases level <;> decide +kernel
    have hfilter : Libraries.standard.filter level.name =
        (Log.Filter.ofTextLossy level.name).admits := by
      rw [standard]
    rw [hfilter, hread]
    rfl

/-- **The log of a run of an exercise** in turn, where no setting says what to log. -/
theorem runExercise_log {lib : Libraries} (hfilters : lib.FiltersByLevel) {e : Exercise}
    (h : e.InTurn) (verbose : Nat) (quiet : Bool) (text : String) :
    (runExercise e (lib.admits none verbose quiet) text).log =
      Log.linesUpTo (.ofVerbosity verbose quiet) (e.log text) := by
  have hadmits : lib.admits none verbose quiet = Log.admitsUpTo (.ofVerbosity verbose quiet) :=
    hfilters.filter_name _
  rw [← events_run h, hadmits]
  exact Log.lines_upTo _ _

/-- **The log of a program** asked for an exercise. -/
theorem Application.log_of_holds {p : Application} {lib : Libraries}
    (hfilters : lib.FiltersByLevel) {args : List String} {s : Surroundings} {verbose : Nat}
    {quiet : Bool} {e : Exercise} {source : Source} {text : String}
    (hinv : p.invocation lib args = .ok { verbose, quiet, command := .exercise e source })
    (hholds : s.Holds text source) (hsetting : s.setting = none) (hturn : e.InTurn) :
    (p.run lib args s).log = Log.linesUpTo (.ofVerbosity verbose quiet) (e.log text) := by
  rw [run_of_holds hinv hholds, hsetting, runExercise_log hfilters hturn]

/-- **The programs log what the exercise did, down to a level.** A program that is asked for an
exercise, to be run in turn, logs the events of that run that are at or above its level, in their
order, where no setting says what to log; at the level of most detail it logs them all. The events are
those of `Exercise.log`, which are determined by the exercise and the text. A search for the least
length `k` logs a test of each length from one to `k`, or to the limit if that is less, and then, if
the limit allows `k`, that it has found `k`. There are searches up to the first that fails, and a last
event with the size of the table if none does. Pairs are logged up to the first that cannot be worked
out, and a text that cannot be read leaves no event. The level is that of the detail which the
arguments ask for. -/
theorem Application.run_log {lib : Libraries} (hreads : lib.ReadsOptions)
    (hfilters : lib.FiltersByLevel) :
    -- any program, arguments and source
    (∀ (p : Application) (args : List String) (s : Surroundings) (verbose : Nat) (quiet : Bool)
        (e : Exercise) (source : Source) (text : String),
      p.invocation lib args = .ok { verbose, quiet, command := .exercise e source } →
      s.Holds text source → s.setting = none → e.InTurn →
      (p.run lib args s).log = Log.linesUpTo (.ofVerbosity verbose quiet) (e.log text) ∧
      (3 ≤ verbose → quiet = false →
        (p.run lib args s).log = (e.log text).map Log.Event.line)) ∧
    -- any detail
    (∀ (e : Exercise) (source : Source) (s : Surroundings) (text : String),
      Known e → source ≠ .file "" → s.Holds text source → s.setting = none → e.InTurn →
      ∀ (verbose : Nat) (quiet : Bool),
        (exercises.run lib (commandLine verbose quiet e source) s).log =
          Log.linesUpTo (.ofVerbosity verbose quiet) (e.log text)) ∧
    -- the levels, and what each event says
    ((∀ verbose, Log.Level.ofVerbosity verbose true = .error) ∧
      Log.Level.ofVerbosity 0 false = .warn ∧ Log.Level.ofVerbosity 1 false = .info ∧
      Log.Level.ofVerbosity 2 false = .debug ∧
      ∀ verbose, 3 ≤ verbose → Log.Level.ofVerbosity verbose false = .trace) ∧
    [Log.Level.error, .warn, .info, .debug, .trace].map (fun level => (level.rank, level.name)) =
      [(1, "error"), (2, "warn"), (3, "info"), (4, "debug"), (5, "trace")] ∧
    (∀ e : Log.Event, e.Says e.level e.line) ∧
    -- least lengths, and the searches that succeed
    (∀ d : Nat, Nat.Coprime d 10 → IsLeastLength d (leastLength d)) ∧
    ∀ (o : Options) (d : UInt64), Fits o.limit d ↔ ∃ k, (o.finder.find d).1 = .ok k := by
  refine ⟨?_, ?_, ⟨Log.Level.ofVerbosity_quiet, rfl, rfl, rfl, ?_⟩, rfl, Log.Event.says_line,
    fun d => isLeastLength_leastLength, ?_⟩
  · intro p args s verbose quiet e source text hinv hholds hsetting hturn
    have hlog := log_of_holds hfilters hinv hholds hsetting hturn
    refine ⟨hlog, ?_⟩
    intro hverbose hquiet
    rw [hlog, hquiet, Log.Level.ofVerbosity_of_three_le hverbose, Log.linesUpTo_trace]
  · intro e source s text hknown hpath hholds hsetting hturn verbose quiet
    have hinv : exercises.invocation lib _ = _ := hreads.given e source verbose quiet hknown hpath
    rw [log_of_holds hfilters hinv hholds hsetting hturn, Log.Level.ofVerbosity_min]
  · intro verbose hverbose
    exact Log.Level.ofVerbosity_of_three_le hverbose
  · intro o d
    exact Finder.fits_iff (LeastLengths.exact_finder o) d

/-- With a limit of two no search succeeds, and with none all do. One pair of two is worked out. A
quiet run logs nothing of it. -/
theorem Application.run_log_withinTwo :
    let text := "3 3 7 9"
    let three := "1 3"
    let pairs := "7 2 1 0"
    let s : Surroundings :=
      { read := fun
          | .standardInput => .ok text.toUTF8
          | .file path => .ok (if path = "../pairs.txt" then pairs else three).toUTF8
        setting := none }
    let lib := Libraries.standard
    let within : Options := { strategy := .table, limit := some 2 }
    let unbounded : Options := { strategy := .table }
    let started := "INFO exercises::solutions::repunit: searching repunit multiples count=3 " ++
      "strategy=Table parallel=false"
    (exercises.run lib ["-vvv", "repunit", "-s", "table", "--max-length=2"] s).log =
        [started, "TRACE math::repunit: test divisor=3 length=1",
          "TRACE math::repunit: test divisor=3 length=2"] ∧
      (exercises.run lib (commandLine 1 false (.leastLengths unbounded) .standardInput) s).log =
        [started, "INFO exercises::solutions::repunit: repunit search done cached_repunits=9"] ∧
      (exercises.run lib (commandLine 4 false (.leastLengths {}) (.file "/data/three.txt")) s).log =
        ["INFO exercises::solutions::repunit: searching repunit multiples count=1 " ++
            "strategy=Remainder parallel=false",
          "TRACE math::repunit: test divisor=3 length=1",
          "TRACE math::repunit: test divisor=3 length=2",
          "TRACE math::repunit: test divisor=3 length=3",
          "DEBUG math::repunit: found repunit multiple divisor=3 length=3",
          "INFO exercises::solutions::repunit: repunit search done cached_repunits=1"] ∧
      (exercises.run lib (commandLine 4 true (.leastLengths {}) (.file "/data/three.txt")) s).log =
        [] ∧
      (exercises.run lib (commandLine 2 false .pairResults (.file "../pairs.txt")) s).log =
        ["DEBUG exercises::solutions::arithmetic: formatting pair a=7 b=2"] ∧
      IsLeastLength 7 6 ∧ ¬ ∃ k, (within.finder.find 7).1 = .ok k := by
  intro text three pairs s lib within unbounded started
  obtain ⟨hany, hdetail, hlevels, hranks, hsays, hleast, hfits⟩ :=
    run_log Libraries.readsOptions_standard Libraries.filtersByLevel_standard
  have hread : exercises.invocation lib ["-vvv", "repunit", "-s", "table", "--max-length=2"] =
      .ok { verbose := 3, quiet := false,
            command := .exercise (.leastLengths within) .standardInput } := rfl
  have hinput : s.Holds text .standardInput := rfl
  have hthree : s.Holds three (.file "/data/three.txt") := rfl
  have hpairs : s.Holds pairs (.file "../pairs.txt") := rfl
  have htrace := (hany _ _ s _ _ _ _ text hread hinput rfl rfl).2 (by decide) rfl
  have hinfo := hdetail (.leastLengths unbounded) .standardInput s text nofun nofun hinput rfl rfl
  have hplain := hdetail (.leastLengths {}) _ s three nofun (by decide) hthree rfl rfl
  have hdebug := hdetail .pairResults _ s pairs trivial (by decide) hpairs rfl trivial
  have hseven : leastLength 7 = 6 := by decide +kernel
  refine ⟨?_, ?_, ?_, ?_, ?_, hseven ▸ hleast 7 (by decide), ?_⟩
  · rw [htrace]
    decide +kernel
  · rw [hinfo 1 false]
    decide +kernel
  · rw [hplain 4 false]
    decide +kernel
  · rw [hplain 4 true]
    decide +kernel
  · rw [hdebug 2 false]
    decide +kernel
  · rw [← hfits within 7]
    decide +kernel

end Program

end Repunits
