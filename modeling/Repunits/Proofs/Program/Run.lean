/-
  Repunits.Proofs.Program.Run
  ────────────────────────────────
  **The programs show what the exercise did, and nothing else.**

  Whatever arguments ask for an exercise, and wherever its text is held,
  the program runs the exercise over the text, prints what it wrote and
  says how it ended. The level of detail has a trace in the log only, and
  the source has none. A program for one exercise does what the program
  for all does when asked for that exercise without options. Of the
  reading of arguments nothing is used but `Libraries.ReadsOptions`.

  Main results:
    * `runExercise_shows` — a run of an exercise, whatever its schedule.
    * `Application.run_of_holds`, `Application.shows_of_holds` — a program
      asked for an exercise.
    * `Application.run_shows_exercise` — the programs altogether.
-/
import Repunits.Program.Run
import Repunits.Proofs.Exercise.Answers
import Repunits.Proofs.Program.Buffer
import Repunits.Proofs.Program.CommandLine

namespace Repunits.Program

open Repunits.Exercise

/-! ## §1. Texts in their sources. -/

/-- The source holds the text, in UTF-8. -/
def Surroundings.Holds (s : Surroundings) (text : String) (source : Source) : Prop :=
  s.read source = .ok text.toUTF8

/-- The bytes of a text are decoded to it. -/
theorem decode_toUTF8 (text : String) : decode text.toUTF8 = .ok text := by
  have hdecode : String.fromUTF8? text.toUTF8 = some text := dif_pos text.isValidUTF8
  rw [decode, hdecode]

theorem input_of_holds {s : Surroundings} {text : String} {source : Source}
    (h : s.Holds text source) (e : Exercise) :
    (Command.exercise e source).input s = .ok text := by
  have hbytes : s.read source = .ok text.toUTF8 := h
  rw [Command.input, hbytes, Source.text, Except.bind, decode_toUTF8]

/-! ## §2. What a transcript shows. -/

/-- The transcript shows that an exercise wrote a text and came to a result. -/
structure Transcript.Shows (t : Transcript) (written : String) (result : Except Failure Unit) :
    Prop where
  out_eq : t.out = written
  exit_eq_zero_iff : t.exit = 0 ↔ result = .ok ()
  err_of_ok : result = .ok () → t.err = ""
  /-- A failure is shown by its outermost text, and by the cause below it if there is one. -/
  err_of_error : ∀ f, result = .error f → t.exit = 1 ∧
    ∃ outermost causes, f.chain = outermost :: causes ∧
      t.err = "Error: " ++ outermost ++ "\n" ++
        match causes.head? with
        | none => ""
        | some cause => "\nCaused by:\n    " ++ cause ++ "\n"

/-- The transcripts show the same; their log lines may differ. -/
def Transcript.ShowsSame (t t' : Transcript) : Prop :=
  t.out = t'.out ∧ t.exit = t'.exit ∧ t.err = t'.err

/-- A failure has one text or two. -/
theorem failureText_cases (f : Failure) :
    ∃ outermost causes, f.chain = outermost :: causes ∧
      failureText f = "Error: " ++ outermost ++ "\n" ++
        match causes.head? with
        | none => ""
        | some cause => "\nCaused by:\n    " ++ cause ++ "\n" := by
  obtain ⟨context, cause⟩ := f
  cases context with
  | none => exact ⟨cause.text, [], rfl, String.append_empty.symm⟩
  | some context =>
    refine ⟨context.text, [cause.text], rfl, ?_⟩
    show "Error: " ++ context.text ++ "\n\nCaused by:\n    " ++ cause.text ++ "\n" = _
    dsimp only [List.head?_cons]
    have hline : "\n\nCaused by:\n    " = "\n" ++ "\nCaused by:\n    " := rfl
    rw [hline]
    simp only [String.append_assoc]

/-- How a run of an exercise ends for the user. -/
theorem ending_runExercise (e : Exercise) (admits : Log.Admits) (text : String) :
    ((runExercise e admits text).exit, (runExercise e admits text).err) =
      match (e.run text .unbounded).result with
      | .ok () => (0, "")
      | .error f => (1, failureText f) := rfl

/-- **A run of an exercise** is shown as it is, whatever the schedule of its workers. -/
theorem runExercise_shows {e : Exercise} {text : String} {written : Sink}
    {result : Except Failure Unit} (h : Runs text .unbounded e written result)
    (admits : Log.Admits) : (runExercise e admits text).Shows written.written result := by
  -- Every run leaves what the one of the program leaves.
  have hsame : (written, result) = ((e.run text .unbounded).sink, (e.run text .unbounded).result) :=
    h.eq_settle.trans (runs_run e text .unbounded).eq_settle.symm
  obtain ⟨rfl, hresult⟩ := Prod.mk.inj hsame
  have hout : (runExercise e admits text).out = (e.run text .unbounded).sink.written :=
    Buffer.printed_flush_write bufferSize _
  have hending := ending_runExercise e admits text
  rw [← hresult] at hending
  cases result with
  | ok u =>
    obtain ⟨hexit, herr⟩ := Prod.mk.inj hending
    refine ⟨hout, iff_of_true hexit rfl, fun _ => herr, ?_⟩
    intro f hf
    cases hf
  | error f =>
    obtain ⟨hexit, herr⟩ := Prod.mk.inj hending
    refine ⟨hout, iff_of_false ?_ nofun, nofun, ?_⟩
    · rw [hexit]
      decide
    · rintro _ ⟨⟩
      rw [herr]
      exact ⟨hexit, failureText_cases f⟩

/-! ## §3. Programs. -/

/-- **A program asked for an exercise** runs it over the text that the source holds. -/
theorem Application.run_of_holds {p : Application} {lib : Libraries} {args : List String}
    {s : Surroundings} {verbose : Nat} {quiet : Bool} {e : Exercise} {source : Source} {text : String}
    (hinv : p.invocation lib args = .ok { verbose, quiet, command := .exercise e source })
    (hholds : s.Holds text source) :
    p.run lib args s = runExercise e (lib.admits s.setting verbose quiet) text := by
  rw [run, hinv]
  dsimp only
  rw [input_of_holds hholds]
  rfl

/-- **It shows** what the exercise did. -/
theorem Application.shows_of_holds {p : Application} {lib : Libraries} {args : List String}
    {s : Surroundings} {verbose : Nat} {quiet : Bool} {e : Exercise} {source : Source} {text : String}
    {written : Sink} {result : Except Failure Unit}
    (hinv : p.invocation lib args = .ok { verbose, quiet, command := .exercise e source })
    (hholds : s.Holds text source) (hruns : Runs text .unbounded e written result) :
    (p.run lib args s).Shows written.written result := by
  rw [run_of_holds hinv hholds]
  exact runExercise_shows hruns _

/-- What is admitted has a trace in the log only. -/
theorem runExercise_showsSame (e : Exercise) (admits admits' : Log.Admits) (text : String) :
    (runExercise e admits text).ShowsSame (runExercise e admits' text) := ⟨rfl, rfl, rfl⟩

theorem run_standalone {p : Application} {lib : Libraries} {e : Exercise} {name : String}
    (hstandalone : ∀ args, p.invocation lib args = .ok (standalone e))
    (hcommand : lib.readArguments [name] = .ok (standalone e)) (args : List String)
    (s : Surroundings) : p.run lib args s = Application.exercises.run lib [name] s := by
  have hinv : Application.exercises.invocation lib [name] = .ok (standalone e) := hcommand
  rw [Application.run, Application.run, hstandalone, hinv]

/-- **The programs show what the exercise did.** A program that is asked for an exercise over a text
prints what a run of the exercise wrote, under whatever schedule, and ends as that run did. The buffer
in front of the output is of no account: whatever its capacity, and in whatever pieces the text was
written, the same is printed. So it is for every choice of options, detail and source that a command
line can make. Two sources that hold the same text show the same, under any level of detail; a source
is standard input or any path whatsoever. The programs for one exercise do all that the program for all
does when it is asked for that exercise without options. -/
theorem Application.run_shows_exercise {lib : Libraries} (hreads : lib.ReadsOptions) :
    -- any program, arguments and source
    (∀ (p : Application) (args : List String) (s : Surroundings) (verbose : Nat) (quiet : Bool)
        (e : Exercise) (source : Source) (text : String) (written : Sink)
        (result : Except Failure Unit),
      p.invocation lib args = .ok { verbose, quiet, command := .exercise e source } →
      s.Holds text source → Runs text .unbounded e written result →
      (p.run lib args s).Shows written.written result ∧
      ∀ (capacity : Nat) (pieces : List String), String.join pieces = written.written →
        ((Buffer.ofCapacity capacity).writeEach pieces).flush.printed = (p.run lib args s).out) ∧
    -- any options
    (∀ (e : Exercise) (source : Source) (verbose : Nat) (quiet : Bool) (s : Surroundings)
        (text : String) (written : Sink) (result : Except Failure Unit),
      Known e → source ≠ .file "" → s.Holds text source → Runs text .unbounded e written result →
      (exercises.run lib (commandLine verbose quiet e source) s).Shows written.written result) ∧
    -- two sources
    (∀ (p p' : Application) (args args' : List String) (s s' : Surroundings) (verbose verbose' : Nat)
        (quiet quiet' : Bool) (e : Exercise) (source source' : Source) (text : String),
      p.invocation lib args = .ok { verbose, quiet, command := .exercise e source } →
      p'.invocation lib args' =
        .ok { verbose := verbose', quiet := quiet', command := .exercise e source' } →
      s.Holds text source → s'.Holds text source' →
      (p.run lib args s).ShowsSame (p'.run lib args' s')) ∧
    -- the programs for one exercise
    ∀ (args : List String) (s : Surroundings),
      repunit.run lib args s = exercises.run lib ["repunit"] s ∧
      arith.run lib args s = exercises.run lib ["arith"] s := by
  refine ⟨?_, ?_, ?_, ?_⟩
  · intro p args s verbose quiet e source text written result hinv hholds hruns
    have hshows := shows_of_holds hinv hholds hruns
    refine ⟨hshows, ?_⟩
    intro capacity pieces hpieces
    rw [Buffer.printed_flush_writeEach, hpieces, hshows.out_eq]
  · intro e source verbose quiet s text written result hknown hpath hholds hruns
    have hinv : exercises.invocation lib _ = _ := hreads.given e source verbose quiet hknown hpath
    exact shows_of_holds hinv hholds hruns
  · intro p p' args args' s s' verbose verbose' quiet quiet' e source source' text hinv hinv' hholds
      hholds'
    rw [run_of_holds hinv hholds, run_of_holds hinv' hholds']
    exact runExercise_showsSame e _ _ text
  · intro args s
    have harith := hreads.given .pairResults .standardInput 0 false trivial nofun
    exact ⟨run_standalone (fun _ => rfl) hreads.notGiven args s,
      run_standalone (fun _ => rfl) harith args s⟩

/-- The second divisor exceeds the limit, with the text in a file that is reached by a roundabout path,
and on standard input. -/
theorem Application.run_shows_exercise_second :
    let text := "3\n3 7 9"
    let file := Source.file "/data/../d.txt"
    let s : Surroundings :=
      { read := fun source =>
          if source = .standardInput ∨ source = file then .ok text.toUTF8
          else .error .notFound
        setting := none }
    let options : Options := { strategy := .table, limit := some 5, parallel := true }
    let lib := Libraries.standard
    let args := ["-v", "repunit", "--max-length", "5", "-ps=table", "-i", "/data/../d.txt"]
    let fromFile := exercises.run lib args s
    let canonical := commandLine 1 false (.leastLengths options) file
    fromFile.out = "3\n" ∧ fromFile.exit = 1 ∧
      fromFile.err = "Error: divisor #2 (7)\n\nCaused by:\n    " ++
        "No repunit of length <= 5 is divisible by 7\n" ∧
      ((Buffer.ofCapacity 1).writeEach ["3", "\n"]).flush.printed = fromFile.out ∧
      canonical = ["repunit", "--verbose", "--strategy=table", "--max-length=5", "--parallel",
        "--input=/data/../d.txt"] ∧
      (exercises.run lib canonical s).out = "3\n" ∧
      fromFile.ShowsSame
        (exercises.run lib ["repunit", "--max-length=5", "-s", "table", "-p"] s) ∧
      repunit.run lib [] s = exercises.run lib ["repunit"] s := by
  intro text file s options lib args fromFile canonical
  obtain ⟨hany, hoptions, hsources, hstandalone⟩ :=
    run_shows_exercise Libraries.readsOptions_standard
  have hfile : s.Holds text file := rfl
  have hinput : s.Holds text .standardInput := rfl
  have hread : exercises.invocation lib args =
      .ok { verbose := 1, quiet := false,
            command := .exercise (.leastLengths options) file } := rfl
  have hread' : exercises.invocation lib ["repunit", "--max-length=5", "-s", "table", "-p"] =
      .ok { verbose := 0, quiet := false,
            command := .exercise (.leastLengths options) .standardInput } := rfl
  have hknown : Known (.leastLengths options) := by
    rintro n ⟨⟩
    decide
  have hruns := runs_run (.leastLengths options) text .unbounded
  have hwritten : ((Exercise.leastLengths options).run text .unbounded).sink.written = "3\n" := by
    decide +kernel
  have hresult : ((Exercise.leastLengths options).run text .unbounded).result =
      .error { context := some (.divisor 2 7), cause := .fault (.limitExceeded 7 5) } := by
    decide +kernel
  obtain ⟨hshows, hpieces⟩ := hany _ _ _ _ _ _ _ _ _ _ hread hfile hruns
  have hcanonical := hoptions _ _ 1 false s _ _ _ hknown (by decide) hfile hruns
  rw [hwritten] at hshows hcanonical hpieces
  rw [hresult] at hshows
  obtain ⟨hexit, outermost, causes, hchain, herr⟩ := hshows.err_of_error _ rfl
  cases hchain
  refine ⟨hshows.out_eq, hexit, herr, hpieces 1 ["3", "\n"] (by decide), by decide +kernel,
    hcanonical.out_eq, ?_, ?_⟩
  · exact hsources _ _ _ _ _ _ _ _ _ _ _ _ _ _ hread hread' hfile hinput
  · exact (hstandalone [] s).1

end Repunits.Program
