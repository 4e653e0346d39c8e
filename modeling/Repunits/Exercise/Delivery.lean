/-
  Repunits.Exercise.Delivery
  ────────────────────────────────
  **Working and writing in turn.**

  An exercise works out one portion of its answer after another, and
  writes each before it starts on the next. `deliver` does so for any
  way of producing portions: it stops at the first portion that fails,
  with all earlier ones written, and at the first write that fails.
-/
import Repunits.Exercise.Sink
import Repunits.Log.Journal

namespace Repunits.Exercise

/-- One portion of an answer: its text or why there is none, what it leaves to be logged, and the
state in which the next portion is worked out. -/
structure Portion (σ : Type) where
  answer : Except Failure String
  journal : Log.Journal
  state : σ

/-- What became of a run of portions. -/
structure Delivery (σ : Type) where
  sink : Sink
  journal : Log.Journal
  state : σ
  result : Except Failure Unit

/-- Works out and writes the portions of a list of items in order. -/
def deliver {α σ : Type} (portion : α → σ → Portion σ) : List α → σ → Sink → Delivery σ
  | [], s, sink => { sink, journal := [], state := s, result := .ok () }
  | a :: rest, s, sink =>
    match portion a s with
    | { answer := .error e, journal, state } => { sink, journal, state, result := .error e }
    | { answer := .ok text, journal, state } =>
      match sink.write text with
      | (.error e, sink') =>
        { sink := sink', journal, state, result := .error { cause := .io e } }
      | (.ok (), sink') =>
        let later := deliver portion rest state sink'
        { later with journal := journal ++ later.journal }

/-- What an exercise leaves behind: its output, its journal, and whether it failed. -/
structure Outcome where
  sink : Sink
  journal : Log.Journal
  result : Except Failure Unit

/-- The whole output of a run that succeeded, or its failure. -/
def Outcome.solution (o : Outcome) : Except Failure String := o.result.map fun _ => o.sink.written

end Repunits.Exercise
