/-
  Repunits.Log.Journal
  ────────────────────────────────
  **What a run leaves to be logged.**

  A journal lists events in order. Tests of one divisor for consecutive
  lengths share an entry, so that a long search leaves a short journal. A
  `Recorder` is a journal that is being written: it takes down one event
  at a time and holds those that it took, in their order (`events_note`).
  `Journal.lines` are the log lines of the events that are admitted:
  dropping the others changes neither order nor text (`lines_eq`).
-/
import Repunits.Log.Event

namespace Repunits.Log

/-! ## §1. Journals. -/

/-- An event, or tests of one divisor for consecutive lengths. -/
inductive Entry where
  | event (e : Event)
  /-- So many tests, the first of them for the length `first`. -/
  | tests (divisor : UInt64) (first count : Nat)

namespace Entry

/-- The events that an entry stands for. -/
def events : Entry → List Event
  | .event e => [e]
  | .tests d first count => (List.range' first count).map (.tested d)

/-- The entry for one event. -/
def ofEvent : Event → Entry
  | .tested d k => .tests d k 1
  | e => .event e

/-- The entry with one event more, if it is a test that goes on where those of the entry stop. -/
def join? : Entry → Event → Option Entry
  | .tests d first count, .tested d' k =>
    if d' = d ∧ k = first + count then some (.tests d first (count + 1)) else none
  | _, _ => none

theorem events_ofEvent (e : Event) : (ofEvent e).events = [e] := by
  cases e <;> rfl

theorem events_of_join? {entry joined : Entry} {e : Event} (h : entry.join? e = some joined) :
    joined.events = entry.events ++ [e] := by
  unfold join? at h
  split at h
  · rename_i d first count d' k
    split at h
    · rename_i hgoesOn
      obtain ⟨hd, hk⟩ := hgoesOn
      cases h
      rw [hd, hk, events, events, List.range'_1_concat, List.map_append]
      rfl
    · cases h
  · cases h

end Entry

/-- What a run has to log, in order. -/
abbrev Journal := List Entry

/-- All events of a run. -/
def Journal.events (j : Journal) : List Event := j.flatMap Entry.events

theorem Journal.events_append (j j' : Journal) :
    Journal.events (j ++ j') = j.events ++ j'.events :=
  List.flatMap_append

/-! ## §2. Writing a journal. -/

/-- A journal that is being written: its entries, the latest first. -/
structure Recorder where
  latest : List Entry := []

namespace Recorder

/-- The journal that was written. -/
def journal (r : Recorder) : Journal := r.latest.reverse

/-- Takes down an event. -/
def note (r : Recorder) (e : Event) : Recorder :=
  match r.latest with
  | [] => ⟨[.ofEvent e]⟩
  | entry :: before =>
    match entry.join? e with
    | some joined => ⟨joined :: before⟩
    | none => ⟨.ofEvent e :: entry :: before⟩

theorem events_cons (entry : Entry) (before : List Entry) :
    (journal ⟨entry :: before⟩).events = (journal ⟨before⟩).events ++ entry.events := by
  unfold journal
  rw [List.reverse_cons, Journal.events_append]
  exact congrArg _ (List.append_nil _)

/-- **A recorder holds the events that it took down**, in their order. -/
theorem events_note (r : Recorder) (e : Event) :
    (r.note e).journal.events = r.journal.events ++ [e] := by
  obtain ⟨latest⟩ := r
  unfold note
  cases latest with
  | nil => rw [events_cons, Entry.events_ofEvent]
  | cons entry before =>
    dsimp only
    cases hjoin : entry.join? e with
    | some joined =>
      rw [events_cons, events_cons, Entry.events_of_join? hjoin, List.append_assoc]
    | none => rw [events_cons, Entry.events_ofEvent]

end Recorder

/-! ## §3. Log lines. -/

/-- The events of an entry that are admitted. Tests share their level and target, so that one look
decides about them. -/
def Entry.admitted (admits : Admits) (entry : Entry) : List Event :=
  match entry with
  | .event e => [e].filter (·.isAdmitted admits)
  | .tests d first _ => if (Event.tested d first).isAdmitted admits then entry.events else []

theorem Entry.admitted_eq (admits : Admits) (entry : Entry) :
    entry.admitted admits = entry.events.filter (·.isAdmitted admits) := by
  cases entry with
  | event e => rfl
  | tests d first count =>
    have hsame : ∀ e ∈ (Entry.tests d first count).events,
        e.isAdmitted admits = (Event.tested d first).isAdmitted admits := by
      intro e he
      obtain ⟨k, -, rfl⟩ := List.mem_map.mp he
      rfl
    unfold admitted
    dsimp only
    split
    · rename_i hfirst
      exact (List.filter_eq_self.mpr fun e he => (hsame e he).trans hfirst).symm
    · rename_i hfirst
      refine (List.filter_eq_nil_iff.mpr ?_).symm
      intro e he
      rw [hsame e he]
      exact hfirst

namespace Journal

/-- The log lines of a run. -/
def lines (admits : Admits) (j : Journal) : List String :=
  j.flatMap fun entry => (entry.admitted admits).map Event.line

theorem lines_eq (admits : Admits) (j : Journal) :
    j.lines admits = (j.events.filter (·.isAdmitted admits)).map Event.line := by
  induction j with
  | nil => rfl
  | cons entry rest ih =>
    simp only [lines, events, List.flatMap_cons, List.filter_append, List.map_append,
      Entry.admitted_eq] at ih ⊢
    rw [ih]

end Journal

end Repunits.Log
