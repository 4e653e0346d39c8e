/-
  Repunits.Proofs.Exercise.Delivery
  ────────────────────────────────
  **What is written depends on the answers alone.**

  An exercise threads a state from one portion to the next: a finder and
  its table, or nothing at all. Where the answer of a portion is known
  from its item, whatever state it is worked out in, the state leaves no
  trace in the output: it is what comes of writing the answers one after
  the other (`settle`). Answers come to one text, up to the first that is
  a failure (`owed`), and writing them in order is writing that text.

  Main results:
    * `deliver_eq_settle` — delivering is settling the answers.
    * `settle_eq_write` — settling answers is writing what is owed.
-/
import Repunits.Exercise.Delivery
import Repunits.Proofs.Exercise.Sink

namespace Repunits.Exercise

/-! ## §1. Delivering answers. -/

/-- Writes answers in order, up to the first that is a failure and the first write that fails. -/
def settle : List (Except Failure String) → Sink → Sink × Except Failure Unit
  | [], sink => (sink, .ok ())
  | .error e :: _, sink => (sink, .error e)
  | .ok text :: rest, sink =>
    match sink.write text with
    | (.error e, sink') => (sink', .error { cause := .io e })
    | (.ok (), sink') => settle rest sink'

/-- Portions whose answers are known from their items in every state of which `Inv` holds, and that
keep to such states. -/
structure KnownByItem {α σ : Type} (portion : α → σ → Portion σ)
    (answer : α → Except Failure String) (Inv : σ → Prop) : Prop where
  answer_eq : ∀ a s, Inv s → (portion a s).answer = answer a
  keeps : ∀ a s, Inv s → Inv (portion a s).state

variable {α σ : Type} {portion : α → σ → Portion σ} {answer : α → Except Failure String}
variable {Inv : σ → Prop}

/-- **Delivering is settling the answers**: the sink and the result are those of writing the answers
one after the other. -/
theorem deliver_eq_settle (h : KnownByItem portion answer Inv) (items : List α) {s : σ}
    (hs : Inv s) (sink : Sink) :
    ((deliver portion items s sink).sink, (deliver portion items s sink).result) =
      settle (items.map answer) sink := by
  induction items generalizing s sink with
  | nil => rfl
  | cons a rest ih =>
    have hanswer := h.answer_eq a s hs
    have hkeeps := h.keeps a s hs
    unfold deliver
    rw [List.map_cons, ← hanswer]
    rcases hp : portion a s with ⟨e | text, journal, state⟩
    · rfl
    · -- The answer is a text: it is written, and if that went well the rest follows.
      rw [hp] at hkeeps
      unfold settle
      rcases hw : sink.write text with ⟨e | u, sink'⟩
      · simp only [hw]
      · simp only [hw]
        exact ih hkeeps sink'

/-! ## §2. What answers come to. -/

/-- The text that answers come to, up to the first that is a failure, and how they end. -/
def owed : List (Except Failure String) → String × Except Failure Unit
  | [] => ("", .ok ())
  | .error e :: _ => ("", .error e)
  | .ok text :: rest => (text ++ (owed rest).1, (owed rest).2)

/-- How a run ends whose answers end in `result`: a write that fails comes before that. -/
def ending (result : Except Failure Unit) : Except IoFault Unit → Except Failure Unit
  | .ok () => result
  | .error e => .error { cause := .io e }

/-- **Settling answers is writing what is owed**, all at once. -/
theorem settle_eq_write (answers : List (Except Failure String)) (sink : Sink) :
    settle answers sink = ((sink.write (owed answers).1).2,
      ending (owed answers).2 (sink.write (owed answers).1).1) := by
  induction answers generalizing sink with
  | nil =>
    rw [owed, Sink.write_empty]
    rfl
  | cons answer rest ih =>
    cases answer with
    | error e =>
      rw [owed, Sink.write_empty]
      rfl
    | ok text =>
      rw [settle, owed, Sink.write_append]
      rcases sink.write text with ⟨e | u, sink'⟩
      · rfl
      · exact ih sink'

/-- A sink without bound takes all that is owed. -/
theorem settle_of_unbounded (answers : List (Except Failure String)) (written : String) :
    settle answers { written } = ({ written := written ++ (owed answers).1 }, (owed answers).2) :=
  settle_eq_write answers _

theorem owed_map_ok (texts : List String) :
    owed (texts.map .ok) = (String.join texts, .ok ()) := by
  induction texts with
  | nil => rfl
  | cons text rest ih => rw [List.map_cons, owed, ih, String.join_cons]

/-- Answers after the first failure count for nothing. -/
theorem owed_append_error (texts : List String) (e : Failure)
    (rest : List (Except Failure String)) :
    owed (texts.map .ok ++ .error e :: rest) = (String.join texts, .error e) := by
  induction texts with
  | nil => rfl
  | cons text texts ih => rw [List.map_cons, List.cons_append, owed, ih, String.join_cons]

/-- Answers of two lists come to what those of the first come to, and where these end well to what
those of the second come to after it. -/
theorem owed_append (answers answers' : List (Except Failure String)) :
    owed (answers ++ answers') =
      match (owed answers).2 with
      | .ok () => ((owed answers).1 ++ (owed answers').1, (owed answers').2)
      | .error e => ((owed answers).1, .error e) := by
  induction answers with
  | nil =>
    rw [List.nil_append, owed, String.empty_append]
  | cons answer rest ih =>
    cases answer with
    | error e => rfl
    | ok text =>
      rw [List.cons_append, owed, owed, ih]
      dsimp only
      cases (owed rest).2 with
      | error e => rfl
      | ok u => rw [String.append_assoc]

/-- The answers to items that have been read; where they could not be read there is one, which is the
failure. -/
def answersTo {α : Type} (answer : α → Except Failure String) :
    Except Fault (List α) → List (Except Failure String)
  | .error e => [.error { cause := .fault e }]
  | .ok items => items.map answer

theorem isAscii_of_answersTo {α : Type} {answer : α → Except Failure String}
    (h : ∀ a text, answer a = .ok text → IsAscii text) {items : Except Fault (List α)}
    {text : String} (hmem : .ok text ∈ answersTo answer items) : IsAscii text := by
  cases items with
  | error e => simp [answersTo] at hmem
  | ok items =>
    obtain ⟨a, -, ha⟩ := List.mem_map.mp hmem
    exact h a text ha

theorem isAscii_owed {answers : List (Except Failure String)}
    (h : ∀ text, .ok text ∈ answers → IsAscii text) : IsAscii (owed answers).1 := by
  induction answers with
  | nil => exact isAscii_empty
  | cons answer rest ih =>
    cases answer with
    | error e => exact isAscii_empty
    | ok text =>
      rw [owed, isAscii_append_iff]
      exact ⟨h text List.mem_cons_self, ih fun s hs => h s (List.mem_cons_of_mem _ hs)⟩

end Repunits.Exercise
