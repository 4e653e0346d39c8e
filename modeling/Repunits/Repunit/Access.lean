/-
  Repunits.Repunit.Access
  ────────────────────────────────
  **Calls on a table that several clients share.**

  A call asks for the repunit of one length and hands it to a callback.
  It touches the table in at most two atomic steps: a look-up, and, if
  that missed, an extension that also answers. Between the two other
  calls may extend the table. A call notes which numerals its callback
  was run on.

  A callback may panic. The extension made before it ran stays, and a
  panic in the second step poisons the lock around the table. Everyone
  who takes a poisoned lock is told so, and goes on with the table.

  Clients make calls one after the other (`Client`), and share a table in
  any order of steps (`Shared.run`). Main statement here: a call with no
  other in between is one look-up with at most one extension
  (`Call.step_step_asking`).
-/
import Repunits.Repunit.Table

namespace Repunits

/-! ## §1. One call. -/

/-- What is asked of a shared table: to run a callback on the repunit of one length. -/
structure Ask (α : Type) where
  length : Nat
  callback : Numeral → α
  /-- Does the callback panic on this numeral? Its answer is then what the panic carries to the
  one who catches it. -/
  panics : Numeral → Bool := fun _ => false

/-- How far a call has got. -/
inductive Call.Stage (α : Type) where
  /-- The look-up is still to come. -/
  | asking
  /-- The look-up missed, and the extension is still to come. -/
  | missed
  /-- The call is over: the callback's answer, or the fault that kept it from running. -/
  | answered (result : Except Fault α)

/-- A call for the repunit of one length. -/
structure Call (α : Type) extends Ask α where
  stage : Call.Stage α := .asking
  /-- What the callback was run on so far. -/
  handed : List Numeral := []

namespace Call

variable {α : Type}

/-- Runs the callback, which ends the call. -/
def hand (c : Call α) (a : Numeral) : Call α :=
  { c with stage := .answered (.ok (c.callback a)), handed := a :: c.handed }

/-- Ends the call without running the callback. -/
def refuse (c : Call α) (e : Fault) : Call α := { c with stage := .answered (.error e) }

/-- The next atomic step of a call, on the table as it is then. -/
def step (t : Table) (c : Call α) : Call α × Table :=
  match c.stage with
  | .asking =>
    match t.get? c.length with
    | some a => (c.hand a, t)
    | none => ({ c with stage := .missed }, t)
  | .missed =>
    match t.repunit c.length with
    | (.ok a, t') => (c.hand a, t')
    | (.error e, t') => (c.refuse e, t')
  | .answered _ => (c, t)

/-- Does the next step panic with the table in hand for writing? A look-up only reads. -/
def panicsWriting (t : Table) (c : Call α) : Bool :=
  match c.stage with
  | .missed => (t.repunit c.length).1.toOption.any c.panics
  | _ => false

/-- The answer of a call that is over. -/
def answer? (c : Call α) : Option (Except Fault α) :=
  match c.stage with
  | .answered result => some result
  | _ => none

/-- The steps a call still has to take. -/
def work (c : Call α) : Nat :=
  match c.stage with
  | .asking => 2
  | .missed => 1
  | .answered _ => 0

/-- A step uses up work, or the call was over already. -/
theorem work_step (t : Table) (c : Call α) :
    (c.step t).1.work < c.work ∨ ∃ r, c.stage = .answered r := by
  cases hs : c.stage with
  | asking =>
    left
    cases hg : t.get? c.length <;> simp [step, hs, hg, work, hand]
  | missed =>
    left
    rcases hr : t.repunit c.length with ⟨e | a, t'⟩ <;>
      simp [step, hs, hr, work, hand, refuse]
  | answered r => exact Or.inr ⟨r, rfl⟩

end Call

/-- A whole call with no other in between: the look-up, and the extension where it missed. -/
def Table.withRepunit {α : Type} (t : Table) (k : Nat) (callback : Numeral → α) :
    Except Fault α × Table :=
  match t.get? k with
  | some a => (.ok (callback a), t)
  | none =>
    let (found, t') := t.repunit k
    (found.map callback, t')

/-- A whole call takes two steps at most, and they give the same answer and table. -/
theorem Call.step_step_asking {α : Type} (t : Table) (k : Nat) (f : Numeral → α) :
    let c : Call α := { length := k, callback := f }
    ((c.step t).1.step (c.step t).2).1.answer? = some (t.withRepunit k f).1 ∧
      ((c.step t).1.step (c.step t).2).2 = (t.withRepunit k f).2 := by
  simp only [Call.step, Table.withRepunit]
  cases t.get? k with
  | some a => exact ⟨rfl, rfl⟩
  | none =>
    rcases t.repunit k with ⟨e | a, t'⟩ <;> exact ⟨rfl, rfl⟩

/-! ## §2. The lock. -/

/-- A table behind a lock, which a panic with the table in hand for writing poisons for good. -/
structure Lock where
  table : Table
  poisoned : Bool := false

namespace Lock

/-- What one who takes the lock gets: the table, as an error when the lock is poisoned. -/
def take (l : Lock) : Except Table Table := if l.poisoned then .error l.table else .ok l.table

/-- The table that was taken, from a poisoned lock too. -/
def recover : Except Table Table → Table
  | .ok t => t
  | .error t => t

/-- The next atomic step of a call, with the lock taken for it. -/
def serve {α : Type} (l : Lock) (c : Call α) : Call α × Lock :=
  let t := recover l.take
  let (c', t') := c.step t
  (c', { table := t', poisoned := l.poisoned || c.panicsWriting t })

/-- The table, when nobody shares it any more. -/
def intoTable (l : Lock) : Table := recover l.take

end Lock

/-! ## §3. Clients and schedules. -/

/-- A client makes its calls one after the other. -/
structure Client (α : Type) where
  /-- The calls still to be made, the first of them perhaps begun. -/
  pending : List (Call α)
  /-- The calls that are over, the latest first. -/
  done : List (Call α) := []

/-- A client that has not begun. -/
def Client.ofAsks {α : Type} (asks : List (Ask α)) : Client α :=
  { pending := asks.map fun a => { toAsk := a } }

/-- One atomic step of a client, if it has a call to make. -/
def Client.step {α : Type} (l : Lock) (c : Client α) : Client α × Lock :=
  match c.pending with
  | [] => (c, l)
  | call :: rest =>
    let (call', l') := l.serve call
    match call'.answer? with
    | none => ({ c with pending := call' :: rest }, l')
    | some _ => ({ pending := rest, done := call' :: c.done }, l')

/-- A table behind its lock, and the clients who share it. -/
structure Shared (α : Type) where
  lock : Lock
  clients : List (Client α)

namespace Shared

variable {α : Type}

/-- One client for each list of asks, none of which has touched the table yet. -/
def start (t : Table) (asks : List (List (Ask α))) : Shared α :=
  { lock := { table := t }, clients := asks.map .ofAsks }

/-- One step of client number `i`; nothing happens when there is none. -/
def step (s : Shared α) (i : Nat) : Shared α :=
  match s.clients[i]? with
  | none => s
  | some c =>
    let (c', lock') := c.step s.lock
    { lock := lock', clients := s.clients.set i c' }

/-- Steps of the clients in the order of a schedule. -/
def run (s : Shared α) (schedule : List Nat) : Shared α := schedule.foldl step s

/-- Have all calls come to an end? -/
def isIdle (s : Shared α) : Bool := s.clients.all (·.pending.isEmpty)

end Shared

/-- The answers to calls made by one client on a table that it has for itself, and the table after
them. -/
def Table.serveCalls {α : Type} (t : Table) (calls : List (Call α)) :
    List (Except Fault α) × Table :=
  let s : Shared α := { lock := { table := t }, clients := [{ pending := calls }] }
  let s' := s.run (List.replicate (2 * calls.length) 0)
  (s'.clients.flatMap fun c => c.done.reverse.filterMap Call.answer?, s'.lock.intoTable)

end Repunits
