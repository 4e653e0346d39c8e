/-
  Repunits.Proofs.Repunit.Access
  ────────────────────────────────
  **A call on a shared table, whatever other calls do meanwhile.**

  Between two steps a call is waiting, its callback not yet run, or it
  has been served: its callback was run once, on the repunit asked for,
  or never, where that has length zero. A step of a waiting call finds
  the table exact and leaves it exact, extended as far as the call asked,
  however far other calls have extended it meanwhile. A callback that
  panics is no exception: calm it, and the step does the same.

  Main results:
    * `Table.Grows.set` — one step among many parties.
    * `Call.step_waiting` — one step of one call.
    * `Client.step_sound` — one step of one client.
    * `Lock.serve_calm`, `Client.calm_step` — panics leave no trace but
      in the lock.
-/
import Repunits.Proofs.Repunit.Table
import Repunits.Proofs.Schedule
import Repunits.Repunit.Access

namespace Repunits

open Numeral (ones)

variable {α : Type}

/-! ## §1. What steps do to the table. -/

namespace Table

/-- The table has grown from `t` to `t'` while a party has come from `m` to `m'`: both as far as one
length, unless they were beyond it. -/
def Grows (t : Table) (m : Nat) (t' : Table) (m' : Nat) : Prop :=
  ∃ k, t' = t.extendTo k ∧ m' = max m k

theorem Grows.refl (t : Table) (m : Nat) : t.Grows m t m :=
  ⟨0, (extendTo_zero t).symm, (Nat.max_zero m).symm⟩

variable {t t' t'' : Table} {m m' m'' : Nat}

theorem Grows.trans (ht : t.Exact) (h : t.Grows m t' m') (h' : t'.Grows m' t'' m'') :
    t.Grows m t'' m'' := by
  obtain ⟨k, rfl, rfl⟩ := h
  obtain ⟨k', rfl, rfl⟩ := h'
  exact ⟨max k k', extendTo_extendTo ht k k', Nat.max_assoc m k k'⟩

theorem Grows.exact (ht : t.Exact) (h : t.Grows m t' m') : t'.Exact := by
  obtain ⟨k, rfl, -⟩ := h
  exact ht.extendTo k

theorem Grows.size_le (h : t.Grows m t' m') : t.size ≤ t'.size := by
  obtain ⟨k, rfl, -⟩ := h
  rw [size_extendTo]
  exact Nat.le_max_left _ _

/-- A party that comes from nothing has extended the table as far as it has come. -/
theorem Grows.eq_extendTo (h : t.Grows 0 t' m') : t' = t.extendTo m' := by
  obtain ⟨k, rfl, hk⟩ := h
  rw [hk, Nat.zero_max]

/-- **One step among many parties**: a table that is extended as far as the furthest of them still
is so after the step of one of them. -/
theorem Grows.set {β : Type} {f : β → Nat} (ht : t.Exact) {xs : List β}
    (ht' : t' = t.extendTo (largest f xs)) {i : Nat} {x y : β} (hx : xs[i]? = some x)
    (h : t'.Grows (f x) t'' (f y)) : t'' = t.extendTo (largest f (xs.set i y)) := by
  obtain ⟨k, rfl, hy⟩ := h
  -- The party's extent was part of the largest, so that only its step can add to it.
  have hle : f x ≤ largest f xs := le_largest f (List.mem_of_getElem? hx)
  have hset : largest f (xs.set i y) = max (largest f xs) k := by
    rw [largest_set f hx (by omega)]
    omega
  rw [ht', extendTo_extendTo ht, hset]

end Table

/-! ## §2. One call. -/

/-- The answer due to a call. -/
def Ask.answer (a : Ask α) : Except Fault α :=
  if a.length = 0 then .error (.invalidInput .zeroLength) else .ok (a.callback (ones a.length))

/-- The numerals that the callback has to be run on: the repunit asked for, once. -/
def Ask.due (a : Ask α) : List Numeral := if a.length = 0 then [] else [ones a.length]

namespace Call

/-- The call is still to be answered, and its callback was not run. -/
structure Waiting (c : Call α) : Prop where
  stage : c.stage = .asking ∨ c.stage = .missed
  handed : c.handed = []

/-- The call is over, with the answer due, and its callback was run as often as due. -/
structure Served (c : Call α) : Prop where
  stage : c.stage = .answered c.toAsk.answer
  handed : c.handed = c.toAsk.due

theorem answer?_of_served {c : Call α} (h : c.Served) : c.answer? = some c.toAsk.answer := by
  unfold answer?
  rw [h.stage]

theorem served_hand {c : Call α} (hc : c.handed = []) (hk : 1 ≤ c.length) :
    (c.hand (ones c.length)).Served := by
  have hne : c.length ≠ 0 := by omega
  constructor
  · show Call.Stage.answered _ = .answered (if c.length = 0 then _ else _)
    rw [if_neg hne]
    rfl
  · show ones c.length :: c.handed = if c.length = 0 then _ else _
    rw [if_neg hne, hc]
    rfl

theorem served_refuse {c : Call α} (hc : c.handed = []) (hk : c.length = 0) :
    (c.refuse (.invalidInput .zeroLength)).Served := by
  constructor
  · show Call.Stage.answered _ = .answered (if c.length = 0 then _ else _)
    rw [if_pos hk]
  · show c.handed = if c.length = 0 then _ else _
    rw [if_pos hk, hc]

/-- **One step of a waiting call.** Its look-up misses, or the call is served and the table extended
as far as it asked. -/
theorem step_waiting {t : Table} (ht : t.Exact) {c : Call α} (hc : c.Waiting) :
    (c.step t = ({ c with stage := .missed }, t) ∧ c.stage = .asking) ∨
      ((c.step t).1.Served ∧ (c.step t).1.toAsk = c.toAsk ∧
        (c.step t).2 = t.extendTo c.length) := by
  have hget := Table.get?_of_exact ht c.length
  rcases hc.stage with hs | hs
  · by_cases hk : 1 ≤ c.length ∧ c.length ≤ t.size
    · -- The look-up finds the repunit, so the table is long enough already.
      right
      rw [if_pos hk] at hget
      have hstep : c.step t = (c.hand (ones c.length), t) := by simp only [step, hs, hget]
      rw [hstep]
      exact ⟨served_hand hc.handed hk.1, rfl, (Table.extendTo_of_le hk.2).symm⟩
    · left
      rw [if_neg hk] at hget
      exact ⟨by simp only [step, hs, hget], hs⟩
  · -- The extension answers, or there is no repunit of this length.
    right
    rcases Nat.eq_zero_or_pos c.length with hk | hk
    · have hstep : c.step t = (c.refuse (.invalidInput .zeroLength), t) := by
        simp only [step, hs, hk, Table.repunit_zero_eq]
      rw [hstep, hk]
      exact ⟨served_refuse hc.handed hk, rfl, (Table.extendTo_zero t).symm⟩
    · have hstep : c.step t = (c.hand (ones c.length), t.extendTo c.length) := by
        simp only [step, hs, Table.repunit_of_exact ht hk]
      rw [hstep]
      exact ⟨served_hand hc.handed hk, rfl, rfl⟩

end Call

/-! ## §3. The lock. -/

namespace Lock

/-- Whether the lock is poisoned or not, the table behind it is what one gets. -/
@[simp] theorem recover_take (l : Lock) : recover l.take = l.table := by
  unfold take
  split <;> rfl

@[simp] theorem intoTable_eq (l : Lock) : l.intoTable = l.table := recover_take l

theorem serve_eq (l : Lock) (c : Call α) :
    l.serve c = ((c.step l.table).1,
      { table := (c.step l.table).2, poisoned := l.poisoned || c.panicsWriting l.table }) := by
  unfold serve
  rw [recover_take]

/-- A call for length zero changes nothing behind the lock, and does not poison it. -/
theorem serve_snd_of_length_zero (l : Lock) {c : Call α} (hc : c.length = 0) :
    (l.serve c).2 = l := by
  -- The look-up misses, and the fault comes before the extension and the callback.
  have hget : l.table.get? 0 = none := rfl
  rw [serve_eq]
  cases hs : c.stage <;>
    simp [Call.step, Call.panicsWriting, hs, hc, hget, Table.repunit_zero_eq, Except.toOption]

end Lock

/-! ## §4. One client. -/

namespace Client

/-- What a client asks, in order: by the calls that are over and by those still to be made. -/
def asks (c : Client α) : List (Ask α) :=
  c.done.reverse.map (·.toAsk) ++ c.pending.map (·.toAsk)

/-- The largest length that a call of the client has been served for. -/
def extent (c : Client α) : Nat := largest (·.length) c.done

/-- The steps the client still has to take. -/
def work (c : Client α) : Nat := (c.pending.map Call.work).sum

/-- The calls that are over have been served, and the others wait. -/
structure Sound (c : Client α) : Prop where
  served : ∀ call ∈ c.done, call.Served
  waiting : ∀ call ∈ c.pending, call.Waiting

theorem sound_ofAsks (as : List (Ask α)) : (ofAsks as).Sound := by
  constructor
  · intro call hcall
    cases hcall
  · intro call hcall
    obtain ⟨a, -, rfl⟩ := List.mem_map.mp hcall
    exact ⟨Or.inl rfl, rfl⟩

theorem asks_ofAsks (as : List (Ask α)) : (ofAsks as).asks = as := by
  show [] ++ (as.map _).map _ = as
  rw [List.nil_append, List.map_map]
  exact List.map_id' as

theorem work_ofAsks (as : List (Ask α)) : (ofAsks as).work = 2 * as.length := by
  show ((as.map _).map _).sum = _
  rw [List.map_map]
  show (as.map fun _ => 2).sum = _
  rw [List.map_const', List.sum_replicate]
  exact Nat.mul_comm _ _

/-- **One step of a client** keeps it sound, asks what it asked before, and extends the table as far
as the call that it ends. -/
theorem step_sound {l : Lock} (hl : l.table.Exact) {c : Client α} (hc : c.Sound) :
    (c.step l).1.Sound ∧ (c.step l).1.asks = c.asks ∧
      l.table.Grows c.extent (c.step l).2.table (c.step l).1.extent := by
  obtain ⟨pending, done⟩ := c
  cases pending with
  | nil => exact ⟨hc, rfl, .refl _ _⟩
  | cons call rest =>
    have hcall : call.Waiting := hc.waiting call List.mem_cons_self
    have hrest : ∀ x ∈ rest, x.Waiting := fun x hx => hc.waiting x (List.mem_cons_of_mem _ hx)
    rcases Call.step_waiting hl hcall with ⟨hstep, -⟩ | ⟨hserved, hask, htable⟩
    · -- The look-up misses: the call stays first in line.
      simp only [step, Lock.serve_eq, hstep, Call.answer?]
      refine ⟨⟨hc.served, ?_⟩, rfl, .refl _ _⟩
      intro x hx
      rcases List.mem_cons.mp hx with rfl | hx
      · exact ⟨Or.inr rfl, hcall.handed⟩
      · exact hrest x hx
    · -- The call ends: it moves from the line to the calls that are over.
      simp only [step, Lock.serve_eq, Call.answer?_of_served hserved]
      refine ⟨⟨?_, hrest⟩, ?_, call.length, htable, ?_⟩
      · intro x hx
        rcases List.mem_cons.mp hx with rfl | hx
        · exact hserved
        · exact hc.served x hx
      · simp only [asks, List.reverse_cons, List.map_append, List.map_cons, List.map_nil,
          List.append_assoc, List.cons_append, List.nil_append, hask]
      · show max (Call.step l.table call).1.toAsk.length _ = _
        rw [hask]
        exact Nat.max_comm _ _

/-- A step of a client that has a call to make uses up work. -/
theorem work_step_le {l : Lock} (hl : l.table.Exact) {c : Client α} (hc : c.Sound) :
    (c.step l).1.work ≤ c.work - 1 := by
  obtain ⟨pending, done⟩ := c
  cases pending with
  | nil => exact Nat.zero_le _
  | cons call rest =>
    have hcall : call.Waiting := hc.waiting call List.mem_cons_self
    rcases Call.step_waiting hl hcall with ⟨hstep, hs⟩ | ⟨hserved, -, -⟩
    · simp only [step, Lock.serve_eq, hstep, Call.answer?, work, List.map_cons, List.sum_cons]
      simp only [Call.work, hs]
      omega
    · have hpos : 1 ≤ call.work := by
        rcases hcall.stage with hs | hs <;> simp [Call.work, hs]
      simp only [step, Lock.serve_eq, Call.answer?_of_served hserved, work, List.map_cons,
        List.sum_cons]
      omega

theorem pending_eq_nil_of_work {c : Client α} (hc : c.Sound) (h : c.work = 0) :
    c.pending = [] := by
  obtain ⟨pending, done⟩ := c
  cases pending with
  | nil => rfl
  | cons call rest =>
    have hwork : call.work + (rest.map Call.work).sum = 0 := by simpa [work] using h
    rcases (hc.waiting call List.mem_cons_self).stage with hs | hs <;>
      simp only [Call.work, hs] at hwork <;> omega

end Client

/-! ## §5. Panics. -/

/-- The same ask, with a callback that returns where it panicked. -/
def Ask.calm (a : Ask α) : Ask α := { a with panics := fun _ => false }

/-- The same call, with a callback that returns where it panicked. -/
def Call.calm (c : Call α) : Call α := { c with toAsk := c.toAsk.calm }

/-- The same client, with callbacks that return where they panicked. -/
def Client.calm (c : Client α) : Client α :=
  { pending := c.pending.map Call.calm, done := c.done.map Call.calm }

theorem Call.calm_step (t : Table) (c : Call α) :
    (c.calm.step t) = ((c.step t).1.calm, (c.step t).2) := by
  obtain ⟨a, stage, handed⟩ := c
  cases stage with
  | asking =>
    simp only [step, calm, Ask.calm]
    cases t.get? a.length <;> rfl
  | missed =>
    simp only [step, calm, Ask.calm]
    rcases t.repunit a.length with ⟨e | x, t'⟩ <;> rfl
  | answered r => rfl

theorem Call.answer?_calm (c : Call α) : c.calm.answer? = c.answer? := rfl

/-- Taken by a call that does not panic, the lock is as poisoned as it was. -/
theorem Lock.serve_calm (l : Lock) (c : Call α) :
    ({ table := l.table } : Lock).serve c.calm =
      ((l.serve c).1.calm, { table := (l.serve c).2.table }) := by
  have hpanic : c.calm.panicsWriting l.table = false := by
    unfold Call.panicsWriting
    split
    · cases (l.table.repunit c.calm.length).1.toOption <;> rfl
    · rfl
  rw [serve_eq, serve_eq, Call.calm_step, hpanic]
  rfl

theorem Client.calm_step (l : Lock) (c : Client α) :
    c.calm.step { table := l.table } =
      ((c.step l).1.calm, { table := (c.step l).2.table }) := by
  obtain ⟨pending, done⟩ := c
  cases pending with
  | nil => rfl
  | cons call rest =>
    simp only [step, calm, List.map_cons, Lock.serve_calm, Call.answer?_calm]
    cases (l.serve call).1.answer? <;> rfl

end Repunits
