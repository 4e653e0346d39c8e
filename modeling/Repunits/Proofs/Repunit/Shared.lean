/-
  Repunits.Proofs.Repunit.Shared
  ────────────────────────────────
  **A shared table under every order of steps and every panic.**

  The table depends on the calls that are over, and not on the order in
  which they stepped: it is the table it was at first, extended as far
  as calls have been served. So at every point of every schedule it holds
  each repunit up to some length once; and neither the table nor any
  answer depends on who panicked.

  Main results:
    * `Orderly`, `orderly_step`, `orderly_run` — the invariant of a
      shared table, kept by a step and by a run.
    * `isIdle_run`, `extent_of_idle` — how a run ends.
    * `calm_run` — panics change nothing but the panicking calls.
    * `appended_run` — what a run appends to the table.
    * `run_every_schedule` — all of it, for every schedule.
-/
import Repunits.Proofs.Repunit.Access

namespace Repunits

open Numeral (ones)

variable {α : Type}

/-! ## §1. The invariant of a shared table. -/

namespace Shared

/-- The largest length that a call has been served for. -/
def extent (s : Shared α) : Nat := largest Client.extent s.clients

/-- No ask is lost or put twice, every call waits or has been served, and the table is the one it
was at first, extended as far as calls have been served. -/
structure Orderly (t : Table) (asks : List (List (Ask α))) (s : Shared α) : Prop where
  asks_eq : s.clients.map Client.asks = asks
  sound : ∀ c ∈ s.clients, c.Sound
  table_eq : s.lock.table = t.extendTo s.extent

theorem orderly_start (t : Table) (asks : List (List (Ask α))) :
    (start t asks).Orderly t asks := by
  refine ⟨?_, ?_, ?_⟩
  · show (asks.map Client.ofAsks).map Client.asks = asks
    rw [List.map_map, show Client.asks ∘ Client.ofAsks = (id : List (Ask α) → _) from
      funext Client.asks_ofAsks, List.map_id]
  · intro c hc
    obtain ⟨as, -, rfl⟩ := List.mem_map.mp hc
    exact Client.sound_ofAsks as
  · have hzero : (start t asks).extent = 0 := by
      show largest Client.extent (asks.map Client.ofAsks) = 0
      rw [largest_map]
      exact largest_eq_zero _ fun as _ => rfl
    rw [hzero, Table.extendTo_zero]
    rfl

theorem step_none {s : Shared α} {i : Nat} (h : s.clients[i]? = none) : s.step i = s := by
  simp only [step, h]

theorem step_some {s : Shared α} {i : Nat} {c : Client α} (h : s.clients[i]? = some c) :
    s.step i = { lock := (c.step s.lock).2, clients := s.clients.set i (c.step s.lock).1 } := by
  simp only [step, h]

/-- **A step keeps a shared table orderly.** -/
theorem orderly_step {t : Table} (ht : t.Exact) {asks : List (List (Ask α))} {s : Shared α}
    (hs : s.Orderly t asks) (i : Nat) : (s.step i).Orderly t asks := by
  cases hc : s.clients[i]? with
  | none =>
    rw [step_none hc]
    exact hs
  | some c =>
    have hsound := hs.sound c (List.mem_of_getElem? hc)
    have hexact : s.lock.table.Exact := by
      rw [hs.table_eq]
      exact ht.extendTo _
    obtain ⟨hsound', hasks, hgrows⟩ := Client.step_sound hexact hsound
    rw [step_some hc]
    refine ⟨?_, forall_mem_set hs.sound hsound' i, hgrows.set ht hs.table_eq hc⟩
    rw [← hs.asks_eq]
    exact map_set_eq_self Client.asks hc hasks

/-- **A run keeps a shared table orderly**, whatever its schedule. -/
theorem orderly_run {t : Table} (ht : t.Exact) {asks : List (List (Ask α))} {s : Shared α}
    (hs : s.Orderly t asks) (schedule : List Nat) : (s.run schedule).Orderly t asks := by
  induction schedule generalizing s with
  | nil => exact hs
  | cons i schedule ih => exact ih (orderly_step ht hs i)

theorem Orderly.exact {t : Table} (ht : t.Exact) {asks : List (List (Ask α))} {s : Shared α}
    (hs : s.Orderly t asks) : s.lock.table.Exact := by
  rw [hs.table_eq]
  exact ht.extendTo _

theorem Orderly.size_eq {t : Table} {asks : List (List (Ask α))} {s : Shared α}
    (hs : s.Orderly t asks) : s.lock.table.size = max t.size s.extent := by
  rw [hs.table_eq, Table.size_extendTo]

/-! ## §2. The end of a run. -/

/-- When all calls are over, what was served is what was asked. -/
theorem extent_of_idle {t : Table} {asks : List (List (Ask α))} {s : Shared α}
    (hs : s.Orderly t asks) (h : s.isIdle = true) :
    s.extent = largest (largest Ask.length) asks := by
  have hidle : ∀ c ∈ s.clients, c.pending = [] := by
    intro c hc
    exact List.isEmpty_iff.mp (List.all_eq_true.mp h c hc)
  rw [← hs.asks_eq, largest_map]
  apply largest_congr
  intro c hc
  unfold Client.asks
  rw [hidle c hc, List.map_nil, List.append_nil, largest_map, largest_reverse]
  rfl

/-- A client that has two turns for each of its calls makes them all. -/
theorem isIdle_run {t : Table} (ht : t.Exact) (asks : List (List (Ask α))) (schedule : List Nat)
    (h : ∀ i as, asks[i]? = some as → 2 * as.length ≤ schedule.count i) :
    ((start t asks).run schedule).isIdle = true := by
  have hend := orderly_run ht (orderly_start t asks) schedule
  apply List.all_eq_true.mpr
  intro c hc
  obtain ⟨j, hj⟩ := List.getElem?_of_mem hc
  obtain ⟨as, has⟩ : ∃ as, asks[j]? = some as :=
    ⟨c.asks, by rw [← hend.asks_eq, List.getElem?_map, hj, Option.map_some]⟩
  have hstart : (start t asks).clients[j]? = some (Client.ofAsks as) := by
    show (asks.map Client.ofAsks)[j]? = _
    rw [List.getElem?_map, has, Option.map_some]
  -- A call has two steps at most, so that the turns are enough for all of them.
  obtain ⟨y, hy, hwork⟩ := work_after_turns step Shared.clients Client.work (Orderly t asks)
    (fun _ i hs => orderly_step ht hs i) (fun s i hi => by rw [step_none hi])
    (fun s i x hs hx => ⟨(x.step s.lock).1, by rw [step_some hx],
      Client.work_step_le (hs.exact ht) (hs.sound x (List.mem_of_getElem? hx))⟩)
    schedule (orderly_start t asks) hstart
  have hyc : y = c := Option.some.inj (hy.symm.trans hj)
  have hcount := h j as has
  rw [Client.work_ofAsks] at hwork
  rw [Client.pending_eq_nil_of_work (hend.sound c hc) (by rw [← hyc]; omega)]
  rfl

/-! ## §3. Panics. -/

/-- The same table and clients, where no callback panics and none has panicked. -/
def calm (s : Shared α) : Shared α :=
  { lock := { table := s.lock.table }, clients := s.clients.map Client.calm }

theorem calm_step (s : Shared α) (i : Nat) : (s.step i).calm = s.calm.step i := by
  cases hc : s.clients[i]? with
  | none =>
    have hcalm : s.calm.clients[i]? = none := by
      show (s.clients.map Client.calm)[i]? = none
      rw [List.getElem?_map, hc]
      rfl
    rw [step_none hc, step_none hcalm]
  | some c =>
    have hcalm : s.calm.clients[i]? = some c.calm := by
      show (s.clients.map Client.calm)[i]? = _
      rw [List.getElem?_map, hc]
      rfl
    have hstep : c.calm.step s.calm.lock = _ := Client.calm_step s.lock c
    rw [step_some hc, step_some hcalm, hstep]
    show Shared.mk _ ((s.clients.set i _).map Client.calm) = Shared.mk _ _
    rw [List.map_set]
    rfl

/-- **Panics change nothing but the panicking calls**: the same clients, with callbacks that return
where these panic, make the same of the table and get the same answers. -/
theorem calm_run (s : Shared α) (schedule : List Nat) :
    (s.run schedule).calm = s.calm.run schedule := by
  induction schedule generalizing s with
  | nil => rfl
  | cons i schedule ih =>
    show ((s.step i).run schedule).calm = (s.calm.step i).run schedule
    rw [ih, calm_step]

theorem calm_start (t : Table) (asks : List (List (Ask α))) :
    (start t asks).calm = start t (asks.map (·.map Ask.calm)) := by
  show Shared.mk _ ((asks.map Client.ofAsks).map Client.calm) =
    Shared.mk _ ((asks.map (·.map Ask.calm)).map Client.ofAsks)
  rw [List.map_map, List.map_map]
  congr 1
  apply List.map_congr_left
  intro as _
  show Client.mk ((as.map _).map Call.calm) [] = Client.mk ((as.map Ask.calm).map _) []
  rw [List.map_map, List.map_map]
  rfl

/-! ## §4. What is appended. -/

/-- The entries that a step of client number `i` appends to the table. -/
def appends (s : Shared α) (i : Nat) : List Numeral :=
  (s.step i).lock.table.entries.toList.drop s.lock.table.size

/-- All that a schedule appends to the table, in order. -/
def appended (s : Shared α) : List Nat → List Numeral
  | [] => []
  | i :: schedule => s.appends i ++ (s.step i).appended schedule

theorem size_le_step {t : Table} (ht : t.Exact) {asks : List (List (Ask α))} {s : Shared α}
    (hs : s.Orderly t asks) (i : Nat) : s.lock.table.size ≤ (s.step i).lock.table.size := by
  cases hc : s.clients[i]? with
  | none => rw [step_none hc]
  | some c =>
    obtain ⟨-, -, hgrows⟩ :=
      Client.step_sound (hs.exact ht) (hs.sound c (List.mem_of_getElem? hc))
    rw [step_some hc]
    exact hgrows.size_le

/-- **A run only appends**: the table after it is the table before it, and what was appended. -/
theorem appended_run {t : Table} (ht : t.Exact) {asks : List (List (Ask α))} {s : Shared α}
    (hs : s.Orderly t asks) (schedule : List Nat) :
    s.lock.table.entries.toList ++ s.appended schedule =
      (s.run schedule).lock.table.entries.toList := by
  induction schedule generalizing s with
  | nil => exact List.append_nil _
  | cons i schedule ih =>
    have hs' := orderly_step ht hs i
    show _ ++ (s.appends i ++ _) = ((s.step i).run schedule).lock.table.entries.toList
    rw [← List.append_assoc, ← ih hs']
    congr 1
    exact Table.append_drop_of_exact (hs.exact ht) (hs'.exact ht) (size_le_step ht hs i)

/-- Each length past those of the first table is appended once, in order. -/
theorem appended_eq {t : Table} (ht : t.Exact) (asks : List (List (Ask α)))
    (schedule : List Nat) :
    (start t asks).appended schedule =
      (List.range' (t.size + 1)
        (((start t asks).run schedule).lock.table.size - t.size)).map ones := by
  have hstart := orderly_start t asks
  have hrun := appended_run ht hstart schedule
  -- What was appended is what is left of the last table without the entries of the first.
  have hdrop := congrArg (List.drop t.size) hrun
  rw [Table.drop_of_exact ((orderly_run ht hstart schedule).exact ht)] at hdrop
  rw [← hdrop]
  exact (List.drop_left' t.entries.length_toList).symm

/-! ## §5. Every schedule. -/

/-- **A shared table is safe under every order of steps and every panic.** At every point of every
schedule the table holds the repunits of lengths one to its size; a call for length zero is refused
and changes nothing; every other call runs its callback once, on the repunit asked for; panics
change nothing but the panicking calls; and each length is appended once. A client that has two
turns for each of its calls makes them all, and then the table is as long as the longest repunit
asked for, if it was not longer at first. -/
theorem run_every_schedule {t : Table} (ht : t.Reachable) (asks : List (List (Ask α)))
    (schedule : List Nat) :
    let s := (start t asks).run schedule
    -- the table
    s.lock.table.entries.toList = (List.range' 1 s.lock.table.size).map ones ∧
    s.lock.table.entries.toList.map Numeral.value =
      (List.range' 1 s.lock.table.size).map (fun k => (10 ^ k - 1) / 9) ∧
    s.lock.table.size = max t.size s.extent ∧
    -- the calls
    s.clients.map Client.asks = asks ∧
    (∀ c ∈ s.clients, ∀ call ∈ c.pending, call.handed = []) ∧
    (∀ c ∈ s.clients, ∀ call ∈ c.done, call.length = 0 →
      call.answer? = some (.error (.invalidInput .zeroLength)) ∧ call.handed = []) ∧
    (∀ c ∈ s.clients, ∀ call ∈ c.done, 1 ≤ call.length →
      call.answer? = some (.ok (call.callback (ones call.length))) ∧
        call.handed = [ones call.length] ∧
        (ones call.length).value = (10 ^ call.length - 1) / 9) ∧
    (∀ call : Call α, call.length = 0 → (s.lock.serve call).2 = s.lock) ∧
    -- panics
    (start t (asks.map (·.map Ask.calm))).run schedule = s.calm ∧
    -- what is appended
    t.entries.toList ++ (start t asks).appended schedule = s.lock.table.entries.toList ∧
    (start t asks).appended schedule =
      (List.range' (t.size + 1) (s.lock.table.size - t.size)).map ones ∧
    -- the end
    ((∀ i as, asks[i]? = some as → 2 * as.length ≤ schedule.count i) → s.isIdle = true) ∧
    (s.isIdle = true →
      s.lock.intoTable.size = max t.size (largest (largest Ask.length) asks)) := by
  intro s
  have hexact := ht.exact
  have hstart := orderly_start t asks
  have hs : s.Orderly t asks := orderly_run hexact hstart schedule
  refine ⟨hs.exact hexact, Table.values_of_exact (hs.exact hexact), hs.size_eq, hs.asks_eq,
    ?_, ?_, ?_, ?_, ?_, appended_run hexact hstart schedule, appended_eq hexact asks schedule,
    isIdle_run hexact asks schedule, ?_⟩
  · -- No callback has been run by a call that is not over.
    intro c hc call hcall
    exact ((hs.sound c hc).waiting call hcall).handed
  · intro c hc call hcall hlen
    have hserved := (hs.sound c hc).served call hcall
    rw [Call.answer?_of_served hserved, hserved.handed, Ask.answer, Ask.due, if_pos hlen,
      if_pos hlen]
    exact ⟨rfl, rfl⟩
  · intro c hc call hcall hlen
    have hserved := (hs.sound c hc).served call hcall
    rw [Call.answer?_of_served hserved, hserved.handed, Ask.answer, Ask.due,
      if_neg (by omega), if_neg (by omega)]
    exact ⟨rfl, rfl, by rw [Numeral.value_ones, repunit_eq_pow_div]⟩
  · intro call hlen
    exact Lock.serve_snd_of_length_zero s.lock hlen
  · rw [← calm_start, ← calm_run]
  · intro hidle
    rw [Lock.intoTable_eq, hs.size_eq, extent_of_idle hs hidle]

/-- Two clients ask for the same repunit, and the callback of the first one panics. -/
def askTogether : List (List (Ask Nat)) :=
  [[{ length := 4, callback := Numeral.digitCount, panics := fun _ => true }],
    [{ length := 4, callback := Numeral.digitCount },
      { length := 0, callback := Numeral.digitCount }]]

/-- Both miss; the first extends the table, panics and poisons the lock; the second goes on. -/
theorem run_askTogether :
    let s := (start (.ofLength 2) askTogether).run [0, 1, 0, 1, 1, 1]
    (Table.ofLength 2).Reachable ∧ s.lock.poisoned = true ∧ s.isIdle = true ∧
      s.lock.intoTable.size = 4 ∧
      (start (.ofLength 2) askTogether).appended [0, 1, 0, 1, 1, 1] = [ones 3, ones 4] := by
  intro s
  have ht : (Table.ofLength 2).Reachable := .ofLength 2
  obtain ⟨-, -, -, -, -, -, -, -, -, -, happended, hturns, hend⟩ :=
    run_every_schedule ht askTogether [0, 1, 0, 1, 1, 1]
  have hidle : s.isIdle = true := by
    apply hturns
    rintro (_ | _ | i) as has
    · cases has
      decide
    · cases has
      decide
    · simp [askTogether] at has
  have hsize : s.lock.table.size = 4 := by
    rw [← Lock.intoTable_eq, hend hidle]
    decide +kernel
  refine ⟨ht, by decide +kernel, hidle, by rw [Lock.intoTable_eq, hsize], ?_⟩
  rw [happended, hsize]
  decide +kernel

end Shared

end Repunits
