/-
  Repunits.Proofs.Repunit.Lockstep
  ────────────────────────────────
  **A search and its probe move in lockstep, whatever the probe.**

  A probe with a record (`recorded`) answers as the probe does and notes
  each of its calls. The loop of a search is written down turn by turn
  (`Course.turn`), with the states that the search has been in, and with
  a counter of lengths that has to fit in a word. `Lockstep` is the
  invariant of the turns: after `n` calls these were for the lengths one
  to `n`, and the states were those that the lengths call for. A loop
  that is left has ended as `search` does.

  Main results:
    * `search_recorded`, `search_calls` — keeping a record changes
      nothing, and what calls there are.
    * `Lockstep.turn`, `lockstep_after` — one turn, and any number of
      them.
    * `Lockstep.search_eq` — a loop that is left, and `search`.
    * `search_lockstep` — calls, states and ends of a search.
-/
import Repunits.Proofs.Repunit.Checked

namespace Repunits

/-! ## §1. A probe that keeps a record. -/

section

variable {σ : Type} (d : UInt64) (limit : Option Nat)
variable (probe : Nat → σ → Except Fault UInt64 × σ)

/-- The probe with a record of its calls: the length asked for, and the answer. -/
def recorded (k : Nat) (s : σ × List (Nat × Except Fault UInt64)) :
    Except Fault UInt64 × σ × List (Nat × Except Fault UInt64) :=
  let (answer, s') := probe k s.1
  (answer, s', s.2 ++ [(k, answer)])

/-- The calls for the lengths one to `n`, one for each of them and in this order. -/
def callsUpTo (s : σ) (n : Nat) : List (Nat × Except Fault UInt64) :=
  (List.range n).map fun i => (i + 1, answerAfter probe s i)

theorem length_callsUpTo (s : σ) (n : Nat) : (callsUpTo probe s n).length = n := by
  unfold callsUpTo
  rw [List.length_map, List.length_range]

theorem callsUpTo_succ (s : σ) (n : Nat) :
    callsUpTo probe s (n + 1) = callsUpTo probe s n ++ [(n + 1, answerAfter probe s n)] := by
  unfold callsUpTo
  rw [List.range_succ, List.map_append]
  rfl

/-- The record holds the calls. -/
theorem probed_recorded (s : σ) (n : Nat) :
    probed (recorded probe) (s, []) n = (probed probe s n, callsUpTo probe s n) := by
  induction n with
  | zero => rfl
  | succ n ih =>
    show (recorded probe (n + 1) (probed (recorded probe) (s, []) n)).2 = _
    rw [ih, callsUpTo_succ]
    rfl

theorem answerAfter_recorded (s : σ) (n : Nat) :
    answerAfter (recorded probe) (s, []) n = answerAfter probe s n := by
  show (recorded probe (n + 1) (probed (recorded probe) (s, []) n)).1 = _
  rw [probed_recorded]
  rfl

theorem drive_recorded (bound : Nat) (stage : Stage)
    (s : σ × List (Nat × Except Fault UInt64)) :
    (drive d bound (recorded probe) stage s).1 = (drive d bound probe stage s.1).1 ∧
      (drive d bound (recorded probe) stage s).2.1 = (drive d bound probe stage s.1).2 := by
  induction stage, s using drive.induct d bound (recorded probe) with
  | case1 report s =>
    rw [drive_ended, drive_ended]
    exact ⟨rfl, rfl⟩
  | case2 k s answer s' hprobe ih =>
    have hanswer : (probe k s.1).1 = answer := congrArg Prod.fst hprobe
    have hstate : (probe k s.1).2 = s'.1 := congrArg (fun r => r.2.1) hprobe
    rw [drive_probing, drive_probing, hprobe, hanswer, hstate]
    exact ih

/-- **Keeping a record changes nothing**: the search reports the same, and leaves the probe in the same
state. -/
theorem search_recorded (s : σ × List (Nat × Except Fault UInt64)) :
    (search d limit (recorded probe) s).1 = (search d limit probe s.1).1 ∧
      (search d limit (recorded probe) s).2.1 = (search d limit probe s.1).2 :=
  drive_recorded d probe _ _ s

/-! ## §2. The calls of every search. -/

/-- An answer that does not let the search go on is zero or a fault. -/
theorem eq_of_not_quiet {answer : Except Fault UInt64} (h : ¬ Quiet answer) :
    answer = .ok 0 ∨ ∃ e, answer = .error e := by
  cases answer with
  | error e => exact Or.inr ⟨e, rfl⟩
  | ok r =>
    by_cases hr : r = 0
    · exact Or.inl (congrArg Except.ok hr)
    · exact absurd ⟨r, rfl, hr⟩ h

/-- The first `n` answers are quiet, or one of them is the first that is not. -/
theorem quiet_or_first (s : σ) (n : Nat) :
    (∀ i, i < n → Quiet (answerAfter probe s i)) ∨
      ∃ j, j < n ∧ (∀ i, i < j → Quiet (answerAfter probe s i)) ∧
        ¬ Quiet (answerAfter probe s j) := by
  induction n with
  | zero => exact Or.inl nofun
  | succ n ih =>
    rcases ih with hq | ⟨j, hj, hq, hloud⟩
    · by_cases hn : Quiet (answerAfter probe s n)
      · exact Or.inl (Nat.forall_lt_succ_right.mpr ⟨hq, hn⟩)
      · exact Or.inr ⟨n, Nat.lt_succ_self n, hq, hn⟩
    · exact Or.inr ⟨j, Nat.lt_succ_of_lt hj, hq, hloud⟩

/-- **Every search** has called its probe for the lengths one to some `n` within the bound, and was done
with the last of them. -/
theorem search_calls (s : σ) :
    ∃ n, n ≤ limit.getD maxLength ∧ (∀ i, i + 1 < n → Quiet (answerAfter probe s i)) ∧
      (search d limit probe s).1.tested = n ∧ (search d limit probe s).2 = probed probe s n := by
  rcases quiet_or_first probe s (limit.getD maxLength) with hq | ⟨j, hj, hq, hloud⟩
  · refine ⟨limit.getD maxLength, Nat.le_refl _, fun i hi => hq i (by omega), ?_⟩
    rw [search_of_limit d hq]
    exact ⟨rfl, rfl⟩
  · refine ⟨j + 1, hj, fun i hi => hq i (by omega), ?_⟩
    rcases eq_of_not_quiet hloud with hzero | ⟨e, herror⟩
    · rw [search_of_zero d hj hq hzero]
      exact ⟨rfl, rfl⟩
    · rw [search_of_error d hj hq herror]
      exact ⟨rfl, rfl⟩

end

/-! ## §3. The loop of a search, turn by turn. -/

/-- Where the loop of a search stands. -/
inductive Course.Phase where
  /-- The next turn finds the search in this state. -/
  | running (state : Progress)
  | left (result : Except Fault Nat)
  /-- There is no word for the next length. -/
  | overflowed

/-- The loop of a search between two turns. -/
structure Course (σ : Type) where
  phase : Course.Phase
  /-- The states that the search has been in, in their order. -/
  states : List Progress
  /-- The state of the probe. -/
  memory : σ

namespace Course

variable {σ : Type} (d : UInt64) (limit : Option Nat)
variable (probe : Nat → σ → Except Fault UInt64 × σ)

/-- The loop before its first turn. -/
def start (s : σ) : Course σ := ⟨.running .start, [.start], s⟩

/-- Goes on to the next state, if there is one. -/
def enter (c : Course σ) : Option Progress → Course σ
  | none => { c with phase := .overflowed }
  | some p => { c with phase := .running p, states := c.states ++ [p] }

/-- One turn of the loop: a length that was found or is past the limit ends it, any other is probed. -/
def turn (c : Course σ) : Course σ :=
  match c.phase with
  | .running (.found k) => { c with phase := .left (.ok k) }
  | .running (.searching k) =>
    match limit.filter (· < k) with
    | some L => { c with phase := .left (.error (.limitExceeded d L)) }
    | none =>
      match probe k c.memory with
      | (.error e, s') => { c with phase := .left (.error e), memory := s' }
      | (.ok r, s') =>
        { c with memory := s' }.enter ((Progress.searching k).advance? maxLength (r == 0))
  | .left _ => c
  | .overflowed => c

/-- The loop after `m` turns. -/
def after (s : σ) : Nat → Course σ
  | 0 => start s
  | m + 1 => (after s m).turn d limit probe

end Course

/-- The states of a search for the lengths one to `n`. -/
def searchings (n : Nat) : List Progress := (List.range n).map fun i => .searching (i + 1)

theorem searchings_succ (n : Nat) : searchings (n + 1) = searchings n ++ [.searching (n + 1)] := by
  unfold searchings
  rw [List.range_succ, List.map_append]
  rfl

/-! ## §4. What a turn does. -/

section

variable {σ : Type} {d : UInt64} {limit : Option Nat}
variable {probe : Nat → σ → Except Fault UInt64 × σ} {s : σ} {n : Nat}

namespace Course

/-- A turn within the limit is one call, and the answer says what comes of it. -/
theorem turn_searching (hn : ∀ L ∈ limit, n + 1 ≤ L) (states : List Progress) :
    turn d limit probe ⟨.running (.searching (n + 1)), states, probed probe s n⟩ =
      match answerAfter probe s n with
      | .error e => ⟨.left (.error e), states, probed probe s (n + 1)⟩
      | .ok r =>
        enter ⟨.running (.searching (n + 1)), states, probed probe s (n + 1)⟩
          ((Progress.searching (n + 1)).advance? maxLength (r == 0)) := by
  have hprobe : probe (n + 1) (probed probe s n) =
      (answerAfter probe s n, probed probe s (n + 1)) := rfl
  unfold turn
  simp only [filter_lt_eq_none hn, hprobe]
  cases answerAfter probe s n <;> rfl

/-- A turn past the limit makes no call. -/
theorem turn_past (hlimit : limit = some n) (states : List Progress) (memory : σ) :
    turn d limit probe ⟨.running (.searching (n + 1)), states, memory⟩ =
      ⟨.left (.error (.limitExceeded d n)), states, memory⟩ := by
  have hfilter : (some n).filter (· < n + 1) = some n := by simp
  unfold turn
  simp only [hlimit, hfilter]

theorem turn_error (hn : ∀ L ∈ limit, n + 1 ≤ L) {e : Fault} (h : answerAfter probe s n = .error e)
    (states : List Progress) :
    turn d limit probe ⟨.running (.searching (n + 1)), states, probed probe s n⟩ =
      ⟨.left (.error e), states, probed probe s (n + 1)⟩ := by
  rw [turn_searching hn, h]

theorem turn_zero (hn : ∀ L ∈ limit, n + 1 ≤ L) (h : answerAfter probe s n = .ok 0)
    (states : List Progress) :
    turn d limit probe ⟨.running (.searching (n + 1)), states, probed probe s n⟩ =
      ⟨.running (.found (n + 1)), states ++ [.found (n + 1)], probed probe s (n + 1)⟩ := by
  rw [turn_searching hn, h]
  rfl

theorem turn_quiet (hn : ∀ L ∈ limit, n + 1 ≤ L) (hroom : n + 1 < maxLength)
    (h : Quiet (answerAfter probe s n)) (states : List Progress) :
    turn d limit probe ⟨.running (.searching (n + 1)), states, probed probe s n⟩ =
      ⟨.running (.searching (n + 1 + 1)), states ++ [.searching (n + 1 + 1)],
        probed probe s (n + 1)⟩ := by
  obtain ⟨r, hr, hne⟩ := h
  rw [turn_searching hn, hr]
  dsimp only
  rw [beq_false_of_ne hne, Progress.advance?_false hroom]
  rfl

/-- There is no word past the largest. -/
theorem turn_overflow (hn : ∀ L ∈ limit, n + 1 ≤ L) (hroom : ¬ n + 1 < maxLength)
    (h : Quiet (answerAfter probe s n)) (states : List Progress) :
    turn d limit probe ⟨.running (.searching (n + 1)), states, probed probe s n⟩ =
      ⟨.overflowed, states, probed probe s (n + 1)⟩ := by
  obtain ⟨r, hr, hne⟩ := h
  have hnone : (Progress.searching (n + 1)).advance? maxLength false = none := if_neg hroom
  rw [turn_searching hn, hr]
  dsimp only
  rw [beq_false_of_ne hne, hnone]
  rfl

end Course

/-! ## §5. The invariant of the turns. -/

/-- The lengths up to `n` may be tried: they are words, and within the limit. -/
structure Allowed (limit : Option Nat) (n : Nat) : Prop where
  word : n ≤ maxLength
  within : ∀ L ∈ limit, n ≤ L

theorem Allowed.le_bound (h : Allowed limit n) : n ≤ limit.getD maxLength :=
  le_getD_maxLength h.word h.within

theorem Allowed.of_succ (h : Allowed limit (n + 1)) : Allowed limit n :=
  ⟨Nat.le_of_succ_le h.word, fun L hL => Nat.le_of_succ_le (h.within L hL)⟩

/-- A search that has not come past the limit may try the next length, or has come to the limit. -/
theorem Allowed.next_or_eq (hn : Allowed limit n) :
    (∀ L ∈ limit, n + 1 ≤ L) ∨ limit = some n := by
  cases limit with
  | none => exact Or.inl nofun
  | some L =>
    rcases Nat.lt_or_eq_of_le (hn.within L rfl) with hlt | rfl
    · left
      intro L' hL'
      cases hL'
      exact hlt
    · exact Or.inr rfl

variable (d limit probe s)

/-- The loop after `n` calls. -/
inductive Lockstep : Nat → Course σ → Prop where
  /-- All answers let the search go on. -/
  | searching {n : Nat} (hroom : n < maxLength) (hn : Allowed limit n)
      (hq : ∀ i, i < n → Quiet (answerAfter probe s i)) :
      Lockstep n ⟨.running (.searching (n + 1)), searchings (n + 1), probed probe s n⟩
  /-- The last answer was zero. -/
  | found {n : Nat} (hn : Allowed limit (n + 1)) (hq : ∀ i, i < n → Quiet (answerAfter probe s i))
      (h : answerAfter probe s n = .ok 0) :
      Lockstep (n + 1) ⟨.running (.found (n + 1)), searchings (n + 1) ++ [.found (n + 1)],
        probed probe s (n + 1)⟩
  | returned {n : Nat} (hn : Allowed limit (n + 1))
      (hq : ∀ i, i < n → Quiet (answerAfter probe s i)) (h : answerAfter probe s n = .ok 0) :
      Lockstep (n + 1) ⟨.left (.ok (n + 1)), searchings (n + 1) ++ [.found (n + 1)],
        probed probe s (n + 1)⟩
  /-- The last answer was a fault. -/
  | failed {n : Nat} {e : Fault} (hn : Allowed limit (n + 1))
      (hq : ∀ i, i < n → Quiet (answerAfter probe s i)) (h : answerAfter probe s n = .error e) :
      Lockstep (n + 1) ⟨.left (.error e), searchings (n + 1), probed probe s (n + 1)⟩
  /-- The next length is past the limit. -/
  | exceeded {n : Nat} (hn : Allowed limit n) (hlimit : limit = some n)
      (hq : ∀ i, i < n → Quiet (answerAfter probe s i)) :
      Lockstep n ⟨.left (.error (.limitExceeded d n)), searchings (n + 1), probed probe s n⟩
  /-- The next length is past the largest word. -/
  | overflowed {n : Nat} (hlast : n = maxLength) (hn : Allowed limit n)
      (hq : ∀ i, i < n → Quiet (answerAfter probe s i)) :
      Lockstep n ⟨.overflowed, searchings n, probed probe s n⟩

variable {d limit probe s} {c : Course σ}

/-- The state of the probe is threaded through the calls. -/
theorem Lockstep.memory_eq (h : Lockstep d limit probe s n c) : c.memory = probed probe s n := by
  cases h <;> rfl

theorem Lockstep.allowed (h : Lockstep d limit probe s n c) : Allowed limit n := by
  cases h <;> assumption

/-- A call that is not the last let the search go on. -/
theorem Lockstep.quiet_before (h : Lockstep d limit probe s n c) {i : Nat} (hi : i + 1 < n) :
    Quiet (answerAfter probe s i) := by
  cases h <;> exact ‹∀ j, j < _ → Quiet (answerAfter probe s j)› i (by omega)

/-- The counter runs out only where all words have been tried. -/
theorem Lockstep.eq_of_overflowed (h : Lockstep d limit probe s n c) (hc : c.phase = .overflowed) :
    n = maxLength := by
  cases h with
  | overflowed hlast => exact hlast
  | _ => cases hc

/-- The states are those of the lengths in order, with at most one at the end that is found. -/
theorem Lockstep.states_cases (h : Lockstep d limit probe s n c) :
    c.states = searchings n ∨ c.states = searchings (n + 1) ∨
      c.states = searchings n ++ [.found n] ∧ ∃ i, i + 1 = n ∧ answerAfter probe s i = .ok 0 := by
  cases h with
  | searching => exact Or.inr (Or.inl rfl)
  | found _ _ h => exact Or.inr (Or.inr ⟨rfl, _, rfl, h⟩)
  | returned _ _ h => exact Or.inr (Or.inr ⟨rfl, _, rfl, h⟩)
  | failed => exact Or.inl rfl
  | exceeded => exact Or.inr (Or.inl rfl)
  | overflowed => exact Or.inl rfl

/-- **A loop that is left has ended as the search does**, after as many calls. -/
theorem Lockstep.search_eq {result : Except Fault Nat} {states : List Progress} {memory : σ}
    (h : Lockstep d limit probe s n ⟨.left result, states, memory⟩) :
    search d limit probe s = (⟨n, result⟩, memory) := by
  cases h with
  | returned hn hq h => exact search_of_zero d hn.le_bound hq h
  | failed hn hq h => exact search_of_error d hn.le_bound hq h
  | exceeded _ hlimit hq =>
    subst hlimit
    exact search_of_limit d hq

/-- **A turn keeps the invariant**: it makes one more call, or none. -/
theorem Lockstep.turn (h : Lockstep d limit probe s n c) :
    ∃ n', Lockstep d limit probe s n' (c.turn d limit probe) := by
  cases h with
  | searching hroom hn hq =>
    rcases hn.next_or_eq with hnext | hlimit
    · have hallowed : Allowed limit (n + 1) := ⟨hroom, hnext⟩
      refine ⟨n + 1, ?_⟩
      cases hanswer : answerAfter probe s n with
      | error e =>
        rw [Course.turn_error hnext hanswer]
        exact .failed hallowed hq hanswer
      | ok r =>
        by_cases hr : r = 0
        · subst hr
          rw [Course.turn_zero hnext hanswer]
          exact .found hallowed hq hanswer
        · have hquiet : Quiet (answerAfter probe s n) := ⟨r, hanswer, hr⟩
          have hq' : ∀ i, i < n + 1 → Quiet (answerAfter probe s i) :=
            Nat.forall_lt_succ_right.mpr ⟨hq, hquiet⟩
          -- The counter goes on as long as there is a word for the next length.
          by_cases hnextRoom : n + 1 < maxLength
          · rw [Course.turn_quiet hnext hnextRoom hquiet, ← searchings_succ]
            exact .searching hnextRoom hallowed hq'
          · rw [Course.turn_overflow hnext hnextRoom hquiet]
            exact .overflowed (by omega) hallowed hq'
    · rw [Course.turn_past hlimit]
      exact ⟨n, .exceeded hn hlimit hq⟩
  | found hn hq h => exact ⟨_, .returned hn hq h⟩
  | returned hn hq h => exact ⟨_, .returned hn hq h⟩
  | failed hn hq h => exact ⟨_, .failed hn hq h⟩
  | exceeded hn hlimit hq => exact ⟨_, .exceeded hn hlimit hq⟩
  | overflowed hlast hn hq => exact ⟨_, .overflowed hlast hn hq⟩

/-! ## §6. Any number of turns. -/

variable (d limit probe s)

/-- **After any number of turns** the calls and the states are in lockstep. -/
theorem lockstep_after (m : Nat) :
    ∃ n, Lockstep d limit probe s n (Course.after d limit probe s m) := by
  induction m with
  | zero =>
    have hpos : 0 < maxLength := by decide
    exact ⟨0, .searching hpos ⟨Nat.zero_le _, fun _ _ => Nat.zero_le _⟩ nofun⟩
  | succ m ih =>
    obtain ⟨n, hn⟩ := ih
    exact hn.turn

variable {d limit probe s}

namespace Course

/-- While the probe is quiet each turn makes one call. -/
theorem after_of_quiet (hroom : n < maxLength) (hn : Allowed limit n)
    (hq : ∀ i, i < n → Quiet (answerAfter probe s i)) :
    after d limit probe s n =
      ⟨.running (.searching (n + 1)), searchings (n + 1), probed probe s n⟩ := by
  induction n with
  | zero => rfl
  | succ n ih =>
    show (after d limit probe s n).turn d limit probe = _
    rw [ih (by omega) hn.of_succ fun i hi => hq i (by omega),
      turn_quiet hn.within hroom (hq n (Nat.lt_succ_self n)), ← searchings_succ]

/-- The first zero within the limit ends the loop two turns later. -/
theorem after_of_zero (hn : Allowed limit (n + 1))
    (hq : ∀ i, i < n → Quiet (answerAfter probe s i)) (h : answerAfter probe s n = .ok 0) :
    after d limit probe s (n + 2) =
      ⟨.left (.ok (n + 1)), searchings (n + 1) ++ [.found (n + 1)], probed probe s (n + 1)⟩ := by
  show ((after d limit probe s n).turn d limit probe).turn d limit probe = _
  rw [after_of_quiet hn.word hn.of_succ hq, turn_zero hn.within h]
  rfl

/-- The first fault within the limit ends the loop at once. -/
theorem after_of_error {e : Fault} (hn : Allowed limit (n + 1))
    (hq : ∀ i, i < n → Quiet (answerAfter probe s i)) (h : answerAfter probe s n = .error e) :
    after d limit probe s (n + 1) =
      ⟨.left (.error e), searchings (n + 1), probed probe s (n + 1)⟩ := by
  show (after d limit probe s n).turn d limit probe = _
  rw [after_of_quiet hn.word hn.of_succ hq, turn_error hn.within h]

/-- A limit that all answers are quiet up to ends the loop, unless it is the largest word. -/
theorem after_of_limit (hroom : n < maxLength) (hlimit : limit = some n)
    (hq : ∀ i, i < n → Quiet (answerAfter probe s i)) :
    after d limit probe s (n + 1) =
      ⟨.left (.error (.limitExceeded d n)), searchings (n + 1), probed probe s n⟩ := by
  have hn : ∀ L ∈ limit, n ≤ L := by
    intro L hL
    rw [hlimit] at hL
    exact Nat.le_of_eq (Option.some.inj hL)
  show (after d limit probe s n).turn d limit probe = _
  rw [after_of_quiet hroom ⟨Nat.le_of_lt hroom, hn⟩ hq, turn_past hlimit]

end Course

/-! ## §7. Ends. -/

variable (d limit probe s)

/-- A search ends with a result after `n` calls: its loop is left with this result, and `search` reports
it, the record of the probe holding the calls for the lengths one to `n`. -/
structure Ends (n : Nat) (result : Except Fault Nat) : Prop where
  left : ∃ m, (Course.after d limit (recorded probe) (s, []) m).phase = .left result
  search_eq : search d limit (recorded probe) (s, []) =
    (⟨n, result⟩, probed probe s n, callsUpTo probe s n)

variable {d limit probe s}

/-- **A loop that is left is the end of the search**, after as many calls as there are in the record. -/
theorem ends_of_left {m : Nat} {result : Except Fault Nat} {states : List Progress}
    (h : Course.after d limit (recorded probe) (s, []) m =
      ⟨.left result, states, probed (recorded probe) (s, []) n⟩) :
    Ends d limit probe s n result := by
  obtain ⟨n', hn'⟩ := lockstep_after d limit (recorded probe) (s, []) m
  rw [h] at hn'
  have hcalls : n = n' := by
    have hlength := congrArg (fun memory => memory.2.length) hn'.memory_eq
    simpa [probed_recorded, length_callsUpTo] using hlength
  subst hcalls
  refine ⟨⟨m, congrArg Course.phase h⟩, ?_⟩
  rw [hn'.search_eq, probed_recorded]

theorem exists_ends_of_left {m : Nat} {result : Except Fault Nat}
    (h : (Course.after d limit (recorded probe) (s, []) m).phase = .left result) :
    ∃ n, Ends d limit probe s n result := by
  obtain ⟨n, hn⟩ := lockstep_after d limit (recorded probe) (s, []) m
  have hleft : Course.after d limit (recorded probe) (s, []) m =
      ⟨.left result, (Course.after d limit (recorded probe) (s, []) m).states,
        probed (recorded probe) (s, []) n⟩ := by
    rw [← h, ← hn.memory_eq]
  exact ⟨n, ends_of_left hleft⟩

end

/-- **Calls, states and ends of a search, whatever the probe.** A probe may keep a record of its calls; that
changes nothing. The calls of the search are for the lengths one to some `n` within the limit, one for
each and in this order, the state of the probe is threaded through them, and all answers but the last
are remainders other than zero. The same is so after any number of turns of the loop, and the states were
searching at one, at two and so on, with at most one that is found, at the end and after an answer of
zero. A loop that is left is the end of the search. It is left if the first call that is answered with
zero or a fault is for a word within the limit: with its length, or with that fault; and if the limit is
set and below the largest word, and no call up to it is answered so: with the limit exceeded. -/
theorem search_lockstep {σ : Type} (d : UInt64) (limit : Option Nat)
    (probe : Nat → σ → Except Fault UInt64 × σ) (s : σ) :
    let course := Course.after d limit (recorded probe) (s, [])
    let answer := answerAfter probe s
    -- a record changes nothing, and holds the calls
    ((search d limit (recorded probe) (s, [])).1 = (search d limit probe s).1 ∧
      (search d limit (recorded probe) (s, [])).2.1 = (search d limit probe s).2) ∧
    (∃ n, n ≤ limit.getD maxLength ∧ (∀ i, i + 1 < n → Quiet (answer i)) ∧
      (search d limit (recorded probe) (s, [])).1.tested = n ∧
      (search d limit (recorded probe) (s, [])).2 = (probed probe s n, callsUpTo probe s n)) ∧
    -- after any number of turns
    (∀ m, ∃ n, (course m).memory = (probed probe s n, callsUpTo probe s n) ∧
      n ≤ maxLength ∧ (∀ L ∈ limit, n ≤ L) ∧ (∀ i, i + 1 < n → Quiet (answer i)) ∧
      ((course m).states = searchings n ∨ (course m).states = searchings (n + 1) ∨
        (course m).states = searchings n ++ [.found n] ∧ ∃ i, i + 1 = n ∧ answer i = .ok 0) ∧
      ((course m).phase = .overflowed → n = maxLength)) ∧
    -- when the loop is left
    (∀ m result, (course m).phase = .left result → ∃ n, Ends d limit probe s n result) ∧
    -- the first zero, or the first fault
    (∀ j, j + 1 ≤ maxLength → (∀ L ∈ limit, j + 1 ≤ L) → (∀ i, i < j → Quiet (answer i)) →
      (answer j = .ok 0 → Ends d limit probe s (j + 1) (.ok (j + 1))) ∧
      ∀ e, answer j = .error e → Ends d limit probe s (j + 1) (.error e)) ∧
    -- the limit
    ∀ L, limit = some L → L < maxLength → (∀ i, i < L → Quiet (answer i)) →
      Ends d limit probe s L (.error (.limitExceeded d L)) := by
  intro course answer
  have hanswer : ∀ i, answerAfter (recorded probe) (s, []) i = answer i := answerAfter_recorded probe s
  refine ⟨search_recorded d limit probe (s, []), ?_, ?_, fun m result => exists_ends_of_left, ?_, ?_⟩
  · obtain ⟨n, hle, hq, htested, hmemory⟩ := search_calls d limit (recorded probe) (s, [])
    simp only [hanswer] at hq
    rw [probed_recorded] at hmemory
    exact ⟨n, hle, hq, htested, hmemory⟩
  · intro m
    obtain ⟨n, hn⟩ := lockstep_after d limit (recorded probe) (s, []) m
    refine ⟨n, ?_, hn.allowed.word, hn.allowed.within, ?_, ?_, hn.eq_of_overflowed⟩
    · rw [← probed_recorded]
      exact hn.memory_eq
    · intro i hi
      rw [← hanswer]
      exact hn.quiet_before hi
    · have hstates := hn.states_cases
      simp only [hanswer] at hstates
      exact hstates
  · intro j hword hwithin hq
    simp only [← hanswer] at hq ⊢
    exact ⟨fun h => ends_of_left (Course.after_of_zero ⟨hword, hwithin⟩ hq h),
      fun e h => ends_of_left (Course.after_of_error ⟨hword, hwithin⟩ hq h)⟩
  · intro L hlimit hroom hq
    simp only [← hanswer] at hq
    exact ends_of_left (Course.after_of_limit hroom hlimit hq)

/-- A probe that counts down, and has nothing to say of nine. -/
theorem search_lockstep_countdown :
    let probe : Nat → Nat → Except Fault UInt64 × Nat := fun _ r =>
      (if r = 9 then .error .divisionByZero else .ok (UInt64.ofNat r), r - 1)
    Ends 7 none probe 3 4 (.ok 4) ∧ Ends 7 (some 11) probe 10 2 (.error .divisionByZero) ∧
      Ends 7 (some 2) probe 3 2 (.error (.limitExceeded 7 2)) ∧
      Ends 7 (some 0) probe 3 0 (.error (.limitExceeded 7 0)) := by
  intro probe
  have hthree : ∀ i, i < 3 → Quiet (answerAfter probe 3 i) := by
    intro i hi
    interval_cases i <;> exact ⟨_, rfl, by decide⟩
  have hten : ∀ i, i < 1 → Quiet (answerAfter probe 10 i) := by
    intro i hi
    interval_cases i
    exact ⟨_, rfl, by decide⟩
  obtain ⟨-, -, -, -, hfree, -⟩ := search_lockstep 7 none probe 3
  obtain ⟨-, -, -, -, hlarge, -⟩ := search_lockstep 7 (some 11) probe 10
  obtain ⟨-, -, -, -, -, htwo⟩ := search_lockstep 7 (some 2) probe 3
  obtain ⟨-, -, -, -, -, hzero⟩ := search_lockstep 7 (some 0) probe 3
  refine ⟨(hfree 3 (by decide) nofun hthree).1 rfl, (hlarge 1 (by decide) ?_ hten).2 _ rfl,
    htwo 2 rfl (by decide) fun i hi => hthree i (by omega), hzero 0 rfl (by decide) nofun⟩
  intro L hL
  cases hL
  decide

end Repunits
