/-
  Repunits.Proofs.Schedule
  ────────────────────────────────
  **Parties that step by turns, in the order of a schedule.**

  Clients of a shared table and workers of a pool are parties in a list;
  a schedule is a list of their numbers, and each step changes the party
  whose turn it is. Two things are said of all of them at once: what
  each has come to need of the table, by the largest of these numbers,
  and what each has still to do, by the turns it has had.

  Main results:
    * `largest_set` — the largest need, when one party needs more.
    * `work_after_turns` — a party's work after its turns in a schedule.
-/
import Mathlib.Data.List.Basic

namespace Repunits

/-! ## §1. The largest of many numbers. -/

/-- The largest value of `f` over a list; zero for the empty list. -/
def largest {α : Type} (f : α → Nat) (xs : List α) : Nat :=
  xs.foldr (fun x n => max (f x) n) 0

section

variable {α β : Type} (f : α → Nat)

@[simp] theorem largest_nil : largest f [] = 0 := rfl

@[simp] theorem largest_cons (x : α) (xs : List α) :
    largest f (x :: xs) = max (f x) (largest f xs) := rfl

theorem le_largest {xs : List α} {x : α} (h : x ∈ xs) : f x ≤ largest f xs := by
  induction xs with
  | nil => cases h
  | cons y ys ih =>
    rw [largest_cons]
    rcases List.mem_cons.mp h with rfl | h
    · exact Nat.le_max_left _ _
    · exact Nat.le_trans (ih h) (Nat.le_max_right _ _)

theorem largest_le {xs : List α} {n : Nat} (h : ∀ x ∈ xs, f x ≤ n) : largest f xs ≤ n := by
  induction xs with
  | nil => exact Nat.zero_le n
  | cons y ys ih =>
    rw [largest_cons]
    exact Nat.max_le.mpr ⟨h y List.mem_cons_self, ih fun x hx => h x (List.mem_cons_of_mem y hx)⟩

@[simp] theorem largest_append (xs ys : List α) :
    largest f (xs ++ ys) = max (largest f xs) (largest f ys) := by
  induction xs with
  | nil => simp
  | cons x xs ih => rw [List.cons_append, largest_cons, largest_cons, ih, Nat.max_assoc]

@[simp] theorem largest_reverse (xs : List α) : largest f xs.reverse = largest f xs := by
  induction xs with
  | nil => rfl
  | cons x xs ih =>
    rw [List.reverse_cons, largest_append, ih, largest_cons, largest_cons, largest_nil]
    omega

@[simp] theorem largest_map (g : β → α) (xs : List β) :
    largest f (xs.map g) = largest (fun x => f (g x)) xs := by
  induction xs with
  | nil => rfl
  | cons x xs ih => rw [List.map_cons, largest_cons, largest_cons, ih]

theorem largest_congr {g : α → Nat} {xs : List α} (h : ∀ x ∈ xs, f x = g x) :
    largest f xs = largest g xs := by
  induction xs with
  | nil => rfl
  | cons x xs ih =>
    rw [largest_cons, largest_cons, h x List.mem_cons_self,
      ih fun y hy => h y (List.mem_cons_of_mem x hy)]

theorem largest_eq_zero {xs : List α} (h : ∀ x ∈ xs, f x = 0) : largest f xs = 0 := by
  induction xs with
  | nil => rfl
  | cons x xs ih =>
    rw [largest_cons, h x List.mem_cons_self, ih fun y hy => h y (List.mem_cons_of_mem x hy),
      Nat.max_zero]

/-- **When one number grows** the largest is what it was, or the new number. -/
theorem largest_set {xs : List α} {i : Nat} {x y : α} (hx : xs[i]? = some x) (h : f x ≤ f y) :
    largest f (xs.set i y) = max (largest f xs) (f y) := by
  induction xs generalizing i with
  | nil => simp at hx
  | cons z zs ih =>
    cases i with
    | zero =>
      have hz : z = x := by simpa using hx
      rw [List.set_cons_zero, largest_cons, largest_cons, hz]
      omega
    | succ i =>
      have hx' : zs[i]? = some x := by simpa using hx
      rw [List.set_cons_succ, largest_cons, largest_cons, ih hx']
      omega

end

/-! ## §2. Turns. -/

/-- What holds of the parties is kept when one of them is replaced by another of which it holds. -/
theorem forall_mem_set {α : Type} {P : α → Prop} {xs : List α} (h : ∀ x ∈ xs, P x) {y : α}
    (hy : P y) (i : Nat) : ∀ x ∈ xs.set i y, P x := by
  intro x hx
  rcases List.mem_or_eq_of_mem_set hx with hx | rfl
  · exact h x hx
  · exact hy

/-- A view of the parties that a replacement does not change. -/
theorem map_set_eq_self {α β : Type} (f : α → β) {xs : List α} {i : Nat} {x y : α}
    (hx : xs[i]? = some x) (h : f y = f x) : (xs.set i y).map f = xs.map f := by
  apply List.ext_getElem?
  intro j
  rw [List.getElem?_map, List.getElem?_map]
  by_cases hij : i = j
  · subst hij
    have hlt : i < xs.length := (List.getElem?_eq_some_iff.mp hx).1
    rw [List.getElem?_set_self hlt, hx, Option.map_some, Option.map_some, h]
  · rw [List.getElem?_set_ne hij]

/-- **A party has less work after each of its turns**, and no more after the turns of others. -/
theorem work_after_turns {σ α : Type} (step : σ → Nat → σ) (parties : σ → List α)
    (work : α → Nat) (Inv : σ → Prop) (hinv : ∀ s i, Inv s → Inv (step s i))
    (hnone : ∀ s i, (parties s)[i]? = none → parties (step s i) = parties s)
    (hsome : ∀ s i x, Inv s → (parties s)[i]? = some x →
      ∃ y, parties (step s i) = (parties s).set i y ∧ work y ≤ work x - 1)
    (schedule : List Nat) {s : σ} (hs : Inv s) {j : Nat} {x : α} (hx : (parties s)[j]? = some x) :
    ∃ y, (parties (schedule.foldl step s))[j]? = some y ∧ work y ≤ work x - schedule.count j := by
  induction schedule generalizing s x with
  | nil => exact ⟨x, hx, Nat.le_refl _⟩
  | cons i schedule ih =>
    have hs' := hinv s i hs
    rw [List.count_cons]
    by_cases hij : i = j
    · -- The party's own turn.
      subst hij
      obtain ⟨y, hset, hxy⟩ := hsome s i x hs hx
      have hlt : i < (parties s).length := (List.getElem?_eq_some_iff.mp hx).1
      obtain ⟨z, hz, hyz⟩ := ih hs' (by rw [hset, List.getElem?_set_self hlt])
      refine ⟨z, hz, ?_⟩
      rw [if_pos (beq_self_eq_true i)]
      omega
    · -- Another party's turn, or nobody's: the party stays as it is.
      have hx' : (parties (step s i))[j]? = some x := by
        cases hi : (parties s)[i]? with
        | none => rw [hnone s i hi, hx]
        | some w =>
          obtain ⟨y, hset, -⟩ := hsome s i w hs hi
          rw [hset, List.getElem?_set_ne hij, hx]
      obtain ⟨z, hz, hyz⟩ := ih hs' hx'
      exact ⟨z, hz, by rw [if_neg (by simpa using hij)]; omega⟩

end Repunits
