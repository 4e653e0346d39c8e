/-
  Repunits.Proofs.Steps
  ────────────────────────────────
  **Steps that may fail, one after the other.**

  A computation of several steps succeeds when each of its steps does. So
  it can be taken apart at the first one, and over a list it fails as the
  first item does that fails. What can hold of an item holds of all in a
  list, or there is a first of which it does not.

  Main results:
    * `bind_eq_ok` — a computation that succeeded, taken apart.
    * `mapM_eq_ok_iff` — one step for each item of a list.
    * `forall_or_first`, `ok_or_first_error` — all items, or a first one.
    * `mapM_of_first_error` — the first failure is that of the list.
    * `result_iff` — two kinds of ends that leave no third.
    * `exists_forall₂`, `exists_of_forall₂` — what each item gives, as a list.
-/
import Mathlib.Data.List.Forall2

namespace Repunits

variable {ε α β : Type}

theorem bind_eq_ok {x : Except ε α} {f : α → Except ε β} {b : β}
    (h : x >>= f = .ok b) : ∃ a, x = .ok a ∧ f a = .ok b := by
  cases x with
  | error e => cases h
  | ok a => exact ⟨a, rfl, h⟩

/-- One step for each item succeeds when each of them does. -/
theorem mapM_eq_ok_iff {f : α → Except ε β} {as : List α} {bs : List β} :
    as.mapM f = .ok bs ↔ List.Forall₂ (fun a b => f a = .ok b) as bs := by
  induction as generalizing bs with
  | nil =>
    rw [List.mapM_nil, List.forall₂_nil_left_iff]
    constructor
    · rintro ⟨⟩
      rfl
    · rintro rfl
      rfl
  | cons a as ih =>
    rw [List.mapM_cons]
    constructor
    · intro h
      obtain ⟨b, hb, h⟩ := bind_eq_ok h
      obtain ⟨rest, hrest, h⟩ := bind_eq_ok h
      cases h
      exact .cons hb (ih.mp hrest)
    · intro h
      cases h with
      | cons hb hrest =>
        rw [hb, ih.mpr hrest]
        rfl

/-- What can hold of an item holds of all, or there is a first of which it does not. -/
theorem forall_or_first (P : α → Prop) (as : List α) :
    (∀ a ∈ as, P a) ∨
      ∃ front a back, as = front ++ a :: back ∧ (∀ x ∈ front, P x) ∧ ¬ P a := by
  induction as with
  | nil => exact Or.inl (List.forall_mem_nil P)
  | cons a as ih =>
    by_cases ha : P a
    · rcases ih with hall | ⟨front, b, back, rfl, hfront, hb⟩
      · exact Or.inl (List.forall_mem_cons.mpr ⟨ha, hall⟩)
      · exact Or.inr ⟨a :: front, b, back, rfl, List.forall_mem_cons.mpr ⟨ha, hfront⟩, hb⟩
    · exact Or.inr ⟨[], a, as, rfl, List.forall_mem_nil P, ha⟩

/-- The step succeeds for all items, or there is a first for which it fails. -/
theorem ok_or_first_error (f : α → Except ε β) (as : List α) :
    (∀ a ∈ as, ∃ b, f a = .ok b) ∨
      ∃ front a back e, as = front ++ a :: back ∧ (∀ x ∈ front, ∃ b, f x = .ok b) ∧
        f a = .error e := by
  rcases forall_or_first (fun a => ∃ b, f a = .ok b) as with
    hall | ⟨front, a, back, has, hfront, ha⟩
  · exact Or.inl hall
  · cases hf : f a with
    | error e => exact Or.inr ⟨front, a, back, e, has, hfront, hf⟩
    | ok b => exact absurd ⟨b, hf⟩ ha

/-- One step for each item fails as the first one does that fails. -/
theorem mapM_of_first_error {f : α → Except ε β} {front back : List α} {a : α} {e : ε}
    (hfront : ∀ x ∈ front, ∃ b, f x = .ok b) (ha : f a = .error e) :
    (front ++ a :: back).mapM f = .error e := by
  induction front with
  | nil =>
    rw [List.nil_append, List.mapM_cons, ha]
    rfl
  | cons x front ih =>
    obtain ⟨⟨b, hb⟩, hfront⟩ := List.forall_mem_cons.mp hfront
    rw [List.cons_append, List.mapM_cons, hb, ih hfront]
    rfl

/-- Where a result is accepted or refused, and one of the two is the case, it is known by which. -/
theorem result_iff {x : Except ε α} {Accepts : α → Prop} {Refuses : ε → Prop}
    (haccepts : ∀ a, Accepts a → x = .ok a) (hrefuses : ∀ e, Refuses e → x = .error e)
    (hcases : (∃ a, Accepts a) ∨ ∃ e, Refuses e) :
    (∀ a, x = .ok a ↔ Accepts a) ∧ ∀ e, x = .error e ↔ Refuses e := by
  constructor
  · intro a
    refine ⟨?_, haccepts a⟩
    intro h
    rcases hcases with ⟨a', ha'⟩ | ⟨e, he⟩
    · obtain rfl : a' = a := Except.ok.inj ((haccepts a' ha').symm.trans h)
      exact ha'
    · cases (hrefuses e he).symm.trans h
  · intro e
    refine ⟨?_, hrefuses e⟩
    intro h
    rcases hcases with ⟨a, ha⟩ | ⟨e', he'⟩
    · cases (haccepts a ha).symm.trans h
    · obtain rfl : e' = e := Except.error.inj ((hrefuses e' he').symm.trans h)
      exact he'

/-- Where each item has a partner, a list of partners can be made. -/
theorem exists_forall₂ {R : α → β → Prop} {as : List α} (h : ∀ a ∈ as, ∃ b, R a b) :
    ∃ bs, List.Forall₂ R as bs := by
  induction as with
  | nil => exact ⟨[], .nil⟩
  | cons a as ih =>
    obtain ⟨⟨b, hb⟩, hrest⟩ := List.forall_mem_cons.mp h
    obtain ⟨bs, hbs⟩ := ih hrest
    exact ⟨b :: bs, .cons hb hbs⟩

/-- In a list of partners each item has one. -/
theorem exists_of_forall₂ {R : α → β → Prop} {as : List α} {bs : List β}
    (h : List.Forall₂ R as bs) : ∀ a ∈ as, ∃ b, R a b := by
  induction h with
  | nil => exact List.forall_mem_nil _
  | cons hab _ ih => exact List.forall_mem_cons.mpr ⟨⟨_, hab⟩, ih⟩

end Repunits
