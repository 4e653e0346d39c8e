/-
  Repunits.Proofs.Text.Trim
  ────────────────────────────────
  **What is left of a text without the blanks at its ends.**

  A text is blanks, a part that neither begins nor ends in a blank, and
  blanks again. That part is the same however the text is taken apart,
  and it is what trimming leaves: the blanks in front are dropped, and
  then, read from the right, those behind. Blanks inside the part stay.

  Main results:
    * `trim_eq_iff` — trimming leaves the part between the blanks.
    * `trim_blanks_append` — a text without blanks, put between blanks.
-/
import Mathlib.Data.List.TakeWhile
import Repunits.Text.Blank

namespace Repunits.Text

/-- Every character is blank. -/
def Blanks (cs : List Char) : Prop := ∀ c ∈ cs, isBlank c = true

instance (cs : List Char) : Decidable (Blanks cs) := List.decidableBAll _ cs

/-- The part `t` is what stands in the text between the blanks at its ends. -/
structure Trims (cs t : List Char) : Prop where
  between : ∃ u v, Blanks u ∧ Blanks v ∧ cs = u ++ t ++ v
  head_not_blank : ∀ c ∈ t.head?, isBlank c = false
  last_not_blank : ∀ c ∈ t.getLast?, isBlank c = false

theorem Blanks.reverse {cs : List Char} (h : Blanks cs) : Blanks cs.reverse := by
  intro c hc
  exact h c (List.mem_reverse.mp hc)

/-! ## §1. Blanks in front. -/

/-- A text is the blanks in front and what follows them. -/
theorem blanks_append_dropWhile (cs : List Char) :
    ∃ u, Blanks u ∧ cs = u ++ cs.dropWhile isBlank := by
  refine ⟨cs.takeWhile isBlank, ?_, List.takeWhile_append_dropWhile.symm⟩
  intro c hc
  exact List.mem_takeWhile_imp hc

/-- What follows the blanks in front does not begin with one. -/
theorem head_dropWhile_not_blank (cs : List Char) :
    ∀ c ∈ (cs.dropWhile isBlank).head?, isBlank c = false := by
  intro c hc
  have hhead := List.head?_dropWhile_not isBlank cs
  rw [Option.mem_def.mp hc] at hhead
  simpa using hhead

theorem dropWhile_blanks_append {u cs : List Char} (hu : Blanks u)
    (hhead : ∀ c ∈ cs.head?, isBlank c = false) : (u ++ cs).dropWhile isBlank = cs := by
  rw [List.dropWhile_append_of_pos hu]
  cases cs with
  | nil => rfl
  | cons c cs =>
    have hc : isBlank c = false := hhead c rfl
    rw [List.dropWhile_cons_of_neg (by simp [hc])]

/-! ## §2. Both ends. -/

/-- Trimming leaves a part between blanks. -/
theorem trims_trim (cs : List Char) : Trims cs (trim cs) := by
  obtain ⟨u, hu, hcs⟩ := blanks_append_dropWhile cs
  -- The blanks behind are those in front of the text read from the right.
  obtain ⟨v, hv, hback⟩ := blanks_append_dropWhile (cs.dropWhile isBlank).reverse
  have hrest : cs.dropWhile isBlank = trim cs ++ v.reverse := by
    rw [← List.reverse_reverse (cs.dropWhile isBlank), hback, List.reverse_append]
    rfl
  refine ⟨⟨u, v.reverse, hu, hv.reverse, ?_⟩, ?_, ?_⟩
  · rw [List.append_assoc, ← hrest]
    exact hcs
  · intro c hc
    apply head_dropWhile_not_blank cs
    rw [hrest, List.head?_append, Option.mem_def.mp hc]
    rfl
  · intro c hc
    apply head_dropWhile_not_blank (cs.dropWhile isBlank).reverse
    rwa [trim, List.getLast?_reverse] at hc

/-- **Trimming leaves the part between the blanks**, and there is no other. -/
theorem trim_eq_iff {cs t : List Char} : trim cs = t ↔ Trims cs t := by
  constructor
  · rintro rfl
    exact trims_trim cs
  · rintro ⟨⟨u, v, hu, hv, rfl⟩, hhead, hlast⟩
    have hfront : (u ++ t ++ v).dropWhile isBlank = (t ++ v).dropWhile isBlank := by
      rw [List.append_assoc, List.dropWhile_append_of_pos hu]
    unfold trim
    rw [hfront]
    cases t with
    | nil =>
      rw [List.nil_append, List.dropWhile_eq_nil_iff.mpr hv]
      rfl
    | cons c t =>
      have hc : isBlank c = false := hhead c rfl
      have hlast' : ∀ x ∈ (c :: t).reverse.head?, isBlank x = false := by
        intro x hx
        exact hlast x (by rwa [List.head?_reverse] at hx)
      rw [List.cons_append, List.dropWhile_cons_of_neg (by simp [hc]), ← List.cons_append,
        List.reverse_append, dropWhile_blanks_append hv.reverse hlast', List.reverse_reverse]

instance (cs t : List Char) : Decidable (Trims cs t) := decidable_of_iff _ trim_eq_iff

/-- A text without blanks is what is left of it between blanks. -/
theorem trim_blanks_append {u t v : List Char} (hu : Blanks u) (hv : Blanks v)
    (ht : ∀ c ∈ t, isBlank c = false) : trim (u ++ t ++ v) = t := by
  refine trim_eq_iff.mpr ⟨⟨u, v, hu, hv, rfl⟩, ?_, ?_⟩
  · intro c hc
    exact ht c (List.mem_of_mem_head? hc)
  · intro c hc
    exact ht c (List.mem_of_mem_getLast? hc)

end Repunits.Text
