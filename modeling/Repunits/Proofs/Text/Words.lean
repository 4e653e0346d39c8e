/-
  Repunits.Proofs.Text.Words
  ────────────────────────────────
  **Texts in two parts.**

  The words are read from the right. Where a blank, or the end of the
  text, follows a part, no run of characters goes on behind it, so that
  the part has the words that it has alone. A text is also cut at the
  first of a character: what stands before it is the part in front, if
  that holds none of its own.

  Main results:
    * `words_append` — the words of two texts with blanks between them.
    * `takeWhile_ne`, `dropWhile_ne` — a text cut at a character.
-/
import Repunits.Text.Blank

namespace Repunits.Text

/-! ## §1. Words. -/

/-- In front of a text that begins with no run, a text has the runs that it has alone. -/
theorem leadingRun_append {ys : List Char} {later : List (List Char)}
    (h : leadingRun ys = ([], later)) (xs : List Char) :
    leadingRun (xs ++ ys) = ((leadingRun xs).1, (leadingRun xs).2 ++ later) := by
  induction xs with
  | nil => exact h
  | cons x xs ih =>
    rw [List.cons_append, leadingRun_cons, ih, leadingRun_cons]
    unfold extendRun
    by_cases hx : isBlank x = true
    · -- A blank closes the run, which the words behind it follow.
      rw [if_pos hx, if_pos hx]
      unfold closeRun
      split <;> rfl
    · rw [if_neg hx, if_neg hx]

/-- A blank between two texts keeps their words apart. -/
theorem words_append_cons {c : Char} (h : isBlank c = true) (xs ys : List Char) :
    words (xs ++ c :: ys) = words xs ++ words ys := by
  have hrun : leadingRun (c :: ys) = ([], words ys) := by
    rw [leadingRun_cons, extendRun, if_pos h]
    rfl
  unfold words
  rw [leadingRun_append hrun]
  unfold closeRun
  split <;> rfl

/-- Blanks in front of a text add no word. -/
theorem words_blanks_append {blanks : List Char} (h : ∀ c ∈ blanks, isBlank c = true)
    (ys : List Char) : words (blanks ++ ys) = words ys := by
  induction blanks with
  | nil => rfl
  | cons c blanks ih =>
    rw [List.cons_append, words_cons_of_isBlank (h c List.mem_cons_self),
      ih fun b hb => h b (List.mem_cons_of_mem c hb)]

/-- **The words of two texts with blanks between them** are the words of the one and of the other. -/
theorem words_append {blanks : List Char} (hne : blanks ≠ []) (h : ∀ c ∈ blanks, isBlank c = true)
    (xs ys : List Char) : words (xs ++ blanks ++ ys) = words xs ++ words ys := by
  obtain ⟨c, blanks, rfl⟩ := List.exists_cons_of_ne_nil hne
  rw [List.append_assoc, List.cons_append, words_append_cons (h c List.mem_cons_self),
    words_blanks_append fun b hb => h b (List.mem_cons_of_mem c hb)]

/-! ## §2. Up to a character. -/

theorem ne_of_mem_front {c x : Char} {front : List Char} (h : c ∉ front) (hx : x ∈ front) :
    decide (x ≠ c) = true :=
  decide_eq_true fun heq => h (heq ▸ hx)

/-- What stands before the first of a character that the front does not hold is the front. -/
theorem takeWhile_ne {c : Char} {front : List Char} (h : c ∉ front) (back : List Char) :
    (front ++ c :: back).takeWhile (· ≠ c) = front := by
  rw [List.takeWhile_append_of_pos fun _ => ne_of_mem_front h,
    List.takeWhile_cons_of_neg (by simp), List.append_nil]

theorem dropWhile_ne {c : Char} {front : List Char} (h : c ∉ front) (back : List Char) :
    (front ++ c :: back).dropWhile (· ≠ c) = c :: back := by
  rw [List.dropWhile_append_of_pos fun _ => ne_of_mem_front h,
    List.dropWhile_cons_of_neg (by simp)]

end Repunits.Text
