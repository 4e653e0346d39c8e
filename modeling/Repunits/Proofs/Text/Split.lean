/-
  Repunits.Proofs.Text.Split
  ────────────────────────────────
  **A text is its words, and blanks around them.**

  `Splits` takes a text apart from the left: blanks, a word, and what
  follows it, which begins with a blank or is empty. So each word is as
  long as it can be, and the words are the same however the text is
  taken apart. The program reads them from the right; they are those.
  A text can also be made of words, with a gap of blanks in front of
  each, and splits into them again.

  Main results:
    * `words_eq_iff` — the words of a text are those it splits into.
    * `exists_unique_splits` — it splits into one list of words.
    * `splits_spaced` — words with gaps between them.
-/
import Repunits.Proofs.Text.Trim
import Repunits.Proofs.Text.Words

namespace Repunits.Text

/-! ## §1. Texts taken apart. -/

/-- A run of characters that are not blank. -/
def IsWord (w : List Char) : Prop := w ≠ [] ∧ ∀ c ∈ w, isBlank c = false

/-- The words `ws`, in order, are the maximal runs of characters that are not blank. -/
inductive Splits : List Char → List (List Char) → Prop where
  | nil {u : List Char} (hu : Blanks u) : Splits u []
  /-- Blanks, a word, and behind it the end of the text or a blank. -/
  | cons {u w rest : List Char} {ws : List (List Char)} (hu : Blanks u) (hw : IsWord w)
      (hrest : ∀ c ∈ rest.head?, isBlank c = true) (h : Splits rest ws) :
      Splits (u ++ (w ++ rest)) (w :: ws)

/-- One more blank in front. -/
theorem Splits.cons_blank {cs : List Char} {ws : List (List Char)} (h : Splits cs ws) {c : Char}
    (hc : isBlank c = true) : Splits (c :: cs) ws := by
  cases h with
  | nil hu => exact .nil (List.forall_mem_cons.mpr ⟨hc, hu⟩)
  | cons hu hw hrest h => exact .cons (List.forall_mem_cons.mpr ⟨hc, hu⟩) hw hrest h

/-- A run that is closed is one more word, unless it is empty. -/
theorem splits_closeRun {run rest : List Char} {later : List (List Char)}
    (hrun : ∀ c ∈ run, isBlank c = false) (hrest : ∀ c ∈ rest.head?, isBlank c = true)
    (h : Splits rest later) : Splits (run ++ rest) (closeRun run later) := by
  cases run with
  | nil => exact h
  | cons c run => exact .cons (List.forall_mem_nil _) ⟨List.cons_ne_nil c run, hrun⟩ hrest h

/-- What a leading run leaves begins with a blank, unless nothing is left. -/
theorem splits_leadingRun (cs : List Char) :
    ∃ rest, cs = (leadingRun cs).1 ++ rest ∧ (∀ c ∈ (leadingRun cs).1, isBlank c = false) ∧
      (∀ c ∈ rest.head?, isBlank c = true) ∧ Splits rest (leadingRun cs).2 := by
  induction cs with
  | nil =>
    refine ⟨[], rfl, List.forall_mem_nil _, ?_, .nil (List.forall_mem_nil _)⟩
    intro c hc
    cases hc
  | cons c cs ih =>
    obtain ⟨rest, hcs, hrun, hrest, hsplits⟩ := ih
    rw [leadingRun_cons, extendRun]
    by_cases hc : isBlank c = true
    · rw [if_pos hc]
      refine ⟨c :: cs, rfl, List.forall_mem_nil _, ?_, ?_⟩
      · intro d hd
        obtain rfl : c = d := Option.some.inj hd
        exact hc
      · -- The blank closes the run behind it.
        have hclosed := splits_closeRun hrun hrest hsplits
        rw [← hcs] at hclosed
        exact hclosed.cons_blank hc
    · rw [if_neg hc]
      refine ⟨rest, ?_, ?_, hrest, hsplits⟩
      · exact congrArg (c :: ·) hcs
      · exact List.forall_mem_cons.mpr ⟨by simpa using hc, hrun⟩

/-- A text splits into its words. -/
theorem splits_words (cs : List Char) : Splits cs (words cs) := by
  obtain ⟨rest, hcs, hrun, hrest, hsplits⟩ := splits_leadingRun cs
  have hclosed := splits_closeRun hrun hrest hsplits
  rw [← hcs] at hclosed
  exact hclosed

/-! ## §2. The words of a text. -/

theorem words_of_blanks {u : List Char} (hu : Blanks u) : words u = [] := by
  rw [← List.append_nil u, words_blanks_append hu]
  rfl

theorem leadingRun_of_no_blank {w : List Char} (h : ∀ c ∈ w, isBlank c = false) :
    leadingRun w = (w, []) := by
  induction w with
  | nil => rfl
  | cons c w ih =>
    obtain ⟨hc, hw⟩ := List.forall_mem_cons.mp h
    rw [leadingRun_cons, ih hw, extendRun, if_neg (by simp [hc])]

theorem words_of_isWord {w : List Char} (hw : IsWord w) : words w = [w] := by
  unfold words closeRun
  rw [leadingRun_of_no_blank hw.2, if_neg (by simpa using hw.1)]

/-- A word stays the first of a text that goes on with a blank. -/
theorem words_append_of_isWord {w rest : List Char} (hw : IsWord w)
    (hrest : ∀ c ∈ rest.head?, isBlank c = true) : words (w ++ rest) = w :: words rest := by
  cases rest with
  | nil => rw [List.append_nil, words_of_isWord hw, words_nil]
  | cons c rest =>
    have hc : isBlank c = true := hrest c rfl
    rw [words_append_cons hc, words_of_isWord hw, words_cons_of_isBlank hc]
    rfl

/-- **The words of a text are those it splits into.** -/
theorem words_eq_iff {cs : List Char} {ws : List (List Char)} : words cs = ws ↔ Splits cs ws := by
  constructor
  · intro h
    rw [← h]
    exact splits_words cs
  · intro h
    induction h with
    | nil hu => exact words_of_blanks hu
    | cons hu hw hrest _ ih =>
      rw [words_blanks_append hu, words_append_of_isWord hw hrest, ih]

/-- **A text splits into one list of words.** -/
theorem exists_unique_splits (cs : List Char) : ∃! ws, Splits cs ws := by
  refine ⟨words cs, splits_words cs, ?_⟩
  intro ws h
  exact (words_eq_iff.mpr h).symm

instance (cs : List Char) (ws : List (List Char)) : Decidable (Splits cs ws) :=
  decidable_of_iff _ words_eq_iff

/-! ## §3. Texts made of words. -/

/-- The words one after the other, with a gap in front of each. -/
def spaced (gaps words : List String) : String := String.join (List.zipWith (· ++ ·) gaps words)

/-- The gaps are blank, and none but the first is empty. -/
structure Gaps (gaps : List String) : Prop where
  blank : ∀ gap ∈ gaps, Blanks gap.toList
  ne_empty : ∀ gap ∈ gaps.tail, gap ≠ ""

instance (gaps : List String) : Decidable (Gaps gaps) :=
  decidable_of_iff ((∀ gap ∈ gaps, Blanks gap.toList) ∧ ∀ gap ∈ gaps.tail, gap ≠ "")
    ⟨fun h => ⟨h.1, h.2⟩, fun h => ⟨h.blank, h.ne_empty⟩⟩

theorem Gaps.of_cons {gap : String} {gaps : List String} (h : Gaps (gap :: gaps)) : Gaps gaps :=
  ⟨fun g hg => h.blank g (List.mem_cons_of_mem gap hg),
    fun g hg => h.ne_empty g (List.mem_of_mem_tail hg)⟩

theorem spaced_cons (gap word : String) (gaps words : List String) :
    spaced (gap :: gaps) (word :: words) = gap ++ (word ++ spaced gaps words) := by
  show String.join ((gap ++ word) :: _) = _
  rw [String.join_cons, String.append_assoc]
  rfl

/-- Words with gaps that are not empty begin with a blank, as the end of a text does. -/
theorem head_spaced_blank {gaps words : List String} {v : String}
    (hblank : ∀ gap ∈ gaps, Blanks gap.toList) (hne : ∀ gap ∈ gaps, gap ≠ "") (hv : Blanks v.toList) :
    ∀ c ∈ (spaced gaps words ++ v).toList.head?, isBlank c = true := by
  intro c hc
  cases gaps with
  | nil => exact hv c (List.mem_of_mem_head? (by simpa [spaced] using hc))
  | cons gap gaps =>
    cases words with
    | nil => exact hv c (List.mem_of_mem_head? (by simpa [spaced] using hc))
    | cons word words =>
      have hgap : gap.toList ≠ [] := by simpa using hne gap List.mem_cons_self
      obtain ⟨b, front, hfront⟩ := List.exists_cons_of_ne_nil hgap
      rw [spaced_cons, String.append_assoc, String.toList_append, hfront] at hc
      obtain rfl : b = c := Option.some.inj hc
      exact hblank gap List.mem_cons_self b (by simp [hfront])

/-- **Words with gaps between them** are what the text splits into. -/
theorem splits_spaced {gaps words : List String} {v : String} (hgaps : Gaps gaps)
    (hlength : gaps.length = words.length) (hwords : ∀ w ∈ words, IsWord w.toList)
    (hv : Blanks v.toList) : Splits (spaced gaps words ++ v).toList (words.map String.toList) := by
  induction words generalizing gaps with
  | nil =>
    have hnil : gaps = [] := List.eq_nil_of_length_eq_zero hlength
    rw [hnil]
    refine .nil ?_
    simpa [spaced] using hv
  | cons word words ih =>
    cases gaps with
    | nil => cases hlength
    | cons gap gaps =>
      obtain ⟨hword, hwords⟩ := List.forall_mem_cons.mp hwords
      have hblank : ∀ g ∈ gaps, Blanks g.toList := hgaps.of_cons.blank
      have hsplits := ih hgaps.of_cons (Nat.succ.inj hlength) hwords
      rw [spaced_cons, String.append_assoc, String.append_assoc, String.toList_append,
        String.toList_append]
      exact .cons (hgaps.blank gap List.mem_cons_self) hword
        (head_spaced_blank hblank hgaps.ne_empty hv) hsplits

end Repunits.Text
