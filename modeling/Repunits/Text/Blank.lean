/-
  Repunits.Text.Blank
  ────────────────────────────────
  **Blank characters, trimming, and the words of a text.**

  A character is blank when it has the Unicode White_Space property.
  `trim` drops the blanks at both ends of a text; `words` are the maximal
  runs of non-blank characters, in order. Texts are lists of characters
  here, so that both are plain folds.
-/
import Repunits.Text.CharClass

namespace Repunits.Text

/-! ## §1. The class. -/

/-- The characters with the White_Space property. -/
def blank : CharClass where
  ranges :=
    [(0x09, 0x0D), (0x20, 0x20), (0x85, 0x85), (0xA0, 0xA0), (0x1680, 0x1680),
     (0x2000, 0x200A), (0x2028, 0x2029), (0x202F, 0x202F), (0x205F, 0x205F), (0x3000, 0x3000)]

/-- Is the character blank? -/
def isBlank (c : Char) : Bool := blank.has c

/-! ## §2. Trimming. -/

/-- The text without the blanks at its two ends. -/
def trim (cs : List Char) : List Char :=
  ((cs.dropWhile isBlank).reverse.dropWhile isBlank).reverse

/-! ## §3. Words. -/

/-- Puts a run in front of the words after it, unless it is empty. -/
def closeRun (run : List Char) (later : List (List Char)) : List (List Char) :=
  if run.isEmpty then later else run :: later

/-- One character to the left of a text that begins with the run `acc.1`, the words `acc.2`
following it: a blank closes the run, any other character extends it. -/
def extendRun (c : Char) (acc : List Char × List (List Char)) :
    List Char × List (List Char) :=
  if isBlank c then ([], closeRun acc.1 acc.2) else (c :: acc.1, acc.2)

/-- The run of non-blank characters that a text begins with, and the words after it. -/
def leadingRun (cs : List Char) : List Char × List (List Char) :=
  cs.foldr extendRun ([], [])

/-- The maximal runs of non-blank characters, in order. -/
def words (cs : List Char) : List (List Char) :=
  closeRun (leadingRun cs).1 (leadingRun cs).2

@[simp] theorem words_nil : words [] = [] := rfl

theorem leadingRun_cons (c : Char) (cs : List Char) :
    leadingRun (c :: cs) = extendRun c (leadingRun cs) := rfl

/-- A blank in front of a text adds no word. -/
theorem words_cons_of_isBlank {c : Char} (h : isBlank c = true) (cs : List Char) :
    words (c :: cs) = words cs := by
  simp [words, leadingRun_cons, extendRun, h, closeRun]

end Repunits.Text
