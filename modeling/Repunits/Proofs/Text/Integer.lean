/-
  Repunits.Proofs.Text.Integer
  ────────────────────────────────
  **Numerals and the numbers they denote.**

  What a reader of numbers accepts is said by `IsNatural` and `IsInteger`:
  digits, one at least, with or without a sign in front of them; and a
  number within the range of the reader. A numeral that is shown holds
  digits, after a minus sign if the number is negative, and nothing else.
  So it is a word, it is a numeral of its number, and is read as such.

  Main results:
    * `readBelow?_eq_some_iff`, `readBetween?_eq_some_iff` — the texts that
      are read, and as what.
    * `isNatural_toString`, `isInteger_toString` — the numerals that are
      shown.
-/
import Repunits.Proofs.Text.Split
import Repunits.Text.Integer

namespace Repunits.Text

/-! ## §1. Runs of digits. -/

theorem toNat_of_isDigit {c : Char} (h : c.isDigit = true) :
    '0'.toNat ≤ c.toNat ∧ c.toNat ≤ '9'.toNat := by
  simp only [Char.isDigit, Bool.and_eq_true, decide_eq_true_eq] at h
  exact ⟨UInt32.le_iff_toNat_le.mp h.1, UInt32.le_iff_toNat_le.mp h.2⟩

theorem isDigits_iff (cs : List Char) :
    isDigits cs = true ↔ cs ≠ [] ∧ ∀ c ∈ cs, c.isDigit = true := by
  simp [isDigits]

/-- No digit is blank. -/
theorem not_blank_of_isDigit {c : Char} (hc : c.isDigit = true) : isBlank c = false := by
  obtain ⟨hlo, hhi⟩ := toNat_of_isDigit hc
  have hapart : ∀ r ∈ blank.ranges, r.2 < '0'.toNat ∨ '9'.toNat < r.1 := by decide
  rw [← Bool.not_eq_true, isBlank, CharClass.has_iff]
  rintro ⟨r, hr, hle, hle'⟩
  rcases hapart r hr with hbelow | habove <;> omega

/-- A text that holds digits only has no sign. -/
theorem readNat?_of_digits {cs : List Char} (h : ∀ c ∈ cs, c.isDigit = true) :
    readNat? cs = readDigits? cs := by
  unfold readNat?
  split
  · exact absurd (h '+' List.mem_cons_self) (by decide)
  · rfl

/-! ## §2. Numerals. -/

theorem isDigit_of_mem_numeral {n : Nat} {c : Char} (h : c ∈ Nat.toDigits 10 n) :
    c.isDigit = true :=
  Nat.isDigit_of_mem_toDigits (by decide) (by decide) h

theorem toList_toString_nat (n : Nat) : (toString n).toList = Nat.toDigits 10 n := by
  rw [Nat.toString_eq_repr, Nat.toList_repr]

/-- The numeral of a negative number is a minus sign and the digits of its absolute value. -/
theorem toList_toString_negSucc (n : Nat) :
    (toString (Int.negSucc n)).toList = '-' :: Nat.toDigits 10 (n + 1) := by
  show ("-" ++ toString (n + 1)).toList = _
  rw [String.toList_append, toList_toString_nat]
  rfl

/-- A numeral holds digits and perhaps a minus sign. -/
theorem mem_toString_int {i : Int} {c : Char} (h : c ∈ (toString i).toList) :
    c = '-' ∨ c.isDigit = true := by
  cases i with
  | ofNat n =>
    have h' : c ∈ (toString n).toList := h
    rw [toList_toString_nat] at h'
    exact Or.inr (isDigit_of_mem_numeral h')
  | negSucc n =>
    rw [toList_toString_negSucc, List.mem_cons] at h
    exact h.imp_right isDigit_of_mem_numeral

/-- A character that is no digit and no minus sign is in no numeral. -/
theorem notMem_toString_int {c : Char} (hminus : c ≠ '-') (hdigit : c.isDigit = false) (i : Int) :
    c ∉ (toString i).toList := by
  intro h
  rcases mem_toString_int h with rfl | h'
  · exact hminus rfl
  · rw [hdigit] at h'
    cases h'

/-! ## §3. Numerals and what they denote. -/

/-- The text is a run of digits, one at least, that denotes `n`. -/
def DigitsOf (cs : List Char) (n : Nat) : Prop :=
  (cs ≠ [] ∧ ∀ c ∈ cs, c.isDigit = true) ∧ digitsValue cs = n

/-- The text is a numeral of `n`, with a plus sign or none. -/
inductive IsNatural : List Char → Nat → Prop where
  | plain {cs : List Char} {n : Nat} (h : DigitsOf cs n) : IsNatural cs n
  | plus {cs : List Char} {n : Nat} (h : DigitsOf cs n) : IsNatural ('+' :: cs) n

/-- The text is a numeral of `v`, with any sign or none. -/
inductive IsInteger : List Char → Int → Prop where
  | natural {cs : List Char} {n : Nat} (h : IsNatural cs n) : IsInteger cs n
  | minus {cs : List Char} {n : Nat} (h : DigitsOf cs n) : IsInteger ('-' :: cs) (-(n : Int))

theorem readDigits?_eq_some_iff {cs : List Char} {n : Nat} :
    readDigits? cs = some n ↔ DigitsOf cs n := by
  unfold readDigits? DigitsOf
  rw [← isDigits_iff]
  by_cases h : isDigits cs = true
  · rw [if_pos h]
    simp [h]
  · rw [if_neg h]
    simp [h]

/-- **A text is read as the natural number whose numeral it is.** -/
theorem readNat?_eq_some_iff {cs : List Char} {n : Nat} : readNat? cs = some n ↔ IsNatural cs n := by
  constructor
  · intro h
    unfold readNat? at h
    split at h
    · exact .plus (readDigits?_eq_some_iff.mp h)
    · exact .plain (readDigits?_eq_some_iff.mp h)
  · intro h
    cases h with
    | plain h =>
      rw [readNat?_of_digits h.1.2]
      exact readDigits?_eq_some_iff.mpr h
    | plus h => exact readDigits?_eq_some_iff.mpr h

/-- No numeral of a natural number begins with a minus sign. -/
theorem readInt?_of_isNatural {cs : List Char} {n : Nat} (h : IsNatural cs n) :
    readInt? cs = some (n : Int) := by
  unfold readInt?
  split
  · -- A minus sign is neither a digit nor a plus sign.
    cases h with
    | plain h => exact absurd (h.1.2 '-' List.mem_cons_self) (by decide)
  · rw [readNat?_eq_some_iff.mpr h]
    rfl

/-- **A text is read as the integer whose numeral it is.** -/
theorem readInt?_eq_some_iff {cs : List Char} {v : Int} : readInt? cs = some v ↔ IsInteger cs v := by
  constructor
  · intro h
    unfold readInt? at h
    split at h
    · rename_i cs
      cases hread : readDigits? cs with
      | none =>
        rw [hread] at h
        cases h
      | some n =>
        rw [hread] at h
        cases h
        exact .minus (readDigits?_eq_some_iff.mp hread)
    · cases hread : readNat? cs with
      | none =>
        rw [hread] at h
        cases h
      | some n =>
        rw [hread] at h
        cases h
        exact .natural (readNat?_eq_some_iff.mp hread)
  · intro h
    cases h with
    | natural h => exact readInt?_of_isNatural h
    | minus h =>
      rw [readInt?, readDigits?_eq_some_iff.mpr h]
      rfl

instance (cs : List Char) (n : Nat) : Decidable (IsNatural cs n) :=
  decidable_of_iff _ readNat?_eq_some_iff

instance (cs : List Char) (v : Int) : Decidable (IsInteger cs v) :=
  decidable_of_iff _ readInt?_eq_some_iff

/-- A text is a numeral of one number at most. -/
theorem IsNatural.unique {cs : List Char} {n n' : Nat} (h : IsNatural cs n)
    (h' : IsNatural cs n') : n = n' :=
  Option.some.inj ((readNat?_eq_some_iff.mpr h).symm.trans (readNat?_eq_some_iff.mpr h'))

theorem IsInteger.unique {cs : List Char} {v v' : Int} (h : IsInteger cs v)
    (h' : IsInteger cs v') : v = v' :=
  Option.some.inj ((readInt?_eq_some_iff.mpr h).symm.trans (readInt?_eq_some_iff.mpr h'))

theorem readBelow?_eq_some_iff {bound n : Nat} {cs : List Char} :
    readBelow? bound cs = some n ↔ IsNatural cs n ∧ n < bound := by
  rw [readBelow?, Option.filter_eq_some_iff, readNat?_eq_some_iff, decide_eq_true_eq]

theorem readBetween?_eq_some_iff {lo hi v : Int} {cs : List Char} :
    readBetween? lo hi cs = some v ↔ IsInteger cs v ∧ lo ≤ v ∧ v ≤ hi := by
  rw [readBetween?, Option.filter_eq_some_iff, readInt?_eq_some_iff, Bool.and_eq_true,
    decide_eq_true_eq, decide_eq_true_eq]

/-- **A text is not read** where it is no numeral of a number in the range of the reader. -/
theorem readBelow?_eq_none_iff {bound : Nat} {cs : List Char} :
    readBelow? bound cs = none ↔ ∀ n, ¬ (IsNatural cs n ∧ n < bound) := by
  rw [Option.eq_none_iff_forall_ne_some]
  exact forall_congr' fun n => not_congr readBelow?_eq_some_iff

theorem readBetween?_eq_none_iff {lo hi : Int} {cs : List Char} :
    readBetween? lo hi cs = none ↔ ∀ v, ¬ (IsInteger cs v ∧ lo ≤ v ∧ v ≤ hi) := by
  rw [Option.eq_none_iff_forall_ne_some]
  exact forall_congr' fun v => not_congr readBetween?_eq_some_iff

/-! ## §4. Numerals that are shown. -/

/-- The digits of a number denote it. -/
theorem digitsOf_toDigits (n : Nat) : DigitsOf (Nat.toDigits 10 n) n :=
  ⟨⟨Nat.toDigits_ne_nil, fun _ => isDigit_of_mem_numeral⟩, Nat.ofDigitChars_ten_toDigits⟩

/-- What is shown of a number is its numeral. -/
theorem isNatural_toString (n : Nat) : IsNatural (toString n).toList n := by
  rw [toList_toString_nat]
  exact .plain (digitsOf_toDigits n)

theorem isInteger_toString (i : Int) : IsInteger (toString i).toList i := by
  cases i with
  | ofNat n => exact .natural (isNatural_toString n)
  | negSucc n =>
    rw [toList_toString_negSucc]
    exact .minus (digitsOf_toDigits (n + 1))

/-- **A natural number is read back** from its numeral, where it is below the bound. -/
theorem readBelow?_toString {n bound : Nat} (h : n < bound) :
    readBelow? bound (toString n).toList = some n :=
  readBelow?_eq_some_iff.mpr ⟨isNatural_toString n, h⟩

/-- A numeral that is shown is a word. -/
theorem isWord_toString_int (i : Int) : IsWord (toString i).toList := by
  constructor
  · cases i with
    | ofNat n =>
      show (toString n).toList ≠ []
      rw [toList_toString_nat]
      exact Nat.toDigits_ne_nil
    | negSucc n =>
      rw [toList_toString_negSucc]
      exact List.cons_ne_nil _ _
  · intro c hc
    cases mem_toString_int hc with
    | inl hminus =>
      rw [hminus]
      decide
    | inr hdigit => exact not_blank_of_isDigit hdigit

theorem isWord_toString_nat (n : Nat) : IsWord (toString n).toList := isWord_toString_int n

end Repunits.Text
