/-
  Repunits.Proofs.Numeral.NormalForm
  ────────────────────────────────
  **Every numeral that can be come by is in normal form.**

  Numerals come from the number one, from texts that can be read, and
  from sums and products with words (`Reachable`). Each of these leaves
  its result in normal form. So two of them are equal when they denote
  one number, however each was computed, and no decimal text of the same
  number is shorter.

  Main results:
    * `ofText_eq_ok_iff` — the texts that can be read, and as what.
    * `Reachable.canonical` — one case for each way to come by a numeral.
    * `digitCount_le_of_digitsValue` — a normal form is the shortest.
    * `normalForm_of_reachable` — the three together.
-/
import Repunits.Proofs.Numeral.Carry
import Repunits.Proofs.Text.Integer

namespace Repunits.Numeral

open Text (digitValue digitsValue isDigits isDigits_iff)

/-! ## §1. Digits as characters. -/

theorem digitValue_le {c : Char} (hc : c.isDigit = true) : digitValue c ≤ 9 := by
  have hle : c.toNat ≤ '9'.toNat := (Text.toNat_of_isDigit hc).2
  have hnine : '9'.toNat = '0'.toNat + 9 := rfl
  unfold digitValue
  omega

theorem toNat_digitOfChar {c : Char} (hc : c.isDigit = true) :
    (digitOfChar c).toNat = digitValue c := by
  have hle := digitValue_le hc
  unfold digitOfChar
  rw [UInt8.toNat_ofNat']
  omega

theorem digitOfChar_le {c : Char} (hc : c.isDigit = true) : digitOfChar c ≤ 9 := by
  rw [UInt8.le_iff_toNat_le, toNat_digitOfChar hc]
  exact digitValue_le hc

/-- A digit is read back from the character that shows it. -/
theorem digitChar_spec {d : UInt8} (hd : d ≤ 9) :
    (Nat.digitChar d.toNat).isDigit = true ∧ digitOfChar (Nat.digitChar d.toNat) = d := by
  have hall : ∀ n < 10, (Nat.digitChar n).isDigit = true ∧
      digitOfChar (Nat.digitChar n) = UInt8.ofNat n := by decide
  have hlt : d.toNat < 10 := Nat.lt_succ_of_le (UInt8.le_iff_toNat_le.mp hd)
  obtain ⟨hdigit, hback⟩ := hall d.toNat hlt
  rw [UInt8.ofNat_toNat] at hback
  exact ⟨hdigit, hback⟩

/-! ## §2. Numerals in reading order. -/

theorem decimal_digitsOfChars {cs : List Char} (h : ∀ c ∈ cs, c.isDigit = true) :
    Decimal (cs.reverse.map digitOfChar) := by
  intro d hd
  obtain ⟨c, hc, rfl⟩ := List.mem_map.mp hd
  exact digitOfChar_le (h c (List.mem_reverse.mp hc))

/-- Reading from the left gives the number that the digits denote. -/
theorem valueOf_digitsOfChars {cs : List Char} (h : ∀ c ∈ cs, c.isDigit = true) :
    valueOf (cs.reverse.map digitOfChar) = digitsValue cs := by
  -- The text is read from the left, and its last digit is the least one.
  induction cs using List.reverseRecOn with
  | nil => rfl
  | append_singleton cs c ih =>
    have hc : c.isDigit = true := h c (by simp)
    have hcs : ∀ x ∈ cs, x.isDigit = true := by
      intro x hx
      exact h x (List.mem_append_left _ hx)
    have hread : digitsValue (cs ++ [c]) = 10 * digitsValue cs + digitValue c := by
      simp [digitsValue]
    rw [List.reverse_append, List.reverse_singleton, List.singleton_append, List.map_cons,
      valueOf_cons, ih hcs, toNat_digitOfChar hc, hread, Nat.add_comm]

/-- The characters of a numeral are read back as its digits. -/
theorem digitsOfChars_chars {a : Numeral} (ha : Decimal a.digits) :
    a.chars.reverse.map digitOfChar = a.digits := by
  unfold chars
  rw [← List.map_reverse, List.reverse_reverse, List.map_map]
  conv_rhs => rw [← List.map_id a.digits]
  apply List.map_congr_left
  intro d hd
  exact (digitChar_spec (ha d hd)).2

theorem isDigits_chars {a : Numeral} (ha : a.Canonical) : isDigits a.chars = true := by
  rw [isDigits_iff]
  constructor
  · unfold chars
    simpa using ha.nonempty
  · intro c hc
    obtain ⟨d, hd, rfl⟩ := List.mem_map.mp hc
    exact (digitChar_spec (ha.digit_le d (List.mem_reverse.mp hd))).1

/-- A numeral in normal form shows the number that it denotes. -/
theorem digitsValue_chars {a : Numeral} (ha : a.Canonical) : digitsValue a.chars = a.value := by
  have hdigits := ((isDigits_iff _).mp (isDigits_chars ha)).2
  rw [← valueOf_digitsOfChars hdigits, digitsOfChars_chars ha.digit_le]
  rfl

theorem length_chars (a : Numeral) : a.chars.length = a.digitCount := by
  simp [chars, digitCount]

/-! ## §3. Texts that can be read. -/

/-- **A text is read** when it holds digits and nothing else, blanks at its ends aside. -/
theorem ofText_eq_ok_iff (s : String) (a : Numeral) :
    ofText s = .ok a ↔ isDigits (Text.trim s.toList) = true ∧
      a = ofDigits ((Text.trim s.toList).reverse.map digitOfChar) := by
  unfold ofText
  generalize Text.trim s.toList = cs
  cases cs with
  | nil => simp [isDigits]
  | cons c cs =>
    cases hbad : (c :: cs).reverse.find? (fun c => !c.isDigit) with
    | some x =>
      -- Some character is no digit, and the fault names it.
      have hx : x ∈ (c :: cs).reverse := List.mem_of_find?_eq_some hbad
      have hdigit : x.isDigit = false := by simpa using List.find?_some hbad
      have hnot : isDigits (c :: cs) ≠ true := by
        intro h
        have h' := ((isDigits_iff _).mp h).2 x (List.mem_reverse.mp hx)
        rw [hdigit] at h'
        cases h'
      simp only [hbad, reduceCtorEq, hnot, false_and]
    | none =>
      have hall : isDigits (c :: cs) = true := by
        rw [isDigits_iff]
        refine ⟨List.cons_ne_nil c cs, ?_⟩
        intro x hx
        simpa using List.find?_eq_none.mp hbad x (List.mem_reverse.mpr hx)
      simp only [hbad, hall, true_and, Except.ok.injEq]
      exact eq_comm

theorem canonical_ofText {s : String} {a : Numeral} (h : ofText s = .ok a) : a.Canonical := by
  obtain ⟨hdigits, rfl⟩ := (ofText_eq_ok_iff s a).mp h
  exact canonical_ofDigits (decimal_digitsOfChars ((isDigits_iff _).mp hdigits).2)

/-! ## §4. The shortest numeral of a number. -/

theorem length_stripTop_le (ds : List UInt8) : (stripTop ds).length ≤ ds.length := by
  unfold stripTop
  rw [List.length_reverse]
  have hsub := (List.dropWhile_sublist (· == 0) (l := ds.reverse)).length_le
  rwa [List.length_reverse] at hsub

theorem digitCount_ofDigits_le {ds : List UInt8} (hne : ds ≠ []) :
    (ofDigits ds).digitCount ≤ ds.length := by
  unfold ofDigits
  split
  · exact List.length_pos_iff.mpr hne
  · exact length_stripTop_le ds

/-- **No text of the same number is shorter** than a numeral in normal form. -/
theorem digitCount_le_of_digitsValue {a : Numeral} (ha : a.Canonical) {cs : List Char}
    (hcs : isDigits cs = true) (hv : digitsValue cs = a.value) : a.digitCount ≤ cs.length := by
  obtain ⟨hne, hdigits⟩ := (isDigits_iff cs).mp hcs
  -- Without the zeros in front, the text is the numeral itself.
  have hsame : ofDigits (cs.reverse.map digitOfChar) = a := by
    apply Canonical.ext (canonical_ofDigits (decimal_digitsOfChars hdigits)) ha
    rw [value_ofDigits, valueOf_digitsOfChars hdigits, hv]
  rw [← hsame]
  have hne' : cs.reverse.map digitOfChar ≠ [] := by simpa using hne
  simpa using digitCount_ofDigits_le hne'

/-- Zero has one digit. -/
theorem digitCount_of_value_eq_zero {a : Numeral} (ha : a.Canonical) (h : a.value = 0) :
    a.digitCount = 1 := by
  rcases ha.zero_or_top with hzero | htop
  · unfold digitCount
    rw [hzero]
    rfl
  · exact absurd h (value_ne_zero ha htop)

/-! ## §5. The numerals that can be come by. -/

/-- The number one, what texts are read as, and sums and products of these with words. -/
inductive Reachable : Numeral → Prop where
  | one : Reachable .one
  | ofText {s : String} {a : Numeral} (h : Numeral.ofText s = .ok a) : Reachable a
  | add {a : Numeral} (n : UInt32) : Reachable a → Reachable (a.add n)
  | mul {a : Numeral} (n : UInt32) : Reachable a → Reachable (a.mul n)

/-- **Every numeral that can be come by is in normal form.** -/
theorem Reachable.canonical {a : Numeral} (h : a.Reachable) : a.Canonical := by
  induction h with
  | one => exact canonical_one
  | ofText h => exact canonical_ofText h
  | add n _ ih => exact ih.add n
  | mul n _ _ => exact Canonical.mul _ n

/-- **Numerals that can be come by** have a digit at least, digits up to nine only, and no zero on
top of others. Two of them are equal if and only if they denote one number. The text of each shows
its number, and is the shortest of all decimal texts of that number. -/
theorem normalForm_of_reachable {a : Numeral} (ha : a.Reachable) :
    -- the normal form
    a.digits ≠ [] ∧ (∀ d ∈ a.digits, d ≤ 9) ∧
    (a.digits.getLast? = some 0 → a.digits = [0]) ∧
    -- one numeral for each number
    (∀ b : Numeral, b.Reachable → ((a == b) = true ↔ a.value = b.value)) ∧
    -- and the shortest
    isDigits a.chars = true ∧ digitsValue a.chars = a.value ∧ a.chars.length = a.digitCount ∧
    (∀ cs, isDigits cs = true → digitsValue cs = a.value → a.digitCount ≤ cs.length) ∧
    (a.value = 0 → a.digitCount = 1) := by
  have hcan := ha.canonical
  refine ⟨hcan.nonempty, hcan.digit_le, hcan.top_ne_zero, ?_, isDigits_chars hcan,
    digitsValue_chars hcan, length_chars a, ?_, digitCount_of_value_eq_zero hcan⟩
  · intro b hb
    rw [beq_iff_eq]
    constructor
    · rintro rfl
      rfl
    · intro hv
      exact Canonical.ext hcan hb.canonical hv
  · intro cs hcs hv
    exact digitCount_le_of_digitsValue hcan hcs hv

/-- A product with zero, and zeros that were read. -/
theorem normalForm_zero :
    ((one.add 98).mul 0).Reachable ∧ Numeral.ofText " 000\n" = .ok ⟨[0]⟩ ∧
      ((one.add 98).mul 0 == ⟨[0]⟩) = true ∧ ((one.add 98).mul 0).digitCount = 1 := by
  have ha : ((one.add 98).mul 0).Reachable := .mul 0 (.add 98 .one)
  have hread : Numeral.ofText " 000\n" = .ok ⟨[0]⟩ := by decide +kernel
  have hvalue : ((one.add 98).mul 0).value = 0 := by
    rw [value_mul (canonical_one.add 98)]
    exact Nat.mul_zero _
  obtain ⟨-, -, -, hsame, -, -, -, -, hcount⟩ := normalForm_of_reachable ha
  exact ⟨ha, hread, (hsame ⟨[0]⟩ (.ofText hread)).mpr hvalue, hcount hvalue⟩

end Repunits.Numeral
