/-
  Repunits.Proofs.Numeral.Reading
  ────────────────────────────────
  **Texts are read as the numbers that they show, and shown as they were read.**

  A text is a number where digits, and nothing else, stand between the
  blanks at its ends. It is read from the right, so that of several
  characters that are no digits the last one is at fault. What is read
  shows the digits again, without the zeros in front; and a numeral that
  is shown, with zeros and blanks put around it, is read as it was.

  Main results:
    * `chars_ofDigits` — the digits shown are those that were read, less
      the zeros in front.
    * `ofText_eq_error_iff` — the texts that are refused, and why.
    * `ofText_toText` — a numeral that is shown is read back.
    * `ofText_grammar` — the three together.
-/
import Repunits.Proofs.Numeral.NormalForm
import Repunits.Proofs.Steps
import Repunits.Proofs.Text.Quoted
import Repunits.Proofs.Text.Trim

namespace Repunits.Numeral

open Text (Blanks Trims digitValue digitsValue isDigits isDigits_iff not_blank_of_isDigit
  toNat_of_isDigit)

/-- The digits of a text without the zeros in front; one zero where nothing else is left. -/
def significant (cs : List Char) : List Char :=
  match cs.dropWhile (· == '0') with
  | [] => ['0']
  | kept => kept

/-! ## §1. Digits shown. -/

/-- A digit is shown as the character that it was read from. -/
theorem digitChar_digitOfChar {c : Char} (hc : c.isDigit = true) :
    Nat.digitChar (digitOfChar c).toNat = c := by
  have hall : ∀ n < 10, Nat.digitChar n = Char.ofNat ('0'.toNat + n) := by decide
  have hle := digitValue_le hc
  have hsum : '0'.toNat + digitValue c = c.toNat := Nat.add_sub_cancel' (toNat_of_isDigit hc).1
  rw [toNat_digitOfChar hc, hall _ (by omega), hsum, Char.ofNat_toNat]

/-- Zero is read from its own character only. -/
theorem digitOfChar_eq_zero_iff {c : Char} (hc : c.isDigit = true) :
    digitOfChar c = 0 ↔ c = '0' := by
  constructor
  · intro h
    rw [← digitChar_digitOfChar hc, h]
    rfl
  · rintro rfl
    rfl

/-- The digits of a text are shown as they stand in it. -/
theorem chars_digitsOfChars {cs : List Char} (h : ∀ c ∈ cs, c.isDigit = true) :
    chars ⟨cs.reverse.map digitOfChar⟩ = cs := by
  unfold chars
  rw [← List.map_reverse, List.reverse_reverse, List.map_map]
  conv_rhs => rw [← List.map_id cs]
  apply List.map_congr_left
  intro c hc
  exact digitChar_digitOfChar (h c hc)

/-- The zeros on top are the zeros in front of the text. -/
theorem stripTop_digitsOfChars {cs : List Char} (h : ∀ c ∈ cs, c.isDigit = true) :
    stripTop (cs.reverse.map digitOfChar) =
      (cs.dropWhile (· == '0')).reverse.map digitOfChar := by
  induction cs with
  | nil => rfl
  | cons c cs ih =>
    obtain ⟨hc, hcs⟩ := List.forall_mem_cons.mp h
    have hdigits : (c :: cs).reverse.map digitOfChar =
        cs.reverse.map digitOfChar ++ [digitOfChar c] := by simp
    by_cases hzero : c = '0'
    · have htop : digitOfChar c = 0 := (digitOfChar_eq_zero_iff hc).mpr hzero
      rw [hdigits, htop, stripTop_append_zero, ih hcs,
        List.dropWhile_cons_of_pos (by simp [hzero])]
    · -- The first digit that is not zero is the one on top.
      have htop : digitOfChar c ≠ 0 := mt (digitOfChar_eq_zero_iff hc).mp hzero
      rw [stripTop_eq_self (by simpa [hdigits] using htop),
        List.dropWhile_cons_of_neg (by simpa using hzero)]

/-- **The digits shown** are those that were read, less the zeros in front. -/
theorem chars_ofDigits {cs : List Char} (h : ∀ c ∈ cs, c.isDigit = true) :
    (ofDigits (cs.reverse.map digitOfChar)).chars = significant cs := by
  have hkept : ∀ c ∈ cs.dropWhile (· == '0'), c.isDigit = true := by
    intro c hc
    exact h c ((List.dropWhile_sublist _).mem hc)
  have hchars := chars_digitsOfChars hkept
  unfold ofDigits significant
  rw [stripTop_digitsOfChars h]
  cases hs : cs.dropWhile (· == '0') with
  | nil => rfl
  | cons c kept =>
    rw [hs] at hchars
    split
    · rename_i hnil
      simp at hnil
    · exact hchars

/-! ## §2. Texts that are refused. -/

theorem ofText_of_blank {s : String} (ht : Text.trim s.toList = []) :
    ofText s = .error (.invalidInput .emptyNumber) := by
  rw [ofText, ht]

/-- The text is read from the right, and the first character found there that is no digit is at
fault. -/
theorem ofText_of_notDigit {s : String} {front back : List Char} {c : Char}
    (ht : Text.trim s.toList = front ++ c :: back) (hc : c.isDigit = false)
    (hback : ∀ x ∈ back, x.isDigit = true) :
    ofText s = .error (.invalidInput (.notDigit c)) := by
  have hfind : (front ++ c :: back).reverse.find? (fun c => !c.isDigit) = some c := by
    refine List.find?_eq_some_iff_append.mpr ⟨by simp [hc], back.reverse, front.reverse, by simp, ?_⟩
    intro x hx
    simp [hback x (List.mem_reverse.mp hx)]
  unfold ofText
  rw [ht]
  split
  · rename_i hnil
    simp at hnil
  · rw [hfind]

/-- **A text is refused** when it is blank, and otherwise for the last of its characters that is no
digit. -/
theorem ofText_eq_error_iff (s : String) (f : Fault) :
    ofText s = .error f ↔
      (Text.trim s.toList = [] ∧ f = .invalidInput .emptyNumber) ∨
      ∃ front c back, Text.trim s.toList = front ++ c :: back ∧ c.isDigit = false ∧
        (∀ x ∈ back, x.isDigit = true) ∧ f = .invalidInput (.notDigit c) := by
  constructor
  · intro h
    by_cases hnil : Text.trim s.toList = []
    · rw [ofText_of_blank hnil] at h
      cases h
      exact Or.inl ⟨hnil, rfl⟩
    · -- The last character that is no digit is the first one from the right.
      rcases forall_or_first (fun x : Char => x.isDigit = true) (Text.trim s.toList).reverse with
        hall | ⟨back, c, front, hsplit, hback, hc⟩
      · have hdigits : ∀ x ∈ Text.trim s.toList, x.isDigit = true := by
          intro x hx
          exact hall x (List.mem_reverse.mpr hx)
        rw [(ofText_eq_ok_iff s _).mpr ⟨(isDigits_iff _).mpr ⟨hnil, hdigits⟩, rfl⟩] at h
        cases h
      · have ht : Text.trim s.toList = front.reverse ++ c :: back.reverse := by
          rw [← List.reverse_reverse (Text.trim s.toList), hsplit]
          simp
        have hc' : c.isDigit = false := by simpa using hc
        have hback' : ∀ x ∈ back.reverse, x.isDigit = true := by
          intro x hx
          exact hback x (List.mem_reverse.mp hx)
        rw [ofText_of_notDigit ht hc' hback'] at h
        cases h
        exact Or.inr ⟨front.reverse, c, back.reverse, ht, hc', hback', rfl⟩
  · rintro (⟨hnil, rfl⟩ | ⟨front, c, back, ht, hc, hback, rfl⟩)
    · exact ofText_of_blank hnil
    · exact ofText_of_notDigit ht hc hback

/-! ## §3. Numerals that are read back. -/

/-- Zeros in front are of no account. -/
theorem digitsValue_zeros_append (m : Nat) (cs : List Char) :
    digitsValue (List.replicate m '0' ++ cs) = digitsValue cs := by
  induction m with
  | zero => rfl
  | succ m ih =>
    rw [List.replicate_succ, List.cons_append, ← ih]
    rfl

/-- **A numeral that is shown is read back**, with any zeros in front of it and blanks around. -/
theorem ofText_toText {n : Numeral} (hn : n.Canonical) {u v : String} (hu : Blanks u.toList)
    (hv : Blanks v.toList) (m : Nat) :
    ofText (u ++ String.ofList (List.replicate m '0') ++ n.toText ++ v) = .ok n := by
  obtain ⟨hne, hchars⟩ := (isDigits_iff _).mp (isDigits_chars hn)
  have hdigits : ∀ c ∈ List.replicate m '0' ++ n.chars, c.isDigit = true := by
    intro c hc
    rcases List.mem_append.mp hc with hzero | hc
    · rw [List.eq_of_mem_replicate hzero]
      rfl
    · exact hchars c hc
  have htrim : Text.trim (u ++ String.ofList (List.replicate m '0') ++ n.toText ++ v).toList =
      List.replicate m '0' ++ n.chars := by
    rw [← Text.trim_blanks_append hu hv fun c hc => not_blank_of_isDigit (hdigits c hc)]
    simp [toText]
  rw [ofText_eq_ok_iff, htrim]
  refine ⟨(isDigits_iff _).mpr ⟨List.append_ne_nil_of_right_ne_nil _ hne, hdigits⟩, ?_⟩
  apply Canonical.ext hn (canonical_ofDigits (decimal_digitsOfChars hdigits))
  rw [value_ofDigits, valueOf_digitsOfChars hdigits, digitsValue_zeros_append,
    digitsValue_chars hn]

/-! ## §4. Reading and showing. -/

/-- A text that is read denotes what its digits denote, and is shown without the zeros in front. -/
theorem value_of_ofText {s : String} {a : Numeral} (h : ofText s = .ok a) :
    a.value = digitsValue (Text.trim s.toList) ∧
      a.toText = String.ofList (significant (Text.trim s.toList)) := by
  obtain ⟨hread, rfl⟩ := (ofText_eq_ok_iff s a).mp h
  have hdigits := ((isDigits_iff _).mp hread).2
  constructor
  · rw [value_ofDigits, valueOf_digitsOfChars hdigits]
  · rw [toText, chars_ofDigits hdigits]

theorem quotes_notDigit :
    Text.Quotes (Char.ofNat 0x27) Char.toString "" " is not a decimal digit"
      fun c => (BadInput.notDigit c).text := by
  refine Text.quotes_of_eq (Or.inr rfl) ?_
  intro c
  have hchars : c.toString.toList = [c] := by simp
  rw [String.empty_append, hchars]
  rfl

/-- **Reading accepts the decimal texts and undoes showing.** What stands between the blanks at the
ends of a text, blank by Unicode, is one part and no other. If it is made of digits only, and of one at
least, the text is read as the number that they denote, which is shown by the same digits without the
zeros in front. If nothing stands there the text is an empty number, and otherwise the last character
that is no digit is named, whatever it is: a sign, a blank between digits or a digit of another script.
It stands between single quotation marks, as it is if it is plain, and can be told from what is shown. A
numeral that can be come by is read back from its own text, with any number of zeros in front of it
and any blanks around. Two texts give equal numerals just if they denote one number. -/
theorem ofText_grammar :
    -- the part between the blanks
    (∀ s : String, ∃! t, Trims s.toList t) ∧
    -- any text
    (∀ (s : String) (t : List Char), Trims s.toList t →
      ((∃ a, ofText s = .ok a) ↔ t ≠ [] ∧ ∀ c ∈ t, c.isDigit = true) ∧
      (∀ a, ofText s = .ok a →
        a.value = digitsValue t ∧ a.toText = String.ofList (significant t)) ∧
      ∀ f, ofText s = .error f ↔
        (t = [] ∧ f = .invalidInput .emptyNumber) ∨
        ∃ front c back, t = front ++ c :: back ∧ c.isDigit = false ∧
          (∀ x ∈ back, x.isDigit = true) ∧ f = .invalidInput (.notDigit c)) ∧
    -- the wording
    BadInput.emptyNumber.text = "empty number" ∧
    Text.Quotes (Char.ofNat 0x27) Char.toString "" " is not a decimal digit"
      (fun c => (BadInput.notDigit c).text) ∧
    -- the text of a numeral
    (∀ n : Numeral, n.Reachable → ∀ u v : String, Blanks u.toList → Blanks v.toList → ∀ m : Nat,
      ofText (u ++ String.ofList (List.replicate m '0') ++ n.toText ++ v) = .ok n) ∧
    -- two texts
    ∀ (s s' : String) (t t' : List Char) (a a' : Numeral), Trims s.toList t → Trims s'.toList t' →
      ofText s = .ok a → ofText s' = .ok a' → ((a == a') = true ↔ digitsValue t = digitsValue t') := by
  refine ⟨?_, ?_, rfl, quotes_notDigit, ?_, ?_⟩
  · intro s
    refine ⟨Text.trim s.toList, Text.trims_trim s.toList, ?_⟩
    intro t ht
    exact (Text.trim_eq_iff.mpr ht).symm
  · intro s t ht
    obtain rfl := Text.trim_eq_iff.mpr ht
    refine ⟨?_, fun a => value_of_ofText, ofText_eq_error_iff s⟩
    rw [← isDigits_iff]
    constructor
    · rintro ⟨a, ha⟩
      exact ((ofText_eq_ok_iff s a).mp ha).1
    · intro hdigits
      exact ⟨_, (ofText_eq_ok_iff s _).mpr ⟨hdigits, rfl⟩⟩
  · intro n hn u v hu hv m
    exact ofText_toText hn.canonical hu hv m
  · intro s s' t t' a a' ht ht' ha ha'
    obtain rfl := Text.trim_eq_iff.mpr ht
    obtain rfl := Text.trim_eq_iff.mpr ht'
    rw [beq_iff_eq, ← (value_of_ofText ha).1, ← (value_of_ofText ha').1]
    constructor
    · rintro rfl
      rfl
    · exact Canonical.ext (canonical_ofText ha) (canonical_ofText ha')

/-- Forty-two with zeros in front, between blanks; a minus sign, a blank and an Arabic digit, which is
named; a space and a hidden one, as they are named; a text of blanks; and ninety-nine, read back. -/
theorem ofText_grammar_fortyTwo :
    let spaced := "\u3000 0042\n"
    let mixed := "-4 2\u06635"
    let hundredLessOne := one.add 98
    ofText spaced = .ok ⟨[2, 4]⟩ ∧ (⟨[2, 4]⟩ : Numeral).toText = "42" ∧
      ofText mixed = .error (.invalidInput (.notDigit '\u0663')) ∧
      (Fault.invalidInput (.notDigit '\u0663')).message =
        "Invalid input: '\u0663' is not a decimal digit" ∧
      (BadInput.notDigit ' ').text = "' ' is not a decimal digit" ∧
      (BadInput.notDigit '\u3000').text = "'\\u\x7b3000\x7d' is not a decimal digit" ∧
      ofText " \t" = .error (.invalidInput .emptyNumber) ∧
      ofText ("\t" ++ "000" ++ hundredLessOne.toText ++ "  ") = .ok hundredLessOne ∧
      digitsValue ['0', '0', '4', '2'] = digitsValue ['4', '2'] := by
  intro spaced mixed hundredLessOne
  obtain ⟨-, hany, -, hnamed, hback, hsame⟩ := ofText_grammar
  have hspaced : Trims spaced.toList ['0', '0', '4', '2'] := by decide +kernel
  have hmixed : Trims mixed.toList (['-', '4', ' ', '2'] ++ '\u0663' :: ['5']) := by
    decide +kernel
  have hblank : Trims " \t".toList [] := by decide +kernel
  have hplain : Trims "42".toList ['4', '2'] := by decide +kernel
  have hread : ofText spaced = .ok ⟨[2, 4]⟩ := by decide +kernel
  have hread' : ofText "42" = .ok ⟨[2, 4]⟩ := by decide +kernel
  have hshown := ((hany _ _ hspaced).2.1 _ hread).2
  have hninetyNine : hundredLessOne.Reachable := .add 98 .one
  refine ⟨hread, hshown, ?_, ?_, ?_, ?_, ?_, ?_, ?_⟩
  · have hback' : ∀ x ∈ ['5'], x.isDigit = true := List.forall_mem_singleton.mpr rfl
    exact ((hany _ _ hmixed).2.2 _).mpr (Or.inr ⟨_, _, _, rfl, rfl, hback', rfl⟩)
  · have hquoted := hnamed.plain '\u0663' (by decide +kernel)
    exact (congrArg ("Invalid input: " ++ ·) hquoted).trans (by decide +kernel)
  · exact (hnamed.plain ' ' (by decide +kernel)).trans (by decide +kernel)
  · decide +kernel
  · exact ((hany _ _ hblank).2.2 _).mpr (Or.inl ⟨rfl, rfl⟩)
  · exact hback _ hninetyNine "\t" "  " (by decide) (by decide) 3
  · exact (hsame _ _ _ _ _ _ hspaced hplain hread hread').mp (by decide)

end Repunits.Numeral
