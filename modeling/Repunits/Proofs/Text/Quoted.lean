/-
  Repunits.Proofs.Text.Quoted
  ────────────────────────────────
  **A quoted text shows the text, and no other.**

  Between quotation marks a plain character stands as it is, and `ShownAs`
  says for each other character what stands for it. A quoted text shows
  its characters in order. So a text of plain characters is quoted by
  putting the marks around it; and as what stands for a character is read
  back from the left (`unescape`), two texts that are quoted alike are one.

  Main results:
    * `shownAs_escaped` — what stands for a character.
    * `unescape_of_shownAs` — a character is read back.
    * `quotes_of_eq` — messages that quote a text.
-/
import Repunits.Proofs.Text.Words
import Repunits.Text.Quoted

namespace Repunits.Text

/-! ## §1. What stands for a character. -/

/-- The marks that texts are put between. -/
def IsMark (quote : Char) : Prop := quote = '"' ∨ quote = Char.ofNat 0x27

/-- The characters that are written as a backslash and a letter, or the digit zero. -/
def lettered : List Char := ['\t', '\n', '\r', Char.ofNat 0]

/-- The character is no mark, no backslash and not hidden. -/
def Plain (quote c : Char) : Prop := c ≠ quote ∧ c ≠ '\\' ∧ isHidden c = false

instance (quote c : Char) : Decidable (Plain quote c) :=
  inferInstanceAs (Decidable (_ ∧ _))

/-- All characters of the text are plain. -/
def AllPlain (quote : Char) (t : List Char) : Prop := ∀ c ∈ t, Plain quote c

instance (quote : Char) (t : List Char) : Decidable (AllPlain quote t) := List.decidableBAll _ t

/-- Between `quote` marks `shown` stands for the character. -/
inductive ShownAs (quote : Char) : Char → List Char → Prop where
  | plain {c : Char} (h : Plain quote c) : ShownAs quote c [c]
  | mark {c : Char} (h : c = quote ∨ c = '\\') : ShownAs quote c ['\\', c]
  | tab : ShownAs quote '\t' ['\\', 't']
  | newline : ShownAs quote '\n' ['\\', 'n']
  | carriageReturn : ShownAs quote '\r' ['\\', 'r']
  | nul : ShownAs quote (Char.ofNat 0) ['\\', '0']
  /-- The code point stands for any other hidden character. -/
  | codePoint {c : Char} (h : isHidden c = true) (hlettered : c ∉ lettered) :
      ShownAs quote c (['\\', 'u', '{'] ++ Nat.toDigits 16 c.toNat ++ ['}'])

section

variable {quote c : Char}

theorem escaped_of_plain (h : Plain quote c) : escaped quote c = [c] := by
  obtain ⟨hquote, hbackslash, hshown⟩ := h
  have hlettered : c ∉ lettered := by
    intro hc
    have hhidden : lettered.all isHidden = true := by decide
    rw [List.all_eq_true.mp hhidden c hc] at hshown
    cases hshown
  simp only [lettered, List.mem_cons, List.not_mem_nil, or_false, not_or] at hlettered
  obtain ⟨htab, hnewline, hreturn, hnul⟩ := hlettered
  unfold escaped
  rw [if_neg htab, if_neg hnewline, if_neg hreturn, if_neg hnul, if_neg (by simp [hquote, hbackslash]),
    if_neg (by simp [hshown])]

/-- **What stands for a character** is what it is escaped to. -/
theorem shownAs_escaped (quote c : Char) : ShownAs quote c (escaped quote c) := by
  unfold escaped
  by_cases htab : c = '\t'
  · rw [if_pos htab, htab]
    exact .tab
  by_cases hnewline : c = '\n'
  · rw [if_neg htab, if_pos hnewline, hnewline]
    exact .newline
  by_cases hreturn : c = '\r'
  · rw [if_neg htab, if_neg hnewline, if_pos hreturn, hreturn]
    exact .carriageReturn
  by_cases hnul : c = Char.ofNat 0
  · rw [if_neg htab, if_neg hnewline, if_neg hreturn, if_pos hnul, hnul]
    exact .nul
  rw [if_neg htab, if_neg hnewline, if_neg hreturn, if_neg hnul]
  by_cases hmark : c = quote ∨ c = '\\'
  · rw [if_pos hmark]
    exact .mark hmark
  rw [if_neg hmark]
  by_cases hhidden : isHidden c = true
  · rw [if_pos hhidden]
    exact .codePoint hhidden (by simp [lettered, htab, hnewline, hreturn, hnul])
  · rw [if_neg hhidden]
    rw [not_or] at hmark
    exact .plain ⟨hmark.1, hmark.2, by simpa using hhidden⟩

end

/-! ## §2. Code points in base sixteen. -/

/-- The value of one digit in base sixteen. -/
def hexDigitValue (c : Char) : Nat :=
  if c.isDigit then c.toNat - '0'.toNat else c.toNat - 'a'.toNat + 10

/-- The value of digits in base sixteen, most significant first. -/
def hexValue (cs : List Char) : Nat := cs.foldl (fun v c => 16 * v + hexDigitValue c) 0

theorem hexDigitValue_digitChar {n : Nat} (h : n < 16) : hexDigitValue (Nat.digitChar n) = n := by
  have hall : ∀ m < 16, hexDigitValue (Nat.digitChar m) = m := by decide
  exact hall n h

/-- Numbers are read back from their digits. -/
theorem hexValue_toDigits (n : Nat) : hexValue (Nat.toDigits 16 n) = n := by
  induction n using Nat.strongRecOn with
  | ind n ih =>
    rcases Nat.lt_or_ge n 16 with hlt | hge
    · rw [Nat.toDigits_of_lt_base hlt]
      show 16 * 0 + hexDigitValue (Nat.digitChar n) = n
      rw [hexDigitValue_digitChar hlt, Nat.mul_zero, Nat.zero_add]
    · have hfront := ih (n / 16) (by omega)
      unfold hexValue at hfront ⊢
      rw [Nat.toDigits_of_base_le (by decide) hge, List.foldl_append, hfront]
      show 16 * (n / 16) + hexDigitValue (Nat.digitChar (n % 16)) = n
      rw [hexDigitValue_digitChar (Nat.mod_lt n (by decide)), Nat.div_add_mod]

/-- No digit is a brace. -/
theorem brace_notMem_toDigits (n : Nat) : '}' ∉ Nat.toDigits 16 n := by
  have hdigit : ∀ m < 16, Nat.digitChar m ≠ '}' := by decide
  induction n using Nat.strongRecOn with
  | ind n ih =>
    rcases Nat.lt_or_ge n 16 with hlt | hge
    · rw [Nat.toDigits_of_lt_base hlt, List.mem_singleton]
      exact (hdigit n hlt).symm
    · rw [Nat.toDigits_of_base_le (by decide) hge, List.mem_append, List.mem_singleton, not_or]
      exact ⟨ih (n / 16) (by omega), (hdigit (n % 16) (Nat.mod_lt n (by decide))).symm⟩

/-! ## §3. Characters read back. -/

/-- The character that a backslash and this one stand for. -/
def ofLetter (c : Char) : Char :=
  if c = 't' then '\t' else if c = 'n' then '\n' else if c = 'r' then '\r'
  else if c = '0' then Char.ofNat 0 else c

/-- Reads the character that a quoted text begins with, and returns what stands behind it. -/
def unescape : List Char → Option (Char × List Char)
  | '\\' :: 'u' :: '{' :: rest =>
    match rest.dropWhile (· ≠ '}') with
    | [] => none
    | _ :: later => some (Char.ofNat (hexValue (rest.takeWhile (· ≠ '}'))), later)
  | '\\' :: c :: rest => some (ofLetter c, rest)
  | c :: rest => some (c, rest)
  | [] => none

theorem unescape_letter {c : Char} (hc : c ≠ 'u') (rest : List Char) :
    unescape ('\\' :: c :: rest) = some (ofLetter c, rest) := by
  rw [unescape]
  · intro _ hu
    exact absurd hu hc

theorem unescape_plain {c : Char} (hc : c ≠ '\\') (rest : List Char) :
    unescape (c :: rest) = some (c, rest) := by
  rw [unescape]
  · intro _ hbackslash
    exact absurd hbackslash hc
  · intro _ _ hbackslash
    exact absurd hbackslash hc

theorem unescape_codePoint (c : Char) (rest : List Char) :
    unescape (['\\', 'u', '{'] ++ Nat.toDigits 16 c.toNat ++ ['}'] ++ rest) = some (c, rest) := by
  have hdigits := brace_notMem_toDigits c.toNat
  have hchars : ['\\', 'u', '{'] ++ Nat.toDigits 16 c.toNat ++ ['}'] ++ rest =
      '\\' :: 'u' :: '{' :: (Nat.toDigits 16 c.toNat ++ '}' :: rest) := by simp
  rw [hchars, unescape, dropWhile_ne hdigits, takeWhile_ne hdigits]
  dsimp only
  rw [hexValue_toDigits, Char.ofNat_toNat]

/-- A mark is no letter that stands for another character. -/
theorem ofLetter_of_mark {quote c : Char} (hquote : IsMark quote) (h : c = quote ∨ c = '\\') :
    c ≠ 'u' ∧ ofLetter c = c := by
  rcases hquote with rfl | rfl <;> rcases h with rfl | rfl <;> decide

/-- **A character is read back** from what stands for it. -/
theorem unescape_of_shownAs {quote c : Char} {shown : List Char} (hquote : IsMark quote)
    (h : ShownAs quote c shown) (rest : List Char) :
    unescape (shown ++ rest) = some (c, rest) := by
  cases h with
  | plain h => exact unescape_plain h.2.1 rest
  | mark h =>
    obtain ⟨hne, hletter⟩ := ofLetter_of_mark hquote h
    show unescape ('\\' :: c :: rest) = _
    rw [unescape_letter hne, hletter]
  | tab => rfl
  | newline => rfl
  | carriageReturn => rfl
  | nul => rfl
  | codePoint => exact unescape_codePoint c rest

/-! ## §4. Quoted texts. -/

/-- Between `quote` marks `s` shows the text `t`, character by character. -/
inductive Shows (quote : Char) : List Char → List Char → Prop where
  | nil : Shows quote [] []
  | cons {c : Char} {shown t s : List Char} (hc : ShownAs quote c shown) (ht : Shows quote t s) :
      Shows quote (c :: t) (shown ++ s)

theorem shows_flatMap_escaped (quote : Char) (t : List Char) :
    Shows quote t (t.flatMap (escaped quote)) := by
  induction t with
  | nil => exact .nil
  | cons c t ih =>
    rw [List.flatMap_cons]
    exact .cons (shownAs_escaped quote c) ih

/-- A text of which nothing is shown is empty. -/
theorem Shows.eq_nil {quote : Char} {t : List Char} (h : Shows quote t []) : t = [] := by
  generalize hs : ([] : List Char) = s at h
  cases h with
  | nil => rfl
  | cons hc ht => cases hc <;> simp at hs

/-- **One text is shown only**, whatever is shown. -/
theorem Shows.unique {quote : Char} {t t' s : List Char} (hquote : IsMark quote)
    (h : Shows quote t s) (h' : Shows quote t' s) : t = t' := by
  induction h generalizing t' with
  | nil => exact h'.eq_nil.symm
  | @cons c shown t s hc ht ih =>
    have hread := unescape_of_shownAs hquote hc s
    generalize shown ++ s = whole at h' hread
    cases h' with
    | nil => cases hread
    | @cons c' shown' t' s' hc' ht' =>
      -- Both begin with one character, and go on alike.
      rw [unescape_of_shownAs hquote hc' s'] at hread
      cases hread
      rw [ih ht']

theorem flatMap_escaped_of_plain {quote : Char} {t : List Char} (h : AllPlain quote t) :
    t.flatMap (escaped quote) = t := by
  induction t with
  | nil => rfl
  | cons c t ih =>
    obtain ⟨hc, ht⟩ := List.forall_mem_cons.mp h
    rw [List.flatMap_cons, escaped_of_plain hc, ih ht]
    rfl

/-! ## §5. Messages. -/

/-- A message about a value quotes its text: it shows the text between `quote` marks, as it is if all
characters are plain; and messages about two values are alike only if their texts are. -/
structure Quotes {α : Type} (quote : Char) (text : α → String) (front back : String)
    (message : α → String) : Prop where
  shown : ∀ a, ∃ s, Shows quote (text a).toList s ∧
    message a = front ++ String.ofList (quote :: (s ++ [quote])) ++ back
  plain : ∀ a, AllPlain quote (text a).toList →
    message a = front ++ quote.toString ++ text a ++ quote.toString ++ back
  injective : ∀ a b, message a = message b → text a = text b

/-- **Messages that quote a text.** -/
theorem quotes_of_eq {α : Type} {quote : Char} {text : α → String} {front back : String}
    {message : α → String} (hquote : IsMark quote)
    (h : ∀ a, message a = front ++ String.ofList (quotedWith quote (text a).toList) ++ back) :
    Quotes quote text front back message := by
  refine ⟨?_, ?_, ?_⟩
  · intro a
    exact ⟨_, shows_flatMap_escaped quote (text a).toList, h a⟩
  · intro a hplain
    rw [h, quotedWith, flatMap_escaped_of_plain hplain]
    apply String.toList_inj.mp
    simp
  · intro a b hab
    rw [h, h, String.append_left_inj, String.append_right_inj] at hab
    have hquoted := String.ofList_injective hab
    unfold quotedWith at hquoted
    have hshown := List.append_cancel_right (List.cons.inj hquoted).2
    have ha := shows_flatMap_escaped quote (text a).toList
    rw [hshown] at ha
    exact String.toList_inj.mp (ha.unique hquote (shows_flatMap_escaped quote (text b).toList))

end Repunits.Text
