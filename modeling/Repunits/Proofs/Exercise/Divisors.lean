/-
  Repunits.Proofs.Exercise.Divisors
  ────────────────────────────────
  **The texts that are read as divisors.**

  A text lists divisors when its first word is their number and as many
  numerals of divisors follow. Any other text is refused, for the first
  thing that is amiss from the left; only that too few words follow is
  noticed last. What is accepted and what is refused is said here of the
  words alone, and one of the two is the case, so that what is read is
  known by it. Words behind the last divisor are of no account.

  Main results:
    * `readDivisor_of_isDivisor`, `readDivisor_of_refused` — one divisor, read
      or refused.
    * `readDivisors_iff` — all of them.
    * `readDivisors_ne_zero` — none that has been read is zero.
    * `readDivisors_grammar` — the same, word by word.
    * `readDivisors_numeral` — how a numeral is refused that is no divisor.
-/
import Mathlib.Algebra.Group.Int.Defs
import Repunits.Exercise.Input
import Repunits.Proofs.Steps
import Repunits.Proofs.Text.Integer
import Repunits.Proofs.Text.Quoted

namespace Repunits.Exercise

open Text (Blanks Gaps IsInteger IsNatural IsWord Splits spaced)

/-! ## §1. One divisor. -/

/-- The word is a numeral of `d`, with any sign or none, and `d` is positive. -/
def IsDivisor (token : List Char) (d : UInt64) : Prop :=
  IsInteger token d.toNat ∧ 0 < d.toNat

instance (token : List Char) (d : UInt64) : Decidable (IsDivisor token d) :=
  inferInstanceAs (Decidable (_ ∧ _))

/-- Why a word is no divisor. The value is told, unless the word has none that fits into 128 bits. -/
inductive Refused (token : List Char) : BadInput → Prop where
  | notInteger (h : ∀ v, IsInteger token v → ¬ (-(half128 : Int) ≤ v ∧ v < half128)) :
      Refused token (.notInteger (String.ofList token))
  | notPositive {v : Int} (h : IsInteger token v) (hlo : -(half128 : Int) ≤ v) (hle : v ≤ 0) :
      Refused token (.notPositive v)
  | tooLarge {v : Int} (h : IsInteger token v) (hle : (UInt64.size : Int) ≤ v)
      (hhi : v < half128) : Refused token (.tooLarge v)

/-- Divisors are small among the integers of 128 bits. -/
theorem size_mem_half128 : 0 < UInt64.size ∧ UInt64.size < half128 := by decide

theorem readDivisor_of_isDivisor {token : List Char} {d : UInt64} (h : IsDivisor token d) :
    readDivisor token = .ok d := by
  obtain ⟨hd, hpos⟩ := h
  have hlt : d.toNat < UInt64.size := d.toNat_lt
  have hsize := size_mem_half128
  have hread : Text.readBetween? (-half128) (half128 - 1) token = some (d.toNat : Int) :=
    Text.readBetween?_eq_some_iff.mpr ⟨hd, by omega, by omega⟩
  unfold readDivisor
  rw [hread]
  show (if (d.toNat : Int) ≤ 0 then _ else _) = _
  rw [if_neg (by omega), if_pos (by omega), Int.toNat_natCast, UInt64.ofNat_toNat]

theorem readDivisor_of_refused {token : List Char} {why : BadInput} (h : Refused token why) :
    readDivisor token = .error (.invalidInput why) := by
  have hsize := size_mem_half128
  unfold readDivisor
  cases h with
  | notInteger h =>
    have hread : Text.readBetween? (-half128) (half128 - 1) token = none := by
      rw [Text.readBetween?_eq_none_iff]
      intro v ⟨hv, hlo, hhi⟩
      exact h v hv ⟨hlo, by omega⟩
    rw [hread]
  | @notPositive v h hlo hle =>
    rw [Text.readBetween?_eq_some_iff.mpr ⟨h, hlo, by omega⟩]
    show (if v ≤ 0 then _ else _) = _
    rw [if_pos hle]
  | @tooLarge v h hle hhi =>
    rw [Text.readBetween?_eq_some_iff.mpr ⟨h, by omega, by omega⟩]
    show (if v ≤ 0 then _ else _) = _
    rw [if_neg (by omega), if_neg (by omega)]

theorem isDivisor_or_refused (token : List Char) :
    (∃ d, IsDivisor token d) ∨ ∃ why, Refused token why := by
  by_cases hread : ∃ v, IsInteger token v ∧ -(half128 : Int) ≤ v ∧ v < half128
  · obtain ⟨v, hv, hlo, hhi⟩ := hread
    by_cases hpos : v ≤ 0
    · exact Or.inr ⟨_, .notPositive hv hlo hpos⟩
    · by_cases hsmall : (UInt64.size : Int) ≤ v
      · exact Or.inr ⟨_, .tooLarge hv hsmall hhi⟩
      · have hlt : v.toNat < UInt64.size := by omega
        have hd : ((UInt64.ofNat v.toNat).toNat : Int) = v := by
          rw [UInt64.toNat_ofNat_of_lt' hlt]
          omega
        refine Or.inl ⟨UInt64.ofNat v.toNat, ?_, by omega⟩
        rw [hd]
        exact hv
  · refine Or.inr ⟨_, .notInteger ?_⟩
    intro v hv hrange
    exact hread ⟨v, hv, hrange⟩

/-! ## §2. A count and divisors. -/

/-- The word is the number of divisors. -/
def IsCount (token : List Char) (n : Nat) : Prop := IsNatural token n ∧ n < UInt64.size

instance (token : List Char) (n : Nat) : Decidable (IsCount token n) :=
  inferInstanceAs (Decidable (_ ∧ _))

/-- The words are a count and, behind it, as many divisors as it says; others may follow. -/
def Lists (ws : List (List Char)) (ds : List UInt64) : Prop :=
  ∃ first tokens n, ws = first :: tokens ∧ IsCount first n ∧ n ≤ tokens.length ∧
    List.Forall₂ IsDivisor (tokens.take n) ds

/-- Why words list no divisors. -/
inductive Refusal : List (List Char) → BadInput → Prop where
  | noCount : Refusal [] .noCount
  | badCount {first : List Char} {tokens : List (List Char)} (h : ∀ n, ¬ IsCount first n) :
      Refusal (first :: tokens) (.badCount (String.ofList first))
  /-- Among the words that count, `bad` is the leftmost that is no divisor. -/
  | badDivisor {first bad : List Char} {tokens front back : List (List Char)} {n : Nat}
      {why : BadInput} (hn : IsCount first n) (htake : tokens.take n = front ++ bad :: back)
      (hfront : ∀ t ∈ front, ∃ d, IsDivisor t d) (hbad : Refused bad why) :
      Refusal (first :: tokens) why
  | tooFew {first : List Char} {tokens : List (List Char)} {n : Nat} (hn : IsCount first n)
      (hshort : tokens.length < n) (hall : ∀ t ∈ tokens, ∃ d, IsDivisor t d) :
      Refusal (first :: tokens) (.tooFew n tokens.length)

theorem lists_or_refusal (ws : List (List Char)) :
    (∃ ds, Lists ws ds) ∨ ∃ why, Refusal ws why := by
  cases ws with
  | nil => exact Or.inr ⟨_, .noCount⟩
  | cons first tokens =>
    by_cases hcount : ∃ n, IsCount first n
    · obtain ⟨n, hn⟩ := hcount
      rcases forall_or_first (fun t => ∃ d, IsDivisor t d) (tokens.take n) with
        hall | ⟨front, bad, back, htake, hfront, hbad⟩
      · by_cases henough : n ≤ tokens.length
        · obtain ⟨ds, hds⟩ := exists_forall₂ hall
          exact Or.inl ⟨ds, first, tokens, n, rfl, hn, henough, hds⟩
        · have hshort : tokens.length < n := Nat.lt_of_not_le henough
          rw [List.take_of_length_le (Nat.le_of_lt hshort)] at hall
          exact Or.inr ⟨_, .tooFew hn hshort hall⟩
      · obtain ⟨why, hwhy⟩ := (isDivisor_or_refused bad).resolve_left hbad
        exact Or.inr ⟨why, .badDivisor hn htake hfront hwhy⟩
    · exact Or.inr ⟨_, .badCount fun n hn => hcount ⟨n, hn⟩⟩

section

variable {text : String} {first : List Char} {tokens ws : List (List Char)} {n : Nat}

/-- With a count in front, what is read depends on as many words as it says. -/
theorem readDivisors_of_isCount (hws : Splits text.toList (first :: tokens))
    (hn : IsCount first n) :
    readDivisors text = (tokens.take n).mapM readDivisor >>= fun ds =>
      if ds.length < n then .error (.invalidInput (.tooFew n ds.length)) else .ok ds := by
  unfold readDivisors
  rw [Text.words_eq_iff.mpr hws]
  dsimp only
  rw [Text.readBelow?_eq_some_iff.mpr hn]

/-- Divisors that can all be read are too few or enough. -/
theorem readDivisors_of_forall₂ (hws : Splits text.toList (first :: tokens))
    (hn : IsCount first n) {ds : List UInt64} (hds : List.Forall₂ IsDivisor (tokens.take n) ds) :
    readDivisors text =
      if ds.length < n then .error (.invalidInput (.tooFew n ds.length)) else .ok ds := by
  have hread : (tokens.take n).mapM readDivisor = .ok ds :=
    mapM_eq_ok_iff.mpr (hds.imp fun _ _ => readDivisor_of_isDivisor)
  rw [readDivisors_of_isCount hws hn, hread]
  rfl

theorem readDivisors_of_lists (hws : Splits text.toList ws) {ds : List UInt64} (h : Lists ws ds) :
    readDivisors text = .ok ds := by
  obtain ⟨first, tokens, n, rfl, hn, henough, hds⟩ := h
  have hlength : ds.length = n := by
    rw [← hds.length_eq, List.length_take, Nat.min_eq_left henough]
  rw [readDivisors_of_forall₂ hws hn hds, if_neg (by omega)]

theorem readDivisors_of_refusal (hws : Splits text.toList ws) {why : BadInput}
    (h : Refusal ws why) : readDivisors text = .error (.invalidInput why) := by
  cases h with
  | noCount =>
    unfold readDivisors
    rw [Text.words_eq_iff.mpr hws]
  | @badCount first tokens h =>
    unfold readDivisors
    rw [Text.words_eq_iff.mpr hws]
    dsimp only
    rw [Text.readBelow?_eq_none_iff.mpr h]
  | @badDivisor first bad tokens front back n _ hn htake hfront hbad =>
    have hfront' : ∀ t ∈ front, ∃ d, readDivisor t = .ok d := by
      intro t ht
      exact (hfront t ht).imp fun _ => readDivisor_of_isDivisor
    rw [readDivisors_of_isCount hws hn, htake,
      mapM_of_first_error hfront' (readDivisor_of_refused hbad)]
    rfl
  | tooFew hn hshort hall =>
    obtain ⟨ds, hds⟩ := exists_forall₂ hall
    rw [← List.take_of_length_le (Nat.le_of_lt hshort)] at hds
    have hlength := hds.length_eq
    rw [List.take_of_length_le (Nat.le_of_lt hshort)] at hlength
    rw [readDivisors_of_forall₂ hws hn hds, ← hlength, if_pos hshort]

/-- **Divisors are read from the texts that list them and from no other**, and any other text is
refused. -/
theorem readDivisors_iff (hws : Splits text.toList ws) :
    (∀ ds, readDivisors text = .ok ds ↔ Lists ws ds) ∧
      ∀ f, readDivisors text = .error f ↔ ∃ why, Refusal ws why ∧ f = .invalidInput why := by
  refine result_iff (fun _ => readDivisors_of_lists hws) ?_ ?_
  · rintro f ⟨why, h, rfl⟩
    exact readDivisors_of_refusal hws h
  · refine (lists_or_refusal ws).imp_right ?_
    rintro ⟨why, h⟩
    exact ⟨_, why, h, rfl⟩

/-- **No divisor that has been read is zero.** -/
theorem readDivisors_ne_zero {ds : List UInt64} (h : readDivisors text = .ok ds) :
    ∀ d ∈ ds, d ≠ 0 := by
  obtain ⟨_, _, _, _, _, _, hds⟩ := ((readDivisors_iff (Text.splits_words _)).1 ds).mp h
  intro d hd
  obtain ⟨token, -, hpos⟩ := exists_of_forall₂ hds.flip d hd
  intro hzero
  rw [hzero, UInt64.toNat_zero] at hpos
  exact absurd hpos (Nat.lt_irrefl 0)

/-- **Words behind the last divisor are of no account.** -/
theorem readDivisors_congr {text' : String} {tokens' : List (List Char)}
    (hws : Splits text.toList (first :: tokens)) (hws' : Splits text'.toList (first :: tokens'))
    (hn : IsCount first n) (htake : tokens.take n = tokens'.take n) :
    readDivisors text = readDivisors text' := by
  rw [readDivisors_of_isCount hws hn, readDivisors_of_isCount hws' hn, htake]

end

/-! ## §3. Divisors that are shown. -/

/-- The words that show a list of divisors: their number and their numerals. -/
def divisorWords (ds : List UInt64) : List String := toString ds.length :: ds.map toString

theorem isWord_divisorWords (ds : List UInt64) : ∀ w ∈ divisorWords ds, IsWord w.toList := by
  intro w hw
  cases List.mem_cons.mp hw with
  | inl hcount =>
    rw [hcount]
    exact Text.isWord_toString_nat ds.length
  | inr hdivisor =>
    obtain ⟨d, -, hd⟩ := List.mem_map.mp hdivisor
    rw [← hd]
    exact Text.isWord_toString_nat d.toNat

/-- Positive divisors are listed by the words that show them, where a word can count them. -/
theorem lists_divisorWords {ds : List UInt64} (hds : ∀ d ∈ ds, 0 < d)
    (hlength : ds.length < UInt64.size) : Lists ((divisorWords ds).map String.toList) ds := by
  refine ⟨_, _, ds.length, rfl, ⟨Text.isNatural_toString ds.length, hlength⟩, by simp, ?_⟩
  rw [List.take_of_length_le (by simp), List.map_map, List.forall₂_map_left_iff, List.forall₂_same]
  intro d hd
  exact ⟨Text.isInteger_toString d.toNat, hds d hd⟩

/-- More divisors than that are refused for their number. -/
theorem refusal_divisorWords {ds : List UInt64} (hlength : ¬ ds.length < UInt64.size) :
    Refusal ((divisorWords ds).map String.toList) (.badCount (toString ds.length)) := by
  have hcount : ∀ n, ¬ IsCount (toString ds.length).toList n := by
    intro n ⟨hn, hlt⟩
    rw [hn.unique (Text.isNatural_toString ds.length)] at hlt
    exact hlength hlt
  have hrefusal : Refusal ((divisorWords ds).map String.toList) _ := .badCount hcount
  rw [String.ofList_toList] at hrefusal
  exact hrefusal

/-! ## §4. The grammar. -/

theorem quotes_badCount :
    Text.Quotes '"' id "invalid divisor count " "" fun t => (BadInput.badCount t).text := by
  refine Text.quotes_of_eq (Or.inl rfl) ?_
  intro t
  exact String.append_empty.symm

theorem quotes_notInteger :
    Text.Quotes '"' id "" " is not an integer" fun t => (BadInput.notInteger t).text := by
  refine Text.quotes_of_eq (Or.inl rfl) ?_
  intro t
  rw [String.empty_append]
  rfl

/-- **Which texts are read as divisors, and why the others are not.** Every text splits into words in one
way. It is read if the first of them is a count, a numeral without minus sign of a number that a word
holds, if no fewer words follow than it says, and if the first so many of them are numerals of positive
numbers that a word holds; what is read are these, in order. A text without words lacks the count;
another first word is quoted as a count that is none; otherwise the leftmost of the words that count is
refused which is no divisor, and if there is none, too few follow, and both numbers are told. A word that
is quoted stands between quotation marks, as it is if its characters are plain, and can be told from what
is shown. Words behind the last divisor do not matter, whatever they are. Positive divisors that are shown
behind their number, with any blanks between them, are read back; more of them than a word can count are
refused for that number. -/
theorem readDivisors_grammar :
    -- the words of a text
    (∀ text : String, ∃! ws, Splits text.toList ws) ∧
    (∀ (text : String) (ws : List (List Char)), Splits text.toList ws →
      -- a text that is read
      (∀ ds, readDivisors text = .ok ds ↔ ∃ first tokens n, ws = first :: tokens ∧
        (IsNatural first n ∧ n < UInt64.size) ∧ n ≤ tokens.length ∧
        List.Forall₂ IsDivisor (tokens.take n) ds) ∧
      -- a text that is refused
      ∀ f, readDivisors text = .error f ↔ ∃ why, Refusal ws why ∧ f = .invalidInput why) ∧
    -- the wording
    BadInput.noCount.text = "missing divisor count" ∧
    Text.Quotes '"' id "invalid divisor count " "" (fun t => (BadInput.badCount t).text) ∧
    Text.Quotes '"' id "" " is not an integer" (fun t => (BadInput.notInteger t).text) ∧
    (∀ v, (BadInput.notPositive v).text = "divisor must be positive, got " ++ toString v) ∧
    (∀ v, (BadInput.tooLarge v).text = "divisor " ++ toString v ++ " does not fit in 64 bits") ∧
    (∀ n m, (BadInput.tooFew n m).text =
      "expected " ++ toString n ++ " divisors, found " ++ toString m) ∧
    -- words behind the last divisor
    (∀ (text text' : String) (first : List Char) (tokens tokens' : List (List Char)) (n : Nat),
      Splits text.toList (first :: tokens) → Splits text'.toList (first :: tokens') →
      IsNatural first n → n < UInt64.size → tokens.take n = tokens'.take n →
      readDivisors text = readDivisors text') ∧
    -- divisors that are shown
    ∀ (ds : List UInt64) (gaps : List String) (v : String), (∀ d ∈ ds, 0 < d) →
      Gaps gaps → gaps.length = ds.length + 1 → Blanks v.toList →
      let text := spaced gaps (toString ds.length :: ds.map toString) ++ v
      (ds.length < UInt64.size → readDivisors text = .ok ds) ∧
      (¬ ds.length < UInt64.size →
        readDivisors text = .error (.invalidInput (.badCount (toString ds.length)))) := by
  refine ⟨fun text => Text.exists_unique_splits text.toList, fun _ _ => readDivisors_iff, rfl,
    quotes_badCount, quotes_notInteger, fun _ => rfl, fun _ => rfl, fun _ _ => rfl, ?_, ?_⟩
  · intro text text' first tokens tokens' n hws hws' hn hlt htake
    exact readDivisors_congr hws hws' ⟨hn, hlt⟩ htake
  · intro ds gaps v hds hgaps hlength hv text
    have hws : Splits text.toList ((divisorWords ds).map String.toList) :=
      Text.splits_spaced hgaps (by simpa [divisorWords] using hlength) (isWord_divisorWords ds) hv
    constructor
    · intro hcount
      exact readDivisors_of_lists hws (lists_divisorWords hds hcount)
    · intro hcount
      exact readDivisors_of_refusal hws (refusal_divisorWords hcount)

/-- Two divisors, with other words behind them or none; no count; a count with a minus sign, and one with a
quotation mark, a backslash and a hidden character, as they are quoted; a divisor that is none, in front
of another and with too few behind it; one divisor of two; and two divisors shown. -/
theorem readDivisors_grammar_twoDivisors :
    let text := " +2\u3000007\t+3 x"
    readDivisors text = .ok [7, 3] ∧
      readDivisors " \n" = .error (.invalidInput .noCount) ∧
      readDivisors "-1 3" = .error (.invalidInput (.badCount "-1")) ∧
      (Fault.invalidInput (.badCount "-1")).message = "Invalid input: invalid divisor count \"-1\"" ∧
      (BadInput.badCount "a\"\\\u200b").text =
        "invalid divisor count \"a\\\"\\\\\\u\x7b200b\x7d\"" ∧
      (BadInput.notInteger "x").text = "\"x\" is not an integer" ∧
      readDivisors "4 3 0 x" = .error (.invalidInput (.notPositive 0)) ∧
      readDivisors "2 3" = .error (.invalidInput (.tooFew 2 1)) ∧
      readDivisors text = readDivisors "+2 007 +3" ∧
      readDivisors (spaced ["", "\n", " "] ["2", "7", "3"] ++ "\n") = .ok [7, 3] := by
  intro text
  obtain ⟨-, hgrammar, -, hbadCount, hnotInteger, -, -, -, hbehind, hshown⟩ := readDivisors_grammar
  have htwo : Splits text.toList (['+', '2'] :: [['0', '0', '7'], ['+', '3'], ['x']]) := by
    decide +kernel
  have htwo' : Splits "+2 007 +3".toList (['+', '2'] :: [['0', '0', '7'], ['+', '3']]) := by
    decide +kernel
  have hcount : IsCount ['+', '2'] 2 := by decide +kernel
  have hsevenThree : List.Forall₂ IsDivisor [['0', '0', '7'], ['+', '3']] [7, 3] :=
    .cons (by decide +kernel) (.cons (by decide +kernel) .nil)
  have hblank : Splits " \n".toList [] := by decide +kernel
  have hminus : Splits "-1 3".toList (['-', '1'] :: [['3']]) := by decide +kernel
  have hnoCount : ∀ n, ¬ IsCount ['-', '1'] n := by
    intro n hn
    cases Text.readNat?_eq_some_iff.mpr hn.1
  have hfour : Splits "4 3 0 x".toList (['4'] :: [['3'], ['0'], ['x']]) := by decide +kernel
  have hthree : ∀ t ∈ [['3']], ∃ d, IsDivisor t d :=
    List.forall_mem_singleton.mpr ⟨3, by decide +kernel⟩
  have hzero : Refused ['0'] (.notPositive 0) := .notPositive (by decide +kernel) (by decide) (by decide)
  have hfew : Splits "2 3".toList (['2'] :: [['3']]) := by decide +kernel
  refine ⟨?_, ?_, ?_, ?_, ?_, ?_, ?_, ?_, ?_, ?_⟩
  · exact ((hgrammar _ _ htwo).1 _).mpr ⟨_, _, 2, rfl, hcount, by decide, hsevenThree⟩
  · exact ((hgrammar _ _ hblank).2 _).mpr ⟨_, .noCount, rfl⟩
  · exact ((hgrammar _ _ hminus).2 _).mpr ⟨_, .badCount hnoCount, rfl⟩
  · have hquoted := hbadCount.plain "-1" (by decide +kernel)
    exact (congrArg ("Invalid input: " ++ ·) hquoted).trans (by decide +kernel)
  · decide +kernel
  · exact (hnotInteger.plain "x" (by decide +kernel)).trans (by decide +kernel)
  · have htake : [['3'], ['0'], ['x']].take 4 = [['3']] ++ ['0'] :: [['x']] := rfl
    have hrefusal : Refusal (['4'] :: [['3'], ['0'], ['x']]) (.notPositive 0) :=
      .badDivisor (n := 4) (by decide +kernel) htake hthree hzero
    exact ((hgrammar _ _ hfour).2 _).mpr ⟨_, hrefusal, rfl⟩
  · have hrefusal : Refusal (['2'] :: [['3']]) (.tooFew 2 1) :=
      .tooFew (by decide +kernel) (by decide) hthree
    exact ((hgrammar _ _ hfew).2 _).mpr ⟨_, hrefusal, rfl⟩
  · exact hbehind _ _ _ _ _ 2 htwo htwo' hcount.1 hcount.2 rfl
  · have hwords : toString [(7 : UInt64), 3].length :: [(7 : UInt64), 3].map toString =
        ["2", "7", "3"] := by decide +kernel
    rw [← hwords]
    exact (hshown [7, 3] ["", "\n", " "] "\n" (by simp) (by decide +kernel) rfl
      (by decide +kernel)).1 (by decide)

/-! ## §5. Numerals that are refused. -/

/-- The report that a word is no integer is made of a word whose value does not fit into 128 bits. -/
theorem Refused.not_integer {token : List Char} {s : String} (h : Refused token (.notInteger s)) :
    s = String.ofList token ∧
      ∀ v, IsInteger token v → ¬ (-(half128 : Int) ≤ v ∧ v < half128) := by
  cases h with
  | notInteger h => exact ⟨rfl, h⟩

theorem Refused.not_positive {token : List Char} {v : Int} (h : Refused token (.notPositive v)) :
    -(half128 : Int) ≤ v ∧ v ≤ 0 := by
  cases h with
  | notPositive _ hlo hle => exact ⟨hlo, hle⟩

theorem Refused.too_large {token : List Char} {v : Int} (h : Refused token (.tooLarge v)) :
    (UInt64.size : Int) ≤ v ∧ v < half128 := by
  cases h with
  | tooLarge _ hle hhi => exact ⟨hle, hhi⟩

/-- A numeral is refused just if its value is not one of a divisor. -/
theorem exists_refused_iff {token : List Char} {v : Int} (hv : IsInteger token v) :
    (∃ why, Refused token why) ↔ v < 1 ∨ (UInt64.size : Int) ≤ v := by
  have hsize := size_mem_half128
  constructor
  · intro ⟨why, h⟩
    cases h with
    | notInteger h =>
      have hout := h v hv
      omega
    | notPositive h hlo hle =>
      rw [hv.unique h]
      omega
    | tooLarge h hle hhi =>
      rw [hv.unique h]
      exact Or.inr hle
  · intro hout
    refine (isDivisor_or_refused token).resolve_left ?_
    intro ⟨d, hd, hpos⟩
    have hlt : d.toNat < UInt64.size := d.toNat_lt
    have hvalue := hv.unique hd
    omega

/-- Of a word at the place of a divisor only those in front of it are reported before it. -/
theorem readDivisors_of_refused_at {text : String} {first bad : List Char}
    {front back : List (List Char)} {n : Nat} {why : BadInput}
    (hws : Splits text.toList (first :: (front ++ bad :: back))) (hn : IsCount first n)
    (hplace : front.length < n) (hfront : ∀ t ∈ front, ∃ d, IsDivisor t d)
    (hbad : Refused bad why) : readDivisors text = .error (.invalidInput why) := by
  obtain ⟨k, hk⟩ := Nat.exists_eq_add_of_lt hplace
  have htake : (front ++ bad :: back).take n = front ++ bad :: back.take k := by
    rw [hk, Nat.add_assoc, List.take_length_add_append, List.take_succ_cons]
  exact readDivisors_of_refusal hws (.badDivisor hn htake hfront hbad)

/-- **How a word at the place of a divisor is refused**, where all in front of it are divisors. A numeral
is refused just if its value is not one of a divisor. It is told that the value is not positive, or that
it does not fit into 64 bits, as long as it fits into 128 bits; a word whose value does not is said to be
no integer, and so is a word that has none. -/
theorem readDivisors_numeral {text : String} {first bad : List Char} {front back : List (List Char)}
    {n : Nat} (hws : Splits text.toList (first :: (front ++ bad :: back)))
    (hn : IsNatural first n ∧ n < UInt64.size) (hplace : front.length < n)
    (hfront : ∀ t ∈ front, ∃ d, IsDivisor t d) :
    -- a numeral of `v`
    (∀ v, IsInteger bad v →
      ((∃ why, Refused bad why ∧ readDivisors text = .error (.invalidInput why)) ↔
        v < 1 ∨ 2 ^ 64 ≤ v) ∧
      (readDivisors text = .error (.invalidInput (.notPositive v)) ↔ -2 ^ 127 ≤ v ∧ v ≤ 0) ∧
      (readDivisors text = .error (.invalidInput (.tooLarge v)) ↔ 2 ^ 64 ≤ v ∧ v < 2 ^ 127)) ∧
    -- any word
    (readDivisors text = .error (.invalidInput (.notInteger (String.ofList bad))) ↔
      ∀ v, IsInteger bad v → v < -2 ^ 127 ∨ 2 ^ 127 ≤ v) ∧
    -- the wording
    (∀ v, (BadInput.notPositive v).text = "divisor must be positive, got " ++ toString v) ∧
    (∀ v, (BadInput.tooLarge v).text = "divisor " ++ toString v ++ " does not fit in 64 bits") ∧
    ∀ t, (BadInput.notInteger t).text = Text.quoted t ++ " is not an integer" := by
  have hsize : (UInt64.size : Int) = 2 ^ 64 := rfl
  have hhalf : (half128 : Int) = 2 ^ 127 := rfl
  have hat : ∀ {why}, Refused bad why → readDivisors text = .error (.invalidInput why) :=
    readDivisors_of_refused_at hws hn hplace hfront
  have hrefusal : ∀ {why}, readDivisors text = .error (.invalidInput why) →
      Refusal (first :: (front ++ bad :: back)) why := by
    intro why h
    obtain ⟨why', hwhy', hsame⟩ := ((readDivisors_iff hws).2 _).mp h
    cases hsame
    exact hwhy'
  refine ⟨?_, ?_, fun v => rfl, fun v => rfl, fun t => rfl⟩
  · intro v hv
    refine ⟨?_, ?_, ?_⟩
    · rw [← hsize, ← exists_refused_iff hv]
      constructor
      · intro ⟨why, hwhy, _⟩
        exact ⟨why, hwhy⟩
      · intro ⟨why, hwhy⟩
        exact ⟨why, hwhy, hat hwhy⟩
    · constructor
      · intro h
        cases hrefusal h with
        | badDivisor _ _ _ hbad =>
          have hvalue := hbad.not_positive
          omega
      · intro ⟨hlo, hle⟩
        exact hat (.notPositive hv (by omega) hle)
    · constructor
      · intro h
        cases hrefusal h with
        | badDivisor _ _ _ hbad =>
          have hvalue := hbad.too_large
          omega
      · intro ⟨hle, hhi⟩
        exact hat (.tooLarge hv (by omega) (by omega))
  · constructor
    · intro h v hv
      cases hrefusal h with
      | badDivisor _ _ _ hbad =>
        obtain ⟨hsame, hout⟩ := hbad.not_integer
        rw [← String.ofList_injective hsame] at hout
        have hvalue := hout v hv
        omega
    · intro hout
      refine hat (.notInteger ?_)
      intro v hv
      have hvalue := hout v hv
      omega

/-- Minus five and the least number that does not fit into 64 bits, with a sign and zeros in front. -/
theorem readDivisors_numeral_minusFive :
    let large := "+018446744073709551616".toList
    (Splits "3 7 -5 x".toList (['3'] :: ([['7']] ++ ['-', '5'] :: [['x']])) ∧
      IsInteger ['-', '5'] (-5) ∧
      readDivisors "3 7 -5 x" = .error (.invalidInput (.notPositive (-5))) ∧
      (BadInput.notPositive (-5)).text = "divisor must be positive, got -5") ∧
    (Splits "1 +018446744073709551616".toList (['1'] :: ([] ++ large :: [])) ∧
      IsInteger large 18446744073709551616 ∧
      readDivisors "1 +018446744073709551616" =
        .error (.invalidInput (.tooLarge 18446744073709551616)) ∧
      (BadInput.tooLarge 18446744073709551616).text =
        "divisor 18446744073709551616 does not fit in 64 bits") := by
  intro large
  have hminus : Splits "3 7 -5 x".toList (['3'] :: ([['7']] ++ ['-', '5'] :: [['x']])) := by
    decide +kernel
  have hminusFive : IsInteger ['-', '5'] (-5) := by decide +kernel
  have hseven : ∀ t ∈ [['7']], ∃ d, IsDivisor t d :=
    List.forall_mem_singleton.mpr ⟨7, by decide +kernel⟩
  have hlarge : Splits "1 +018446744073709551616".toList (['1'] :: ([] ++ large :: [])) := by
    decide +kernel
  have hsize : IsInteger large 18446744073709551616 := by decide +kernel
  obtain ⟨hnumeral, -, hnotPositive, -⟩ := readDivisors_numeral hminus
    (n := 3) ⟨by decide +kernel, by decide⟩ (by decide) hseven
  obtain ⟨hnumeral', -, -, htooLarge, -⟩ := readDivisors_numeral hlarge
    (n := 1) ⟨by decide +kernel, by decide⟩ (by decide) (List.forall_mem_nil _)
  exact ⟨⟨hminus, hminusFive, (hnumeral _ hminusFive).2.1.mpr (by decide),
      (hnotPositive _).trans (by decide +kernel)⟩,
    hlarge, hsize, (hnumeral' _ hsize).2.2.mpr (by decide), (htooLarge _).trans (by decide +kernel)⟩

/-- A numeral past 128 bits at the place of a divisor: its value does not fit into 64 bits, and yet it is
said to be no integer. -/
theorem readDivisors_numeral_past128 :
    let v : Int := 170141183460469231731687303715884105728
    let bad := "170141183460469231731687303715884105728".toList
    let text := "1 170141183460469231731687303715884105728"
    Splits text.toList (['1'] :: ([] ++ bad :: [])) ∧ IsCount ['1'] 1 ∧ IsInteger bad v ∧
      2 ^ 64 ≤ v ∧ readDivisors text ≠ .error (.invalidInput (.tooLarge v)) ∧
      readDivisors text = .error (.invalidInput (.notInteger (String.ofList bad))) := by
  decide +kernel

end Repunits.Exercise
