/-
  Repunits.Proofs.Exercise.Pairs
  ────────────────────────────────
  **The texts that are read as pairs.**

  A text of pairs is a text of 64-bit integers, even in number. `halves`
  lays pairs out one half behind the other, and each list of values is
  laid out so, with one value over or none. The values are read first
  and paired up afterwards: a word that is no integer is refused wherever
  it stands, and only where there is none can a value be left over.

  Main results:
    * `readWord_of_isHalf`, `readWord_of_not_isHalf` — one half, read or
      refused.
    * `readPairs_iff` — all of them.
    * `readPairs_append` — the pairs of two texts with blanks between them.
    * `readPairs_grammar` — the same, word by word.
-/
import Repunits.Exercise.Input
import Repunits.Proofs.Steps
import Repunits.Proofs.Text.Integer
import Repunits.Proofs.Text.Quoted

namespace Repunits.Exercise

open Text (Blanks Gaps IsInteger IsWord Splits spaced)

/-! ## §1. One half. -/

/-- The word is a numeral of `v`, with any sign or none. -/
def IsHalf (token : List Char) (v : Int64) : Prop := IsInteger token v.toInt

instance (token : List Char) (v : Int64) : Decidable (IsHalf token v) :=
  inferInstanceAs (Decidable (IsInteger _ _))

theorem readWord_of_isHalf {token : List Char} {v : Int64} (h : IsHalf token v) :
    readWord token = .ok v := by
  have hread : Text.readBetween? Int64.minValue.toInt Int64.maxValue.toInt token = some v.toInt :=
    Text.readBetween?_eq_some_iff.mpr ⟨h, Int64.minValue_le_toInt v, Int64.toInt_le v⟩
  unfold readWord
  rw [hread]
  exact congrArg Except.ok (Int64.ofInt_toInt v)

theorem readWord_of_not_isHalf {token : List Char} (h : ∀ v, ¬ IsHalf token v) :
    readWord token = .error (.invalidInput (.notWord (String.ofList token))) := by
  have hread : Text.readBetween? Int64.minValue.toInt Int64.maxValue.toInt token = none := by
    rw [Text.readBetween?_eq_none_iff]
    intro v ⟨hv, hlo, hhi⟩
    have hvalue : (Int64.ofInt v).toInt = v := by
      rw [Int64.toInt_minValue] at hlo
      rw [Int64.toInt_maxValue] at hhi
      exact Int64.toInt_ofInt_of_le hlo (by omega)
    refine h (Int64.ofInt v) ?_
    rw [IsHalf, hvalue]
    exact hv
  unfold readWord
  rw [hread]

/-! ## §2. Pairs laid out. -/

/-- The halves of the pairs, in order. -/
def halves (pairs : List (Int64 × Int64)) : List Int64 := pairs.flatMap fun pair => [pair.1, pair.2]

@[simp] theorem halves_nil : halves [] = [] := rfl

@[simp] theorem halves_cons (pair : Int64 × Int64) (pairs : List (Int64 × Int64)) :
    halves (pair :: pairs) = pair.1 :: pair.2 :: halves pairs := rfl

theorem halves_append (pairs pairs' : List (Int64 × Int64)) :
    halves (pairs ++ pairs') = halves pairs ++ halves pairs' :=
  List.flatMap_append

theorem length_halves (pairs : List (Int64 × Int64)) :
    (halves pairs).length = 2 * pairs.length := by
  induction pairs with
  | nil => rfl
  | cons pair pairs ih =>
    simp only [halves_cons, List.length_cons, ih]
    omega

theorem pairUp_halves (pairs : List (Int64 × Int64)) : pairUp (halves pairs) = .ok pairs := by
  induction pairs with
  | nil => rfl
  | cons pair pairs ih =>
    rw [halves_cons, pairUp, ih]
    rfl

theorem pairUp_halves_concat (pairs : List (Int64 × Int64)) (v : Int64) :
    pairUp (halves pairs ++ [v]) = .error (.invalidInput (.unpaired v)) := by
  induction pairs with
  | nil => rfl
  | cons pair pairs ih =>
    rw [halves_cons, List.cons_append, List.cons_append, pairUp, ih]
    rfl

/-- Values are the halves of pairs, with one over or none. -/
theorem halves_or_concat (values : List Int64) :
    (∃ pairs, values = halves pairs) ∨ ∃ pairs v, values = halves pairs ++ [v] := by
  fun_induction pairUp values with
  | case1 => exact Or.inl ⟨[], rfl⟩
  | case2 v => exact Or.inr ⟨[], v, rfl⟩
  | case3 a b rest ih =>
    cases ih with
    | inl h =>
      obtain ⟨pairs, hrest⟩ := h
      exact Or.inl ⟨(a, b) :: pairs, by rw [hrest, halves_cons]⟩
    | inr h =>
      obtain ⟨pairs, v, hrest⟩ := h
      exact Or.inr ⟨(a, b) :: pairs, v, by rw [hrest, halves_cons]; rfl⟩

/-! ## §3. All words. -/

/-- Why words are no pairs. -/
inductive PairRefusal : List (List Char) → BadInput → Prop where
  /-- The leftmost word that is no half is `bad`. -/
  | notWord {front back : List (List Char)} {bad : List Char}
      (hfront : ∀ t ∈ front, ∃ v, IsHalf t v) (hbad : ∀ v, ¬ IsHalf bad v) :
      PairRefusal (front ++ bad :: back) (.notWord (String.ofList bad))
  /-- All words are halves, and the last one has no partner. -/
  | unpaired {front : List (List Char)} {last : List Char} {pairs : List (Int64 × Int64)} {v : Int64}
      (hfront : List.Forall₂ IsHalf front (halves pairs)) (hlast : IsHalf last v) :
      PairRefusal (front ++ [last]) (.unpaired v)

theorem halves_or_refusal (ws : List (List Char)) :
    (∃ pairs, List.Forall₂ IsHalf ws (halves pairs)) ∨ ∃ why, PairRefusal ws why := by
  rcases forall_or_first (fun t => ∃ v, IsHalf t v) ws with
    hall | ⟨front, bad, back, hws, hfront, hbad⟩
  · obtain ⟨values, hvalues⟩ := exists_forall₂ hall
    rcases halves_or_concat values with ⟨pairs, hpairs⟩ | ⟨pairs, v, hpairs⟩
    · rw [hpairs] at hvalues
      exact Or.inl ⟨pairs, hvalues⟩
    · -- The last value is that of the last word.
      rw [hpairs] at hvalues
      have hfront := List.forall₂_take_append _ _ _ hvalues
      have hlast := List.forall₂_drop_append _ _ _ hvalues
      cases hdrop : ws.drop (halves pairs).length with
      | nil =>
        rw [hdrop] at hlast
        cases hlast
      | cons last rest =>
        rw [hdrop] at hlast
        cases hlast with
        | cons hlast hrest =>
          cases hrest
          have hrefusal := PairRefusal.unpaired hfront hlast
          rw [← hdrop, List.take_append_drop] at hrefusal
          exact Or.inr ⟨_, hrefusal⟩
  · rw [hws]
    exact Or.inr ⟨_, .notWord hfront fun v hv => hbad ⟨v, hv⟩⟩

section

variable {text : String} {ws : List (List Char)}

/-- Words that are all halves are read as what their values pair up to. -/
theorem readPairs_of_forall₂ (hws : Splits text.toList ws) {values : List Int64}
    (h : List.Forall₂ IsHalf ws values) : readPairs text = pairUp values := by
  have hread : ws.mapM readWord = .ok values :=
    mapM_eq_ok_iff.mpr (h.imp fun _ _ => readWord_of_isHalf)
  unfold readPairs
  rw [Text.words_eq_iff.mpr hws, hread]
  rfl

theorem readPairs_of_refusal (hws : Splits text.toList ws) {why : BadInput}
    (h : PairRefusal ws why) : readPairs text = .error (.invalidInput why) := by
  cases h with
  | @notWord front back bad hfront hbad =>
    have hfront' : ∀ t ∈ front, ∃ v, readWord t = .ok v := by
      intro t ht
      exact (hfront t ht).imp fun _ => readWord_of_isHalf
    unfold readPairs
    rw [Text.words_eq_iff.mpr hws, mapM_of_first_error hfront' (readWord_of_not_isHalf hbad)]
    rfl
  | unpaired hfront hlast =>
    rw [readPairs_of_forall₂ hws (List.rel_append hfront (.cons hlast .nil)),
      pairUp_halves_concat]

/-- **Pairs are read from the texts of their halves and from no other**, and any other text is
refused. -/
theorem readPairs_iff (hws : Splits text.toList ws) :
    (∀ pairs, readPairs text = .ok pairs ↔ List.Forall₂ IsHalf ws (halves pairs)) ∧
      ∀ f, readPairs text = .error f ↔ ∃ why, PairRefusal ws why ∧ f = .invalidInput why := by
  refine result_iff ?_ ?_ ?_
  · intro pairs h
    rw [readPairs_of_forall₂ hws h, pairUp_halves]
  · intro f ⟨why, h, hf⟩
    rw [hf]
    exact readPairs_of_refusal hws h
  · refine (halves_or_refusal ws).imp_right ?_
    intro ⟨why, h⟩
    exact ⟨_, why, h, rfl⟩

/-- **The pairs of two texts with blanks between them** are the pairs of the one and of the other. -/
theorem readPairs_append {blanks text' : String} {pairs pairs' : List (Int64 × Int64)}
    (hne : blanks ≠ "") (hblank : ∀ c ∈ blanks.toList, Text.isBlank c = true)
    (h : readPairs text = .ok pairs) (h' : readPairs text' = .ok pairs') :
    readPairs (text ++ blanks ++ text') = .ok (pairs ++ pairs') := by
  have hne' : blanks.toList ≠ [] := by simpa using hne
  have hws : Splits (text ++ blanks ++ text').toList
      (Text.words text.toList ++ Text.words text'.toList) := by
    rw [← Text.words_eq_iff, String.toList_append, String.toList_append,
      Text.words_append hne' hblank]
  rw [(readPairs_iff (Text.splits_words _)).1] at h h'
  rw [(readPairs_iff hws).1, halves_append]
  exact List.rel_append h h'

end

/-- Words are the halves of pairs just if they are halves and even in number. -/
theorem exists_halves_iff (ws : List (List Char)) :
    (∃ pairs, List.Forall₂ IsHalf ws (halves pairs)) ↔
      ws.length % 2 = 0 ∧ ∀ t ∈ ws, ∃ v, IsHalf t v := by
  constructor
  · intro ⟨pairs, h⟩
    have hlength := h.length_eq
    rw [length_halves] at hlength
    exact ⟨by omega, exists_of_forall₂ h⟩
  · intro ⟨heven, hall⟩
    obtain ⟨values, hvalues⟩ := exists_forall₂ hall
    rcases halves_or_concat values with ⟨pairs, hpairs⟩ | ⟨pairs, v, hpairs⟩
    · rw [hpairs] at hvalues
      exact ⟨pairs, hvalues⟩
    · have hlength := hvalues.length_eq
      rw [hpairs, List.length_append, length_halves, List.length_singleton] at hlength
      omega

/-! ## §4. The grammar. -/

/-- Pairs are read from the words that show their halves. -/
theorem forall₂_isHalf_toString (values : List Int64) :
    List.Forall₂ IsHalf ((values.map toString).map String.toList) values := by
  rw [List.map_map, List.forall₂_map_left_iff, List.forall₂_same]
  intro v _
  exact Text.isInteger_toString v.toInt

theorem isWord_toString_int64 (values : List Int64) :
    ∀ w ∈ values.map toString, IsWord w.toList := by
  intro w hw
  obtain ⟨v, -, hv⟩ := List.mem_map.mp hw
  rw [← hv]
  exact Text.isWord_toString_int v.toInt

theorem quotes_notWord :
    Text.Quotes '"' id "" " is not a 64-bit integer" fun t => (BadInput.notWord t).text := by
  refine Text.quotes_of_eq (Or.inl rfl) ?_
  intro t
  rw [String.empty_append]
  rfl

/-- **Which texts are read as pairs, and why the others are not.** Every text splits into words in one
way. It is read just if its words are even in number and each is the numeral of a 64-bit integer, with
any sign or none; what is read are the pairs whose halves these are, in order. Otherwise the leftmost
word that is no such numeral is quoted, wherever it stands and however many words there are: it stands
between quotation marks, as it is if its characters are plain, and can be told from what is shown. If
there is none, the value of the last word is told, which has no partner. Pairs that are shown, with any blanks
between their halves, are read back; and the pairs of two texts with blanks between them are those of
the one and then those of the other. -/
theorem readPairs_grammar :
    -- the words of a text
    (∀ text : String, ∃! ws, Splits text.toList ws) ∧
    (∀ (text : String) (ws : List (List Char)), Splits text.toList ws →
      -- a text that is read
      ((∃ pairs, readPairs text = .ok pairs) ↔
        ws.length % 2 = 0 ∧ ∀ t ∈ ws, ∃ v, IsHalf t v) ∧
      (∀ pairs, readPairs text = .ok pairs ↔ List.Forall₂ IsHalf ws (halves pairs)) ∧
      -- a text that is refused
      ∀ f, readPairs text = .error f ↔ ∃ why, PairRefusal ws why ∧ f = .invalidInput why) ∧
    -- the wording
    Text.Quotes '"' id "" " is not a 64-bit integer" (fun t => (BadInput.notWord t).text) ∧
    (∀ v, (BadInput.unpaired v).text = "unpaired trailing value " ++ toString v) ∧
    -- pairs that are shown
    (∀ (pairs : List (Int64 × Int64)) (gaps : List String) (v : String),
      Gaps gaps → gaps.length = 2 * pairs.length → Blanks v.toList →
      readPairs (spaced gaps ((halves pairs).map toString) ++ v) = .ok pairs) ∧
    -- two texts
    ∀ (text blanks text' : String) (pairs pairs' : List (Int64 × Int64)),
      readPairs text = .ok pairs → readPairs text' = .ok pairs' → blanks ≠ "" →
      Blanks blanks.toList → readPairs (text ++ blanks ++ text') = .ok (pairs ++ pairs') := by
  refine ⟨fun text => Text.exists_unique_splits text.toList, ?_, quotes_notWord, fun _ => rfl, ?_, ?_⟩
  · intro text ws hws
    obtain ⟨hread, hrefused⟩ := readPairs_iff hws
    refine ⟨?_, hread, hrefused⟩
    simp only [hread]
    exact exists_halves_iff ws
  · intro pairs gaps v hgaps hlength hv
    have hlength' : gaps.length = ((halves pairs).map toString).length := by
      rw [List.length_map, length_halves]
      exact hlength
    have hws := Text.splits_spaced hgaps hlength' (isWord_toString_int64 _) hv
    exact ((readPairs_iff hws).1 pairs).mpr (forall₂_isHalf_toString _)
  · intro text blanks text' pairs pairs' h h' hne hblanks
    exact readPairs_append hne hblanks h h'

/-- Two pairs with signs and zeros in front; a word that is none before one that is left over, and one with
a quotation mark and a combining mark, as they are quoted; the least word left over; and pairs shown,
alone and behind others. -/
theorem readPairs_grammar_twoPairs :
    let least := Int64.minValue
    let text := "\u2003007 -2\t+3\n-0 "
    readPairs text = .ok [(7, -2), (3, 0)] ∧
      readPairs "1 x 3" = .error (.invalidInput (.notWord "x")) ∧
      (Fault.invalidInput (.notWord "x")).message = "Invalid input: \"x\" is not a 64-bit integer" ∧
      (BadInput.notWord "5\"\u0301").text = "\"5\\\"\\u\x7b301\x7d\" is not a 64-bit integer" ∧
      readPairs "1 2 -9223372036854775808" = .error (.invalidInput (.unpaired least)) ∧
      (BadInput.unpaired least).text = "unpaired trailing value -9223372036854775808" ∧
      readPairs (spaced ["", "\n"] ["-9223372036854775808", "5"] ++ "") = .ok [(least, 5)] ∧
      readPairs (text ++ "\u3000" ++ "-9223372036854775808\n5") =
        .ok [(7, -2), (3, 0), (least, 5)] := by
  intro least text
  obtain ⟨-, hgrammar, hnotWord, hunpaired, hshown, htwo⟩ := readPairs_grammar
  have hsplits : Splits text.toList
      [['0', '0', '7'], ['-', '2'], ['+', '3'], ['-', '0']] := by decide +kernel
  have hfour : List.Forall₂ IsHalf [['0', '0', '7'], ['-', '2'], ['+', '3'], ['-', '0']]
      (halves [(7, -2), (3, 0)]) :=
    .cons (by decide +kernel) (.cons (by decide +kernel) (.cons (by decide +kernel)
      (.cons (by decide +kernel) .nil)))
  have hx : Splits "1 x 3".toList ([['1']] ++ ['x'] :: [['3']]) := by decide +kernel
  have hone : ∀ t ∈ [['1']], ∃ v, IsHalf t v :=
    List.forall_mem_singleton.mpr ⟨1, by decide +kernel⟩
  have hnone : ∀ v, ¬ IsHalf ['x'] v := by
    intro v hv
    have hread : Text.readInt? ['x'] = some v.toInt := Text.readInt?_eq_some_iff.mpr hv
    cases hread
  have hthree : Splits "1 2 -9223372036854775808".toList
      ([['1'], ['2']] ++ ["-9223372036854775808".toList]) := by decide +kernel
  have htwoHalves : List.Forall₂ IsHalf [['1'], ['2']] (halves [(1, 2)]) :=
    .cons (by decide +kernel) (.cons (by decide +kernel) .nil)
  have hlast : IsHalf "-9223372036854775808".toList least := by decide +kernel
  have hread := ((hgrammar _ _ hsplits).2.1 _).mpr hfour
  have hread' : readPairs "-9223372036854775808\n5" = .ok [(least, 5)] := by decide +kernel
  refine ⟨hread, ?_, ?_, ?_, ?_, hunpaired least, ?_, ?_⟩
  · exact ((hgrammar _ _ hx).2.2 _).mpr ⟨_, .notWord hone hnone, rfl⟩
  · have hquoted := hnotWord.plain "x" (by decide +kernel)
    exact (congrArg ("Invalid input: " ++ ·) hquoted).trans (by decide +kernel)
  · decide +kernel
  · exact ((hgrammar _ _ hthree).2.2 _).mpr ⟨_, .unpaired htwoHalves hlast, rfl⟩
  · have hwords : (halves [(least, 5)]).map toString = ["-9223372036854775808", "5"] := by
      decide +kernel
    rw [← hwords]
    exact hshown [(least, 5)] ["", "\n"] "" (by decide +kernel) rfl (by decide +kernel)
  · exact htwo _ "\u3000" _ _ _ hread hread' (by decide) (by decide +kernel)

end Repunits.Exercise
