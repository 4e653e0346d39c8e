/-
  Repunits.Proofs.Exercise.Sink
  ────────────────────────────────
  **A sink keeps the beginning of what is written to it.**

  It makes no difference in which pieces a text is written: a sink that
  has no room for all of it takes as much as there is room for, and the
  pieces after the one that did not fit are not written at all. Room is
  counted in characters; for a text of ASCII characters, as the exercises
  write them, these are its bytes.

  Main results:
    * `Sink.write_append`, `Sink.writeEach_eq` — texts written in pieces.
    * `bytes_takeChars` — the first characters of an ASCII text are its
      first bytes.
-/
import Repunits.Exercise.Sink

namespace Repunits.Exercise

/-! ## §1. Texts in pieces. -/

namespace Sink

/-- Writes texts in order, up to the first that does not fit. -/
def writeEach : Sink → List String → Except IoFault Unit × Sink
  | sink, [] => (.ok (), sink)
  | sink, text :: rest =>
    match sink.write text with
    | (.error e, sink') => (.error e, sink')
    | (.ok (), sink') => sink'.writeEach rest

theorem write_of_unbounded (written text : String) :
    write { written } text = (.ok (), { written := written ++ text }) := rfl

theorem write_of_le {n : Nat} {text : String} (h : text.length ≤ n) (written : String) :
    write { room := some n, written } text =
      (.ok (), { room := some (n - text.length), written := written ++ text }) :=
  if_pos h

theorem write_of_lt {n : Nat} {text : String} (h : n < text.length) (written : String) :
    write { room := some n, written } text =
      (.error .writeLimit,
        { room := some 0, written := written ++ String.ofList (text.toList.take n) }) :=
  if_neg (Nat.not_le_of_lt h)

@[simp] theorem write_empty (sink : Sink) : sink.write "" = (.ok (), sink) := by
  obtain ⟨room, written⟩ := sink
  cases room with
  | none => rw [write_of_unbounded, String.append_empty]
  | some n =>
    rw [write_of_le (Nat.zero_le n), String.append_empty]
    rfl

/-- **Two texts written one after the other** leave what they leave when written as one. -/
theorem write_append (sink : Sink) (s t : String) :
    sink.write (s ++ t) =
      match sink.write s with
      | (.error e, sink') => (.error e, sink')
      | (.ok (), sink') => sink'.write t := by
  obtain ⟨room, written⟩ := sink
  cases room with
  | none =>
    show (Except.ok (), Sink.mk none (written ++ (s ++ t))) = (.ok (), ⟨none, written ++ s ++ t⟩)
    rw [String.append_assoc]
  | some n =>
    have hlength : (s ++ t).length = s.length + t.length := String.length_append s t
    rcases Nat.lt_or_ge n s.length with hs | hs
    · -- The first text does not fit, and nothing of the second is written.
      rw [write_of_lt (by omega), write_of_lt hs, String.toList_append,
        List.take_append_of_le_length (by rw [String.length_toList]; omega)]
    · rw [write_of_le hs]
      dsimp only
      rcases Nat.lt_or_ge (n - s.length) t.length with ht | ht
      · have hs' : s.toList.take n = s.toList :=
          List.take_of_length_le (by rw [String.length_toList]; exact hs)
        rw [write_of_lt (by omega), write_of_lt ht, String.toList_append, List.take_append, hs',
          String.length_toList, String.ofList_append, String.ofList_toList, String.append_assoc]
      · rw [write_of_le (by omega), write_of_le ht, String.append_assoc, hlength, Nat.sub_sub]

/-- **Texts written in order** leave what they leave when written as one. -/
theorem writeEach_eq (sink : Sink) (texts : List String) :
    sink.writeEach texts = sink.write (String.join texts) := by
  induction texts generalizing sink with
  | nil =>
    rw [String.join_nil, write_empty]
    rfl
  | cons text rest ih =>
    rw [String.join_cons, write_append, writeEach]
    rcases sink.write text with ⟨e | u, sink'⟩
    · rfl
    · exact ih sink'

end Sink

/-! ## §2. Characters and bytes. -/

/-- The bytes of a text. -/
def bytes (text : String) : List UInt8 := text.toByteArray.data.toList

/-- Every character is one byte long. -/
def IsAscii (text : String) : Prop := ∀ c ∈ text.toList, c.utf8Size = 1

instance (text : String) : Decidable (IsAscii text) :=
  List.decidableBAll (fun c : Char => c.utf8Size = 1) text.toList

theorem bytes_of_isAscii {text : String} (h : IsAscii text) :
    bytes text = text.toList.map fun c => c.val.toUInt8 := by
  unfold bytes
  rw [← String.utf8Encode_toList, List.utf8Encode, List.toList_data_toByteArray]
  unfold IsAscii at h
  generalize text.toList = cs at h ⊢
  induction cs with
  | nil => rfl
  | cons c cs ih =>
    rw [List.flatMap_cons, String.utf8EncodeChar_eq_singleton (h c List.mem_cons_self),
      ih fun d hd => h d (List.mem_cons_of_mem c hd)]
    rfl

theorem length_bytes {text : String} (h : IsAscii text) : (bytes text).length = text.length := by
  rw [bytes_of_isAscii h, List.length_map, String.length_toList]

/-- **The first characters of an ASCII text are its first bytes.** -/
theorem bytes_takeChars {text : String} (h : IsAscii text) (n : Nat) :
    bytes (String.ofList (text.toList.take n)) = (bytes text).take n := by
  have htake : IsAscii (String.ofList (text.toList.take n)) := by
    intro c hc
    rw [String.toList_ofList] at hc
    exact h c (List.mem_of_mem_take hc)
  rw [bytes_of_isAscii htake, bytes_of_isAscii h, String.toList_ofList, List.map_take]

@[simp] theorem isAscii_empty : IsAscii "" := by
  intro c hc
  simp at hc

@[simp] theorem isAscii_append_iff {s t : String} :
    IsAscii (s ++ t) ↔ IsAscii s ∧ IsAscii t := by
  unfold IsAscii
  rw [String.toList_append, List.forall_mem_append]

theorem isAscii_join {texts : List String} (h : ∀ text ∈ texts, IsAscii text) :
    IsAscii (String.join texts) := by
  induction texts with
  | nil => exact isAscii_empty
  | cons text rest ih =>
    rw [String.join_cons, isAscii_append_iff]
    exact ⟨h text List.mem_cons_self, ih fun s hs => h s (List.mem_cons_of_mem text hs)⟩

theorem utf8Size_of_isDigit {c : Char} (h : c.isDigit = true) : c.utf8Size = 1 := by
  have hle : c.toNat ≤ '9'.toNat := (Char.isDigit_iff_toNat.mp h).2
  rw [Char.utf8Size_eq_one_iff, UInt32.le_iff_toNat_le]
  exact Nat.le_trans hle (by decide)

@[simp] theorem isAscii_nat (n : Nat) : IsAscii (toString n) := by
  intro c hc
  rw [Nat.toString_eq_repr, Nat.toList_repr] at hc
  exact utf8Size_of_isDigit (Nat.isDigit_of_mem_toDigits (by decide) (by decide) hc)

@[simp] theorem isAscii_int (i : Int) : IsAscii (toString i) := by
  cases i with
  | ofNat n => exact isAscii_nat n
  | negSucc n => exact isAscii_append_iff.mpr ⟨by decide +kernel, isAscii_nat (n + 1)⟩

end Repunits.Exercise
