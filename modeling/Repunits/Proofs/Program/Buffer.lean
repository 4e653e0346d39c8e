/-
  Repunits.Proofs.Program.Buffer
  ────────────────────────────────
  **A flushed buffer has printed what was written to it.**

  What was printed and what waits after it are, taken together, all that
  was written (`Buffer.content`). A long text is printed past the buffer,
  but only when nothing waits in it, so that no text overtakes another.
  Therefore neither the size of the buffer nor the pieces in which a text
  was written can be told from the output.

  Main results:
    * `Buffer.content_write` — what a write adds.
    * `Buffer.printed_flush_writeEach` — a flush after any writes.
-/
import Repunits.Program.Buffer

namespace Repunits.Program.Buffer

/-- All that was written. -/
def content (b : Buffer) : String := b.printed ++ b.waiting

@[simp] theorem content_ofCapacity (n : Nat) : (ofCapacity n).content = "" := rfl

@[simp] theorem printed_flush (b : Buffer) : b.flush.printed = b.content := rfl

@[simp] theorem content_flush (b : Buffer) : b.flush.content = b.content := String.append_empty

@[simp] theorem content_makeRoom (b : Buffer) (text : String) :
    (b.makeRoom text).content = b.content := by
  unfold makeRoom
  split
  · exact content_flush b
  · rfl

/-- Nothing waits once room is made for a text that fills the buffer. -/
theorem waiting_makeRoom {b : Buffer} {text : String} (h : b.capacity ≤ text.length) :
    (b.makeRoom text).waiting = "" := by
  unfold makeRoom
  split
  · rfl
  · rename_i hroom
    -- A text that fills the buffer and has room in it finds it empty.
    have hfits := b.fits
    have hnone : b.waiting.length = 0 := by
      unfold room at hroom
      omega
    exact String.length_eq_zero_iff.mp hnone

/-- **A write adds its text** to the end. -/
theorem content_write (b : Buffer) (text : String) : (b.write text).content = b.content ++ text := by
  have hready := content_makeRoom b text
  unfold write
  dsimp only
  split
  · rename_i hlong
    have hnone := waiting_makeRoom hlong
    show (b.makeRoom text).printed ++ text ++ (b.makeRoom text).waiting = b.content ++ text
    rw [content, hnone, String.append_empty] at hready
    rw [hnone, String.append_empty, hready]
  · show (b.makeRoom text).printed ++ ((b.makeRoom text).waiting ++ text) = b.content ++ text
    rw [← String.append_assoc, ← hready]
    rfl

/-- Writes texts in order. -/
def writeEach (b : Buffer) (texts : List String) : Buffer := texts.foldl write b

theorem content_writeEach (b : Buffer) (texts : List String) :
    (b.writeEach texts).content = b.content ++ String.join texts := by
  induction texts generalizing b with
  | nil => exact String.append_empty.symm
  | cons text rest ih =>
    have hrest : ((b.write text).writeEach rest).content =
        (b.write text).content ++ String.join rest := ih _
    rw [content_write, String.append_assoc, ← String.join_cons] at hrest
    exact hrest

/-- **A flush after any writes** to an empty buffer has printed their texts. -/
theorem printed_flush_writeEach (n : Nat) (texts : List String) :
    ((ofCapacity n).writeEach texts).flush.printed = String.join texts := by
  rw [printed_flush, content_writeEach, content_ofCapacity, String.empty_append]

theorem printed_flush_write (n : Nat) (text : String) :
    ((ofCapacity n).write text).flush.printed = text := by
  rw [printed_flush, content_write, content_ofCapacity, String.empty_append]

/-- Three lines that fill a buffer of four characters once; the last is lost without a flush. -/
example :
    ((ofCapacity 4).writeEach ["3\n", "6\n", "2\n"]).printed = "3\n6\n" ∧
      ((ofCapacity 4).writeEach ["3\n", "6\n", "2\n"]).flush.printed = "3\n6\n2\n" := by
  decide +kernel

end Repunits.Program.Buffer
