/-
  Repunits.Program.Buffer
  ────────────────────────────────
  **Output that waits to be printed.**

  A program collects short texts and prints them together. A text waits
  as long as there is room for it beside those that wait already; where
  there is none, these are printed first. A text that would fill the whole
  buffer is printed at once. What still waits is printed by a flush, and
  by nothing else.
-/

namespace Repunits.Program

/-- What was printed, and what waits to be printed after it. Like the room of a sink, that of a buffer
is counted in characters. -/
structure Buffer where
  capacity : Nat
  printed : String
  waiting : String
  fits : waiting.length ≤ capacity

namespace Buffer

/-- An empty buffer. -/
def ofCapacity (capacity : Nat) : Buffer :=
  { capacity, printed := "", waiting := "", fits := Nat.zero_le capacity }

/-- How many more characters can wait. -/
def room (b : Buffer) : Nat := b.capacity - b.waiting.length

/-- Prints what waits. -/
def flush (b : Buffer) : Buffer :=
  { b with printed := b.printed ++ b.waiting, waiting := "", fits := Nat.zero_le b.capacity }

/-- Prints what waits if there is no room for a text beside it. -/
def makeRoom (b : Buffer) (text : String) : Buffer :=
  if b.room < text.length then b.flush else b

/-- A text that does not fill the buffer can wait once room is made for it. -/
theorem length_le_capacity_makeRoom (b : Buffer) (text : String)
    (h : ¬ b.capacity ≤ text.length) :
    ((b.makeRoom text).waiting ++ text).length ≤ (b.makeRoom text).capacity := by
  have hfits := b.fits
  unfold makeRoom room
  split
  · rw [flush, String.empty_append]
    exact Nat.le_of_not_le h
  · rw [String.length_append]
    omega

/-- Writes a text. -/
def write (b : Buffer) (text : String) : Buffer :=
  let ready := b.makeRoom text
  if h : b.capacity ≤ text.length then { ready with printed := ready.printed ++ text }
  else
    { ready with
      waiting := ready.waiting ++ text
      fits := b.length_le_capacity_makeRoom text h }

end Buffer

end Repunits.Program
