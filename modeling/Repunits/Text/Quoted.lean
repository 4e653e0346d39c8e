/-
  Repunits.Text.Quoted
  ────────────────────────────────
  **Text between quotation marks, as error messages show it.**

  A string stands between double quotes and a character between single
  ones. The quote in use and the backslash get a backslash; tab, newline,
  carriage return and NUL have their one-letter forms; any other hidden
  character is written `\u{hex}`, in lower case and without padding; the
  rest stands as it is.
-/
import Repunits.Text.Hidden

namespace Repunits.Text

/-- How one character is written between `quote` marks. -/
def escaped (quote c : Char) : List Char :=
  if c = '\t' then ['\\', 't']
  else if c = '\n' then ['\\', 'n']
  else if c = '\r' then ['\\', 'r']
  else if c = Char.ofNat 0 then ['\\', '0']
  else if c = quote ∨ c = '\\' then ['\\', c]
  else if isHidden c then ['\\', 'u', '{'] ++ Nat.toDigits 16 c.toNat ++ ['}']
  else [c]

/-- A text between `quote` marks. -/
def quotedWith (quote : Char) (cs : List Char) : List Char :=
  quote :: (cs.flatMap (escaped quote) ++ [quote])

/-- A string between double quotes. -/
def quoted (s : String) : String := String.ofList (quotedWith '"' s.toList)

/-- A character between single quotes. -/
def quotedChar (c : Char) : String := String.ofList (quotedWith (Char.ofNat 0x27) [c])

end Repunits.Text
