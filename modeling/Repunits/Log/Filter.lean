/-
  Repunits.Log.Filter
  ────────────────────────────────
  **Which events are logged.**

  A filter is a list of directives. A directive holds for every target
  that begins with its own, and admits events up to its level. Of the
  directives that hold for a target the one with the longest target
  decides, the last one of several for the same; where none holds,
  nothing is logged. A filter is read from a text with directives between
  commas, each a level, a target, or `target=level`. `Filter.ofText?` is
  strict about them; `Filter.ofTextLossy` leaves out those that it cannot
  read.
-/
import Repunits.Log.Event
import Repunits.Text.Alphanumeric
import Repunits.Text.Blank
import Repunits.Text.Integer

namespace Repunits.Log

/-! ## §1. Filters. -/

/-- Targets that begin with `target` are logged up to `rank`; rank zero logs nothing. -/
structure Directive where
  target : List Char
  rank : Nat
deriving DecidableEq

/-- Does the directive hold for this target? -/
def Directive.covers (d : Directive) (target : List Char) : Bool := d.target.isPrefixOf target

/-- The directives of a filter, in the order given. -/
structure Filter where
  directives : List Directive
deriving DecidableEq

namespace Filter

/-- Logs every target up to one level. -/
def upTo (level : Level) : Filter := ⟨[⟨[], level.rank⟩]⟩

/-- Of two directives that hold, the one to follow: the later one, unless its target is shorter. -/
def prefer (best : Option Directive) (d : Directive) : Option Directive :=
  match best with
  | none => some d
  | some b => if d.target.length < b.target.length then some b else some d

/-- The directive that decides about a target. -/
def decisive? (f : Filter) (target : List Char) : Option Directive :=
  (f.directives.filter (·.covers target)).foldl prefer none

/-- What the filter logs. -/
def admits (f : Filter) : Admits := fun level target =>
  match f.decisive? target.toList with
  | none => false
  | some d => level.rank ≤ d.rank

end Filter

/-! ## §2. Reading a filter. -/

/-- An upper-case ASCII letter in lower case; any other character as it is. -/
def lowered (cs : List Char) : List Char := cs.map Char.toLower

/-- The rank that a text stands for: a level by name, in any case, or by number, or `off`. -/
def readRank? (cs : List Char) : Option Nat :=
  match Text.readBelow? 6 cs with
  | some n => some n
  | none =>
    if lowered cs = "off".toList then some 0
    else (Level.all.find? fun l => l.name.toList = lowered cs).map Level.rank

/-- May a target begin with this character? -/
def beginsTarget (c : Char) : Bool :=
  Text.isAlphanumeric c || c = '-' || c = ':' || c = '_'

/-- One directive. A target without a level is logged in full. -/
def readDirective? (cs : List Char) : Option Directive :=
  if !(cs.head?.any beginsTarget) then none
  else
    match cs.dropWhile (· ≠ '=') with
    | [] =>
      match readRank? cs with
      | some rank => some ⟨[], rank⟩
      | none => some ⟨cs, Level.trace.rank⟩
    | _ :: [] => some ⟨cs.takeWhile (· ≠ '='), Level.trace.rank⟩
    | _ :: level => (readRank? level).map fun rank => ⟨cs.takeWhile (· ≠ '='), rank⟩

/-- The parts of a text between commas. -/
def commaParts (cs : List Char) : List (List Char) :=
  let (part, later) := cs.foldr
    (fun c (acc : List Char × List (List Char)) =>
      if c = ',' then ([], acc.1 :: acc.2) else (c :: acc.1, acc.2)) ([], [])
  part :: later

/-- The directives in a text, yet to be read. Blank parts count for nothing. -/
def directiveTexts (text : String) : List (List Char) :=
  ((commaParts text.toList).map Text.trim).filter (!·.isEmpty)

namespace Filter

/-- The filter of some directives; where there are none it logs errors only. -/
def ofDirectives : List Directive → Filter
  | [] => .upTo .error
  | ds => ⟨ds⟩

/-- Reads a filter. There is none if a directive cannot be read. -/
def ofText? (text : String) : Option Filter :=
  ((directiveTexts text).mapM readDirective?).map ofDirectives

/-- Reads a filter, without the directives that cannot be read. -/
def ofTextLossy (text : String) : Filter :=
  ofDirectives ((directiveTexts text).filterMap readDirective?)

end Filter

end Repunits.Log
