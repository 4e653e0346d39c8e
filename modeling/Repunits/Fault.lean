/-
  Repunits.Fault
  ────────────────────────────────
  **What can go wrong in the arithmetic, by cause.**

  A `Fault` names its cause with the values that caused it. The wording
  stands in one place, `Fault.message`; `Fault.inspect` shows the fault
  with its kind and fields, as a debugging aid.
-/
import Repunits.Text.Quoted

namespace Repunits

/-! ## §1. Causes. -/

/-- Why a text or a number is refused. -/
inductive BadInput where
  /-- A number was expected and the text is blank. -/
  | emptyNumber
  /-- A decimal number holds this character. -/
  | notDigit (c : Char)
  /-- A repunit of length zero was asked for. -/
  | zeroLength
  /-- Zero divides nothing but itself. -/
  | zeroDivisor
  /-- The list of divisors does not begin with their number. -/
  | noCount
  /-- The number of divisors is not a word-sized natural number. -/
  | badCount (token : String)
  /-- A divisor is not an integer of 128 bits. -/
  | notInteger (token : String)
  /-- A divisor is zero or negative. -/
  | notPositive (value : Int)
  /-- A divisor does not fit in a word. -/
  | tooLarge (value : Int)
  /-- Fewer divisors follow than were announced. -/
  | tooFew (expected found : Nat)
  /-- One half of a pair is not a 64-bit integer. -/
  | notWord (token : String)
  /-- The last value has no partner. -/
  | unpaired (value : Int64)
  /-- Any other reason, in words. -/
  | other (text : String)
deriving DecidableEq

/-- The four operations of the pair exercise. -/
inductive Operation where
  | sum | product | difference | quotient
deriving DecidableEq

/-- The sign of an operation. -/
def Operation.sign : Operation → String
  | .sum => "+"
  | .product => "*"
  | .difference => "-"
  | .quotient => "/"

/-- Which result leaves the 64-bit range. -/
inductive Excess where
  | result (op : Operation) (a b : Int64)
  /-- Any other overflow, in words. -/
  | other (text : String)
deriving DecidableEq

/-- A failure of the arithmetic. -/
inductive Fault where
  | invalidInput (why : BadInput)
  | divisionByZero
  /-- The divisor is a multiple of 2 or 5, and a repunit is of neither. -/
  | notCoprime (divisor : UInt64)
  | overflow (excess : Excess)
  /-- No repunit up to the length limit is a multiple of the divisor. -/
  | limitExceeded (divisor : UInt64) (limit : Nat)
deriving DecidableEq

/-! ## §2. Wording. -/

/-- The reason in words. -/
def BadInput.text : BadInput → String
  | .emptyNumber => "empty number"
  | .notDigit c => s!"{Text.quotedChar c} is not a decimal digit"
  | .zeroLength => "repunit length must be at least 1"
  | .zeroDivisor => "divisor must be positive"
  | .noCount => "missing divisor count"
  | .badCount token => s!"invalid divisor count {Text.quoted token}"
  | .notInteger token => s!"{Text.quoted token} is not an integer"
  | .notPositive value => s!"divisor must be positive, got {value}"
  | .tooLarge value => s!"divisor {value} does not fit in 64 bits"
  | .tooFew expected found => s!"expected {expected} divisors, found {found}"
  | .notWord token => s!"{Text.quoted token} is not a 64-bit integer"
  | .unpaired value => s!"unpaired trailing value {value}"
  | .other text => text

/-- The operation that overflowed, in words. -/
def Excess.text : Excess → String
  | .result op a b => s!"{a} {op.sign} {b}"
  | .other text => text

/-- What a user is told. -/
def Fault.message : Fault → String
  | .invalidInput why => "Invalid input: " ++ why.text
  | .divisionByZero => "Division by zero"
  | .notCoprime divisor =>
    s!"Divisor {divisor} shares a factor with 10, so no repunit is divisible by it"
  | .overflow excess => "Arithmetic overflow: " ++ excess.text
  | .limitExceeded divisor limit =>
    s!"No repunit of length <= {limit} is divisible by {divisor}"

/-- The fault with its kind and fields. -/
def Fault.inspect : Fault → String
  | .invalidInput why => s!"InvalidInput({Text.quoted why.text})"
  | .divisionByZero => "DivisionByZero"
  | .notCoprime divisor => s!"DivisorNotCoprimeWithBase \x7b divisor: {divisor} \x7d"
  | .overflow excess => s!"ArithmeticOverflow({Text.quoted excess.text})"
  | .limitExceeded divisor limit =>
    s!"SearchLimitExceeded \x7b divisor: {divisor}, limit: {limit} \x7d"

end Repunits
