/-!
# Decimal numerals

A numeral below 2^64 is one or more ASCII digits, and may be led by a plus sign.  Reading goes
from left to right and reports the first thing that is wrong: a character that is no digit, or
the digit at which the number grows too large.
-/

namespace Agenda
namespace Text

/-- The least number that no longer fits. -/
def numeralBound : Nat := UInt64.size

/-- What can be wrong with a numeral. -/
inductive NumeralError where
  /-- There are no characters. -/
  | empty
  /-- A character is no digit. -/
  | invalidDigit
  /-- The number is too large. -/
  | tooLarge
  deriving DecidableEq, Repr

namespace NumeralError

/-- The wording of what is wrong. -/
def message : NumeralError → String
  | empty => "cannot parse integer from empty string"
  | invalidDigit => "invalid digit found in string"
  | tooLarge => "number too large to fit in target type"

end NumeralError

/-- The value of an ASCII digit. -/
def digitValue? (char : Char) : Option Nat :=
  if char.isDigit then some (char.toNat - '0'.toNat) else none

/-- Read digits after a number that was read before them. -/
def readDigits (before : Nat) : List Char → Except NumeralError Nat
  | [] => .ok before
  | char :: rest =>
      match digitValue? char with
      | none => .error .invalidDigit
      | some value =>
          if before * 10 + value < numeralBound then readDigits (before * 10 + value) rest
          else .error .tooLarge

/-- Read a numeral. -/
def readNumeral : List Char → Except NumeralError UInt64
  | [] => .error .empty
  | ['+'] => .error .invalidDigit
  | '+' :: digits => (readDigits 0 digits).map UInt64.ofNat
  | digits => (readDigits 0 digits).map UInt64.ofNat

/-- The digits of a number. -/
def numeral (value : UInt64) : String := toString value.toNat

end Text
end Agenda
