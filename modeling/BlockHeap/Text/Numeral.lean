import BlockHeap.Fault

/-!
# Numerals

A numeral is an optional plus sign and one or more decimal digits whose value is a machine number.
It is read from the left, and the first character at which reading cannot go on decides between
the two ways to fail: a character that is no digit, or a digit that takes the value out of range.
-/

namespace BlockHeap

namespace Text

/-- Why a text is no numeral: it is empty, it has a character that is no digit, or its value is no
machine number. -/
inductive NumeralError where
  | empty
  | invalidDigit
  | tooLarge
  deriving DecidableEq, Repr

/-- The text of the error. -/
def NumeralError.message : NumeralError → String
  | empty => "cannot parse integer from empty string"
  | invalidDigit => "invalid digit found in string"
  | tooLarge => "number too large to fit in target type"

/-- Reads digits after those that came to `value`. -/
def digits (value : Nat) : List Char → Except NumeralError Nat
  | [] => .ok value
  | c :: rest =>
    if c.isDigit then
      let value := value * 10 + (c.toNat - '0'.toNat)
      if value < Checked.bound then digits value rest else .error .tooLarge
    else
      .error .invalidDigit

/-- Reads a numeral. -/
def numeral : List Char → Except NumeralError Nat
  | [] => .error .empty
  | ['+'] => .error .invalidDigit
  | '+' :: rest => digits 0 rest
  | text => digits 0 text

end Text

end BlockHeap
