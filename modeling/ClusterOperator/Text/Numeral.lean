/-!
# Decimal numerals

An unsigned numeral is an optional plus sign and one or more ASCII digits.  A
numeral is read against the largest value its reader can hold, from left to
right: the first character that is no digit or that takes the value over the
limit decides which fault is reported.
-/

namespace ClusterOperator.Text

/-- Why a text is no numeral of the wanted range. -/
inductive NumeralFault where
  | empty
  | invalidDigit
  | tooLarge
  deriving DecidableEq, Repr

/-- The wording of a fault. -/
def NumeralFault.message : NumeralFault → String
  | .empty => "cannot parse integer from empty string"
  | .invalidDigit => "invalid digit found in string"
  | .tooLarge => "number too large to fit in target type"

/-- The value of an ASCII digit. -/
def digitValue? (c : Char) : Option Nat :=
  if '0' ≤ c ∧ c ≤ '9' then some (c.toNat - '0'.toNat) else none

/-- Reads digits onto `acc`, refusing at the first character that is no digit or
that would take the value over `limit`. -/
def readDigits (limit : Nat) : Nat → List Char → Except NumeralFault Nat
  | acc, [] => .ok acc
  | acc, c :: rest =>
    match digitValue? c with
    | none => .error .invalidDigit
    | some d =>
      if acc * 10 + d ≤ limit then readDigits limit (acc * 10 + d) rest else .error .tooLarge

/-- Reads an unsigned numeral no larger than `limit`. -/
def readNumeral (limit : Nat) : List Char → Except NumeralFault Nat
  | [] => .error .empty
  | '+' :: [] => .error .invalidDigit
  | '+' :: digits => readDigits limit 0 digits
  | digits => readDigits limit 0 digits

/-- The largest value of an unsigned word of that many bits. -/
def wordLimit (bits : Nat) : Nat := Nat.pow 2 bits - 1

/-- `text` padded on the left with zeros to `width` characters. -/
def padZeros (width : Nat) (text : String) : String :=
  String.ofList (List.replicate (width - text.length) '0') ++ text

/-- The numeral of `n` with at least `width` digits. -/
def paddedNumeral (width n : Nat) : String := padZeros width (toString n)

/-- Lowercase hexadecimal digits of `n`. -/
def hexDigits (n : Nat) : String := String.ofList (Nat.toDigits 16 n)

end ClusterOperator.Text
