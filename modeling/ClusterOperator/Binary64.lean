/-!
# Binary floating-point numbers as data

A double is kept as its sixty-four bits: a sign, an eleven-bit exponent field and a
fifty-two-bit fraction.  A finite double is `significand * 2 ^ exponent` up to its
sign, with a significand below `2 ^ 53` and an exponent from -1074 to 971.

`ofDecimal?` takes `digits * 10 ^ scale` to the nearest double, a tie going to the
even significand.  It works in exact natural arithmetic, and the sizes are bounded
before any power is taken, so a written exponent of a million costs nothing.
-/

namespace ClusterOperator

/-- A double, as its bits. -/
structure Binary64 where
  bits : Nat
  deriving DecidableEq, Repr, Inhabited

namespace Binary64

/-- The sign bit. -/
def isNegative (x : Binary64) : Bool := decide (Nat.pow 2 63 ≤ x.bits)

/-- The eleven exponent bits. -/
def exponentField (x : Binary64) : Nat := x.bits / Nat.pow 2 52 % Nat.pow 2 11

/-- The fifty-two fraction bits. -/
def fraction (x : Binary64) : Nat := x.bits % Nat.pow 2 52

/-- Neither an infinity nor a NaN. -/
def isFinite (x : Binary64) : Bool := decide (x.exponentField < 2047)

def isNaN (x : Binary64) : Bool := decide (x.exponentField = 2047) && decide (x.fraction ≠ 0)

/-- The factor of the power of two; the leading bit of a normal double is implied. -/
def significand (x : Binary64) : Nat :=
  if x.exponentField = 0 then x.fraction else Nat.pow 2 52 + x.fraction

/-- The power of two that the significand is scaled by. -/
def exponent (x : Binary64) : Int :=
  if x.exponentField = 0 then -1074 else (x.exponentField : Int) - 1075

/-- The double of a runtime float. -/
def ofFloat (x : Float) : Binary64 := ⟨x.toBits.toNat⟩

/-- The runtime float of a double. -/
def toFloat (x : Binary64) : Float := Float.ofBits (UInt64.ofNat x.bits)

/-- `num / den` to the nearest natural number, a half going to the even one. -/
def roundHalfEven (num den : Nat) : Nat :=
  let q := num / den
  let r := num % den
  if 2 * r < den then q
  else if den < 2 * r then q + 1
  else if q % 2 = 0 then q else q + 1

/-- `num / den` scaled by `2 ^ (-exponent)`, as numerator and denominator. -/
def scaledBy (exponent : Int) (num den : Nat) : Nat × Nat :=
  (num * Nat.pow 2 (-exponent).toNat, den * Nat.pow 2 exponent.toNat)

/-- The exponent that leaves a significand of fifty-three bits for `num / den`, or
-1074 if the value is too small for that many. -/
def chooseExponent (num den : Nat) : Int :=
  let low : Int := (Nat.log2 num : Int) - Nat.log2 den - 53
  let (n, d) := scaledBy low num den
  max (-1074) (if n < d * Nat.pow 2 53 then low else low + 1)

/-- The nearest double to `num / den`; none if that is beyond the largest one. -/
def ofRatio? (negative : Bool) (num den : Nat) : Option Binary64 :=
  let sign := if negative then Nat.pow 2 63 else 0
  if num = 0 then some ⟨sign⟩
  else
    let e := chooseExponent num den
    let (n, d) := scaledBy e num den
    let magnitude := (e + 1074).toNat * Nat.pow 2 52 + roundHalfEven n d
    if magnitude < 2047 * Nat.pow 2 52 then some ⟨sign + magnitude⟩ else none

/-- The number of decimal digits of `n`. -/
def decimalWidth (n : Nat) : Nat := (Nat.toDigits 10 n).length

/-- The nearest double to `digits * 10 ^ scale`; none if that is beyond the largest
one. -/
def ofDecimal? (negative : Bool) (digits : Nat) (scale : Int) : Option Binary64 :=
  let magnitude : Int := scale + decimalWidth digits
  if digits = 0 then ofRatio? negative 0 1
  else if 310 < magnitude then none
  else if magnitude < -400 then ofRatio? negative 0 1
  else ofRatio? negative (digits * Nat.pow 10 scale.toNat) (Nat.pow 10 (-scale).toNat)

end Binary64

end ClusterOperator
