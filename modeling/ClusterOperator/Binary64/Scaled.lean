import ClusterOperator.Binary64

/-!
# Scaling a significand step by step

A decimal can be turned into a double in three steps, each of which rounds: the
significand to the nearest double, the power of ten to the nearest double, and the
product or the quotient of the two once more.  This is quick and mostly, but not
always, the nearest double to the decimal itself.

A power that no double holds is divided out in parts of `10 ^ 308`, until it is used
up or nothing is left to divide; nothing but zero can be multiplied by such a power.
-/

namespace ClusterOperator.Binary64

/-- The magnitude of a finite double as numerator and denominator. -/
def ratio (x : Binary64) : Nat × Nat :=
  (x.significand * Nat.pow 2 x.exponent.toNat, Nat.pow 2 (-x.exponent).toNat)

/-- Whether a double is a zero, of either sign. -/
def isZero (x : Binary64) : Bool := decide (x.bits % Nat.pow 2 63 = 0)

/-- The greatest power of ten that a double holds. -/
def greatestPower : Nat := 308

/-- The nearest double to `10 ^ n`, where `n` is not beyond the greatest power. -/
def powerOfTen (n : Nat) : Binary64 := (ofDecimal? false 1 n).getD default

/-- The magnitude of `x * y`; none if that is beyond the largest double. -/
def times? (x y : Binary64) : Option Binary64 :=
  ofRatio? false (x.ratio.1 * y.ratio.1) (x.ratio.2 * y.ratio.2)

/-- The magnitude of `x / y`; none if that is beyond the largest double. -/
def over? (x y : Binary64) : Option Binary64 :=
  ofRatio? false (x.ratio.1 * y.ratio.2) (x.ratio.2 * y.ratio.1)

/-- The double multiplied by a power of ten. -/
def scaleUp? (x : Binary64) (n : Nat) : Option Binary64 :=
  if n ≤ greatestPower then x.times? (powerOfTen n)
  else if x.isZero then some x
  else none

/-- The double divided by the greatest power again and again, until nothing is left. -/
def divideOut? : (times : Nat) → Binary64 → Option Binary64
  | 0, x => some x
  | times + 1, x =>
    if x.isZero then some x
    else (x.over? (powerOfTen greatestPower)).bind (divideOut? times)

/-- The double divided by a power of ten. -/
def scaleDown? (x : Binary64) (n : Nat) : Option Binary64 :=
  let times := (n - 1) / greatestPower
  (divideOut? times x).bind fun x => x.over? (powerOfTen (n - times * greatestPower))

/-- The double of a sign and a magnitude. -/
def withSign (negative : Bool) (x : Binary64) : Binary64 :=
  if negative then ⟨Nat.pow 2 63 + x.bits⟩ else x

/-- The double of `significand * 10 ^ scale`, step by step; none if a step leaves the
doubles. -/
def ofScaled? (negative : Bool) (significand : Nat) (scale : Int) : Option Binary64 := do
  let x ← ofRatio? false significand 1
  let y ← if 0 ≤ scale then x.scaleUp? scale.toNat else x.scaleDown? (-scale).toNat
  return y.withSign negative

end ClusterOperator.Binary64
