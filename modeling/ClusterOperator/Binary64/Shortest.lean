import ClusterOperator.Binary64

/-!
# The shortest decimal that reads back

Of the decimals that round to a given double, the shortest one is wanted, and of
those with the fewest digits the nearest; if two are equally near, a rule for ties
decides.  All reals that round to the double form
an interval around it, which contains its ends if and only if the significand is
even.  A grid of decimals with a fixed number of digits has a point in the interval
if and only if one of the double's two neighbours on that grid is in it, so it
suffices to look at these two, for one digit, two digits, and so on to seventeen.
-/

namespace ClusterOperator.Binary64

/-- Which of two equally near decimals is taken. -/
inductive Tie where
  /-- The one whose last digit is even. -/
  | even
  /-- The greater one. -/
  | up
  deriving DecidableEq, Repr, Inhabited

/-- A decimal `digits * 10 ^ scale`. -/
structure Decimal where
  digits : Nat
  scale : Int
  deriving DecidableEq, Repr, Inhabited

/-- The interval of reals that round to a double, all three as numerators over one
denominator. -/
structure Interval where
  low : Nat
  mid : Nat
  high : Nat
  den : Nat
  closed : Bool

/-- The interval of a finite double.  Below a power of two the doubles lie twice as
close. -/
def interval (x : Binary64) : Interval :=
  let m := x.significand
  let e := x.exponent - 2
  let scale := Nat.pow 2 e.toNat
  let below := if m = Nat.pow 2 52 ∧ x.exponent ≠ -1074 then 1 else 2
  { low := (4 * m - below) * scale, mid := 4 * m * scale, high := (4 * m + 2) * scale,
    den := Nat.pow 2 (-e).toNat, closed := m % 2 = 0 }

/-- Whether `num / den` lies in the interval. -/
def Interval.holds (i : Interval) (num den : Nat) : Bool :=
  if i.closed then
    decide (i.low * den ≤ num * i.den) && decide (num * i.den ≤ i.high * den)
  else
    decide (i.low * den < num * i.den) && decide (num * i.den < i.high * den)

/-- The power of ten of the leading digit of `num / den`. -/
def leadingPower (num den : Nat) : Int :=
  if den ≤ num then (decimalWidth (num / den) : Int) - 1
  else
    let inverse := den / num
    -- one of two neighbours: `den / num` loses what is after its point
    let p : Int := -(decimalWidth inverse : Int)
    if Nat.pow 10 (-p - 1).toNat * num ≥ den then p + 1 else p

/-- `d * 10 ^ scale` as numerator and denominator. -/
def Decimal.ratio (d : Decimal) : Nat × Nat :=
  (d.digits * Nat.pow 10 d.scale.toNat, Nat.pow 10 (-d.scale).toNat)

/-- `num / den` to the nearest natural number. -/
def roundHalf (tie : Tie) (num den : Nat) : Nat :=
  match tie with
  | .even => roundHalfEven num den
  | .up => (2 * num + den) / (2 * den)

/-- The neighbour of the double on the grid of multiples of `10 ^ scale` that lies in
the interval, the nearer one if both do. -/
def onGrid? (tie : Tie) (i : Interval) (scale : Int) : Option Decimal :=
  let num := i.mid * Nat.pow 10 (-scale).toNat
  let den := i.den * Nat.pow 10 scale.toNat
  let down : Decimal := ⟨num / den, scale⟩
  let up : Decimal := ⟨num / den + 1, scale⟩
  let fits (d : Decimal) : Bool := i.holds d.ratio.1 d.ratio.2
  match fits down, fits up with
  | false, false => none
  | true, false => some down
  | false, true => some up
  | true, true => some ⟨roundHalf tie num den, scale⟩

/-- The first grid from `scale` downwards that holds a decimal of the interval. -/
def firstGrid (tie : Tie) (i : Interval) : (tries : Nat) → (scale : Int) → Decimal
  | 0, scale => ⟨i.mid * Nat.pow 10 (-scale).toNat / (i.den * Nat.pow 10 scale.toNat), scale⟩
  | tries + 1, scale =>
    match onGrid? tie i scale with
    | some d => d
    | none => firstGrid tie i tries (scale - 1)

/-- Drops trailing zeros of the digits. -/
def Decimal.strip : (tries : Nat) → Decimal → Decimal
  | 0, d => d
  | tries + 1, d =>
    if d.digits ≠ 0 ∧ d.digits % 10 = 0 then strip tries ⟨d.digits / 10, d.scale + 1⟩ else d

/-- The shortest decimal that rounds to the magnitude of a finite double. -/
def shortest (tie : Tie) (x : Binary64) : Decimal :=
  if x.significand = 0 then ⟨0, 0⟩
  else
    let i := x.interval
    (firstGrid tie i 18 (leadingPower i.mid i.den)).strip 20

end ClusterOperator.Binary64
