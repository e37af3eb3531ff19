import ClusterOperator.Binary64.Shortest

/-!
# Writing a double

A double is written with its shortest digits.  If the power of ten of the leading
digit lies in a window the digits are written out around a point, with at least one
digit on each side of it; otherwise one digit stands before the point and the power
follows.  The window and the sign of a positive power belong to the place where the
number is written, as does the choice between equally near digits.
-/

namespace ClusterOperator.Binary64

/-- How numbers are written in one place. -/
structure Style where
  /-- The least power of ten of a leading digit that is still written out. -/
  least : Int
  /-- The greatest one. -/
  greatest : Int
  /-- Whether a power that is not negative is written with a plus sign. -/
  plus : Bool
  /-- Which digits are taken when two choices are equally near. -/
  tie : Tie

/-- Digits around a point: `0.0d…d`, `d…d.d…d` or `d…d0….0`. -/
def writtenOut (digits : List Char) (power : Int) : List Char :=
  if power < 0 then
    ['0', '.'] ++ List.replicate (-power - 1).toNat '0' ++ digits
  else
    let whole := power.toNat + 1
    let tail := digits.drop whole
    digits.take whole ++ List.replicate (whole - digits.length) '0' ++ ['.'] ++
      (if tail.isEmpty then ['0'] else tail)

/-- One digit, the others after a point if there are any, and the power of ten. -/
def withPower (plus : Bool) (digits : List Char) (power : Int) : List Char :=
  let tail := digits.drop 1
  digits.take 1 ++ (if tail.isEmpty then [] else '.' :: tail) ++ ['e'] ++
    (if power < 0 then ['-'] else if plus then ['+'] else []) ++ Nat.toDigits 10 power.natAbs

/-- The magnitude of a finite double. -/
def magnitudeChars (style : Style) (x : Binary64) : List Char :=
  let d := x.shortest style.tie
  let digits := Nat.toDigits 10 d.digits
  let power : Int := d.scale + digits.length - 1
  if style.least ≤ power ∧ power ≤ style.greatest then writtenOut digits power
  else withPower style.plus digits power

/-- A double in the given style. -/
def chars (style : Style) (x : Binary64) : List Char :=
  if x.isNaN then "NaN".toList
  else
    (if x.isNegative then ['-'] else []) ++
      (if x.isFinite then magnitudeChars style x else "inf".toList)

end ClusterOperator.Binary64
