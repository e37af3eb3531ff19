import ClusterOperator.Binary64
import ClusterOperator.Text.Numeral

/-!
# Decimal numerals of doubles

A numeral has an optional sign, digits with a point anywhere among them or none, and
an optional power of ten; at least one digit has to be there.  It stands for the
nearest double, and for an infinity if it lies beyond the largest one.  Infinities and
NaN have names, in which case does not matter.
-/

namespace ClusterOperator.Binary64

/-- The infinity of a sign. -/
def infinity (negative : Bool) : Binary64 :=
  ⟨(if negative then Nat.pow 2 63 else 0) + 2047 * Nat.pow 2 52⟩

/-- The NaN that arithmetic gives. -/
def nan : Binary64 := ⟨2047 * Nat.pow 2 52 + Nat.pow 2 51⟩

/-- Whether a character is a decimal digit. -/
def isDigit (c : Char) : Bool := (Text.digitValue? c).isSome

/-- The value of a run of digits. -/
def valueOf (ds : List Char) : Nat :=
  ds.foldl (fun n c => n * 10 + (Text.digitValue? c).getD 0) 0

/-- A sign in front of a text, if there is one, and the text after it. -/
def splitSign : List Char → Bool × List Char
  | '-' :: s => (true, s)
  | '+' :: s => (false, s)
  | s => (false, s)

/-- The power of ten at the end of a numeral; zero if there is nothing. -/
def readPower : List Char → Option Int
  | [] => some 0
  | c :: s =>
    let (negative, ds) := splitSign s
    if c.toLower = 'e' ∧ !ds.isEmpty ∧ ds.all isDigit then
      some (if negative then -(valueOf ds : Int) else valueOf ds)
    else none

/-- The double of a numeral without its sign. -/
def readMagnitude (negative : Bool) (s : List Char) : Option Binary64 :=
  let whole := s.takeWhile isDigit
  let rest := s.drop whole.length
  let (fraction, rest) :=
    match rest with
    | '.' :: t => let ds := t.takeWhile isDigit; (ds, t.drop ds.length)
    | t => ([], t)
  if whole.isEmpty && fraction.isEmpty then none
  else
    (readPower rest).map fun power =>
      (ofDecimal? negative (valueOf (whole ++ fraction)) (power - fraction.length)).getD
        (infinity negative)

/-- The double of a text. -/
def ofText? (text : String) : Option Binary64 :=
  let (negative, s) := splitSign text.toList
  match String.ofList (s.map Char.toLower) with
  | "inf" => some (infinity negative)
  | "infinity" => some (infinity negative)
  | "nan" => some nan
  | _ => readMagnitude negative s

end ClusterOperator.Binary64
