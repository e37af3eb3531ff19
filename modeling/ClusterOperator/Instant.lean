import ClusterOperator.Text.Blank
import ClusterOperator.Text.Numeral

/-!
# Instants

An instant is a count of seconds from the start of 1970 in UTC and the nanoseconds
after it; a leap second is the second before it with a thousand million nanoseconds
or more.  Instants are written in the form of RFC 3339 with `Z`, and with as many
groups of three fraction digits as are needed, at most three.

Reading is lenient: blanks may stand around the separators, a part may have fewer
digits, a space or a small `t` may stand between date and time, and any offset below
a day is taken off.  A date that is not in the calendar is refused.
-/

namespace ClusterOperator

/-- A point in time. -/
structure Instant where
  seconds : Int
  nanos : Nat
  deriving DecidableEq, Repr, Inhabited

namespace Instant

/-- Days from the start of 1970 to a date of the Gregorian calendar, counted from
eras of four hundred years that start in March. -/
def daysOfDate (year : Int) (month day : Nat) : Int :=
  let y := if month ≤ 2 then year - 1 else year
  let era := y.fdiv 400
  let yearOfEra := y - era * 400
  let dayOfYear : Int := (153 * ((month + 9) % 12) + 2) / 5 + day - 1
  let dayOfEra := yearOfEra * 365 + yearOfEra / 4 - yearOfEra / 100 + dayOfYear
  era * 146097 + dayOfEra - 719468

/-- The date of a count of days from the start of 1970. -/
def dateOfDays (days : Int) : Int × Nat × Nat :=
  let z := days + 719468
  let era := z.fdiv 146097
  let dayOfEra := (z - era * 146097).toNat
  let yearOfEra := (dayOfEra - dayOfEra / 1460 + dayOfEra / 36524 - dayOfEra / 146096) / 365
  let dayOfYear := dayOfEra - (365 * yearOfEra + yearOfEra / 4 - yearOfEra / 100)
  let mp := (5 * dayOfYear + 2) / 153
  let day := dayOfYear - (153 * mp + 2) / 5 + 1
  let month := if mp < 10 then mp + 3 else mp - 9
  let year : Int := (yearOfEra : Int) + era * 400
  (if month ≤ 2 then year + 1 else year, month, day)

def isLeapYear (year : Int) : Bool :=
  decide (year % 4 = 0) && (decide (year % 100 ≠ 0) || decide (year % 400 = 0))

/-- How many days a month has; none if there is no such month. -/
def daysInMonth (year : Int) (month : Nat) : Nat :=
  if month = 2 then (if isLeapYear year then 29 else 28)
  else if month = 4 ∨ month = 6 ∨ month = 9 ∨ month = 11 then 30
  else if 1 ≤ month ∧ month ≤ 12 then 31 else 0

/-- A year in four digits, or with a sign and at least four if it has more. -/
def yearText (year : Int) : String :=
  if 0 ≤ year ∧ year ≤ 9999 then Text.paddedNumeral 4 year.toNat
  else (if year < 0 then "-" else "+") ++ Text.paddedNumeral 4 year.natAbs

/-- The fraction of a second in the fewest groups of three digits. -/
def fractionText (nanos : Nat) : String :=
  if nanos = 0 then ""
  else if nanos % 1000000 = 0 then "." ++ Text.paddedNumeral 3 (nanos / 1000000)
  else if nanos % 1000 = 0 then "." ++ Text.paddedNumeral 6 (nanos / 1000)
  else "." ++ Text.paddedNumeral 9 nanos

/-- The written form of an instant. -/
def toText (t : Instant) : String :=
  let days := t.seconds.fdiv 86400
  let second := (t.seconds - days * 86400).toNat
  let (year, month, day) := dateOfDays days
  let leap := t.nanos / 1000000000
  yearText year ++ "-" ++ Text.paddedNumeral 2 month ++ "-" ++ Text.paddedNumeral 2 day ++ "T" ++
    Text.paddedNumeral 2 (second / 3600) ++ ":" ++ Text.paddedNumeral 2 (second / 60 % 60) ++
    ":" ++ Text.paddedNumeral 2 (second % 60 + leap) ++ fractionText (t.nanos % 1000000000) ++ "Z"

/-- At most `width` digits at the front of the text, at least one. -/
def digitsOf (width : Nat) (s : List Char) : Option (Nat × List Char) :=
  let ds := (s.take width).takeWhile fun c => (Text.digitValue? c).isSome
  if ds.isEmpty then none
  else some (ds.foldl (fun n c => n * 10 + (Text.digitValue? c).getD 0) 0, s.drop ds.length)

/-- A part of at most two digits after blanks. -/
def readPart (s : List Char) : Option (Nat × List Char) := digitsOf 2 (Text.trimStart s)

/-- A year: four digits at most, or a sign and any number of them. -/
def readYear (s : List Char) : Option (Int × List Char) :=
  match Text.trimStart s with
  | '-' :: s => (digitsOf s.length s).map fun r => (-(r.1 : Int), r.2)
  | '+' :: s => (digitsOf s.length s).map fun r => ((r.1 : Int), r.2)
  | s => (digitsOf 4 s).map fun r => ((r.1 : Int), r.2)

/-- Goes over a separator after blanks. -/
def expectMark (mark : Char) (s : List Char) : Option (List Char) :=
  match Text.trimStart s with
  | c :: s => if c = mark then some s else none
  | [] => none

/-- Nanoseconds after a point: nine digits count, later ones are passed over. -/
def readNanos : List Char → Option (Nat × List Char)
  | '.' :: s =>
    let ds := s.takeWhile fun c => (Text.digitValue? c).isSome
    if ds.isEmpty then none
    else
      let kept := ds.take 9
      let value := kept.foldl (fun n c => n * 10 + (Text.digitValue? c).getD 0) 0
      some (value * Nat.pow 10 (9 - kept.length), s.drop ds.length)
  | s => some (0, s)

/-- Exactly two digits. -/
def twoDigits : List Char → Option (Nat × List Char)
  | a :: b :: s =>
    match Text.digitValue? a, Text.digitValue? b with
    | some a, some b => some (a * 10 + b, s)
    | _, _ => none
  | _ => none

/-- The seconds by which a local time is ahead of UTC. -/
def readOffset (s : List Char) : Option (Int × List Char) :=
  let signed (negative : Bool) (s : List Char) : Option (Int × List Char) := do
    let (hours, s) ← twoDigits s
    let (minutes, s) ← twoDigits (s.dropWhile fun c => c = ':' || Text.isBlank c)
    if 60 ≤ minutes then none
    else
      let offset : Int := hours * 3600 + minutes * 60
      some (if negative then -offset else offset, s)
  match s with
  | 'Z' :: s => some (0, s)
  | 'z' :: s => some (0, s)
  | '+' :: s => signed false s
  | '-' :: s => signed true s
  | '\u2212' :: s => signed true s
  | u :: t :: c :: s =>
    if u.toUpper = 'U' ∧ t.toUpper = 'T' ∧ c.toUpper = 'C' then some (0, s) else none
  | _ => none

/-- The first year there is. -/
def firstYear : Int := -262143

/-- The last year there is. -/
def lastYear : Int := 262142

/-- Whether a second lies in the years there are. -/
def inRange (seconds : Int) : Bool :=
  decide (daysOfDate firstYear 1 1 * 86400 ≤ seconds) &&
    decide (seconds < daysOfDate (lastYear + 1) 1 1 * 86400)

/-- The instant of a text. -/
def readChars (s : List Char) : Option Instant := do
  let (year, s) ← readYear s
  let s ← expectMark '-' s
  let (month, s) ← readPart s
  let s ← expectMark '-' s
  let (day, s) ← readPart s
  let s ← match s with
    | 'T' :: s => some s
    | 't' :: s => some s
    | ' ' :: s => some s
    | _ => none
  let (hour, s) ← readPart s
  let s ← expectMark ':' s
  let (minute, s) ← readPart s
  let s ← expectMark ':' s
  let (second, s) ← readPart s
  let (nanos, s) ← readNanos s
  let (offset, s) ← readOffset (Text.trimStart s)
  let dateOk := decide (1 ≤ day) && decide (day ≤ daysInMonth year month) &&
    decide (firstYear ≤ year) && decide (year ≤ lastYear)
  let timeOk := decide (hour < 24) && decide (minute < 60) && decide (second ≤ 60) &&
    decide (-86400 < offset) && decide (offset < 86400)
  let leap : Nat := if second = 60 then 1 else 0
  let seconds : Int :=
    daysOfDate year month day * 86400 + hour * 3600 + minute * 60 + (second - leap) - offset
  if dateOk && timeOk && inRange seconds && (Text.trimStart s).isEmpty then
    some { seconds, nanos := nanos + leap * 1000000000 }
  else none

/-- The instant of a text. -/
def ofText? (text : String) : Option Instant := readChars text.toList

end Instant

end ClusterOperator
