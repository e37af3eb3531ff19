import ClusterOperator.Binary64

/-!
# Durations

A duration is a number of nanoseconds, shown as whole seconds and the rest.  Backoff
arithmetic is done in doubles of seconds: `toSeconds` is the double of the whole
seconds plus the double of the fraction, and `ofSeconds?` goes back to the nearest
nanosecond, a half going to the even one.  Negative seconds have no duration, and
neither have NaN or `2 ^ 64` seconds and more.

A duration is stretched by a random factor from a half up to three halves, in doubles as
well, so a very long one may have no stretched duration.
-/

namespace ClusterOperator

/-- A span of time. -/
structure Duration where
  nanoseconds : Nat
  deriving DecidableEq, Repr, Inhabited

namespace Duration

def nanosPerSecond : Nat := 1000000000

/-- Whole seconds. -/
def ofSecs (n : Nat) : Duration := ⟨n * nanosPerSecond⟩

/-- Whole milliseconds. -/
def ofMillis (n : Nat) : Duration := ⟨n * 1000000⟩

/-- Seconds and nanoseconds. -/
def ofParts (secs nanos : Nat) : Duration := ⟨secs * nanosPerSecond + nanos⟩

/-- The whole seconds. -/
def secs (d : Duration) : Nat := d.nanoseconds / nanosPerSecond

/-- The nanoseconds after the last whole second. -/
def nanos (d : Duration) : Nat := d.nanoseconds % nanosPerSecond

/-- Milliseconds, a fraction of one counting as a whole. -/
def ceilMillis (d : Duration) : Nat := (d.nanoseconds + 999999) / 1000000

/-- The duration in seconds. -/
def toSeconds (d : Duration) : Float :=
  d.secs.toUInt64.toFloat + d.nanos.toUInt64.toFloat / nanosPerSecond.toUInt64.toFloat

/-- Why a number of seconds is no duration. -/
inductive Fault where
  | negative
  | tooBigOrNaN
  deriving DecidableEq, Repr

/-- The wording of a fault. -/
def Fault.message : Fault → String
  | .negative => "cannot convert float seconds to Duration: value is negative"
  | .tooBigOrNaN => "cannot convert float seconds to Duration: value is either too big or NaN"

/-- The duration of a magnitude, which is finite, to the nearest nanosecond. -/
def ofMagnitude (x : Binary64) : Except Fault Duration :=
  let (num, den) := Binary64.scaledBy (-x.exponent) x.significand 1
  if Nat.pow 2 64 * den ≤ num then .error .tooBigOrNaN
  else .ok ⟨Binary64.roundHalfEven (num * nanosPerSecond) den⟩

/-- The duration of a number of seconds. -/
def ofSeconds? (x : Float) : Except Fault Duration :=
  if x < 0 then .error .negative
  else
    let b := Binary64.ofFloat x
    if b.isFinite then ofMagnitude b else .error .tooBigOrNaN

end Duration

/-- A random factor, from a half up to three halves, which it does not reach. -/
structure Jitter where
  factor : Float
  least : 0.5 ≤ factor
  below : factor < 1.5

/-- The factor that leaves a duration as it is. -/
instance : Inhabited Jitter := ⟨⟨1.0, by decide, by decide⟩⟩

namespace Duration

/-- A duration times a random factor. -/
def stretch (d : Duration) (jitter : Jitter) : Except Fault Duration :=
  ofSeconds? (d.toSeconds * jitter.factor)

end Duration

end ClusterOperator
