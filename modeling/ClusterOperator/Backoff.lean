import ClusterOperator.Binary64.Written
import ClusterOperator.Duration

/-!
# Exponential backoff

A backoff fixes how often an operation is attempted and how long the pauses between
attempts are.  The pause after attempt `n` is the initial pause times the multiplier
to the power `n - 1`, the power capped at 63, and never more than the longest pause.
The arithmetic is that of doubles, so an odd multiplier can make a pause undefined.
-/

namespace ClusterOperator

/-- How to repeat an operation. -/
structure Backoff where
  /-- Attempts in all; zero stands for no limit. -/
  maxAttempts : Nat := 0
  initial : Duration := .ofMillis 100
  longest : Duration := .ofSecs 30
  multiplier : Float := 2.0

namespace Backoff

instance : Inhabited Backoff := ⟨{}⟩

/-- `square ^ exponent` by repeated squaring from the lowest bit, onto `acc`. -/
def powerLoop (steps : Nat) (acc square : Float) (exponent : Nat) : Float :=
  match steps with
  | 0 => acc
  | steps + 1 =>
    let acc := if exponent % 2 = 1 then acc * square else acc
    if exponent / 2 = 0 then acc else powerLoop steps acc (square * square) (exponent / 2)

/-- `base ^ exponent` for an exponent below 64. -/
def power (base : Float) (exponent : Nat) : Float := powerLoop 64 1.0 base exponent

/-- The smaller of two doubles; a NaN gives way to the other one. -/
def lesser (x y : Float) : Float :=
  if x.isNaN then y else if y.isNaN then x else if y < x then y else x

/-- The pause after the given attempt, counted from one. -/
def pause (b : Backoff) (attempt : Nat) : Except Duration.Fault Duration :=
  let growth := power b.multiplier (min (attempt - 1) 63)
  Duration.ofSeconds? (lesser (b.initial.toSeconds * growth) b.longest.toSeconds)

/-- Whether no attempt is left after the given one. -/
def exhausted (b : Backoff) (attempt : Nat) : Bool :=
  decide (0 < b.maxAttempts) && decide (b.maxAttempts ≤ attempt)

/-- The default backoff with a limit on the attempts. -/
def withMaxAttempts (n : Nat) : Backoff := { maxAttempts := n }

/-- How a multiplier is written in diagnostics: out to sixteen digits before the point
and down to the fourth place after it, ties going up. -/
def multiplierStyle : Binary64.Style := { least := -4, greatest := 15, plus := false, tie := .up }

/-- The written form of the multiplier. -/
def multiplierText (b : Backoff) : String :=
  String.ofList (Binary64.chars multiplierStyle (.ofFloat b.multiplier))

end Backoff

end ClusterOperator
