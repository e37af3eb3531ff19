import ClusterOperator.Backoff
import ClusterOperator.Program

/-!
# Repeating an operation

An operation that may fail is attempted until it succeeds, until it fails in a way
that is not worth repeating, or until the backoff leaves no attempt.  Between two
attempts there is one pause, none before the first and none after the last; it is as
long as the backoff says, times a random factor.  Where that is no length there is no
further attempt.
Attempts are counted in a word of thirty-two bits; with no limit on the attempts the
count can leave the word, which is an ending of its own.
-/

namespace ClusterOperator

/-- How repeating an operation ended. -/
inductive Ending (ε α : Type) where
  /-- An attempt succeeded. -/
  | succeeded (value : α)
  /-- The last attempt failed. -/
  | failed (error : ε)
  /-- The pause after a failed attempt has no length, or none once it is stretched. -/
  | unpaced (fault : Duration.Fault)
  /-- The count of attempts left its word. -/
  | overflowed

namespace Retry

variable {I : Interface} {ε α : Type}

/-- Sleeps for a length times the factor that is drawn. -/
def stretched (draw : Program I Jitter) (sleep : Duration → Program I Unit) (d : Duration) :
    Program I (Except Duration.Fault Unit) :=
  draw.bind fun jitter =>
    match d.stretch jitter with
    | .error fault => .done (.error fault)
    | .ok length => (sleep length).bind fun _ => .done (.ok ())

/-- Attempts `operation`, this time for the `attempt`-th time, while `steps` last. -/
def attemptFrom (b : Backoff) (worthwhile : ε → Bool)
    (pause : Duration → Program I (Except Duration.Fault Unit))
    (operation : Program I (Except ε α)) : (steps attempt : Nat) → Program I (Ending ε α)
  | 0, _ => .done .overflowed
  | steps + 1, attempt =>
    operation.bind fun
      | .ok a => .done (.succeeded a)
      | .error e =>
        if worthwhile e then
          if b.exhausted attempt then .done (.failed e)
          else
            match b.pause attempt with
            | .error fault => .done (.unpaced fault)
            | .ok d => (pause d).bind fun
              | .error fault => .done (.unpaced fault)
              | .ok () => attemptFrom b worthwhile pause operation steps (attempt + 1)
        else .done (.failed e)

/-- How many attempts can be counted. -/
def countable (b : Backoff) : Nat := if b.maxAttempts = 0 then Nat.pow 2 32 - 1 else b.maxAttempts

/-- Repeats `operation` as long as it fails with an error that is worth it. -/
def run (b : Backoff) (worthwhile : ε → Bool)
    (pause : Duration → Program I (Except Duration.Fault Unit))
    (operation : Program I (Except ε α)) : Program I (Ending ε α) :=
  attemptFrom b worthwhile pause operation (countable b) 1

/-- The requests of an operation that is repeated on its own. -/
inductive Request where
  | attempt
  /-- A random factor for the next pause. -/
  | draw
  | pause (d : Duration)

/-- An attempt is answered with its result, a pause with nothing. -/
@[reducible]
def interface (ε α : Type) : Interface where
  Request := Request
  Reply
    | .attempt => Except ε α
    | .draw => Jitter
    | .pause _ => Unit

/-- Repeats an operation that is nothing but a request. -/
def program (b : Backoff) (worthwhile : ε → Bool) : Program (interface ε α) (Ending ε α) :=
  run b worthwhile
    (stretched (@Program.call (interface ε α) .draw)
      fun d => @Program.call (interface ε α) (.pause d))
    (@Program.call (interface ε α) .attempt)

end Retry

end ClusterOperator
