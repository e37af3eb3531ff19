import ClusterOperator.Gateway
import ClusterOperator.Retry

/-!
# Updating a stored status

A status is updated by reading it, changing the copy, and writing it back at the
version that was read.  If somebody else wrote in between, the write conflicts and
everything is done again from a fresh reading, so no update is lost.  A change that
changes nothing is not written.
-/

namespace ClusterOperator

/-- Where the status of clusters is stored. -/
structure StatusStore (I : Interface) where
  load : String → Program I (Except Failure Snapshot)
  store : String → Status → Option String → Program I (Except StoreFault Unit)
  /-- Waits before the next attempt, for the given time times a random factor. -/
  pause : Duration → Program I (Except Duration.Fault Unit)

/-- A change of a status; it says whether it changed anything.  The time is that of
the reading it is applied to. -/
abbrev Mutation : Type := Instant → Status → Bool × Status

/-- The store behind the gateway. -/
def gatewayStore : StatusStore gateway where
  load name := Gateway.call (.loadStatus name)
  store name status version := Gateway.call (.storeStatus name status version)
  pause := Retry.stretched (Gateway.call .draw) fun d => Gateway.call (.pause d)

namespace StatusStore

variable {I : Interface}

/-- One attempt at an update; the value says whether something was written. -/
def tryUpdate (s : StatusStore I) (name : String) (mutate : Mutation) :
    Program I (Except StoreFault Bool) :=
  (s.load name).bind fun
    | .error e => .done (.error (.other e))
    | .ok snapshot =>
      let r := mutate snapshot.readAt snapshot.status
      if r.1 then
        (s.store name r.2 snapshot.version).bind fun
          | .error e => .done (.error e)
          | .ok () => .done (.ok true)
      else .done (.ok false)

/-- The outcome of an update whose attempts have ended. -/
def outcome (name : String) (retry : Backoff) : Ending StoreFault Bool → Except Failure Bool
  | .succeeded written => .ok written
  | .failed (.conflict _) => .error (.statusConflict name retry.maxAttempts)
  | .failed (.other e) => .error e
  | .unpaced fault => .error (.internal "update_status" fault.message)
  | .overflowed => .error (.internal "update_status" "attempt to add with overflow")

/-- Updates a status, again and again while it conflicts; the value says whether
something was written. -/
def update (s : StatusStore I) (name : String) (retry : Backoff) (mutate : Mutation) :
    Program I (Except Failure Bool) :=
  (Retry.run retry StoreFault.isConflict s.pause (s.tryUpdate name mutate)).bind fun ending =>
    .done (outcome name retry ending)

/-- The value of a condition of a resource. -/
def condition (s : StatusStore I) (name resource kind : String) :
    Program I (Except Failure (Option String)) :=
  (s.load name).bind fun
    | .error e => .done (.error e)
    | .ok snapshot => .done (.ok (snapshot.status.condition? resource kind))

/-- Sets conditions of a resource in one write. -/
def setConditions (s : StatusStore I) (name : String) (retry : Backoff) (resource : String)
    (conditions : List (String × String)) : Program I (Except Failure Bool) :=
  s.update name retry fun now status => status.setConditions now resource conditions

end StatusStore

end ClusterOperator
