import ClusterOperator.Watchdog.Timetable

/-!
# Jobs of a rehearsal

A scripted job knows beforehand how long its polls take and how each of them ends;
the last ending is that of all later polls too.  When it has converged it may submit
another job under its id.  What jobs go through is kept with the time of it.
-/

namespace ClusterOperator.Rehearsal

/-- How a poll of a scripted job ends. -/
inductive ScriptedEnd where
  | pending
  | finished
  | failed
  | panicked
  deriving DecidableEq, Repr

/-- A scripted job. -/
structure ScriptedJob where
  label : String
  /-- How long a poll takes, in milliseconds. -/
  runTime : Nat := 0
  polls : List ScriptedEnd
  /-- How often it has been polled. -/
  polled : Nat := 0
  /-- The polls of the job that follows; none follows if there are none. -/
  next : List ScriptedEnd := []
  deriving Repr

/-- What happened to a scripted job. -/
inductive JobEntry where
  /-- A poll has begun. -/
  | began
  /-- A poll has taken its time. -/
  | ended
  | finished
  /-- Another job was submitted: whether the id was taken, and whether it was
  accepted. -/
  | followed (taken accepted : Bool)
  | dropped
  deriving DecidableEq, Repr

/-- What happened to the job of a label at a time. -/
structure JobRecord where
  time : Nat
  label : String
  entry : JobEntry
  deriving Repr

/-- What happened so far, and whether somebody still holds the pool. -/
structure JobBook where
  records : Array JobRecord := #[]
  held : Bool := true
  deriving Repr

namespace JobBook

/-- Adds a record. -/
def add (b : JobBook) (time : Nat) (label : String) (entry : JobEntry) : JobBook :=
  { b with records := b.records.push ⟨time, label, entry⟩ }

end JobBook

namespace ScriptedJob

/-- The job after one more poll, and how that ended. -/
def poll (job : ScriptedJob) : Watchdog.PollEnd ScriptedJob :=
  let after := { job with polled := job.polled + 1 }
  match (job.polls[job.polled]?).getD ((job.polls.getLast?).getD .pending) with
  | .pending => .pending after
  | .finished => .finished after
  | .failed => .failed after
  | .panicked => .panicked after

/-- The job that follows. -/
def successor? (job : ScriptedJob) : Option ScriptedJob :=
  if job.next.isEmpty then none else some { label := job.label ++ "+", polls := job.next }

/-- What scripted jobs do. -/
def workload : Watchdog.Workload ScriptedJob JobBook where
  begin now job book := (job.runTime, book.add now job.label .began)
  conclude now job book :=
    (job.poll, if job.runTime = 0 then book else book.add now job.label .ended)
  notify now job book :=
    (if book.held then job.successor? else none, book.add now job.label .finished)
  followed now job taken accepted book := book.add now job.label (.followed taken accepted)
  dropped now job book := book.add now job.label .dropped

end ScriptedJob

end ClusterOperator.Rehearsal
