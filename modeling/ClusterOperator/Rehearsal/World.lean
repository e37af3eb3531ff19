import ClusterOperator.Cloud.Templates
import ClusterOperator.Operator
import ClusterOperator.Rehearsal.Cloud
import ClusterOperator.Rehearsal.Store
import ClusterOperator.Watchdog.Timetable

/-!
# The surroundings of a rehearsal

Cloud, store, templates and watchdogs together answer everything that the operator
can ask for.  The watchdogs run on the clock of the rehearsal, which goes on when the
operator pauses and when it is told to.  What was called, polled and reported is kept
until it is collected.
-/

namespace ClusterOperator.Rehearsal

/-- A report of a watchdog and the time of it. -/
structure TimedReport where
  time : Nat
  report : HealthReport

/-- Everything around the operator but the watchdogs. -/
structure Surroundings where
  cloud : CloudScene := {}
  store : StoreScene := {}
  templates : Templates := {}
  /-- The time that readings of the status are given. -/
  present : Instant
  /-- Whether the watchdogs report. -/
  reporting : Bool := true
  calls : List Call := []
  /-- The scale sets whose instances were listed. -/
  polls : Array String := #[]
  reports : List TimedReport := []

namespace Surroundings

/-- Lists the instances of a scale set. -/
def listInstances (s : Surroundings) (id : String) :
    Except CloudFault (List ScaleSetInstance) × Surroundings :=
  let (answer, cloud) := s.cloud.listInstances id
  (answer, { s with cloud, polls := s.polls.push id })

/-- What guard jobs do: a poll is one listing and takes no time. -/
def guarding : Watchdog.Workload GuardJob Surroundings where
  begin _ _ s := (0, s)
  conclude _ job s :=
    let (answer, s) := s.listInstances job.id
    (job.conclude answer, s)
  notify now job s :=
    (none, if s.reporting then { s with reports := s.reports ++ [⟨now, job.report⟩] } else s)

end Surroundings

end Rehearsal

/-- Watchdogs on one clock with the rest of the operator's surroundings. -/
abbrev Rehearsal : Type := Watchdog.Timetable GuardJob Rehearsal.Surroundings

namespace Rehearsal

/-- A rehearsal without watchdogs. -/
def ofSurroundings (s : Surroundings) : Rehearsal := { world := s }

/-- Adds a watchdog; answers its number. -/
def addWatchdog (r : Rehearsal) (config : OperatorConfig) : Except Failure (Nat × Rehearsal) := do
  let pool ← Watchdog.startPool config.watchdogWorkers config.watchdogBackoff
  return r.addPool pool

/-- Notes a call. -/
def note (r : Rehearsal) (call : Call) : Rehearsal :=
  { r with world := { r.world with calls := r.world.calls ++ [call] } }

/-- Changes the cloud. -/
def setCloud (r : Rehearsal) (cloud : CloudScene) : Rehearsal :=
  { r with world := { r.world with cloud } }

/-- Changes the store. -/
def setStore (r : Rehearsal) (store : StoreScene) : Rehearsal :=
  { r with world := { r.world with store } }

/-- Has a scale set guarded. -/
def guard (r : Rehearsal) (watchdog : Nat) (resourceGroup scaleSet : String) : Bool × Rehearsal :=
  let job : GuardJob := { resourceGroup, scaleSet }
  r.enqueue Surroundings.guarding watchdog job.id job

/-- Answers a request of the operator. -/
def serve (q : Gateway.Request) (r : Rehearsal) : Gateway.Reply q × Rehearsal :=
  match q with
  | .lookUp resourceGroup name =>
    (r.world.cloud.lookUp name, r.note (.lookUp resourceGroup name))
  | .submit resourceGroup name body =>
    let (answer, cloud) := r.world.cloud.submit
    (answer, (r.note (.submit resourceGroup name body)).setCloud cloud)
  | .containerExists account container =>
    (r.world.cloud.container, r.note (.containerExists account container))
  | .listObjects account container =>
    (r.world.cloud.listObjects, r.note (.listObjects account container))
  | .readObject account container key =>
    (r.world.cloud.readObject key, r.note (.readObject account container key))
  | .writeObject account container key body =>
    let (answer, cloud) := r.world.cloud.writeObject key body
    (answer, (r.note (.writeObject account container key body)).setCloud cloud)
  | .render input => (r.world.cloud.render input, r.note (.render input.role))
  | .template name => (r.world.templates.find name, r)
  | .loadStatus name =>
    let (answer, store) := r.world.store.load name r.world.present
    (answer, r.setStore store)
  | .storeStatus name status version =>
    let (answer, store) := r.world.store.store name status version
    (answer, r.setStore store)
  | .guard watchdog resourceGroup scaleSet => r.guard watchdog resourceGroup scaleSet
  | .draw => (default, r)
  | .pause d => ((), r.pass Surroundings.guarding d.ceilMillis)

/-- Runs a program of the operator. -/
def perform {α : Type} (r : Rehearsal) (p : Program gateway α) : α × Rehearsal := p.run serve r

/-- Runs a step of a pass. -/
def performStep {α : Type} (r : Rehearsal) (ctx : PassContext) (m : Step gateway α) :
    Except Failure α × PassContext × Rehearsal :=
  let ((answer, ctx), r) := r.perform (m ctx)
  (answer, ctx, r)

/-- Stops a watchdog and waits an hour at most for its workers; answers whether they
are gone. -/
def shutDown (r : Rehearsal) (watchdog : Nat) : Bool × Rehearsal :=
  (r.stop watchdog).join Surroundings.guarding watchdog 3600000

/-- Forgets what was called, polled and reported. -/
def collect (r : Rehearsal) : Rehearsal :=
  { r with
    world :=
      { r.world with
        calls := []
        polls := #[]
        reports := []
        store := { r.world.store with calls := [] } } }

end Rehearsal

end ClusterOperator
