import ClusterOperator.Backoff
import ClusterOperator.Failure

/-!
# The watchdog pool

A fixed number of workers polls jobs until they converge.  Accepted jobs wait in one
queue; a worker takes the first and polls it; a job that has not converged is parked
until the backoff has passed and then goes to the end of the queue again, so no worker
is kept busy by a job that waits.  While a job of an id is in the pool, another one
with that id is rejected.  After a stop nothing is accepted and no poll starts; what
is queued or parked is dropped.

The pool is a machine.  A run supplies the moves in any order: who submits what, which
worker acts next, how a poll ends, which parked job wakes up, when somebody stops the
pool, and how time goes on.  `Pool.step` answers the new pool and the events of a
move, or nothing if the move is not possible.  A poll that panics takes its worker
along, and its id stays taken; a backoff without a length does the same.  When the
last worker is gone the queue goes with it.

Others may move between any two moves of somebody.  A submission has three: it looks
whether the pool is stopped, takes the id, and enters the queue, or gives the id free
if the queue is closed by then.  A worker takes a job out of the queue in one move and
looks whether the pool is stopped, and begins the poll, in another.  `Pool.enqueue` and
`Pool.take` are these moves with nobody else in between.
-/

namespace ClusterOperator.Watchdog

/-- A submitted job.  Its serial number counts the submissions. -/
structure Ticket (J : Type) where
  serial : Nat
  id : String
  /-- How often it has been polled. -/
  polls : Nat := 0
  job : J
  deriving Repr

/-- A job that waits for its next poll, and the time when it is due. -/
structure Parked (J : Type) where
  due : Nat
  ticket : Ticket J
  deriving Repr

/-- How a poll ended, and the job after it. -/
inductive PollEnd (J : Type) where
  | pending (job : J)
  | finished (job : J)
  | failed (job : J)
  | panicked (job : J)
  deriving Repr

/-- Why a job left the pool without having converged. -/
inductive DropCause where
  /-- Its poll failed. -/
  | failed
  /-- Its poll panicked, or its backoff has no length. -/
  | panicked
  /-- The pool was stopped. -/
  | stopped
  /-- There is no worker any more. -/
  | abandoned
  deriving DecidableEq, Repr

/-- What a move led to. -/
inductive Event (J : Type) where
  /-- A job was put into the queue, for the first time or again. -/
  | queued (ticket : Ticket J)
  /-- A job was not accepted. -/
  | rejected (id : String) (job : J)
  /-- A poll has started; it is counted already. -/
  | polling (ticket : Ticket J)
  /-- A job waits for its next poll. -/
  | parked (parked : Parked J)
  /-- A job has converged, and is told so. -/
  | finished (ticket : Ticket J)
  /-- A job left the pool without having converged. -/
  | dropped (ticket : Ticket J) (cause : DropCause)
  deriving Repr

/-- A pool.  Times are in milliseconds. -/
structure Pool (J : Type) where
  backoff : Backoff
  /-- How long the clock lets somebody sleep who asks for so many milliseconds. -/
  sleep : Nat → Nat := id
  /-- How many workers wait for a job. -/
  idle : Nat
  /-- The jobs that workers took out of the queue, each by a worker of its own that has
  not begun to poll it. -/
  taken : List (Ticket J) := []
  /-- The jobs that are being polled, each by a worker of its own. -/
  running : List (Ticket J) := []
  /-- The submitted jobs for which nobody has looked yet whether their id is taken. -/
  arriving : List (Ticket J) := []
  /-- The jobs that have taken their id and are not in the queue yet. -/
  entering : List (Ticket J) := []
  queue : List (Ticket J) := []
  parked : List (Parked J) := []
  /-- The ids that are taken. -/
  active : List String := []
  stopped : Bool := false
  /-- The number of jobs submitted so far, those not counted that found the pool
  stopped. -/
  submitted : Nat := 0
  now : Nat := 0

/-- A move of a pool. -/
inductive Move (J : Type) where
  /-- Somebody submits a job, and looks whether the pool is stopped. -/
  | arrive (id : String) (job : J)
  /-- A submitted job takes its id, unless it is taken. -/
  | register (serial : Nat)
  /-- A job that has taken its id enters the queue, unless that is closed. -/
  | enter (serial : Nat)
  /-- A worker takes the first job of the queue. -/
  | receive
  /-- A worker looks whether the pool is stopped, and if not begins to poll the job it
  took. -/
  | begin (serial : Nat)
  /-- A poll ends. -/
  | conclude (serial : Nat) (result : PollEnd J)
  /-- A parked job wakes up, because it is due or because the pool was stopped. -/
  | wake (serial : Nat)
  /-- A worker finds the queue closed and empty. -/
  | exit
  | stop
  /-- Time goes on. -/
  | tick (ms : Nat)

namespace Pool

variable {J : Type}

/-- A pool of idle workers. -/
def start (workers : Nat) (backoff : Backoff) (now : Nat := 0) : Pool J :=
  { backoff, idle := workers, now }

/-- Whether any worker is left. -/
def hasWorkers (p : Pool J) : Bool :=
  decide (0 < p.idle) || !p.taken.isEmpty || !p.running.isEmpty

/-- Whether a job put into the queue stays there. -/
def isOpen (p : Pool J) : Bool := !p.stopped && p.hasWorkers

/-- Whether an id is taken. -/
def isActive (p : Pool J) (id : String) : Bool := p.active.contains id

/-- Gives an id free. -/
def release (p : Pool J) (id : String) : Pool J :=
  { p with active := p.active.filter fun other => decide (other ≠ id) }

/-- Takes the id of a job, unless it is taken. -/
def register (p : Pool J) (ticket : Ticket J) : Option (Pool J) :=
  if p.isActive ticket.id then none else some { p with active := p.active ++ [ticket.id] }

/-- Puts a job that has taken its id into the queue.  If the queue is closed, the id is
given free and the job rejected. -/
def enter (p : Pool J) (ticket : Ticket J) : Pool J × List (Event J) :=
  if p.isOpen then ({ p with queue := p.queue ++ [ticket] }, [.queued ticket])
  else (p.release ticket.id, [.rejected ticket.id ticket.job])

/-- Submits a job. -/
def enqueue (p : Pool J) (id : String) (job : J) : Pool J × List (Event J) :=
  if p.stopped then (p, [.rejected id job])
  else
    let ticket : Ticket J := { serial := p.submitted, id, job }
    let p := { p with submitted := p.submitted + 1 }
    match p.register ticket with
    | none => (p, [.rejected id job])
    | some p => p.enter ticket

/-- Begins to poll a job that a worker took.  Once the pool is stopped the job is dropped
instead, and its worker idle again. -/
def begin (p : Pool J) (ticket : Ticket J) : Pool J × List (Event J) :=
  if p.stopped then
    ({ p with idle := p.idle + 1 }.release ticket.id, [.dropped ticket .stopped])
  else
    let ticket := { ticket with polls := ticket.polls + 1 }
    ({ p with running := p.running ++ [ticket] }, [.polling ticket])

/-- Lets a worker take the first job of the queue and begin to poll it. -/
def take (p : Pool J) : Option (Pool J × List (Event J)) :=
  match p.idle, p.queue with
  | idle + 1, ticket :: queue => some ({ p with idle, queue }.begin ticket)
  | _, _ => none

/-- Takes out the first item that has a property. -/
def extract {α : Type} (test : α → Bool) : List α → Option (α × List α)
  | [] => none
  | a :: rest =>
    if test a then some (a, rest) else (extract test rest).map fun r => (r.1, a :: r.2)

/-- Gives up the queue if there is no worker any more; the ids stay taken. -/
def abandon (p : Pool J) : Pool J × List (Event J) :=
  if p.hasWorkers then (p, [])
  else ({ p with queue := [] }, p.queue.map fun t => .dropped t .abandoned)

/-- A worker and the job it was polling are lost. -/
def lose (p : Pool J) (ticket : Ticket J) : Pool J × List (Event J) :=
  let (p, events) := p.abandon
  (p, .dropped ticket .panicked :: events)

/-- What the end of a poll leads to, when the job is not among the running ones any
more and its worker is not idle yet. -/
def settle (p : Pool J) (ticket : Ticket J) : PollEnd J → Pool J × List (Event J)
  | .finished job =>
    ({ p with idle := p.idle + 1 }.release ticket.id, [.finished { ticket with job }])
  | .failed job =>
    ({ p with idle := p.idle + 1 }.release ticket.id, [.dropped { ticket with job } .failed])
  | .panicked job => p.lose { ticket with job }
  | .pending job =>
    match p.backoff.pause ticket.polls with
    | .error _ => p.lose { ticket with job }
    | .ok pause =>
      let parked : Parked J := ⟨p.now + p.sleep pause.ceilMillis, { ticket with job }⟩
      ({ p with idle := p.idle + 1, parked := p.parked ++ [parked] }, [.parked parked])

/-- Ends a poll. -/
def conclude (p : Pool J) (serial : Nat) (result : PollEnd J) : Option (Pool J × List (Event J)) :=
  match extract (fun t => t.serial == serial) p.running with
  | none => none
  | some (ticket, running) => some ({ p with running }.settle ticket result)

/-- Wakes a parked job up.  It goes to the end of the queue, or is dropped if the
queue is closed. -/
def wake (p : Pool J) (serial : Nat) : Option (Pool J × List (Event J)) :=
  match extract (fun k => k.ticket.serial == serial) p.parked with
  | none => none
  | some (⟨due, ticket⟩, parked) =>
    if p.stopped || decide (due ≤ p.now) then
      if p.isOpen then
        some ({ p with parked, queue := p.queue ++ [ticket] }, [.queued ticket])
      else
        let cause := if p.stopped then DropCause.stopped else .abandoned
        some ({ p with parked }.release ticket.id, [.dropped ticket cause])
    else none

/-- Lets an idle worker go, once the pool is stopped and its queue is empty. -/
def exit (p : Pool J) : Option (Pool J × List (Event J)) :=
  match p.idle with
  | idle + 1 => if p.stopped && p.queue.isEmpty then some ({ p with idle }, []) else none
  | 0 => none

/-- Closes the queue. -/
def stop (p : Pool J) : Pool J := { p with stopped := true }

/-- Lets time go on. -/
def tick (p : Pool J) (ms : Nat) : Pool J := { p with now := p.now + ms }

/-- Looks whether the pool is stopped; if not, the submitted job goes on to take its
id. -/
def arrive (p : Pool J) (id : String) (job : J) : Pool J × List (Event J) :=
  if p.stopped then (p, [.rejected id job])
  else
    let ticket : Ticket J := { serial := p.submitted, id, job }
    ({ p with arriving := p.arriving ++ [ticket], submitted := p.submitted + 1 }, [])

/-- Lets a job that has arrived take its id. -/
def registerNext (p : Pool J) (serial : Nat) : Option (Pool J × List (Event J)) :=
  match extract (fun t => t.serial == serial) p.arriving with
  | none => none
  | some (ticket, arriving) =>
    match { p with arriving }.register ticket with
    | none => some ({ p with arriving }, [.rejected ticket.id ticket.job])
    | some p => some ({ p with entering := p.entering ++ [ticket] }, [])

/-- Lets a job that has taken its id enter the queue. -/
def enterNext (p : Pool J) (serial : Nat) : Option (Pool J × List (Event J)) :=
  match extract (fun t => t.serial == serial) p.entering with
  | none => none
  | some (ticket, entering) => some ({ p with entering }.enter ticket)

/-- Lets a worker take the first job of the queue. -/
def receive (p : Pool J) : Option (Pool J × List (Event J)) :=
  match p.idle, p.queue with
  | idle + 1, ticket :: queue => some ({ p with idle, queue, taken := p.taken ++ [ticket] }, [])
  | _, _ => none

/-- Lets a worker begin to poll the job it took. -/
def beginNext (p : Pool J) (serial : Nat) : Option (Pool J × List (Event J)) :=
  match extract (fun t => t.serial == serial) p.taken with
  | none => none
  | some (ticket, taken) => some ({ p with taken }.begin ticket)

/-- The pool after a move, and the events of the move; nothing if it is not
possible. -/
def step (p : Pool J) : Move J → Option (Pool J × List (Event J))
  | .arrive id job => some (p.arrive id job)
  | .register serial => p.registerNext serial
  | .enter serial => p.enterNext serial
  | .receive => p.receive
  | .begin serial => p.beginNext serial
  | .conclude serial result => p.conclude serial result
  | .wake serial => p.wake serial
  | .exit => p.exit
  | .stop => some (p.stop, [])
  | .tick ms => some (p.tick ms, [])

/-- The pool after a run of moves, with every event and the time of it; nothing if
one of them is not possible. -/
def run (p : Pool J) : List (Move J) → Option (Pool J × List (Nat × Event J))
  | [] => some (p, [])
  | m :: moves =>
    match p.step m with
    | none => none
    | some (q, events) =>
      (q.run moves).map fun r => (r.1, events.map (fun e => (p.now, e)) ++ r.2)

end Pool

/-- Starts the workers of a pool; there has to be one at least. -/
def startPool {J : Type} (workers : Nat) (backoff : Backoff) : Except Failure (Pool J) :=
  if workers = 0 then .error (.invalid "watchdog needs at least one worker")
  else .ok (.start workers backoff)

end ClusterOperator.Watchdog
