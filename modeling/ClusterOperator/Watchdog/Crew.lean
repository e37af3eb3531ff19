import ClusterOperator.Watchdog.Agenda
import ClusterOperator.Watchdog.Pool

/-!
# The crew of a pool

A pool leaves open who moves next.  Here every worker and every parked job is a task on
an agenda.  Workers take turns at the queue.  One of them has the turn and the others
wait in a line; a worker that takes a job passes the turn on, and comes back for the
next turn when its poll has ended.

A worker moves as far as it can, but not for ever: getting the turn, noticing that the
turn was passed on to it, taking a job and coming back from a poll that takes time use
up its budget, and when nothing is left it gives way at the next place where it might
have to wait.

What jobs do is given by a workload: how long a poll takes, how it ends, and what a job
does when it has converged or is dropped.  It works on a state of its own.
-/

namespace ClusterOperator.Watchdog

/-- What the jobs of a pool do.  The first argument is always the time. -/
structure Workload (J W : Type) where
  /-- Begins a poll; answers the milliseconds it takes. -/
  begin : Nat → J → W → Nat × W
  /-- Ends a poll. -/
  conclude : Nat → J → W → PollEnd J × W
  /-- Tells a job that it has converged; it may answer with a job to follow under its
  id. -/
  notify : Nat → J → W → Option J × W := fun _ _ w => (none, w)
  /-- Tells a job what became of the one that was to follow: whether the id was taken
  before, and whether it was accepted. -/
  followed : Nat → J → Bool → Bool → W → W := fun _ _ _ _ w => w
  /-- A job is gone without having converged. -/
  dropped : Nat → J → W → W := fun _ _ w => w

/-- Somebody of a pool who can move. -/
inductive Member where
  | worker (number : Nat)
  /-- A parked job. -/
  | timer (serial : Nat)
  deriving DecidableEq, Repr

/-- Whether somebody is a parked job. -/
def Member.isTimer : Member → Bool
  | .worker _ => false
  | .timer _ => true

/-- A member of one of several pools. -/
structure Task where
  pool : Nat
  member : Member
  deriving DecidableEq, Repr

/-- What the worker that has the turn is doing. -/
inductive Stance where
  /-- It has not noticed yet that the turn was passed on to it. -/
  | granted
  /-- It is about to look at the queue. -/
  | looking
  /-- It waits for the queue to change. -/
  | listening
  deriving DecidableEq, Repr

/-- The turn at a queue. -/
structure Turn where
  worker : Nat
  stance : Stance
  deriving DecidableEq, Repr

/-- A poll that takes time, and the time of its end. -/
structure LongPoll where
  worker : Nat
  serial : Nat
  due : Nat
  deriving DecidableEq, Repr

/-- A pool and where its workers are. -/
structure Crew (J : Type) where
  pool : Pool J
  /-- The turn at the queue, if a worker has it. -/
  turn : Option Turn := none
  /-- The workers that wait for the turn. -/
  line : List Nat := []
  /-- The workers that are polling. -/
  polling : List LongPoll := []
  /-- Whether somebody waits for the workers, or has waited. -/
  joined : Bool := false

/-- A crew while something happens to it: its number, the agenda it shares with others,
and the world that the jobs work on. -/
structure Shift (J W : Type) where
  number : Nat
  crew : Crew J
  agenda : Agenda Task
  world : W

namespace Shift

variable {J W : Type}

/-- The time. -/
def now (s : Shift J W) : Nat := s.crew.pool.now

/-- Replaces the pool. -/
def setPool (s : Shift J W) (pool : Pool J) : Shift J W := { s with crew := { s.crew with pool } }

/-- Lets a member move, unless it is about to anyway. -/
def awaken (s : Shift J W) (member : Member) : Shift J W :=
  { s with agenda := s.agenda.awaken ⟨s.number, member⟩ }

/-- Lets a member stand aside. -/
def giveWay (s : Shift J W) (member : Member) : Shift J W :=
  { s with agenda := s.agenda.giveWay ⟨s.number, member⟩ }

/-- Moves a member again at a time. -/
def setAlarm (s : Shift J W) (due : Nat) (member : Member) : Shift J W :=
  { s with agenda := s.agenda.setAlarm due ⟨s.number, member⟩ }

/-- Gives the turn at the queue to a worker. -/
def setTurn (s : Shift J W) (worker : Nat) (stance : Stance) : Shift J W :=
  { s with crew := { s.crew with turn := some ⟨worker, stance⟩ } }

/-- Lets the worker that listens look at the queue. -/
def awakenListener (s : Shift J W) : Shift J W :=
  match s.crew.turn with
  | some ⟨worker, .listening⟩ => s.awaken (.worker worker)
  | _ => s

/-- Passes the turn at the queue on. -/
def passTurn (s : Shift J W) : Shift J W :=
  match s.crew.line with
  | [] => { s with crew := { s.crew with turn := none } }
  | worker :: line =>
    ({ s with crew := { s.crew with line } }.setTurn worker .granted).awaken (.worker worker)

/-- Lets a worker wait for the turn. -/
def lineUp (s : Shift J W) (worker : Nat) : Shift J W :=
  { s with crew := { s.crew with line := s.crew.line ++ [worker] } }

/-- Submits a job; answers whether it was accepted. -/
def enqueue (w : Workload J W) (s : Shift J W) (id : String) (job : J) : Bool × Shift J W :=
  match s.crew.pool.enqueue id job with
  | (pool, [.queued _]) => (true, (s.setPool pool).awakenListener)
  | (pool, _) => (false, { s.setPool pool with world := w.dropped s.now job s.world })

/-- Tells a job that it has converged, and submits the one that follows. -/
def finish (w : Workload J W) (s : Shift J W) (ticket : Ticket J) : Shift J W :=
  match w.notify s.now ticket.job s.world with
  | (none, world) => { s with world }
  | (some next, world) =>
    let taken := s.crew.pool.isActive ticket.id
    let (accepted, s) := { s with world }.enqueue w ticket.id next
    { s with world := w.followed s.now ticket.job taken accepted s.world }

/-- Does what an event asks for. -/
def handle (w : Workload J W) (s : Shift J W) : Event J → Shift J W
  | .queued _ => s.awakenListener
  | .rejected _ job => { s with world := w.dropped s.now job s.world }
  | .polling _ => s
  | .parked k => s.awaken (.timer k.ticket.serial)
  | .finished ticket => s.finish w ticket
  | .dropped ticket _ => { s with world := w.dropped s.now ticket.job s.world }

/-- Does what several events ask for. -/
def handleAll (w : Workload J W) (s : Shift J W) (events : List (Event J)) : Shift J W :=
  events.foldl (handle w) s

/-- Whether an event says that a worker was lost. -/
def losesWorker : Event J → Bool
  | .dropped _ .panicked => true
  | _ => false

/-- Ends the poll of a job; answers whether its worker goes on. -/
def conclude (w : Workload J W) (s : Shift J W) (serial : Nat) : Bool × Shift J W :=
  match s.crew.pool.running.find? fun t => t.serial == serial with
  | none => (false, s)
  | some ticket =>
    let (result, world) := w.conclude s.now ticket.job s.world
    match s.crew.pool.conclude serial result with
    | none => (false, s)
    | some (pool, events) =>
      (!events.any losesWorker, { s.setPool pool with world }.handleAll w events)

/-- Begins the poll of a worker, and ends it if it takes no time; answers whether the
worker goes on. -/
def begin (w : Workload J W) (s : Shift J W) (worker : Nat) (ticket : Ticket J) :
    Bool × Shift J W :=
  let (ms, world) := w.begin s.now ticket.job s.world
  let s := { s with world }
  if ms = 0 then s.conclude w ticket.serial
  else
    let poll : LongPoll := ⟨worker, ticket.serial, s.now + s.crew.pool.sleep ms⟩
    (true, { s with crew := { s.crew with polling := s.crew.polling ++ [poll] } })

/-- Lets the worker that has the turn look at the queue; answers whether it goes on. -/
def look (w : Workload J W) (s : Shift J W) (worker : Nat) : Bool × Shift J W :=
  match s.crew.pool.take with
  | some (pool, [.polling ticket]) => (s.setPool pool).passTurn.begin w worker ticket
  | some (pool, events) => (true, (s.setPool pool).passTurn.handleAll w events)
  | none =>
    match s.crew.pool.exit with
    | some (pool, _) => (false, (s.setPool pool).passTurn)
    | none => (false, s.setTurn worker .listening)

/-- Ends a poll that took time; answers whether its worker goes on. -/
def endPoll (w : Workload J W) (s : Shift J W) (poll : LongPoll) : Bool × Shift J W :=
  let polling := s.crew.polling.filter fun p => p.worker != poll.worker
  { s with crew := { s.crew with polling } }.conclude w poll.serial

/-- Moves a worker until it waits, is gone, or has used up its budget. -/
def moveWorker (w : Workload J W) (worker : Nat) : (budget : Nat) → Shift J W → Shift J W
  | 0, s => s.giveWay (.worker worker)
  | budget + 1, s =>
    let goOn : Bool × Shift J W → Shift J W
      | (true, s) => moveWorker w worker budget s
      | (false, s) => s
    match s.crew.polling.find? fun p => p.worker == worker with
    | some poll =>
      if s.now < poll.due then s.setAlarm poll.due (.worker worker) else goOn (s.endPoll w poll)
    | none =>
      match s.crew.turn with
      | none => goOn (true, s.setTurn worker .looking)
      | some turn =>
        if turn.worker ≠ worker then s.lineUp worker
        else if turn.stance = .granted then goOn (true, s.setTurn worker .looking)
        else goOn (s.look w worker)

/-- Moves a parked job: it wakes up, or sets its alarm. -/
def moveTimer (w : Workload J W) (serial : Nat) (s : Shift J W) : Shift J W :=
  match s.crew.pool.wake serial with
  | some (pool, events) => (s.setPool pool).handleAll w events
  | none =>
    match s.crew.pool.parked.find? fun k => k.ticket.serial == serial with
    | some k => s.setAlarm k.due (.timer serial)
    | none => s

/-- What a worker may use up in one move. -/
def budget : Nat := 128

/-- Moves a member. -/
def move (w : Workload J W) (s : Shift J W) : Member → Shift J W
  | .worker number => s.moveWorker w number budget
  | .timer serial => s.moveTimer w serial

/-- Stops the pool.  Parked jobs wake up, and the worker that listens finds the queue
closed. -/
def stop (s : Shift J W) : Shift J W :=
  let timers (task : Task) : Bool := task.pool == s.number && task.member.isTimer
  { s.setPool s.crew.pool.stop with agenda := s.agenda.interrupt timers }.awakenListener

end Shift

end ClusterOperator.Watchdog
