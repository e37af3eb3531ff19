import ClusterOperator.Watchdog.Crew

/-!
# Pools on one clock

Several pools whose jobs work on one world share an agenda and a clock.  The clock goes
on only when nobody has anything left to do.  Going on to a time lets everything happen
that happens before, in order; what happens at that time itself may be left for later.

Tasks move in rounds.  A round ends when nobody can move, or after a fixed number of
moves; then those that stand aside come back, and whoever waits for the workers of a
pool has a look at them.

Nobody sleeps for more than thirty years at a time: the clock cuts longer sleeps short.
-/

namespace ClusterOperator.Watchdog

/-- Pools that share a clock, an agenda and a world. -/
structure Timetable (J W : Type) where
  crews : List (Crew J) := []
  agenda : Agenda Task := {}
  world : W
  now : Nat := 0

namespace Timetable

variable {J W : Type}

/-- The longest sleep, in milliseconds: thirty years of 365 days. -/
def longestSleep : Nat := 30 * 365 * 86400 * 1000

/-- How long somebody sleeps who asks for so many milliseconds. -/
def sleep (ms : Nat) : Nat := min ms longestSleep

/-- Adds a pool, whose workers are about to begin; answers its number. -/
def addPool (t : Timetable J W) (p : Pool J) : Nat × Timetable J W :=
  let number := t.crews.length
  let workers := (List.range p.idle).map fun n => (⟨number, .worker n⟩ : Task)
  (number,
    { t with
      crews := t.crews ++ [{ pool := { p with now := t.now, sleep } }]
      agenda := t.agenda.add workers })

/-- The pool of a number. -/
def pool? (t : Timetable J W) (number : Nat) : Option (Pool J) :=
  (t.crews[number]?).map fun c => c.pool

/-- Lets something happen to one pool. -/
def onPool {α : Type} (t : Timetable J W) (number : Nat) (default : α)
    (f : Shift J W → α × Shift J W) : α × Timetable J W :=
  match t.crews[number]? with
  | none => (default, t)
  | some crew =>
    let (a, s) := f { number, crew, agenda := t.agenda, world := t.world }
    (a, { t with crews := t.crews.set number s.crew, agenda := s.agenda, world := s.world })

/-- Submits a job to a pool; answers whether it was accepted. -/
def enqueue (w : Workload J W) (t : Timetable J W) (number : Nat) (id : String) (job : J) :
    Bool × Timetable J W :=
  t.onPool number false fun s => s.enqueue w id job

/-- Stops a pool. -/
def stop (t : Timetable J W) (number : Nat) : Timetable J W :=
  (t.onPool number () fun s => ((), s.stop)).2

/-- Moves a task. -/
def move (w : Workload J W) (t : Timetable J W) (task : Task) : Timetable J W :=
  (t.onPool task.pool () fun s => ((), s.move w task.member)).2

/-- Moves the tasks at the front of the line, so many at most. -/
def moveSome (w : Workload J W) : (moves : Nat) → Timetable J W → Timetable J W
  | 0, t => t
  | moves + 1, t =>
    match t.agenda.ready with
    | [] => t
    | task :: ready =>
      let t := { t with agenda := { t.agenda with ready } }
      moveSome w moves (t.move w task)

/-- How many moves a round has at most. -/
def movesOfRound : Nat := 61

/-- A round of moves, after which those that stand aside come back. -/
def round (w : Workload J W) (t : Timetable J W) : Timetable J W :=
  let t := moveSome w movesOfRound t
  { t with agenda := t.agenda.comeBack }

/-- Lets time go on to a time before which there is no alarm; the alarms of that time
go off. -/
def moveTo (t : Timetable J W) (time : Nat) : Timetable J W :=
  { t with
    crews := t.crews.map fun c => { c with pool := c.pool.tick (time - c.pool.now) }
    agenda := t.agenda.ring time
    now := time }

/-- The rounds and the times that are gone through, at most. -/
def fuel : Nat := 1000000

/-- Lets everything happen that can happen now, in so many rounds at most. -/
def settleIn (w : Workload J W) : (rounds : Nat) → Timetable J W → Timetable J W
  | 0, t => t
  | rounds + 1, t => if t.agenda.isQuiet then t else settleIn w rounds (t.round w)

/-- Lets everything happen that can happen now. -/
def settle (w : Workload J W) (t : Timetable J W) : Timetable J W := settleIn w fuel t

/-- Goes on to `target` and leaves for later what happens then; stops early when
`enough` holds at the end of a round. -/
def goOn (w : Workload J W) (target : Nat) (enough : Timetable J W → Bool) :
    (fuel : Nat) → Timetable J W → Timetable J W
  | 0, t => t
  | fuel + 1, t =>
    if enough t then t
    else if t.agenda.isQuiet then
      match t.agenda.nextAlarm? with
      | some time =>
        if time < target then goOn w target enough fuel (t.moveTo time) else t.moveTo target
      | none => t.moveTo target
    else goOn w target enough fuel (t.round w)

/-- Lets `ms` milliseconds pass.  What happens at the end of them is left for later. -/
def pass (w : Workload J W) (t : Timetable J W) (ms : Nat) : Timetable J W :=
  if ms = 0 then t else goOn w (t.now + sleep ms) (fun _ => false) fuel t

/-- Lets `ms` milliseconds pass, and everything happen that happens at the end. -/
def advance (w : Workload J W) (t : Timetable J W) (ms : Nat) : Timetable J W :=
  (t.pass w ms).settle w

/-- Whether a pool has a worker left. -/
def hasWorkers (t : Timetable J W) (number : Nat) : Bool :=
  (t.pool? number).any Pool.hasWorkers

/-- Waits until the workers of a pool are gone, at most `limit` milliseconds; answers
whether they are.  The workers are waited for once: a second wait is over at once. -/
def join (w : Workload J W) (t : Timetable J W) (number limit : Nat) : Bool × Timetable J W :=
  let (waited, t) :=
    t.onPool number true fun s => (s.crew.joined, { s with crew := { s.crew with joined := true } })
  if waited then (true, t)
  else
    let t := goOn w (t.now + limit) (fun t => !t.hasWorkers number) fuel t
    (!t.hasWorkers number, t)

end Timetable

end ClusterOperator.Watchdog
