/-!
# Agendas

An agenda says which tasks can move, and in which order they do.  A task that can move
stands in a line.  One that has moved for too long gives way: it stands aside until the
others had their chance, and of several that stand aside the last one is the first to
come back.  A task that waits for a time has an alarm.  Alarms go off in the order of
their times, and those of one time in the order in which they were set.
-/

namespace ClusterOperator.Watchdog

/-- What tasks of type `T` are about to do. -/
structure Agenda (T : Type) where
  /-- The tasks that can move, first come first. -/
  ready : List T := []
  /-- The tasks that gave way, in that order. -/
  aside : List T := []
  /-- Tasks that move again at a time, in the order in which that was arranged. -/
  alarms : List (Nat × T) := []
  deriving Repr

namespace Agenda

variable {T : Type}

/-- Puts tasks at the end of the line. -/
def add (a : Agenda T) (tasks : List T) : Agenda T := { a with ready := a.ready ++ tasks }

/-- Lets a task move, unless it is about to anyway. -/
def awaken [DecidableEq T] (a : Agenda T) (task : T) : Agenda T :=
  if task ∈ a.ready then a else a.add [task]

/-- Lets a task stand aside. -/
def giveWay (a : Agenda T) (task : T) : Agenda T := { a with aside := a.aside ++ [task] }

/-- Lets those that stand aside come back. -/
def comeBack (a : Agenda T) : Agenda T :=
  { a with ready := a.ready ++ a.aside.reverse, aside := [] }

/-- Moves a task again at a time. -/
def setAlarm (a : Agenda T) (due : Nat) (task : T) : Agenda T :=
  { a with alarms := a.alarms ++ [(due, task)] }

/-- Lets the tasks that a test picks move now and not at their alarms. -/
def interrupt (a : Agenda T) (picked : T → Bool) : Agenda T :=
  let (now, later) := a.alarms.partition fun alarm => picked alarm.2
  { a with ready := a.ready ++ now.map (·.2), alarms := later }

/-- Lets the alarms up to a time go off. -/
def ring (a : Agenda T) (time : Nat) : Agenda T :=
  let (now, later) := a.alarms.partition fun alarm => decide (alarm.1 ≤ time)
  { a with ready := a.ready ++ now.map (·.2), alarms := later }

/-- The time of the next alarm. -/
def nextAlarm? (a : Agenda T) : Option Nat := (a.alarms.map (·.1)).min?

/-- Whether nothing can move before time goes on. -/
def isQuiet (a : Agenda T) : Bool := a.ready.isEmpty && a.aside.isEmpty

end Agenda

end ClusterOperator.Watchdog
