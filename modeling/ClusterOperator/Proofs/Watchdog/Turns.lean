import ClusterOperator.Proofs.Watchdog.Places
import Mathlib.Logic.Relation

/-!
# How the workers of a crew take turns

What a crew does is a sequence of steps (`Shift.Next`): one of the workers or parked jobs that can
move does, somebody submits a job or stops the pool, time goes on and alarms go off, or others that
share the agenda move.  Which worker moves, how far, and what the jobs do is left open.

Every step leaves each worker in one place (`Shift.Next.placed`).  So in every course of a crew its
pool is one that moves of the pool lead to, and when none of its workers can move and a job is
queued, all of them are polling that were not lost (`attends_of_start`).
-/

namespace ClusterOperator.Watchdog

variable {J W : Type}

/-! ## What a shift does to the workers -/

namespace Shift

variable {start q : Pool J} {free moving busy : Multiset Nat} {k : Nat} {s : Shift J W}
  {w : Workload J W}

/-- Where the workers are in the middle of a shift. -/
abbrev Placed (w : Workload J W) (start : Pool J) (free moving busy : Multiset Nat)
    (s : Shift J W) : Prop :=
  s.crew.Placed w start free moving busy s.number s.agenda

/-- **Others may fill the queue**: the worker that listens is awake then. -/
theorem awakenListener_placed (h : s.Placed w start free moving busy)
    (hmoving : ∀ k ∈ moving, k ∈ free) (hq : Pool.Bypasses w s.crew.pool q) :
    (s.setPool q).awakenListener.Placed w start free moving busy := by
  have hpolls : (q.running : Multiset (Ticket J)).map Ticket.serial =
      busy + (s.crew.polling : Multiset LongPoll).map LongPoll.serial := by
    rw [hq.running, h.polls]
  have hidle : q.idle + busy.card = s.crew.pool.idle + busy.card := by rw [hq.idle]
  rw [awakenListener]
  split
  · rename_i k hturn
    have hturn : s.crew.turn = some ⟨k, .listening⟩ := hturn
    have hroster := h.roster_awaken hmoving hturn
    have hawake : s.crew.Placed w start free moving busy s.number
        (s.agenda.awaken ⟨s.number, .worker k⟩) :=
      { h with
        roster := .inl hroster
        alarms := by simpa using h.alarms
        aside := by simpa using h.aside }
    exact hawake.pool hq.leads hq.still hidle hpolls (.inl hroster)
  · rename_i hturn
    refine h.pool hq.leads hq.still hidle hpolls (.inl (h.roster.resolve_right ?_))
    exact fun ⟨⟨⟨k, hlistening⟩, _⟩, _⟩ => hturn k hlistening

/-- Nothing happens to the workers when something else leaves the queue alone. -/
theorem setPool_placed (h : s.Placed w start free moving busy) (hq : Pool.Bypasses w s.crew.pool q)
    (hleaves : s.crew.pool.Leaves q) : (s.setPool q).Placed w start free moving busy := by
  refine h.pool hq.leads hq.still (by rw [hq.idle]) (by rw [hq.running, h.polls]) ?_
  refine h.roster.imp id fun ⟨⟨hturn, hqueue, hstopped⟩, _⟩ => ⟨hturn, ?_, ?_⟩
  · exact hleaves.queue.trans hqueue
  · exact hleaves.stopped.trans hstopped

theorem enqueue_placed (h : s.Placed w start free moving busy) (hmoving : ∀ k ∈ moving, k ∈ free)
    (id : String) (job : J) : (s.enqueue w id job).2.Placed w start free moving busy := by
  obtain ⟨hq, hevents⟩ := Pool.enqueue_bypasses h.still id job
  rw [enqueue]
  split
  · rename_i pool t henqueue
    rw [henqueue] at hq
    exact awakenListener_placed h hmoving hq
  · rename_i pool events hother henqueue
    rw [henqueue] at hq hevents
    have hplaced := setPool_placed h hq (hevents.resolve_left ?_)
    · exact hplaced
    · rintro ⟨t, rfl⟩
      exact hother t rfl

theorem finish_placed (h : s.Placed w start free moving busy) (hmoving : ∀ k ∈ moving, k ∈ free)
    (t : Ticket J) : (s.finish w t).Placed w start free moving busy := by
  rw [finish]
  split
  · exact h
  · rename_i next world _
    exact enqueue_placed (s := { s with world }) h hmoving t.id next

theorem handle_placed (h : s.Placed w start free moving busy) (hmoving : ∀ k ∈ moving, k ∈ free)
    (e : Event J) : (s.handle w e).Placed w start free moving busy := by
  cases e with
  | queued t =>
    have hself : Pool.Bypasses w s.crew.pool s.crew.pool := ⟨.refl _, h.still, rfl, rfl⟩
    exact awakenListener_placed h hmoving hself
  | parked p =>
    refine h.agenda (congrArg _ Agenda.roster_awaken_timer) ?_ ?_
    · simpa [handle, awaken] using h.alarms
    · simpa [handle, awaken] using h.aside
  | finished t => exact finish_placed h hmoving t
  | rejected | polling | dropped => exact h

theorem handleAll_placed (h : s.Placed w start free moving busy) (hmoving : ∀ k ∈ moving, k ∈ free)
    (events : List (Event J)) : (s.handleAll w events).Placed w start free moving busy := by
  induction events generalizing s with
  | nil => exact h
  | cons e events ih => exact ih (handle_placed h hmoving e)

/-! ### The turn -/

/-- **A worker that passes the turn on** is free; the next one in the line has it. -/
theorem passTurn_placed {stance : Stance} (h : s.Placed w start free {k} busy)
    (hturn : s.crew.turn = some ⟨k, stance⟩) :
    s.passTurn.Placed w start (k ::ₘ free) {k} busy ∧
      ∀ worker, s.passTurn.crew.turn ≠ some ⟨worker, .listening⟩ := by
  rw [passTurn]
  split
  · rename_i hline
    exact ⟨h.yield hturn hline, nofun⟩
  · rename_i next line hline
    exact ⟨h.handOver hturn hline, nofun⟩

/-! ### Polls -/

/-- **What a worker does in a move** leads to where it can go on, with something to do, or to
where it cannot. -/
def Goes (w : Workload J W) (start : Pool J) (k : Nat) : Bool × Shift J W → Prop
  | (true, s) => (∃ free, s.Placed w start free {k} 0) ∧ s.crew.turn ≠ some ⟨k, .listening⟩
  | (false, s) => ∃ free, s.Placed w start free 0 0

/-- A worker that does what some events ask for is free, and goes on. -/
theorem handleAll_goes (h : s.Placed w start free {k} 0) (hk : k ∈ free)
    (events : List (Event J)) : Goes w start k (true, s.handleAll w events) := by
  have hall := handleAll_placed (w := w) h (fun x hx => Multiset.mem_singleton.mp hx ▸ hk) events
  exact ⟨⟨free, hall⟩, hall.not_listening (Multiset.mem_add.mpr (.inl hk))⟩

/-- A worker that polls a job is done with it when the poll ends, or lost. -/
theorem conclude_goes {serial : Nat} (h : s.Placed w start free {k} {serial}) (hk : k ∈ free) :
    Goes w start k (s.conclude w serial) := by
  -- The job is among those that are polled, so its poll can end.
  obtain ⟨t, ht, hserial⟩ : ∃ t ∈ s.crew.pool.running, (t.serial == serial) = true := by
    have hserial : serial ∈ (s.crew.pool.running : Multiset (Ticket J)).map Ticket.serial := by
      rw [h.polls]
      simp
    obtain ⟨t, ht, hserial⟩ := Multiset.mem_map.mp hserial
    exact ⟨t, ht, beq_iff_eq.mpr hserial⟩
  rw [conclude]
  split
  · rename_i hfind
    exact absurd hserial (List.find?_eq_none.mp hfind t ht)
  · rename_i ticket _
    dsimp only
    split
    · rename_i hnone
      obtain ⟨r, hr⟩ := Pool.exists_extract (fun t => t.serial == serial) ht hserial
      simp [Pool.conclude, hr] at hnone
    · rename_i pool events hconclude
      let later : Shift J W :=
        { s.setPool pool with world := (w.conclude s.now ticket.job s.world).2 }
      have hq := Pool.conclude_concludes h.still ⟨_, _, _, rfl⟩ hconclude
      rcases h.concludes hk hq with ⟨hspared, hlater⟩ | ⟨hlost, free, hlater⟩
      · rw [hspared]
        exact handleAll_goes (s := later) hlater hk events
      · rw [hlost]
        exact ⟨free, handleAll_placed (s := later) hlater (by simp) events⟩

/-- A worker that begins a poll has ended it when it goes on, or is polling for some time. -/
theorem begin_goes {t : Ticket J} (h : s.Placed w start free {k} {t.serial}) (hk : k ∈ free) :
    Goes w start k (s.begin w k t) := by
  rw [begin]
  dsimp only
  split
  · exact conclude_goes (s := { s with world := (w.begin s.now t.job s.world).2 }) h hk
  · obtain ⟨free, rfl⟩ := Multiset.exists_cons_of_mem hk
    have hplaced := h.beginPoll
      ⟨k, t.serial, s.now + s.crew.pool.sleep (w.begin s.now t.job s.world).1⟩
    refine ⟨⟨free, hplaced⟩, hplaced.not_listening (k := k) ?_⟩
    simp [Crew.pollers]

theorem endPoll_goes {poll : LongPoll} (h : s.Placed w start free {poll.worker} 0)
    (hpoll : poll ∈ s.crew.polling) : Goes w start poll.worker (s.endPoll w poll) :=
  conclude_goes (h.endPoll hpoll) (Multiset.mem_cons_self _ _)

theorem passTurn_setPool : (s.setPool q).passTurn = s.passTurn.setPool q := by
  simp only [passTurn, setPool]
  split <;> rfl

theorem passTurn_pool : s.passTurn.crew.pool = s.crew.pool := by
  rw [passTurn]
  split <;> rfl

/-- **A worker that looks at the queue** takes a job, leaves, or listens. -/
theorem look_goes {stance : Stance} (h : s.Placed w start free {k} 0)
    (hturn : s.crew.turn = some ⟨k, stance⟩) : Goes w start k (s.look w k) := by
  -- Whatever the worker finds, it passes the turn on before it does anything else, so the rest is
  -- about the crew after that.
  obtain ⟨hpassed, hawake⟩ := passTurn_placed h hturn
  have hroster := hpassed.roster.resolve_right fun ⟨⟨⟨j, hlistens⟩, _⟩, _⟩ => hawake j hlistens
  have hk : k ∈ k ::ₘ free := Multiset.mem_cons_self k free
  rw [look]
  split
  · rename_i pool ticket htake
    rw [← passTurn_pool] at htake
    obtain ⟨hleads, hstill, t, ⟨hidle, hrunning, hevents⟩ | ⟨-, -, cause, hevents⟩⟩ :=
      Pool.take_cases hpassed.still htake
    · cases hevents
      rw [passTurn_setPool]
      refine begin_goes (s := s.passTurn.setPool pool) (hpassed.pool hleads hstill ?_ ?_ ?_) hk
      · rw [Multiset.card_singleton, hidle]
        rfl
      · rw [hrunning, Pool.coe_concat, Multiset.map_cons, hpassed.polls, zero_add,
          Multiset.singleton_add]
      · exact .inl hroster
    · cases hevents
  · rename_i pool events hother htake
    rw [← passTurn_pool] at htake
    obtain ⟨hleads, hstill, t, ⟨-, -, hevents⟩ | ⟨hidle, hrunning, -⟩⟩ :=
      Pool.take_cases hpassed.still htake
    · exact absurd hevents (hother t)
    · rw [passTurn_setPool]
      have hplaced : (s.passTurn.setPool pool).Placed w start (k ::ₘ free) {k} 0 :=
        hpassed.pool hleads hstill (by rw [hidle]) (by rw [hrunning, hpassed.polls]) (.inl hroster)
      exact handleAll_goes hplaced hk events
  · rename_i htake
    split
    · rename_i pool events hexit
      rw [← passTurn_pool] at hexit
      obtain ⟨hleads, hstill, hidle, hrunning⟩ := Pool.exit_eq hpassed.still hexit
      rw [passTurn_setPool]
      exact ⟨free, hpassed.dismiss hleads hstill (by simpa using hidle)
        (by rw [hrunning, hpassed.polls]) (.inl hroster)⟩
    · rename_i hexit
      exact ⟨free, h.listen hturn htake hexit⟩

/-- A worker that has done something goes on if it can, and as long as its budget lasts. -/
def goOn (w : Workload J W) (k budget : Nat) : Bool × Shift J W → Shift J W
  | (true, s) => s.moveWorker w k budget
  | (false, s) => s

theorem moveWorker_succ (budget : Nat) : s.moveWorker w k (budget + 1) =
    match s.crew.polling.find? fun p => p.worker == k with
    | some poll =>
      if s.now < poll.due then s.setAlarm poll.due (.worker k)
      else goOn w k budget (s.endPoll w poll)
    | none =>
      match s.crew.turn with
      | none => goOn w k budget (true, s.setTurn k .looking)
      | some turn =>
        if turn.worker ≠ k then s.lineUp k
        else if turn.stance = .granted then goOn w k budget (true, s.setTurn k .looking)
        else goOn w k budget (s.look w k) := rfl

theorem Goes.goOn {budget : Nat} {r : Bool × Shift J W}
    (ih : ∀ {s : Shift J W} {free : Multiset Nat}, s.Placed w start free {k} 0 →
      s.crew.turn ≠ some ⟨k, .listening⟩ →
      ∃ free, (s.moveWorker w k budget).Placed w start free 0 0)
    (h : Goes w start k r) : ∃ free, (goOn w k budget r).Placed w start free 0 0 := by
  obtain ⟨goes, s⟩ := r
  cases goes with
  | true =>
    obtain ⟨⟨free, hs⟩, hturn⟩ := h
    exact ih hs hturn
  | false => exact h

/-- **A worker that moves** until it waits, is gone, or has used up its budget. -/
theorem moveWorker_placed (budget : Nat) (h : s.Placed w start free {k} 0)
    (hbudget : budget = 0 → s.crew.turn ≠ some ⟨k, .listening⟩) :
    ∃ free, (s.moveWorker w k budget).Placed w start free 0 0 := by
  induction budget generalizing s free with
  | zero =>
    -- A worker only gives way when it has done something, and then it does not listen.
    refine ⟨free, h.agenda ?_ h.alarms ?_⟩
    · rw [zero_add]
      exact Agenda.roster_giveWay
    · intro j hj
      simp only [moveWorker, giveWay, Agenda.giveWay, workersOf_append, workersOf_worker,
        Multiset.mem_add, Multiset.mem_singleton] at hj
      rcases hj with hj | rfl
      · exact h.aside j hj
      · exact hbudget rfl
  | succ budget ih =>
    have hgoOn : ∀ {r}, Goes w start k r → ∃ free, (goOn w k budget r).Placed w start free 0 0 :=
      Goes.goOn fun hs hturn => ih hs fun _ => hturn
    have hk := h.mem_of_roster (Multiset.mem_add.mpr (.inl (Multiset.mem_singleton_self k)))
    rw [moveWorker_succ]
    split
    · rename_i poll hpoll
      obtain rfl : poll.worker = k := by simpa using List.find?_some hpoll
      have hmem := List.mem_of_find?_eq_some hpoll
      split
      · refine ⟨free, h.agenda ?_ ?_ h.aside⟩
        · rw [zero_add]
          exact Agenda.roster_setAlarm
        · intro j hj
          simp only [setAlarm, Agenda.setAlarm, List.map_append, List.map_singleton,
            workersOf_append, workersOf_worker, Multiset.mem_add, Multiset.mem_singleton] at hj
          rcases hj with hj | rfl
          · exact h.alarms j hj
          · exact List.mem_map_of_mem hmem
      · exact hgoOn (endPoll_goes h hmem)
    · rename_i hpoll
      have hpollers : k ∉ s.crew.pollers := by
        simpa [Crew.pollers] using List.find?_eq_none.mp hpoll
      split
      · rename_i hturn
        obtain ⟨free, rfl⟩ : ∃ others, free = k ::ₘ others := by
          refine Multiset.exists_cons_of_mem ?_
          simpa [Crew.holder, hturn, hpollers] using hk
        exact hgoOn ⟨⟨free, h.getTurn hturn⟩, by simp [setTurn]⟩
      · rename_i turn hturn
        split
        · rename_i hother
          obtain ⟨free, rfl⟩ : ∃ others, free = k ::ₘ others := by
            refine Multiset.exists_cons_of_mem ?_
            simpa [Crew.holder, hturn, hpollers, Ne.symm hother] using hk
          exact ⟨free, h.lineUp hturn⟩
        · rename_i hmine
          obtain ⟨worker, stance⟩ := turn
          obtain rfl : worker = k := not_not.mp hmine
          split
          · exact hgoOn ⟨⟨free, h.notice hturn⟩, by simp [setTurn]⟩
          · exact hgoOn (look_goes h hturn)

/-! ### Everybody else -/

theorem moveTimer_placed {serial : Nat} (h : s.Placed w start free 0 0) :
    (s.moveTimer w serial).Placed w start free 0 0 := by
  have hmoving : ∀ k ∈ (0 : Multiset Nat), k ∈ free := by simp
  rw [moveTimer]
  split
  · rename_i pool events hwake
    obtain ⟨hq, ⟨t, rfl⟩ | ⟨hleaves, -⟩⟩ := Pool.wake_bypasses h.still hwake
    · exact awakenListener_placed h hmoving hq
    · exact handleAll_placed (setPool_placed h hq hleaves) hmoving events
  · split
    · refine h.agenda ?_ ?_ h.aside <;>
        simp only [setAlarm, Agenda.setAlarm, Agenda.roster, List.map_append, List.map_singleton,
          workersOf_append, workersOf_timer, add_zero]
      exact h.alarms
    · exact h

theorem stop_placed (h : s.Placed w start free 0 0) : s.stop.Placed w start free 0 0 := by
  let timers (task : Task) : Bool := task.pool == s.number && task.member.isTimer
  let later : Shift J W := { s with agenda := s.agenda.interrupt timers }
  have hlater : later.Placed w start free 0 0 := h.goOff fun alarm => timers alarm.2
  have hstop : Pool.Bypasses w later.crew.pool later.crew.pool.stop :=
    ⟨.of_step (m := .stop) (Workload.gives_of_none rfl) rfl,
      ⟨h.still.taken, h.still.arriving, h.still.entering⟩, rfl, rfl⟩
  exact awakenListener_placed hlater (by simp) hstop

/-! ### Every course of a crew -/

/-- **What can happen to a crew next.**  The agenda and the world may be shared with others. -/
inductive Next (w : Workload J W) (s : Shift J W) : Shift J W → Prop where
  /-- One of the workers that can move does, with some budget. -/
  | worker (before after : List Task) (k budget : Nat) :
      s.agenda.ready = before ++ ⟨s.number, .worker k⟩ :: after →
      Next w s ({ s with agenda := { s.agenda with ready := before ++ after } }.moveWorker w k
        (budget + 1))
  /-- One of the parked jobs that can move does. -/
  | timer (before after : List Task) (serial : Nat) :
      s.agenda.ready = before ++ ⟨s.number, .timer serial⟩ :: after →
      Next w s ({ s with agenda := { s.agenda with ready := before ++ after } }.moveTimer w serial)
  /-- Somebody submits a job. -/
  | enqueue (id : String) (job : J) : Next w s (s.enqueue w id job).2
  | stop : Next w s s.stop
  /-- Those that stand aside come back. -/
  | comeBack : Next w s { s with agenda := s.agenda.comeBack }
  /-- Time goes on, and alarms go off. -/
  | tick (ms time : Nat) :
      Next w s { s with
        crew := { s.crew with pool := s.crew.pool.tick ms }
        agenda := s.agenda.ring time }
  /-- Somebody waits for the workers. -/
  | join : Next w s { s with crew := { s.crew with joined := true } }
  /-- Others move, and leave the tasks of this crew alone. -/
  | others (agenda : Agenda Task) (world : W) : agenda.own s.number = s.agenda.own s.number →
      Next w s { s with agenda, world }

/-- **What happens to a crew** in the course of time. -/
abbrev Course (w : Workload J W) : Shift J W → Shift J W → Prop := Relation.ReflTransGen (Next w)

theorem Next.placed {t : Shift J W} (h : Next w s t) (hs : s.Placed w start free 0 0) :
    ∃ free, t.Placed w start free 0 0 := by
  cases h with
  | worker before after k budget hready =>
    refine moveWorker_placed (budget + 1) (hs.agenda ?_ hs.alarms hs.aside) nofun
    rw [zero_add]
    exact Agenda.roster_of_worker hready
  | timer before after serial hready =>
    refine ⟨free, moveTimer_placed (hs.agenda ?_ hs.alarms hs.aside)⟩
    exact congrArg _ (Agenda.roster_of_timer hready)
  | enqueue id job => exact ⟨free, enqueue_placed hs (by simp) id job⟩
  | stop => exact ⟨free, stop_placed hs⟩
  | comeBack =>
    refine ⟨free, hs.agenda (congrArg _ Agenda.roster_comeBack) hs.alarms ?_⟩
    simp [Agenda.comeBack, workersOf]
  | tick ms time =>
    have hlater := hs.goOff fun alarm => decide (alarm.1 ≤ time)
    exact ⟨free, hlater.pool (.of_step (m := .tick ms) (Workload.gives_of_none rfl) rfl)
      ⟨hs.still.taken, hs.still.arriving, hs.still.entering⟩ rfl hs.polls
      (hlater.roster.imp id And.left)⟩
  | join => exact ⟨free, { hs with }⟩
  | others agenda world hown =>
    obtain ⟨hready, haside, halarms⟩ := s.agenda.workersOf_own s.number
    obtain ⟨hready', haside', halarms'⟩ := agenda.workersOf_own s.number
    rw [hown, hready] at hready'
    rw [hown, haside] at haside'
    rw [hown, halarms] at halarms'
    refine ⟨free, hs.agenda ?_ ?_ ?_⟩
    · simp only [Agenda.roster, hready', haside', halarms']
    · exact halarms' ▸ hs.alarms
    · exact haside' ▸ hs.aside

theorem Course.placed {t : Shift J W} (h : Course w s t) (hs : s.Placed w start free 0 0) :
    ∃ free, t.Placed w start free 0 0 := by
  induction h with
  | refl => exact ⟨free, hs⟩
  | tail _ hnext ih =>
    obtain ⟨free, hplaced⟩ := ih
    exact hnext.placed hplaced

end Shift

/-! ## The workers of a pool -/

/-- A crew is about to begin: each of its workers can move, and none has. -/
structure Shift.Begins (start : Pool J) (s : Shift J W) : Prop where
  crew : s.crew = { pool := start }
  agenda : s.agenda.own s.number =
    { ready := (List.range start.idle).map fun k => ⟨s.number, .worker k⟩ }

/-- No poll of a workload panics. -/
def Workload.Calm (w : Workload J W) : Prop :=
  ∀ now job world, (w.conclude now job world).1.outcome ≠ .panicked

/-- **How the workers of a crew attend to the queue**, when so many of them have begun. -/
structure Crew.Attends (w : Workload J W) (workers : Nat) (start : Pool J) (number : Nat)
    (c : Crew J) (a : Agenda Task) : Prop where
  /-- Moves of the pool have led here, so it serves its queue; and when no worker can move and a
  job is queued, all workers are polling that were not lost. -/
  serves : ∃ moves trace, start.run moves = some (c.pool, trace) ∧ (∀ m ∈ moves, w.Gives m) ∧
    Pool.Serves workers start moves c.pool trace ∧
    (a.Quiet number → c.pool.queue ≠ [] →
      c.polling.length + losses (trace.map Prod.snd) = workers)
  /-- None is lost as long as the pauses have lengths and no poll panics. -/
  busy : start.backoff.Paced → w.Calm → a.Quiet number → c.pool.queue ≠ [] →
    c.polling.length = workers
  /-- No worker polls two jobs, -/
  distinct : (c.polling.map LongPoll.worker).Nodup
  /-- and each job that is polled is so by one of them. -/
  polled : (c.pool.running.map Ticket.serial).Perm (c.polling.map LongPoll.serial)

theorem Workload.Gives.not_panics {w : Workload J W} {m : Move J} (h : w.Gives m)
    (calm : w.Calm) : m.panics = false := by
  cases m with
  | conclude serial result =>
    obtain ⟨now, job, world, rfl⟩ := h result rfl
    have hcalm := calm now job world
    cases hresult : (w.conclude now job world).1 with
    | panicked => exact absurd (by rw [hresult]; rfl) hcalm
    | pending | finished | failed => rfl
  | _ => rfl

theorem Shift.Begins.placed {start : Pool J} {s : Shift J W} (h : s.Begins start)
    (still : start.Still) (running : start.running = []) :
    s.Placed w start (List.range start.idle : List Nat) 0 0 := by
  obtain ⟨number, crew, agenda, world⟩ := s
  obtain ⟨rfl, hagenda⟩ := h
  obtain ⟨hready, haside, halarms⟩ := agenda.workersOf_own number
  rw [hagenda] at hready haside halarms
  exact {
    leads := .refl start
    still
    distinct := by simpa [Crew.holder, Crew.pollers] using List.nodup_range
    idle := by simp [Crew.holder]
    polls := by simp [running]
    roster := by
      refine .inl ?_
      rw [Agenda.roster, ← hready, ← haside, ← halarms, workersOf_workers]
      simp [workersOf_nil, Crew.holder, Crew.pollers]
    alarms := by simp [← halarms, workersOf_nil]
    aside := nofun
    line := fun _ => rfl }

theorem Pool.start_still {workers : Nat} {backoff : Backoff} {start : Pool J}
    (h : startPool workers backoff = .ok start) : start.Still ∧ start.running = [] := by
  rw [startPool] at h
  split at h <;> cases h
  exact ⟨⟨rfl, rfl, rfl⟩, rfl⟩

/-- In every course of a crew its workers attend to the queue. -/
theorem Shift.Course.attends {workers : Nat} {backoff : Backoff} {start : Pool J}
    {sleep : Nat → Nat} {now : Nat} {w : Workload J W} {s t : Shift J W}
    (hstart : startPool workers backoff = .ok start)
    (hbegins : s.Begins { start with sleep, now }) (hcourse : s.Course w t) :
    t.crew.Attends w workers { start with sleep, now } t.number t.agenda := by
  obtain ⟨still, running⟩ := Pool.start_still hstart
  obtain ⟨free, hplaced⟩ := hcourse.placed
    (hbegins.placed ⟨still.taken, still.arriving, still.entering⟩ running)
  obtain ⟨moves, trace, hrun, hgives⟩ := hplaced.leads
  have hserves := Pool.serves_of_run hstart hrun
  have hpolled : (t.crew.pool.running.map Ticket.serial).Perm
      (t.crew.polling.map LongPoll.serial) := by
    rw [← Multiset.coe_eq_coe, ← Multiset.map_coe, hplaced.polls, zero_add, Multiset.map_coe]
  have hbusy : t.agenda.Quiet t.number → t.crew.pool.queue ≠ [] →
      t.crew.polling.length + losses (trace.map Prod.snd) = workers := by
    intro quiet hqueue
    have hlength := hpolled.length_eq
    rw [List.length_map, List.length_map] at hlength
    rw [← hlength]
    exact (Pool.run_tallied hrun (Pool.start_tallied hstart)).busy
      (hplaced.idle_eq_zero quiet hqueue) hplaced.still.taken hqueue
  refine ⟨⟨moves, trace, hrun, hgives, hserves, hbusy⟩, ?_, ?_, hpolled⟩
  · intro paced calm quiet hqueue
    have hspared := hserves.spared paced fun m hm => (hgives m hm).not_panics calm
    rw [← hbusy quiet hqueue, hspared, add_zero]
  · exact Multiset.coe_nodup.mp (Multiset.nodup_add.mp hplaced.distinct).2.1

/-- **How the workers of a pool attend to its queue**, whatever is submitted to it, how long its
polls take and how they end, in which order its workers and timers move, when it is stopped, and
what others do in between. -/
theorem attends_of_start {workers : Nat} {backoff : Backoff} {start : Pool J}
    (hstart : startPool workers backoff = .ok start) (sleep : Nat → Nat) (now : Nat) :
    (∀ (moves : List (Move J)) (p : Pool J) (trace : List (Nat × Event J)),
      ({ start with sleep, now } : Pool J).run moves = some (p, trace) →
        Pool.Serves workers { start with sleep, now } moves p trace) ∧
      ∀ (w : Workload J W) (s t : Shift J W), s.Begins { start with sleep, now } →
        s.Course w t →
          t.crew.Attends w workers { start with sleep, now } t.number t.agenda :=
  ⟨fun _ _ _ hrun => Pool.serves_of_run hstart hrun,
    fun _ _ _ hbegins hcourse => hcourse.attends hstart hbegins⟩

/-- Two workers and three jobs.  In a run of the pool the first job is parked, so its worker takes
the third one, and the first is queued again behind it.  In a course of the crew one worker
listens and the other waits for the turn when the jobs are submitted; each polls one then, and the
third is queued. -/
theorem attends_of_start_of_three_jobs :
    ∃ (start p : Pool Unit) (moves : List (Move Unit)) (trace : List (Nat × Event Unit))
      (w : Workload Unit Unit) (s t : Shift Unit Unit),
      startPool 2 (OperatorConfig.watchdogBackoff {}) = .ok start ∧
      start.run moves = some (p, trace) ∧
      (deposits (trace.map Prod.snd)).map Ticket.serial = [0, 1, 2, 0] ∧
      Pool.Serves 2 start moves p trace ∧
      s.Begins start ∧ s.Course w t ∧ t.agenda.ready ++ t.agenda.aside = [] ∧
      t.crew.pool.queue.length = 1 ∧ t.crew.Attends w 2 start t.number t.agenda := by
  let start : Pool Unit := .start 2 (OperatorConfig.watchdogBackoff {})
  let moves : List (Move Unit) :=
    [.arrive "a" (), .register 0, .enter 0, .receive, .begin 0, .arrive "b" (), .register 1,
      .enter 1, .receive, .arrive "c" (), .register 2, .enter 2, .conclude 0 (.pending ()),
      .begin 1, .receive, .tick 5000, .wake 0, .begin 2]
  let w : Workload Unit Unit :=
    { begin := fun _ _ world => (1000, world),
      conclude := fun _ job world => (.pending job, world) }
  let s : Shift Unit Unit :=
    ⟨0, { pool := start }, { ready := [⟨0, .worker 0⟩, ⟨0, .worker 1⟩] }, ()⟩
  have hrun : (start.run moves).map (fun r => (deposits (r.2.map Prod.snd)).map Ticket.serial) =
      some [0, 1, 2, 0] := by
    decide +kernel
  obtain ⟨⟨p, trace⟩, hrun, hdeposits⟩ := Option.map_eq_some_iff.mp hrun
  have hcourse : ∃ t, s.Course w t ∧ t.agenda.ready ++ t.agenda.aside = [] ∧
      t.crew.pool.queue.length = 1 := by
    refine ⟨_, .tail (.tail (.tail (.tail (.tail (.tail (.tail .refl
      (.worker [] _ 0 127 rfl)) (.worker [] [] 1 127 ?_)) (.enqueue "a" ()))
      (.worker [] [] 0 127 ?_)) (.enqueue "b" ())) (.enqueue "c" ()))
      (.worker [] [] 1 127 ?_), ?_, ?_⟩
    all_goals decide +kernel
  obtain ⟨t, hcourse, hquiet, hqueue⟩ := hcourse
  have hstart : startPool 2 (OperatorConfig.watchdogBackoff {}) = .ok start := rfl
  have hbegins : s.Begins start := ⟨rfl, rfl⟩
  obtain ⟨hserves, hattends⟩ := attends_of_start (W := Unit) hstart id 0
  exact ⟨start, p, moves, trace, w, s, t, hstart, hrun, hdeposits, hserves moves p trace hrun,
    hbegins, hcourse, hquiet, hqueue, hattends w s t hbegins hcourse⟩

end ClusterOperator.Watchdog
