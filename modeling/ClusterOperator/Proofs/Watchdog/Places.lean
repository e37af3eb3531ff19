import ClusterOperator.Proofs.Watchdog.Lives
import ClusterOperator.Proofs.Watchdog.Order
import Mathlib.Tactic.Abel

/-!
# Where the workers of a crew are

Between two moves each worker of a crew is in one place (`Crew.Placed`): it has the turn at the
queue, waits for the turn, polls, is free to get the turn, or is gone.  Those that neither poll
nor are gone are the idle workers of the pool, however the turn goes round among them.

A worker that waits for the turn is not on the agenda; the turn is passed on to it.  All others
are on the agenda once, with one exception: the worker that has the turn and listens is not, as
long as nothing is queued and the pool is not stopped (`Crew.Dozes`).  Whoever puts a job into the
queue or closes it awakens the listener (`Crew.Placed.roster_awaken`).  So a job cannot be queued
while a worker is idle and none can move (`Crew.Placed.idle_eq_zero`).

Here are the changes a crew goes through, one lemma for each: a worker gets the turn, notices that
it has it, waits for it, passes it on, listens; it begins and ends a poll that takes time; it is
lost or leaves; the pool moves on without it.
-/

namespace ClusterOperator.Watchdog

variable {J W : Type} {w : Workload J W}

/-! ## What a crew asks of its pool -/

/-- Polls end with a move as the workload has them end. -/
def Workload.Gives (w : Workload J W) (m : Move J) : Prop :=
  ∀ result, m.result? = some result → ∃ now job world, (w.conclude now job world).1 = result

theorem Workload.gives_of_none {m : Move J} (h : m.result? = none) : w.Gives m :=
  fun _ hresult => nomatch h.symm.trans hresult

namespace Pool

variable {p q r : Pool J} {events : List (Event J)} {serial : Nat} {m : Move J}

/-- Moves lead from one pool to the other, with the polls of a workload. -/
def Leads (w : Workload J W) (p q : Pool J) : Prop :=
  ∃ moves trace, p.run moves = some (q, trace) ∧ ∀ m ∈ moves, w.Gives m

theorem run_append {first rest : List (Move J)} {past trace : List (Nat × Event J)}
    (hfirst : p.run first = some (q, past)) (hrest : q.run rest = some (r, trace)) :
    p.run (first ++ rest) = some (r, past ++ trace) := by
  induction first generalizing p past with
  | nil =>
    cases hfirst
    exact hrest
  | cons m first ih =>
    obtain ⟨p', events, later, hstep, hlater, rfl⟩ := run_cons_eq_some hfirst
    rw [List.cons_append, run, hstep]
    simp only [ih hlater, Option.map_some, List.append_assoc]

theorem Leads.refl (p : Pool J) : Leads w p p := ⟨[], [], rfl, List.forall_mem_nil _⟩

theorem Leads.trans (hpq : Leads w p q) (hqr : Leads w q r) : Leads w p r := by
  obtain ⟨first, past, hfirst, hgives⟩ := hpq
  obtain ⟨rest, trace, hrest, hgives'⟩ := hqr
  exact ⟨_, _, run_append hfirst hrest, List.forall_mem_append.mpr ⟨hgives, hgives'⟩⟩

theorem Leads.of_step (hm : w.Gives m) (h : p.step m = some (q, events)) : Leads w p q :=
  ⟨[m], events.map (fun e => (p.now, e)), by simp [run, h], List.forall_mem_singleton.mpr hm⟩

/-- Nobody is in the middle of a submission, or has taken a job and not begun to poll it. -/
structure Still (p : Pool J) : Prop where
  taken : p.taken = []
  arriving : p.arriving = []
  entering : p.entering = []

/-- **Moves that concern no worker** lead from one pool to the other. -/
structure Bypasses (w : Workload J W) (p q : Pool J) : Prop where
  leads : Leads w p q
  still : q.Still
  idle : q.idle = p.idle
  running : q.running = p.running

/-- Nothing is put into the queue, and it is not closed. -/
structure Leaves (p q : Pool J) : Prop where
  queue : q.queue = p.queue
  stopped : q.stopped = p.stopped

theorem enqueue_bypasses (still : p.Still) (id : String) (job : J) :
    Bypasses w p (p.enqueue id job).1 ∧
      ((∃ t, (p.enqueue id job).2 = [.queued t]) ∨ Leaves p (p.enqueue id job).1) := by
  have hleads : Leads w p (p.enqueue id job).1 := by
    obtain ⟨moves, hmoves, hrun⟩ := enqueue_eq_run still.arriving still.entering id job
    exact ⟨moves, _, hrun, fun m hm => Workload.gives_of_none (hmoves m hm)⟩
  revert hleads
  rw [enqueue]
  split
  · exact fun hleads => ⟨⟨hleads, still, rfl, rfl⟩, .inr ⟨rfl, rfl⟩⟩
  · dsimp only
    split
    · exact fun hleads => ⟨⟨hleads, ⟨still.taken, still.arriving, still.entering⟩, rfl, rfl⟩,
        .inr ⟨rfl, rfl⟩⟩
    · rename_i registered hregister
      obtain ⟨-, rfl⟩ := register_eq_some_iff.mp hregister
      rw [enter]
      split
      · exact fun hleads => ⟨⟨hleads, ⟨still.taken, still.arriving, still.entering⟩, rfl, rfl⟩,
          .inl ⟨_, rfl⟩⟩
      · exact fun hleads => ⟨⟨hleads, ⟨still.taken, still.arriving, still.entering⟩, rfl, rfl⟩,
          .inr ⟨rfl, rfl⟩⟩

theorem wake_bypasses (still : p.Still) (h : p.wake serial = some (q, events)) :
    Bypasses w p q ∧ ((∃ t, events = [.queued t]) ∨
      Leaves p q ∧ ∃ t cause, events = [.dropped t cause]) := by
  have hleads : Leads w p q := .of_step (m := .wake serial) (Workload.gives_of_none rfl) h
  rw [wake] at h
  split at h
  · cases h
  · split at h
    · split at h <;> cases h
      · exact ⟨⟨hleads, ⟨still.taken, still.arriving, still.entering⟩, rfl, rfl⟩, .inl ⟨_, rfl⟩⟩
      · exact ⟨⟨hleads, ⟨still.taken, still.arriving, still.entering⟩, rfl, rfl⟩,
          .inr ⟨⟨rfl, rfl⟩, _, _, rfl⟩⟩
    · cases h

/-- A worker that takes a job begins to poll it, or drops it since the pool is stopped. -/
theorem take_cases (still : p.Still) (h : p.take = some (q, events)) :
    Leads w p q ∧ q.Still ∧ ∃ t,
      (q.idle + 1 = p.idle ∧ q.running = p.running ++ [t] ∧ events = [.polling t] ∨
        q.idle = p.idle ∧ q.running = p.running ∧ ∃ cause, events = [.dropped t cause]) := by
  have hleads : Leads w p q := by
    obtain ⟨moves, hmoves, hrun⟩ := take_eq_run still.taken h
    exact ⟨moves, _, hrun, fun m hm => Workload.gives_of_none (hmoves m hm)⟩
  rw [take] at h
  split at h
  · rename_i idle t queue hidle hqueue
    rw [begin] at h
    split at h <;> cases h
    · exact ⟨hleads, ⟨still.taken, still.arriving, still.entering⟩, t,
        .inr ⟨hidle.symm, rfl, _, rfl⟩⟩
    · exact ⟨hleads, ⟨still.taken, still.arriving, still.entering⟩, _,
        .inl ⟨hidle.symm, rfl, rfl⟩⟩
  · cases h

theorem exit_eq (still : p.Still) (h : p.exit = some (q, events)) :
    Leads w p q ∧ q.Still ∧ q.idle + 1 = p.idle ∧ q.running = p.running := by
  have hleads : Leads w p q := .of_step (m := .exit) (Workload.gives_of_none rfl) h
  rw [exit] at h
  split at h
  · rename_i idle hidle
    split at h <;> cases h
    exact ⟨hleads, ⟨still.taken, still.arriving, still.entering⟩, hidle.symm, rfl⟩
  · cases h

/-- An idle worker that finds nothing to do is in a pool that is not stopped and has no job
queued. -/
theorem nothing_to_do (hidle : p.idle ≠ 0) (htake : p.take = none) (hexit : p.exit = none) :
    p.queue = [] ∧ p.stopped = false := by
  obtain ⟨idle, hidle⟩ := Nat.exists_eq_succ_of_ne_zero hidle
  have hqueue : p.queue = [] := by
    cases hqueue : p.queue with
    | nil => rfl
    | cons t queue => simp [take, hidle, hqueue] at htake
  refine ⟨hqueue, ?_⟩
  cases hstopped : p.stopped with
  | false => rfl
  | true => simp [exit, hidle, hqueue, hstopped] at hexit

/-- What the end of a poll means for the workers. -/
structure Concludes (w : Workload J W) (p q : Pool J) (serial : Nat) (events : List (Event J)) :
    Prop where
  leads : Leads w p q
  still : q.Still
  running : (p.running : Multiset (Ticket J)).map Ticket.serial =
    serial ::ₘ (q.running : Multiset (Ticket J)).map Ticket.serial
  queue : p.queue = [] → q.queue = []
  stopped : q.stopped = p.stopped
  /-- The worker is idle again, or lost. -/
  idle : events.any Shift.losesWorker = false ∧ q.idle = p.idle + 1 ∨
    events.any Shift.losesWorker = true ∧ q.idle = p.idle

theorem conclude_concludes {result : PollEnd J} (still : p.Still)
    (hresult : ∃ now job world, (w.conclude now job world).1 = result)
    (h : p.conclude serial result = some (q, events)) : Concludes w p q serial events := by
  have hleads : Leads w p q := by
    refine .of_step (m := .conclude serial result) ?_ h
    rintro _ ⟨⟩
    exact hresult
  have hstill : ∀ {q : Pool J}, q.taken = p.taken → q.arriving = p.arriving →
      q.entering = p.entering → q.Still := fun htaken harriving hentering =>
    ⟨htaken ▸ still.taken, harriving ▸ still.arriving, hentering ▸ still.entering⟩
  have hrunning : ∀ {t : Ticket J} {running : List (Ticket J)},
      extract (fun t => t.serial == serial) p.running = some (t, running) →
        (p.running : Multiset (Ticket J)).map Ticket.serial =
          serial ::ₘ (running : Multiset (Ticket J)).map Ticket.serial := by
    intro t running hextract
    rw [extract_eq hextract, Multiset.map_cons, serial_of_extract hextract]
  rcases conclude_cases h with spared | ⟨t, u, running, hextract, heq⟩
  · have hspared : events.any Shift.losesWorker = false := by
      simpa using spared
    rw [conclude] at h
    split at h
    · cases h
    · rename_i t running hextract
      cases result with
      | panicked job =>
        cases h
        exact absurd spared not_spared_lose
      | finished job | failed job =>
        cases h
        exact ⟨hleads, hstill rfl rfl rfl, hrunning hextract, fun h => h, rfl,
          .inl ⟨hspared, rfl⟩⟩
      | pending job =>
        simp only [settle] at h
        split at h <;> cases h
        · exact absurd spared not_spared_lose
        · exact ⟨hleads, hstill rfl rfl rfl, hrunning hextract, fun h => h, rfl,
            .inl ⟨hspared, rfl⟩⟩
  · obtain ⟨rfl, rfl⟩ := Prod.ext_iff.mp heq
    by_cases hworkers : ({ p with running } : Pool J).hasWorkers = true
    · simp only [lose, abandon, hworkers, if_true] at hleads ⊢
      exact ⟨hleads, hstill rfl rfl rfl, hrunning hextract, fun h => h, rfl, .inr ⟨rfl, rfl⟩⟩
    · simp only [lose, abandon, hworkers, if_false, Bool.false_eq_true] at hleads ⊢
      exact ⟨hleads, hstill rfl rfl rfl, hrunning hextract, fun _ => rfl, rfl, .inr ⟨rfl, rfl⟩⟩

end Pool

/-! ## Who is on the agenda -/

/-- The number of a worker of one pool. -/
def Task.worker? (number : Nat) (task : Task) : Option Nat :=
  match task.member with
  | .worker k => if task.pool = number then some k else none
  | .timer _ => none

/-- The workers of a pool among some tasks. -/
def workersOf (number : Nat) (tasks : List Task) : Multiset Nat :=
  (tasks.filterMap (Task.worker? number) : List Nat)

section

variable {number k : Nat} {tasks more : List Task}

theorem workersOf_append :
    workersOf number (tasks ++ more) = workersOf number tasks + workersOf number more := by
  rw [workersOf, List.filterMap_append, ← Multiset.coe_add]
  rfl

theorem workersOf_nil : workersOf number [] = 0 := rfl

theorem workersOf_worker : workersOf number [⟨number, .worker k⟩] = {k} := by
  simp [workersOf, Task.worker?]

theorem workersOf_workers {n : Nat} :
    workersOf number ((List.range n).map fun k => ⟨number, .worker k⟩) =
      (List.range n : List Nat) := by
  simp [workersOf, List.filterMap_map, Function.comp_def, Task.worker?]

theorem workersOf_timer {serial : Nat} : workersOf number [⟨number, .timer serial⟩] = 0 := rfl

theorem mem_workersOf : k ∈ workersOf number tasks ↔ ⟨number, .worker k⟩ ∈ tasks := by
  rw [workersOf, Multiset.mem_coe, List.mem_filterMap]
  constructor
  · rintro ⟨⟨pool, member⟩, hmem, htask⟩
    cases member with
    | timer => cases htask
    | worker other =>
      simp only [Task.worker?, Option.ite_none_right_eq_some, Option.some.injEq] at htask
      obtain ⟨rfl, rfl⟩ := htask
      exact hmem
  · exact fun hmem => ⟨_, hmem, by simp [Task.worker?]⟩

theorem workersOf_perm (number : Nat) (h : tasks.Perm more) :
    workersOf number tasks = workersOf number more :=
  Multiset.coe_eq_coe.mpr (h.filterMap _)

/-- The tasks of other pools do not count. -/
theorem workersOf_filter (number : Nat) (tasks : List Task) :
    workersOf number (tasks.filter fun task => task.pool == number) = workersOf number tasks := by
  have hworker : ∀ task : Task, (if (task.pool == number) = true then task.worker? number
      else none) = task.worker? number := by
    rintro ⟨pool, member⟩
    cases member <;> simp [Task.worker?]
  rw [workersOf, List.filterMap_filter]
  simp only [hworker]
  rfl

/-- Alarms that go off and those that do not are all alarms. -/
theorem workersOf_partition (number : Nat) (alarms : List (Nat × Task))
    (test : Nat × Task → Bool) :
    workersOf number ((alarms.partition test).1.map Prod.snd) +
      workersOf number ((alarms.partition test).2.map Prod.snd) =
      workersOf number (alarms.map Prod.snd) := by
  rw [← workersOf_append, ← List.map_append, List.partition_eq_filter_filter]
  exact workersOf_perm number ((List.filter_append_perm test alarms).map Prod.snd)

end

namespace Agenda

/-- What the agenda says about the tasks of a pool. -/
def own (number : Nat) (a : Agenda Task) : Agenda Task where
  ready := a.ready.filter fun task => task.pool == number
  aside := a.aside.filter fun task => task.pool == number
  alarms := a.alarms.filter fun alarm => alarm.2.pool == number

/-- None of the workers of a pool can move before time goes on or somebody else moves. -/
def Quiet (number : Nat) (a : Agenda Task) : Prop :=
  ∀ k, ⟨number, .worker k⟩ ∉ a.ready ++ a.aside

/-- The workers of a pool that are on the agenda. -/
def roster (number : Nat) (a : Agenda Task) : Multiset Nat :=
  workersOf number a.ready + workersOf number a.aside + workersOf number (a.alarms.map Prod.snd)

variable {number k : Nat} {a : Agenda Task}

theorem roster_of_worker {before after : List Task}
    (h : a.ready = before ++ ⟨number, .worker k⟩ :: after) :
    {k} + ({ a with ready := before ++ after } : Agenda Task).roster number = a.roster number := by
  have hready : workersOf number a.ready = workersOf number (before ++ after) + {k} := by
    rw [h, List.append_cons, workersOf_append, workersOf_append, workersOf_append, workersOf_worker]
    abel
  rw [roster, roster, hready]
  abel

theorem roster_of_timer {before after : List Task} {serial : Nat}
    (h : a.ready = before ++ ⟨number, .timer serial⟩ :: after) :
    ({ a with ready := before ++ after } : Agenda Task).roster number = a.roster number := by
  have hready : workersOf number a.ready = workersOf number (before ++ after) := by
    rw [h, List.append_cons, workersOf_append, workersOf_append, workersOf_append, workersOf_timer,
      add_zero]
  rw [roster, roster, hready]

theorem roster_comeBack : a.comeBack.roster number = a.roster number := by
  have hreverse := workersOf_perm number a.aside.reverse_perm
  simp only [roster, comeBack, workersOf_append, hreverse, workersOf_nil, add_zero]

theorem workersOf_own (number : Nat) (a : Agenda Task) :
    workersOf number (a.own number).ready = workersOf number a.ready ∧
    workersOf number (a.own number).aside = workersOf number a.aside ∧
    workersOf number ((a.own number).alarms.map Prod.snd) =
      workersOf number (a.alarms.map Prod.snd) := by
  refine ⟨workersOf_filter number _, workersOf_filter number _, ?_⟩
  rw [← workersOf_filter number (a.alarms.map Prod.snd), List.filter_map]
  rfl

theorem roster_awaken (h : ⟨number, .worker k⟩ ∉ a.ready) :
    (a.awaken ⟨number, .worker k⟩).roster number = k ::ₘ a.roster number := by
  rw [awaken, if_neg h]
  simp only [roster, add, workersOf_append, workersOf_worker, ← Multiset.singleton_add]
  abel

theorem roster_giveWay :
    (a.giveWay ⟨number, .worker k⟩).roster number = {k} + a.roster number := by
  simp only [roster, giveWay, workersOf_append, workersOf_worker]
  abel

theorem roster_setAlarm {due : Nat} :
    (a.setAlarm due ⟨number, .worker k⟩).roster number = {k} + a.roster number := by
  simp only [roster, setAlarm, List.map_append, List.map_singleton, workersOf_append,
    workersOf_worker]
  abel

@[simp] theorem alarms_awaken {task : Task} : (a.awaken task).alarms = a.alarms := by
  rw [awaken]
  split <;> rfl

@[simp] theorem aside_awaken {task : Task} : (a.awaken task).aside = a.aside := by
  rw [awaken]
  split <;> rfl

theorem roster_awaken_timer {serial : Nat} :
    (a.awaken ⟨number, .timer serial⟩).roster number = a.roster number := by
  rw [awaken]
  split
  · rfl
  · simp only [roster, add, workersOf_append, workersOf_timer, add_zero]

end Agenda

/-- If no two items have the same key, the items with the key of one are that one. -/
theorem coe_eq_cons_filter {α : Type} {key : α → Nat} {l : List α} {a : α}
    (hnodup : (l.map key).Nodup) (ha : a ∈ l) :
    (l : Multiset α) = a ::ₘ (l.filter fun b => key b != key a : List α) := by
  induction l with
  | nil => cases ha
  | cons b l ih =>
    rw [List.map_cons, List.nodup_cons] at hnodup
    rcases List.mem_cons.mp ha with rfl | hmem
    · have hrest : ∀ b ∈ l, (key b != key a) = true := fun b hb =>
        bne_iff_ne.mpr fun heq => hnodup.1 (heq ▸ List.mem_map_of_mem hb)
      rw [List.filter_cons_of_neg (by simp), List.filter_eq_self.mpr hrest, Multiset.cons_coe]
    · have hb : (key b != key a) = true :=
        bne_iff_ne.mpr fun heq => hnodup.1 (heq ▸ List.mem_map_of_mem hmem)
      rw [List.filter_cons, if_pos hb, ← Multiset.cons_coe, ih hnodup.2 hmem, Multiset.cons_swap,
        Multiset.cons_coe]

/-! ## Where the workers of a crew are -/

namespace Crew

/-- The worker that has the turn. -/
def holder (c : Crew J) : Multiset Nat :=
  match c.turn with
  | none => 0
  | some turn => {turn.worker}

/-- The workers that are polling. -/
def pollers (c : Crew J) : Multiset Nat := (c.polling.map LongPoll.worker : List Nat)

/-- The worker that has the turn waits for the queue to change, and there is nothing to do. -/
def Dozes (c : Crew J) : Prop :=
  (∃ k, c.turn = some ⟨k, .listening⟩) ∧ c.pool.queue = [] ∧ c.pool.stopped = false

/-- **Where the workers of a crew are.**  A worker has the turn, waits for it, polls, is `free`
to get the turn, or gone.  In the middle of a move some of them are `moving`, and the jobs with
the numbers `busy` are polled by one of these. -/
structure Placed (w : Workload J W) (start : Pool J) (free moving busy : Multiset Nat)
    (number : Nat) (c : Crew J) (a : Agenda Task) : Prop where
  /-- Moves of the pool have led here. -/
  leads : Pool.Leads w start c.pool
  still : c.pool.Still
  /-- Every worker is in one place. -/
  distinct : (free + c.holder + c.line + c.pollers).Nodup
  /-- Those that do not poll are the idle ones of the pool. -/
  idle : c.pool.idle + busy.card = (free + c.holder + c.line).card
  polls : (c.pool.running : Multiset (Ticket J)).map Ticket.serial =
    busy + (c.polling : Multiset LongPoll).map LongPoll.serial
  /-- Who does not wait for the turn can move sooner or later, apart from the one that has the
  turn and nothing to do. -/
  roster : moving + a.roster number = free + c.pollers + c.holder ∨
    c.Dozes ∧ moving + a.roster number = free + c.pollers
  /-- Only a poll makes a worker wait for a time. -/
  alarms : ∀ k ∈ workersOf number (a.alarms.map Prod.snd), k ∈ c.pollers
  /-- A worker that gave way has something to do. -/
  aside : ∀ k ∈ workersOf number a.aside, c.turn ≠ some ⟨k, .listening⟩
  line : c.turn = none → c.line = []

variable {start q : Pool J} {free moving moving' busy busy' : Multiset Nat} {number k : Nat}
  {c : Crew J} {a a' : Agenda Task}

theorem holder_eq {stance : Stance} (hturn : c.turn = some ⟨k, stance⟩) : c.holder = {k} := by
  simp [holder, hturn]

namespace Placed

theorem mem_of_roster (h : Placed w start free moving busy number c a)
    (hk : k ∈ moving + a.roster number) : k ∈ free + c.pollers + c.holder := by
  rcases h.roster with hroster | ⟨-, hroster⟩
  · exact hroster ▸ hk
  · exact Multiset.mem_add.mpr (.inl (hroster ▸ hk))

theorem nodup_places (h : Placed w start free moving busy number c a) :
    (free + c.pollers + c.holder + c.line).Nodup := by
  convert h.distinct using 1
  abel

theorem notMem_of_line (h : Placed w start free moving busy number c a) (hk : k ∈ c.line) :
    k ∉ free + c.pollers + c.holder := fun hmem =>
  Multiset.disjoint_left.mp (Multiset.nodup_add.mp h.nodup_places).2.2 hmem hk

theorem notMem_of_holder (h : Placed w start free moving busy number c a) (hk : k ∈ c.holder) :
    k ∉ free + c.pollers := fun hmem =>
  Multiset.disjoint_left.mp
    (Multiset.nodup_add.mp (Multiset.nodup_add.mp h.nodup_places).1).2.2 hmem hk

theorem nodup_roster (h : Placed w start free moving busy number c a) :
    (moving + a.roster number).Nodup := by
  have hnodup := (Multiset.nodup_add.mp h.nodup_places).1
  rcases h.roster with hroster | ⟨-, hroster⟩
  · exact hroster ▸ hnodup
  · exact hroster ▸ (Multiset.nodup_add.mp hnodup).1

/-- A worker that is free or polls does not listen. -/
theorem not_listening (h : Placed w start free moving busy number c a)
    (hk : k ∈ free + c.pollers) : c.turn ≠ some ⟨k, .listening⟩ := fun hturn =>
  h.notMem_of_holder (by simp [holder, hturn]) hk

/-- A listener that is awakened can move, whatever it was doing. -/
theorem roster_awaken (h : Placed w start free moving busy number c a)
    (hmoving : ∀ k ∈ moving, k ∈ free) (hturn : c.turn = some ⟨k, .listening⟩) :
    moving + (a.awaken ⟨number, .worker k⟩).roster number = free + c.pollers + c.holder := by
  have hholder : c.holder = {k} := holder_eq hturn
  have hplaces := h.notMem_of_holder (hholder ▸ Multiset.mem_singleton_self k)
  by_cases hk : ⟨number, .worker k⟩ ∈ a.ready
  · rw [Agenda.awaken, if_pos hk]
    refine h.roster.resolve_right fun ⟨_, hroster⟩ => hplaces (hroster ▸ ?_)
    simp [Agenda.roster, mem_workersOf.mpr hk]
  · -- A listener that is on the agenda stands in the line, so this one is not on it.
    have hroster : moving + a.roster number = free + c.pollers := by
      refine (h.roster.resolve_left fun hroster => ?_).2
      have hmem : k ∈ moving + a.roster number := hroster ▸ by simp [hholder]
      simp only [Agenda.roster, Multiset.mem_add, mem_workersOf] at hmem hplaces
      rcases hmem with hmem | (hmem | hmem) | hmem
      · exact hplaces (.inl (hmoving k hmem))
      · exact hk hmem
      · exact h.aside k (mem_workersOf.mpr hmem) hturn
      · exact hplaces (.inr (h.alarms k (mem_workersOf.mpr hmem)))
    rw [Agenda.roster_awaken hk, hholder, ← hroster, ← Multiset.singleton_add]
    abel

/-- **Workers are moved about** on the agenda. -/
theorem agenda (h : Placed w start free moving busy number c a)
    (roster : moving' + a'.roster number = moving + a.roster number)
    (alarms : ∀ k ∈ workersOf number (a'.alarms.map Prod.snd), k ∈ c.pollers)
    (aside : ∀ k ∈ workersOf number a'.aside, c.turn ≠ some ⟨k, .listening⟩) :
    Placed w start free moving' busy number c a' :=
  { h with roster := roster ▸ h.roster, alarms, aside }

/-- **Some alarms go off.** -/
theorem goOff (h : Placed w start free moving busy number c a) (test : Nat × Task → Bool) :
    Placed w start free moving busy number c
      { a with
        ready := a.ready ++ (a.alarms.partition test).1.map Prod.snd
        alarms := (a.alarms.partition test).2 } := by
  have hpartition := workersOf_partition number a.alarms test
  refine h.agenda ?_ (fun k hk => h.alarms k ?_) h.aside
  · simp only [Agenda.roster, workersOf_append, ← hpartition]
    abel
  · rw [← hpartition]
    exact Multiset.mem_add.mpr (.inr hk)

/-- **The pool moves on**, while every worker stays where it is. -/
theorem pool (h : Placed w start free moving busy number c a) (leads : Pool.Leads w c.pool q)
    (still : q.Still) (idle : q.idle + busy'.card = c.pool.idle + busy.card)
    (polls : (q.running : Multiset (Ticket J)).map Ticket.serial =
      busy' + (c.polling : Multiset LongPoll).map LongPoll.serial)
    (awake : moving + a.roster number = free + c.pollers + c.holder ∨
      ({ c with pool := q } : Crew J).Dozes) :
    Placed w start free moving busy' number { c with pool := q } a :=
  { h with
    leads := h.leads.trans leads
    still
    idle := idle.trans h.idle
    polls
    roster := h.roster.elim .inl fun ⟨_, hroster⟩ => awake.imp id fun hdozes => ⟨hdozes, hroster⟩ }

/-- **The pool moves on**, and a worker is gone. -/
theorem dismiss (h : Placed w start (k ::ₘ free) (k ::ₘ moving) busy number c a)
    (leads : Pool.Leads w c.pool q) (still : q.Still)
    (idle : q.idle + busy'.card + 1 = c.pool.idle + busy.card)
    (polls : (q.running : Multiset (Ticket J)).map Ticket.serial =
      busy' + (c.polling : Multiset LongPoll).map LongPoll.serial)
    (awake : k ::ₘ moving + a.roster number = k ::ₘ free + c.pollers + c.holder ∨
      ({ c with pool := q } : Crew J).Dozes) :
    Placed w start free moving busy' number { c with pool := q } a :=
  { h with
    leads := h.leads.trans leads
    still
    distinct := by
      have hdistinct := h.distinct
      simp only [Multiset.cons_add] at hdistinct
      exact (Multiset.nodup_cons.mp hdistinct).2
    idle := by
      have hidle := h.idle
      simp only [Multiset.cons_add, Multiset.card_cons] at hidle
      exact Nat.succ.inj (idle.trans hidle)
    polls
    roster := by
      have hroster := h.roster
      simp only [Multiset.cons_add, Multiset.cons_inj_right] at hroster awake
      exact hroster.elim .inl fun ⟨_, hroster⟩ => awake.imp id fun hdozes => ⟨hdozes, hroster⟩ }

/-- **The end of a poll** leaves its worker free, or takes it along. -/
theorem concludes {serial : Nat} {events : List (Event J)}
    (h : Placed w start free {k} {serial} number c a) (hk : k ∈ free)
    (hq : Pool.Concludes w c.pool q serial events) :
    events.any Shift.losesWorker = false ∧
        Placed w start free {k} 0 number { c with pool := q } a ∨
      events.any Shift.losesWorker = true ∧
        ∃ free, Placed w start free 0 0 number { c with pool := q } a := by
  have hpolls : (q.running : Multiset (Ticket J)).map Ticket.serial =
      0 + (c.polling : Multiset LongPoll).map LongPoll.serial := by
    have hpolls := hq.running.symm.trans h.polls
    rwa [Multiset.singleton_add, Multiset.cons_inj_right, ← zero_add (Multiset.map _ _)] at hpolls
  have hawake := h.roster.imp id fun ⟨⟨hturn, hqueue, hstopped⟩, _⟩ =>
    (⟨hturn, hq.queue hqueue, hq.stopped.trans hstopped⟩ : ({ c with pool := q } : Crew J).Dozes)
  refine hq.idle.imp (fun ⟨hspared, hidle⟩ => ⟨hspared, ?_⟩) fun ⟨hlost, hidle⟩ => ⟨hlost, ?_⟩
  · exact h.pool hq.leads hq.still (by simp [hidle]) hpolls hawake
  · obtain ⟨free, rfl⟩ := Multiset.exists_cons_of_mem hk
    exact ⟨free, h.dismiss hq.leads hq.still (by simp [hidle]) hpolls hawake⟩

/-- The worker in motion is on the way to something. -/
theorem roster_of_moving {stance : Stance} (h : Placed w start free {k} busy number c a)
    (hturn : c.turn = some ⟨k, stance⟩) :
    {k} + a.roster number = free + c.pollers + {k} := by
  have hholder : c.holder = {k} := holder_eq hturn
  have hplaces := h.notMem_of_holder (hholder ▸ Multiset.mem_singleton_self k)
  have hroster := h.roster.resolve_right fun ⟨_, hroster⟩ => hplaces (hroster ▸ by simp)
  rwa [hholder] at hroster

/-- **Workers that do not poll change their places.** -/
theorem reseat {free' : Multiset Nat} {turn : Option Turn} {line : List Nat}
    (h : Placed w start free moving busy number c a)
    (same : free' + ({ c with turn, line } : Crew J).holder + line = free + c.holder + c.line)
    (roster : moving' + a'.roster number =
        free' + c.pollers + ({ c with turn, line } : Crew J).holder ∨
      ({ c with turn, line } : Crew J).Dozes ∧ moving' + a'.roster number = free' + c.pollers)
    (alarms : a'.alarms = a.alarms)
    (aside : ∀ k ∈ workersOf number a'.aside, turn ≠ some ⟨k, .listening⟩)
    (waits : turn = none → line = []) :
    Placed w start free' moving' busy number { c with turn, line } a' :=
  { h with
    distinct := same.symm ▸ h.distinct
    idle := same.symm ▸ h.idle
    roster
    alarms := alarms.symm ▸ h.alarms
    aside
    line := waits }

/-- **The turn is given back** when nobody waits for it. -/
theorem yield {stance : Stance} (h : Placed w start free {k} busy number c a)
    (hturn : c.turn = some ⟨k, stance⟩) (hline : c.line = []) :
    Placed w start (k ::ₘ free) {k} busy number { c with turn := none } a := by
  refine h.reseat ?_ (.inl ?_) rfl nofun fun _ => hline
  · rw [holder_eq hturn, ← Multiset.singleton_add]
    show {k} + free + 0 + c.line = free + {k} + c.line
    abel
  · rw [h.roster_of_moving hturn, ← Multiset.singleton_add]
    show free + c.pollers + {k} = {k} + free + c.pollers + 0
    abel

/-- **The turn is passed on** to the first worker in the line. -/
theorem handOver {stance : Stance} {next : Nat} {line : List Nat}
    (h : Placed w start free {k} busy number c a) (hturn : c.turn = some ⟨k, stance⟩)
    (hline : c.line = next :: line) :
    Placed w start (k ::ₘ free) {k} busy number { c with line, turn := some ⟨next, .granted⟩ }
      (a.awaken ⟨number, .worker next⟩) := by
  have hnext : ⟨number, .worker next⟩ ∉ a.ready := by
    refine fun hready => h.notMem_of_line (hline ▸ List.mem_cons_self) (h.mem_of_roster ?_)
    simp [Agenda.roster, mem_workersOf.mpr hready]
  refine h.reseat ?_ (.inl ?_) Agenda.alarms_awaken (by simp) nofun
  · rw [holder_eq hturn, hline, ← Multiset.cons_coe, ← Multiset.singleton_add,
      ← Multiset.singleton_add]
    show {k} + free + {next} + line = free + {k} + ({next} + line)
    abel
  · rw [Agenda.roster_awaken hnext, Multiset.add_cons, h.roster_of_moving hturn,
      ← Multiset.singleton_add, ← Multiset.singleton_add]
    show {next} + (free + c.pollers + {k}) = {k} + free + c.pollers + {next}
    abel

/-- **A worker gets the turn** when nobody has it. -/
theorem getTurn (h : Placed w start (k ::ₘ free) {k} 0 number c a) (hturn : c.turn = none) :
    Placed w start free {k} 0 number { c with turn := some ⟨k, .looking⟩ } a := by
  have hholder : c.holder = 0 := by simp [holder, hturn]
  have hroster := h.roster.resolve_right fun ⟨⟨⟨j, hlistens⟩, _⟩, _⟩ =>
    nomatch hturn.symm.trans hlistens
  refine h.reseat ?_ (.inl ?_) rfl (by simp) nofun
  · rw [hholder, ← Multiset.singleton_add]
    show free + {k} + c.line = {k} + free + 0 + c.line
    abel
  · rw [hroster, hholder, ← Multiset.singleton_add]
    show {k} + free + c.pollers + 0 = free + c.pollers + {k}
    abel

/-- **A worker notices** that it has the turn. -/
theorem notice {stance : Stance} (h : Placed w start free {k} 0 number c a)
    (hturn : c.turn = some ⟨k, stance⟩) :
    Placed w start free {k} 0 number { c with turn := some ⟨k, .looking⟩ } a := by
  refine h.reseat ?_ (.inl (h.roster_of_moving hturn)) rfl (by simp) nofun
  rw [holder_eq hturn]
  rfl

/-- **A worker waits for the turn**, behind the others. -/
theorem lineUp {turn : Turn} (h : Placed w start (k ::ₘ free) {k} 0 number c a)
    (hturn : c.turn = some turn) :
    Placed w start free 0 0 number { c with line := c.line ++ [k] } a := by
  refine h.reseat ?_ ?_ rfl h.aside fun hnone => nomatch hturn.symm.trans hnone
  · rw [Pool.coe_concat, ← Multiset.singleton_add, ← Multiset.singleton_add]
    show free + c.holder + ({k} + c.line) = {k} + free + c.holder + c.line
    abel
  · have hroster := h.roster
    rw [Multiset.singleton_add, Multiset.cons_add, Multiset.cons_add, Multiset.cons_inj_right,
      Multiset.cons_inj_right] at hroster
    rw [zero_add]
    exact hroster

/-- **A worker listens** when there is nothing to do. -/
theorem listen {stance : Stance} (h : Placed w start free {k} 0 number c a)
    (hturn : c.turn = some ⟨k, stance⟩) (htake : c.pool.take = none)
    (hexit : c.pool.exit = none) :
    Placed w start free 0 0 number { c with turn := some ⟨k, .listening⟩ } a := by
  have hidle : c.pool.idle ≠ 0 := by
    have hidle := h.idle
    simp only [holder_eq hturn, Multiset.card_add, Multiset.card_singleton,
      Multiset.card_zero] at hidle
    omega
  obtain ⟨hqueue, hstopped⟩ := Pool.nothing_to_do hidle htake hexit
  have hroster := h.roster_of_moving hturn
  rw [add_comm, Multiset.add_left_inj] at hroster
  refine h.reseat ?_ (.inr ⟨⟨⟨k, rfl⟩, hqueue, hstopped⟩, (zero_add _).trans hroster⟩) rfl ?_ nofun
  · rw [holder_eq hturn]
    rfl
  · intro j hj hlistens
    cases hlistens
    have hnodup := h.nodup_roster
    rw [Multiset.singleton_add, Multiset.nodup_cons] at hnodup
    exact hnodup.1 (Multiset.mem_add.mpr (.inl (Multiset.mem_add.mpr (.inr hj))))

/-- **A poll that takes time** keeps its worker. -/
theorem beginPoll (poll : LongPoll)
    (h : Placed w start (poll.worker ::ₘ free) moving {poll.serial} number c a) :
    Placed w start free moving 0 number { c with polling := c.polling ++ [poll] } a := by
  have hpollers : ({ c with polling := c.polling ++ [poll] } : Crew J).pollers =
      poll.worker ::ₘ c.pollers := by
    rw [pollers, List.map_append, List.map_singleton, Pool.coe_concat]
    rfl
  refine { h with distinct := ?_, idle := ?_, polls := ?_, roster := ?_, alarms := ?_ }
  · rw [hpollers]
    convert h.distinct using 1
    show free + c.holder + c.line + poll.worker ::ₘ c.pollers =
      poll.worker ::ₘ free + c.holder + c.line + c.pollers
    simp only [← Multiset.singleton_add]
    abel
  · have hidle := h.idle
    simp only [Multiset.cons_add, Multiset.card_cons, Multiset.card_singleton] at hidle
    exact Nat.succ.inj hidle
  · rw [h.polls, Pool.coe_concat, Multiset.map_cons, ← Multiset.singleton_add, zero_add]
  · rw [hpollers, Multiset.add_cons, ← Multiset.cons_add]
    exact h.roster
  · exact fun k hk => hpollers ▸ Multiset.mem_cons_of_mem (h.alarms k hk)

/-- **The end of such a poll** leaves its worker free and with the job. -/
theorem endPoll {poll : LongPoll} (h : Placed w start free {poll.worker} 0 number c a)
    (hpoll : poll ∈ c.polling) :
    Placed w start (poll.worker ::ₘ free) {poll.worker} {poll.serial} number
      { c with polling := c.polling.filter fun p => p.worker != poll.worker } a := by
  have hpolling := coe_eq_cons_filter (Multiset.coe_nodup.mp (Multiset.nodup_add.mp h.distinct).2.1)
    hpoll
  have hpollers : c.pollers = poll.worker ::ₘ ({ c with
      polling := c.polling.filter fun p => p.worker != poll.worker } : Crew J).pollers := by
    rw [pollers, ← Multiset.map_coe, hpolling, Multiset.map_cons, Multiset.map_coe]
    rfl
  refine { h with distinct := ?_, idle := ?_, polls := ?_, roster := ?_, alarms := ?_ }
  · have hdistinct := h.distinct
    rw [hpollers, Multiset.add_cons, ← Multiset.cons_add, ← Multiset.cons_add,
      ← Multiset.cons_add] at hdistinct
    exact hdistinct
  · simp only [Multiset.cons_add, Multiset.card_cons, Multiset.card_singleton]
    exact congrArg (· + 1) h.idle
  · rw [h.polls, hpolling, Multiset.map_cons, zero_add, Multiset.singleton_add]
  · have hroster := h.roster
    rw [hpollers, Multiset.add_cons, ← Multiset.cons_add] at hroster
    exact hroster
  · intro k hk
    have hmem := h.alarms k hk
    rw [hpollers] at hmem
    refine (Multiset.mem_cons.mp hmem).resolve_left ?_
    rintro rfl
    -- The worker in motion is not on the agenda a second time.
    have hnodup := h.nodup_roster
    rw [Multiset.singleton_add, Multiset.nodup_cons] at hnodup
    exact hnodup.1 (Multiset.mem_add.mpr (.inr hk))

/-- **When no worker can move and a job is queued**, no worker is idle. -/
theorem idle_eq_zero (h : Placed w start free 0 0 number c a) (quiet : a.Quiet number)
    (hqueue : c.pool.queue ≠ []) : c.pool.idle = 0 := by
  have hroster : 0 + a.roster number = free + c.pollers + c.holder :=
    h.roster.resolve_right fun ⟨⟨_, hempty, _⟩, _⟩ => hqueue hempty
  -- Whoever is on the agenda waits for the end of a poll.
  have hpollers : ∀ k ∈ free + c.pollers + c.holder, k ∈ c.pollers := by
    intro k hk
    rw [← hroster, zero_add, Agenda.roster, Multiset.mem_add, Multiset.mem_add, mem_workersOf,
      mem_workersOf, ← List.mem_append] at hk
    exact h.alarms k (hk.resolve_left (quiet k))
  have hholder : c.holder = 0 := Multiset.eq_zero_of_forall_notMem fun k hk =>
    h.notMem_of_holder hk <|
      Multiset.mem_add.mpr (.inr (hpollers k (Multiset.mem_add.mpr (.inr hk))))
  have hfree : free = 0 := Multiset.eq_zero_of_forall_notMem fun k hk => by
    have hdisjoint := (Multiset.nodup_add.mp (Multiset.nodup_add.mp
      (Multiset.nodup_add.mp h.nodup_places).1).1).2.2
    exact Multiset.disjoint_left.mp hdisjoint hk (hpollers k (by simp [hk]))
  have hline : c.line = [] := by
    refine h.line ?_
    cases hturn : c.turn with
    | none => rfl
    | some turn => simp [holder, hturn] at hholder
  have hidle := h.idle
  simpa [hfree, hholder, hline] using hidle

end Placed

end Crew

end ClusterOperator.Watchdog
