import ClusterOperator.Proofs.Watchdog.Shutdown

/-!
# How a pool serves its queue

Jobs join the queue at its end, for the first time or again, and workers take them from its
front.  The **hands** of a pool are the workers that are left: those that wait for a job, have
taken one, or poll one.  A move hires nobody, and a worker only goes if it is lost with the job
it polls or finds the queue closed and empty (`Flow`).

So in every pool that can be reached (`Serves`), no more jobs are polled than there were workers
at the start; when workers and timers cannot move and a job is queued, every worker that was not
lost is polling; and the jobs taken out of the queue are the first of those that were put into
it, in the same order.
-/

namespace ClusterOperator.Watchdog

variable {J : Type}

/-- The job that an event puts into the queue. -/
def Event.deposit? : Event J → Option (Ticket J)
  | .queued t => some t
  | _ => none

/-- **The jobs that are put into the queue**, for the first time or again, in order. -/
def deposits (events : List (Event J)) : List (Ticket J) := events.filterMap Event.deposit?

/-- How many workers are lost. -/
def losses (events : List (Event J)) : Nat := events.countP Shift.losesWorker

theorem deposits_append (events more : List (Event J)) :
    deposits (events ++ more) = deposits events ++ deposits more :=
  List.filterMap_append

theorem losses_append (events more : List (Event J)) :
    losses (events ++ more) = losses events + losses more :=
  List.countP_append

theorem losses_eq_zero {events : List (Event J)} :
    losses events = 0 ↔ ∀ e ∈ events, Shift.losesWorker e = false := by
  simp [losses, List.countP_eq_zero]

/-- Whether a worker or a timer makes a move by itself, without a job having to do something. -/
def Move.isPrompt : Move J → Bool
  | .receive | .begin _ | .wake _ | .exit => true
  | _ => false

/-- The workers that go with a move because they have nothing left to do. -/
def Move.leavers : Move J → Nat
  | .exit => 1
  | _ => 0

namespace Pool

/-- How many workers are left. -/
def hands (p : Pool J) : Nat := p.idle + p.taken.length + p.running.length

/-- The job that a worker took out of the queue by a move, and has after it. -/
def reception (q : Pool J) : Move J → List (Ticket J)
  | .receive => q.taken.getLast?.toList
  | _ => []

/-- **The jobs that workers take out of the queue** in a run of moves, in order. -/
def receptions (p : Pool J) : List (Move J) → List (Ticket J)
  | [] => []
  | m :: moves =>
    match p.step m with
    | none => []
    | some (q, _) => q.reception m ++ q.receptions moves

/-- Workers and timers cannot move before a poll ends, somebody else moves, or time goes on. -/
def AtRest (p : Pool J) : Prop := ∀ m : Move J, m.isPrompt = true → p.step m = none

/-- The queue is given up, since nobody is left to serve it. -/
structure Abandoned (q : Pool J) (received queued : List (Ticket J)) : Prop where
  hands : q.hands = 0
  queue : q.queue = []
  order : received <+: queued

/-- **What a move means for the workers and the queue.** -/
structure Flow (p q : Pool J) (m : Move J) (events : List (Event J)) : Prop where
  /-- Whoever goes is lost, or has nothing left to do. -/
  hands : q.hands + losses events + m.leavers = p.hands
  leaves : m.leavers ≠ 0 → p.stopped = true ∧ p.queue = []
  stopped : p.stopped = true → q.stopped = true
  /-- The queue is longer at its end and shorter at its front, or given up. -/
  queue : p.queue ++ deposits events = q.reception m ++ q.queue ∨
    Abandoned q (q.reception m) (p.queue ++ deposits events)
  /-- A closed queue takes nothing in. -/
  intake : deposits events ≠ [] → p.isOpen = true

variable {p q : Pool J} {events : List (Event J)} {serial : Nat} {m : Move J}

theorem hasWorkers_iff : p.hasWorkers = true ↔ p.hands ≠ 0 := by
  simp only [hasWorkers, hands, Bool.or_eq_true, decide_eq_true_eq, Bool.not_eq_true',
    List.isEmpty_eq_false_iff, ← List.length_pos_iff]
  omega

/-- A move that leaves the workers and the queue alone. -/
theorem Flow.of_eq (hands : q.hands = p.hands) (queue : q.queue = p.queue)
    (stopped : p.stopped = true → q.stopped = true) (hm : m.leavers = 0)
    (hreception : q.reception m = []) (hdeposits : deposits events = [])
    (hlosses : losses events = 0) : Flow p q m events where
  hands := by rw [hands, hlosses, hm, add_zero, add_zero]
  leaves h := absurd hm h
  stopped := stopped
  queue := .inl (by rw [hdeposits, hreception, queue, List.append_nil, List.nil_append])
  intake h := absurd hdeposits h

/-! ## One move -/

theorem arrive_flow {id : String} {job : J} (h : p.arrive id job = (q, events)) :
    Flow p q (.arrive id job) events := by
  rw [arrive] at h
  split at h <;> cases h <;> exact .of_eq rfl rfl (fun h => h) rfl rfl rfl rfl

theorem registerNext_flow (h : p.registerNext serial = some (q, events)) :
    Flow p q (.register serial) events := by
  rw [registerNext] at h
  split at h
  · cases h
  · split at h
    · cases h
      exact .of_eq rfl rfl (fun h => h) rfl rfl rfl rfl
    · rename_i registered hregister
      obtain ⟨-, rfl⟩ := register_eq_some_iff.mp hregister
      cases h
      exact .of_eq rfl rfl (fun h => h) rfl rfl rfl rfl

theorem enterNext_flow (h : p.enterNext serial = some (q, events)) :
    Flow p q (.enter serial) events := by
  rw [enterNext] at h
  split at h
  · cases h
  · rw [enter] at h
    split at h
    · rename_i t entering _ hopen
      cases h
      exact ⟨rfl, fun h => absurd rfl h, fun h => h, .inl rfl, fun _ => hopen⟩
    · cases h
      exact .of_eq rfl rfl (fun h => h) rfl rfl rfl rfl

theorem receive_flow (h : p.receive = some (q, events)) : Flow p q .receive events := by
  rw [receive] at h
  split at h
  · rename_i idle t queue hidle hqueue
    cases h
    refine ⟨?_, fun h => absurd rfl h, fun h => h, .inl ?_, fun h => absurd rfl h⟩
    · simp only [hands, hidle, losses, List.countP_nil, Move.leavers, List.length_append,
        List.length_singleton]
      omega
    · simp [hqueue, deposits, reception]
  · cases h

theorem beginNext_flow (h : p.beginNext serial = some (q, events)) :
    Flow p q (.begin serial) events := by
  rw [beginNext] at h
  split at h
  · cases h
  · rename_i t taken hextract
    have hlength := length_of_extract hextract
    rw [begin] at h
    split at h <;> cases h
    · refine .of_eq ?_ rfl (fun h => h) rfl rfl rfl rfl
      simp only [hands, release, hlength]
      omega
    · refine .of_eq ?_ rfl (fun h => h) rfl rfl rfl rfl
      simp only [hands, hlength, List.length_append, List.length_singleton]
      omega

theorem deposits_abandoned (queue : List (Ticket J)) :
    deposits (queue.map fun t => .dropped t .abandoned) = [] := by
  simp [deposits, List.filterMap_map, Function.comp_def, Event.deposit?]

theorem losses_abandoned (queue : List (Ticket J)) :
    losses (queue.map fun t => .dropped t .abandoned) = 0 := by
  simp [losses, Function.comp_def, Shift.losesWorker]

theorem lose_flow {t u : Ticket J} {running : List (Ticket J)} {result : PollEnd J}
    (hextract : extract (fun t => t.serial == serial) p.running = some (t, running)) :
    Flow p (({ p with running } : Pool J).lose u).1 (.conclude serial result)
      (({ p with running } : Pool J).lose u).2 := by
  have hhands : ({ p with running } : Pool J).hands + 1 = p.hands := by
    simp only [hands, length_of_extract hextract]
    omega
  by_cases hworkers : ({ p with running } : Pool J).hasWorkers = true
  · simp only [lose, abandon, hworkers, if_true]
    exact ⟨hhands, fun h => absurd rfl h, fun h => h, .inl (List.append_nil _),
      fun h => absurd rfl h⟩
  · simp only [lose, abandon, hworkers, if_false, Bool.false_eq_true]
    have hdeposits : deposits (.dropped u .panicked ::
        p.queue.map fun t => .dropped t .abandoned) = [] := deposits_abandoned p.queue
    have hlosses : losses (.dropped u .panicked ::
        p.queue.map fun t => .dropped t .abandoned) = 1 := by
      rw [losses, List.countP_cons_of_pos rfl]
      exact congrArg (· + 1) (losses_abandoned p.queue)
    refine ⟨by rw [hlosses]; exact hhands, fun h => absurd rfl h, fun h => h,
      .inr ⟨?_, rfl, List.nil_prefix⟩, fun h => absurd hdeposits h⟩
    exact not_not.mp (hasWorkers_iff.not.mp hworkers)

theorem conclude_flow {result : PollEnd J} (h : p.conclude serial result = some (q, events)) :
    Flow p q (.conclude serial result) events := by
  rcases conclude_cases h with spared | ⟨t, u, running, hextract, heq⟩
  · rw [conclude] at h
    split at h
    · cases h
    · rename_i t running hextract
      -- The worker of the job that is not polled any more is idle.
      have hhands : ∀ active parked, ({ p with running, active, parked, idle := p.idle + 1 } :
          Pool J).hands = p.hands := fun _ _ => by
        simp only [hands, length_of_extract hextract]
        omega
      cases result with
      | panicked job =>
        cases h
        exact absurd spared not_spared_lose
      | finished job | failed job =>
        cases h
        exact .of_eq (hhands _ _) rfl (fun h => h) rfl rfl rfl rfl
      | pending job =>
        simp only [settle] at h
        split at h <;> cases h
        · exact absurd spared not_spared_lose
        · exact .of_eq (hhands _ _) rfl (fun h => h) rfl rfl rfl rfl
  · obtain ⟨rfl, rfl⟩ := Prod.ext_iff.mp heq
    exact lose_flow hextract

theorem wake_flow (h : p.wake serial = some (q, events)) : Flow p q (.wake serial) events := by
  rw [wake] at h
  split at h
  · cases h
  · split at h
    · split at h
      · rename_i hopen
        cases h
        exact ⟨rfl, fun h => absurd rfl h, fun h => h, .inl rfl, fun _ => hopen⟩
      · cases h
        refine .of_eq rfl rfl (fun h => h) rfl rfl rfl ?_
        split <;> rfl
    · cases h

theorem exit_flow (h : p.exit = some (q, events)) : Flow p q .exit events := by
  rw [exit] at h
  split at h
  · rename_i idle hidle
    split at h
    · rename_i hclosed
      cases h
      refine ⟨?_, fun _ => by simpa using hclosed, fun h => h, .inl (List.append_nil _),
        fun h => absurd rfl h⟩
      simp only [hands, hidle, losses, List.countP_nil, Move.leavers]
      omega
    · cases h
  · cases h

theorem step_flow (h : p.step m = some (q, events)) : Flow p q m events := by
  cases m with
  | arrive id job => exact arrive_flow (Option.some.inj h)
  | register serial => exact registerNext_flow h
  | enter serial => exact enterNext_flow h
  | receive => exact receive_flow h
  | begin serial => exact beginNext_flow h
  | conclude serial result => exact conclude_flow h
  | wake serial => exact wake_flow h
  | exit => exact exit_flow h
  | stop =>
    cases h
    exact .of_eq rfl rfl (fun _ => rfl) rfl rfl rfl rfl
  | tick ms =>
    cases h
    exact .of_eq rfl rfl (fun h => h) rfl rfl rfl rfl

/-! ## Every run -/

/-- **The workers and the queue of a pool**, which had so many workers at the start, after the
events of a run and after so many jobs have been received. -/
structure Tallied (workers : Nat) (p : Pool J) (received : List (Ticket J))
    (events : List (Event J)) : Prop where
  hands : p.hands + losses events ≤ workers
  /-- Nobody has gone who was not lost, unless the queue is closed and empty. -/
  full : p.hands + losses events = workers ∨ p.stopped = true ∧ p.queue = []
  queue : deposits events = received ++ p.queue ∨ Abandoned p received (deposits events)

variable {workers : Nat} {received : List (Ticket J)} {past : List (Event J)}

/-- A queue that takes nothing in and is empty stays so. -/
theorem Flow.queue_eq_nil (h : Flow p q m events) (hqueue : p.queue = [])
    (closed : p.isOpen = false) :
    q.reception m = [] ∧ deposits events = [] ∧ q.queue = [] := by
  have hdeposits : deposits events = [] := by
    by_contra hne
    exact absurd (h.intake hne) (by simp [closed])
  have hqueue := h.queue
  simp only [‹p.queue = []›, hdeposits, List.append_nil] at hqueue
  rcases hqueue with hqueue | ⟨-, hqueue, horder⟩
  · obtain ⟨hreception, hqueue⟩ := List.append_eq_nil_iff.mp hqueue.symm
    exact ⟨hreception, hdeposits, hqueue⟩
  · exact ⟨List.prefix_nil.mp horder, hdeposits, hqueue⟩

theorem Flow.tallied (h : Flow p q m events) (hp : Tallied workers p received past) :
    Tallied workers q (received ++ q.reception m) (past ++ events) where
  hands := by
    have hhands := h.hands
    have hpast := hp.hands
    rw [losses_append]
    omega
  full := by
    rcases hp.full with hfull | ⟨stopped, hqueue⟩
    · by_cases hm : m.leavers = 0
      · have hhands := h.hands
        rw [losses_append]
        exact .inl (by omega)
      · obtain ⟨stopped, hqueue⟩ := h.leaves hm
        exact .inr ⟨h.stopped stopped, (h.queue_eq_nil hqueue (by simp [Pool.isOpen, stopped])).2.2⟩
    · exact .inr ⟨h.stopped stopped, (h.queue_eq_nil hqueue (by simp [Pool.isOpen, stopped])).2.2⟩
  queue := by
    rw [deposits_append]
    rcases hp.queue with hpast | ⟨hhands, hqueue, horder⟩
    · rw [hpast, List.append_assoc, List.append_assoc]
      rcases h.queue with hqueue | ⟨hhands, hqueue, horder⟩
      · exact .inl (by rw [hqueue])
      · exact .inr ⟨hhands, hqueue, (List.prefix_append_right_inj received).mpr horder⟩
    · -- Nobody is left, so nothing is taken out and nothing put in.
      have closed : p.isOpen = false := by
        have hworkers := hasWorkers_iff.not.mpr (not_not.mpr hhands)
        simp [Pool.isOpen, hworkers]
      obtain ⟨hreception, hdeposits, hqueue⟩ := h.queue_eq_nil hqueue closed
      rw [hreception, hdeposits, List.append_nil, List.append_nil]
      exact .inr ⟨by have := h.hands; omega, hqueue, horder⟩

variable {moves : List (Move J)} {trace : List (Nat × Event J)}

theorem run_tallied (hrun : p.run moves = some (q, trace)) (hp : Tallied workers p received past) :
    Tallied workers q (received ++ p.receptions moves) (past ++ trace.map Prod.snd) := by
  induction moves generalizing p received past trace with
  | nil =>
    cases hrun
    simpa [receptions] using hp
  | cons m moves ih =>
    obtain ⟨r, events, rest, hstep, hrest, rfl⟩ := run_cons_eq_some hrun
    have hq := ih hrest ((step_flow hstep).tallied hp)
    simpa [receptions, hstep, Function.comp_def] using hq

/-- **How a pool with so many workers serves its queue**, which a run of moves has led from the
start to `p`. -/
structure Serves (workers : Nat) (start : Pool J) (moves : List (Move J)) (p : Pool J)
    (trace : List (Nat × Event J)) : Prop where
  /-- No more jobs are polled than there are workers. -/
  bounded : p.running.length ≤ workers
  /-- A job that is queued while workers and timers cannot move finds all workers polling that
  were not lost, -/
  busy : p.AtRest → p.queue ≠ [] → p.running.length + losses (trace.map Prod.snd) = workers
  /-- and none is, unless a poll panics or a pause has no length. -/
  spared : start.backoff.Paced → (∀ m ∈ moves, m.panics = false) →
    losses (trace.map Prod.snd) = 0
  /-- A job that waits for its next poll is not one that a worker has. -/
  apart : ∀ k ∈ p.parked, ∀ t ∈ p.taken ++ p.running, k.ticket.id ≠ t.id
  /-- The jobs are taken out of the queue in the order in which they were put into it. -/
  order : start.receptions moves <+: deposits (trace.map Prod.snd)
  /-- As long as a worker is left, those not taken out are in the queue. -/
  rest : p.hasWorkers = true →
    deposits (trace.map Prod.snd) = start.receptions moves ++ p.queue

/-- At rest, no job is taken out that is not polled. -/
theorem AtRest.taken_eq_nil (h : p.AtRest) : p.taken = [] := by
  refine List.eq_nil_iff_forall_not_mem.mpr fun t ht => ?_
  obtain ⟨r, hr⟩ := exists_extract (fun u => u.serial == t.serial) ht (beq_self_eq_true _)
  have hnone := h (.begin t.serial) rfl
  simp [step, beginNext, hr] at hnone

/-- At rest, no job is taken out that is not polled, and nobody is idle beside a queued job. -/
theorem AtRest.idle (h : p.AtRest) (hqueue : p.queue ≠ []) : p.idle = 0 ∧ p.taken = [] := by
  refine ⟨?_, h.taken_eq_nil⟩
  have hreceive := h .receive rfl
  obtain ⟨t, queue, hqueue⟩ := List.exists_cons_of_ne_nil hqueue
  cases hidle : p.idle with
  | zero => rfl
  | succ idle => simp [step, receive, hidle, hqueue] at hreceive

theorem Tallied.busy (h : Tallied workers p received past) (hidle : p.idle = 0)
    (htaken : p.taken = []) (hqueue : p.queue ≠ []) :
    p.running.length + losses past = workers := by
  have hfull := h.full.resolve_right fun closed => hqueue closed.2
  simpa [Pool.hands, hidle, htaken] using hfull

/-- No parked job has the id of one that a worker has. -/
theorem Accounted.apart {lost : List String} (h : Accounted p lost) :
    ∀ k ∈ p.parked, ∀ t ∈ p.taken ++ p.running, k.ticket.id ≠ t.id := by
  intro k hk t ht heq
  have hnodup : (p.liveIds + (lost : Multiset String)).Nodup :=
    h.exact ▸ Multiset.coe_nodup.mpr h.distinct
  have hids : p.liveIds = ((p.entering : Multiset (Ticket J)) + p.queue).map Ticket.id +
      ((p.taken : Multiset (Ticket J)) + p.running).map Ticket.id +
      ((p.parked : Multiset (Parked J)).map Parked.ticket).map Ticket.id := by
    simp only [liveIds, live, Multiset.map_add, add_assoc]
  rw [hids] at hnodup
  have hdisjoint := (Multiset.nodup_add.mp (Multiset.nodup_add.mp hnodup).1).2.2
  have hheld : t.id ∈ ((p.taken : Multiset (Ticket J)) + p.running).map Ticket.id :=
    Multiset.mem_map_of_mem _ (by simpa using ht)
  have hparked : t.id ∈ ((p.parked : Multiset (Parked J)).map Parked.ticket).map Ticket.id :=
    heq ▸ Multiset.mem_map_of_mem _ (Multiset.mem_map_of_mem _ hk)
  exact Multiset.disjoint_left.mp hdisjoint (Multiset.mem_add.mpr (.inr hheld)) hparked

theorem start_tallied {backoff : Backoff} {start : Pool J} {sleep : Nat → Nat} {now : Nat}
    (hstart : startPool workers backoff = .ok start) :
    Tallied workers ({ start with sleep, now } : Pool J) [] [] := by
  rw [startPool] at hstart
  split at hstart <;> cases hstart
  exact ⟨Nat.le_refl _, .inl rfl, .inl rfl⟩

/-- **Every pool that can be reached serves its queue**, whatever the order of the moves. -/
theorem serves_of_run {backoff : Backoff} {start : Pool J} {sleep : Nat → Nat} {now : Nat}
    (hstart : startPool workers backoff = .ok start)
    (hrun : ({ start with sleep, now } : Pool J).run moves = some (p, trace)) :
    Serves workers { start with sleep, now } moves p trace := by
  obtain ⟨hregistered, -, -⟩ := start_registered hstart
  obtain ⟨lost, accounted, -⟩ := run_accounted hrun
    (registered_iff_accounted.mp ⟨hregistered.exact, hregistered.distinct⟩)
  have tallied := run_tallied hrun (start_tallied hstart)
  simp only [List.nil_append] at tallied
  exact {
    bounded := by
      have hhands := tallied.hands
      rw [hands] at hhands
      omega
    busy := fun hrest hqueue => tallied.busy (hrest.idle hqueue).1 (hrest.idle hqueue).2 hqueue
    spared := fun paced calm => losses_eq_zero.mpr
      (List.forall_mem_map.mpr (run_spares paced calm hrun))
    apart := accounted.apart
    order := tallied.queue.elim (fun hqueue => ⟨p.queue, hqueue.symm⟩) Abandoned.order
    rest := fun hworkers => tallied.queue.resolve_right fun ⟨hhands, _, _⟩ =>
      hasWorkers_iff.mp hworkers hhands }

end Pool

end ClusterOperator.Watchdog
