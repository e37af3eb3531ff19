import ClusterOperator.Proofs.Watchdog.Losses

/-!
# A pool that is stopped

Once a pool is stopped nothing gets into its queue any more and no poll begins; what is queued
or waits for its next poll is dropped, and a job can only converge if its poll was under way.
Each move of a worker or of a timer brings the pool nearer to its end (`Winding.load`), so there
are only so many of them; and as long as a job is queued there is a worker to take it out, so
when no such move is left, everybody is gone (`winds_down_of_stop`).  Then every id is free
again, unless a worker was lost with its job, whose id stays taken (`not_always_freed`).
-/

namespace ClusterOperator.Watchdog

variable {J : Type}

/-- Whether a move is one of a worker or of a timer. -/
def Move.isOwn : Move J → Bool
  | .receive | .begin _ | .conclude _ _ | .wake _ | .exit => true
  | .arrive _ _ | .register _ | .enter _ | .stop | .tick _ => false

/-- An event that starts a poll or fills the queue. -/
def Event.isStart : Event J → Bool
  | .polling _ | .queued _ => true
  | _ => false

namespace Pool

variable {p q : Pool J} {events : List (Event J)} {serial : Nat} {m : Move J}

section

variable {α : Type} {test : α → Bool} {l rest : List α} {a : α}

theorem mem_of_extract (h : extract test l = some (a, rest)) : a ∈ l :=
  Multiset.mem_coe.mp (extract_eq h ▸ Multiset.mem_cons_self a _)

theorem subset_of_extract (h : extract test l = some (a, rest)) : ∀ b ∈ rest, b ∈ l :=
  fun _ hb =>
    Multiset.mem_coe.mp (extract_eq h ▸ Multiset.mem_cons_of_mem (Multiset.mem_coe.mpr hb))

theorem length_of_extract (h : extract test l = some (a, rest)) : l.length = rest.length + 1 := by
  simpa using congrArg Multiset.card (extract_eq h)

/-- A list with an item in it has a first one to take out. -/
theorem exists_extract (test : α → Bool) (ha : a ∈ l) (htest : test a = true) :
    ∃ r, extract test l = some r := by
  induction l with
  | nil => cases ha
  | cons b l ih =>
    rw [extract]
    split
    · exact ⟨_, rfl⟩
    · rename_i hb
      rcases List.mem_cons.mp ha with rfl | ha
      · exact absurd htest hb
      · obtain ⟨r, hr⟩ := ih ha
        exact ⟨_, by rw [hr]; rfl⟩

end

/-- How much there is left to do for workers and timers. -/
def load (p : Pool J) : Nat :=
  p.idle + 2 * p.queue.length + 2 * p.taken.length + 3 * p.running.length + p.parked.length

/-- **What a move does in a pool that is stopped.** -/
structure Winding (p q : Pool J) (m : Move J) (events : List (Event J)) : Prop where
  stopped : q.stopped = true
  quiet : ∀ e ∈ events, e.isStart = false
  queue : q.queue <:+ p.queue
  running : ∀ t ∈ q.running, t ∈ p.running
  told : ∀ t, .finished t ∈ events → ∃ u ∈ p.running, u.serial = t.serial
  load : q.load + (if m.isOwn then 1 else 0) ≤ p.load

/-! ## One move -/

theorem registerNext_winding (stopped : p.stopped = true)
    (h : p.registerNext serial = some (q, events)) : Winding p q (.register serial) events := by
  rw [registerNext] at h
  split at h
  · cases h
  · split at h
    · cases h
      exact ⟨stopped, by simp [Event.isStart], List.suffix_rfl, fun _ ht => ht, by simp,
        Nat.le_refl _⟩
    · rename_i registered hregister
      obtain ⟨-, rfl⟩ := register_eq_some_iff.mp hregister
      cases h
      exact ⟨stopped, List.forall_mem_nil _, List.suffix_rfl, fun _ ht => ht,
        fun _ ht => absurd ht List.not_mem_nil, Nat.le_refl _⟩

theorem enterNext_winding (stopped : p.stopped = true)
    (h : p.enterNext serial = some (q, events)) : Winding p q (.enter serial) events := by
  rw [enterNext] at h
  split at h
  · cases h
  · rw [enter, if_neg (by simp [isOpen, stopped])] at h
    cases h
    exact ⟨stopped, by simp [Event.isStart], List.suffix_rfl, fun _ ht => ht, by simp,
      Nat.le_refl _⟩

theorem receive_winding (stopped : p.stopped = true) (h : p.receive = some (q, events)) :
    Winding p q .receive events := by
  rw [receive] at h
  split at h
  · rename_i idle t queue hidle hqueue
    cases h
    refine ⟨stopped, List.forall_mem_nil _, hqueue ▸ List.suffix_cons t queue, fun _ ht => ht,
      fun _ ht => absurd ht List.not_mem_nil, ?_⟩
    simp only [Pool.load, hidle, hqueue, List.length_cons, List.length_append, List.length_nil,
      Move.isOwn, if_true]
    omega
  · cases h

theorem beginNext_winding (stopped : p.stopped = true)
    (h : p.beginNext serial = some (q, events)) : Winding p q (.begin serial) events := by
  rw [beginNext] at h
  split at h
  · cases h
  · rename_i t taken hextract
    rw [begin, if_pos stopped] at h
    cases h
    refine ⟨stopped, by simp [Event.isStart], List.suffix_rfl, fun _ ht => ht, by simp, ?_⟩
    simp only [Pool.load, release, length_of_extract hextract, Move.isOwn, if_true]
    omega

theorem lose_winding {t u : Ticket J} {running : List (Ticket J)} {result : PollEnd J}
    (stopped : p.stopped = true)
    (hextract : extract (fun t => t.serial == serial) p.running = some (t, running)) :
    Winding p (({ p with running } : Pool J).lose u).1 (.conclude serial result)
      (({ p with running } : Pool J).lose u).2 := by
  have hsubset := subset_of_extract hextract
  have hlength := length_of_extract hextract
  by_cases hworkers : ({ p with running } : Pool J).hasWorkers = true
  · simp only [lose, abandon, hworkers, if_true]
    refine ⟨stopped, by simp [Event.isStart], List.suffix_rfl, hsubset, by simp, ?_⟩
    simp only [Pool.load, hlength, Move.isOwn, if_true]
    omega
  · simp only [lose, abandon, hworkers, if_false, Bool.false_eq_true]
    refine ⟨stopped, by simp [Event.isStart], List.nil_suffix, hsubset, by simp, ?_⟩
    simp only [Pool.load, hlength, List.length_nil, Move.isOwn, if_true]
    omega

theorem conclude_winding {result : PollEnd J} (stopped : p.stopped = true)
    (h : p.conclude serial result = some (q, events)) :
    Winding p q (.conclude serial result) events := by
  rw [conclude] at h
  split at h
  · cases h
  · rename_i t running hextract
    have hsubset := subset_of_extract hextract
    have hlength := length_of_extract hextract
    cases result with
    | panicked job =>
      cases h
      exact lose_winding stopped hextract
    | finished job =>
      cases h
      refine ⟨stopped, by simp [Event.isStart], List.suffix_rfl, hsubset, ?_, ?_⟩
      · rintro u hu
        cases List.mem_singleton.mp hu
        exact ⟨t, mem_of_extract hextract, rfl⟩
      · simp only [Pool.load, release, hlength, Move.isOwn, if_true]
        omega
    | failed job =>
      cases h
      refine ⟨stopped, by simp [Event.isStart], List.suffix_rfl, hsubset, by simp, ?_⟩
      simp only [Pool.load, release, hlength, Move.isOwn, if_true]
      omega
    | pending job =>
      simp only [settle] at h
      split at h <;> cases h
      · exact lose_winding stopped hextract
      · refine ⟨stopped, by simp [Event.isStart], List.suffix_rfl, hsubset, by simp, ?_⟩
        simp only [Pool.load, hlength, List.length_append, List.length_cons, List.length_nil,
          Move.isOwn, if_true]
        omega

theorem wake_winding (stopped : p.stopped = true) (h : p.wake serial = some (q, events)) :
    Winding p q (.wake serial) events := by
  rw [wake] at h
  split at h
  · cases h
  · rename_i due t parked hextract
    rw [if_pos (by simp [stopped]), if_neg (by simp [isOpen, stopped])] at h
    cases h
    refine ⟨stopped, by simp [Event.isStart], List.suffix_rfl, fun _ ht => ht, by simp, ?_⟩
    simp only [Pool.load, release, length_of_extract hextract, Move.isOwn, if_true]
    omega

theorem exit_winding (stopped : p.stopped = true) (h : p.exit = some (q, events)) :
    Winding p q .exit events := by
  rw [exit] at h
  split at h
  · rename_i idle hidle
    split at h
    · cases h
      refine ⟨stopped, List.forall_mem_nil _, List.suffix_rfl, fun _ ht => ht,
        fun _ ht => absurd ht List.not_mem_nil, ?_⟩
      simp only [Pool.load, hidle, Move.isOwn, if_true]
      omega
    · cases h
  · cases h

/-- **Every move in a pool that is stopped winds it down.** -/
theorem step_winding (stopped : p.stopped = true) (h : p.step m = some (q, events)) :
    Winding p q m events := by
  cases m with
  | arrive id job =>
    rw [step, arrive, if_pos stopped] at h
    cases h
    exact ⟨stopped, by simp [Event.isStart], List.suffix_rfl, fun _ ht => ht, by simp,
      Nat.le_refl _⟩
  | register serial => exact registerNext_winding stopped h
  | enter serial => exact enterNext_winding stopped h
  | receive => exact receive_winding stopped h
  | begin serial => exact beginNext_winding stopped h
  | conclude serial result => exact conclude_winding stopped h
  | wake serial => exact wake_winding stopped h
  | exit => exact exit_winding stopped h
  | stop =>
    cases h
    exact ⟨rfl, List.forall_mem_nil _, List.suffix_rfl, fun _ ht => ht,
      fun _ ht => absurd ht List.not_mem_nil, Nat.le_refl _⟩
  | tick ms =>
    cases h
    exact ⟨stopped, List.forall_mem_nil _, List.suffix_rfl, fun _ ht => ht,
      fun _ ht => absurd ht List.not_mem_nil, Nat.le_refl _⟩

/-! ## Every run -/

variable {moves : List (Move J)} {trace : List (Nat × Event J)}

/-- What the moves of a run do in a pool that is stopped. -/
structure Wound (p q : Pool J) (moves : List (Move J)) (trace : List (Nat × Event J)) : Prop where
  stopped : q.stopped = true
  quiet : ∀ e ∈ trace, e.2.isStart = false
  queue : q.queue <:+ p.queue
  told : ∀ time t, (time, .finished t) ∈ trace → ∃ u ∈ p.running, u.serial = t.serial
  load : q.load + moves.countP Move.isOwn ≤ p.load

theorem run_wound (stopped : p.stopped = true) (hrun : p.run moves = some (q, trace)) :
    Wound p q moves trace := by
  induction moves generalizing p trace with
  | nil =>
    cases hrun
    exact ⟨stopped, nofun, List.suffix_rfl, nofun, Nat.le_refl _⟩
  | cons m moves ih =>
    obtain ⟨r, events, rest, hstep, hrest, rfl⟩ := run_cons_eq_some hrun
    have hm := step_winding stopped hstep
    have hr := ih hm.stopped hrest
    refine ⟨hr.stopped, ?_, hr.queue.trans hm.queue, ?_, ?_⟩
    · refine List.forall_mem_append.mpr ⟨fun e he => ?_, hr.quiet⟩
      obtain ⟨e', he', rfl⟩ := List.mem_map.mp he
      exact hm.quiet e' he'
    · intro time t hmem
      rcases List.mem_append.mp hmem with hfirst | hlater
      · obtain ⟨e, he, heq⟩ := List.mem_map.mp hfirst
        cases heq
        exact hm.told t he
      · -- What is polled later was polled when the pool was stopped.
        obtain ⟨u, hu, hserial⟩ := hr.told time t hlater
        exact ⟨u, hm.running u hu, hserial⟩
    · have hfirst := hm.load
      have hlater := hr.load
      rw [List.countP_cons]
      omega

/-! ## The end -/

/-- Workers and timers have no move left. -/
def Done (p : Pool J) : Prop := ∀ m : Move J, m.isOwn = true → p.step m = none

/-- **When workers and timers cannot move any more**, they are gone, and nothing is left in the
queue. -/
theorem Staffed.empty_of_done (staffed : p.Staffed) (stopped : p.stopped = true) (done : p.Done) :
    p.queue = [] ∧ p.taken = [] ∧ p.running = [] ∧ p.parked = [] ∧ p.hasWorkers = false := by
  have htaken : p.taken = [] := by
    refine List.eq_nil_iff_forall_not_mem.mpr fun t ht => ?_
    obtain ⟨r, hr⟩ := exists_extract (fun u => u.serial == t.serial) ht (beq_self_eq_true _)
    have hnone := done (.begin t.serial) rfl
    simp [step, beginNext, hr] at hnone
  have hrunning : p.running = [] := by
    refine List.eq_nil_iff_forall_not_mem.mpr fun t ht => ?_
    obtain ⟨r, hr⟩ := exists_extract (fun u => u.serial == t.serial) ht (beq_self_eq_true _)
    have hnone := done (.conclude t.serial (.failed t.job)) rfl
    simp [step, conclude, hr] at hnone
  have hparked : p.parked = [] := by
    refine List.eq_nil_iff_forall_not_mem.mpr fun k hk => ?_
    obtain ⟨r, hr⟩ := exists_extract (fun u => u.ticket.serial == k.ticket.serial) hk
      (beq_self_eq_true _)
    have hnone := done (.wake k.ticket.serial) rfl
    simp [step, wake, hr, stopped, isOpen] at hnone
  -- An idle worker would take the next job or, if there is none, leave.
  have hidle : p.idle = 0 := by
    have hreceive := done .receive rfl
    have hexit := done .exit rfl
    cases hi : p.idle with
    | zero => rfl
    | succ idle =>
      cases hq : p.queue with
      | nil => simp [step, exit, hi, hq, stopped] at hexit
      | cons t queue => simp [step, receive, hi, hq] at hreceive
  have hworkers : p.hasWorkers = false := by simp [hasWorkers, hidle, htaken, hrunning]
  refine ⟨?_, htaken, hrunning, hparked, hworkers⟩
  by_contra hqueue
  exact absurd (staffed hqueue) (by simp [hworkers])

theorem done_of_empty (hidle : p.idle = 0) (htaken : p.taken = []) (hrunning : p.running = [])
    (hparked : p.parked = []) : p.Done := by
  intro m hown
  cases m with
  | receive => simp [step, receive, hidle]
  | begin serial => simp [step, beginNext, htaken, extract]
  | conclude serial result => simp [step, conclude, hrunning, extract]
  | wake serial => simp [step, wake, hparked, extract]
  | exit => simp [step, exit, hidle]
  | arrive | register | enter | stop | tick => cases hown

/-- **How a pool that was stopped winds down**, by a run of moves that leads it from `p` to `q`;
`past` is what had happened before. -/
structure WindsDown (p q : Pool J) (moves : List (Move J)) (past trace : List (Nat × Event J)) :
    Prop where
  /-- No poll begins and no job enters the queue, -/
  quiet : ∀ e ∈ trace, e.2.isStart = false
  /-- so the queue only loses jobs at its front, unless it is given up as a whole. -/
  queue : q.queue <:+ p.queue
  /-- A job is told that it has converged only if its poll was under way. -/
  told : ∀ time t, (time, .finished t) ∈ trace → ∃ u ∈ p.running, u.serial = t.serial
  /-- Whoever submits a job is turned away, and the pool is left alone, -/
  turnedAway : ∀ id job, q.enqueue id job = (q, [.rejected id job]) ∧
    q.arrive id job = (q, [.rejected id job])
  /-- as it is by another stop. -/
  again : q.stop = q
  /-- Workers and timers have only so many moves. -/
  bounded : q.load + moves.countP Move.isOwn ≤ p.load
  /-- Once they have no more, nothing is queued, parked or polled, and the workers are gone. -/
  ended : q.Done → q.queue = [] ∧ q.parked = [] ∧ q.running = [] ∧ q.hasWorkers = false
  /-- No id is taken then exactly if no worker was ever lost by the end of a poll, and no
  submission has taken its id that still has to find the queue closed. -/
  freed : q.Done → (q.active = [] ↔
    (∀ e ∈ past ++ trace, Shift.losesWorker e.2 = false) ∧ q.entering = [])

theorem Wound.winds_down {past : List (Nat × Event J)} {lost : List String}
    (h : Wound p q moves trace) (staffed : q.Staffed) (accounted : Accounted q lost)
    (spared : lost = [] ↔ ∀ e ∈ past ++ trace, Shift.losesWorker e.2 = false) :
    WindsDown p q moves past trace where
  quiet := h.quiet
  queue := h.queue
  told := h.told
  turnedAway _ _ := ⟨if_pos h.stopped, if_pos h.stopped⟩
  again := by
    have hstopped := h.stopped
    cases q
    cases hstopped
    rfl
  bounded := h.load
  ended done := by
    obtain ⟨hqueue, -, hrunning, hparked, hworkers⟩ := staffed.empty_of_done h.stopped done
    exact ⟨hqueue, hparked, hrunning, hworkers⟩
  freed done := by
    obtain ⟨hqueue, htaken, hrunning, hparked, -⟩ := staffed.empty_of_done h.stopped done
    have hactive : (q.active : Multiset String) =
        (q.entering : Multiset (Ticket J)).map Ticket.id + lost := by
      rw [accounted.exact, liveIds, live, hqueue, htaken, hrunning, hparked]
      simp
    rw [← spared, ← Multiset.coe_eq_zero, hactive, ← Multiset.card_eq_zero, Multiset.card_add,
      Nat.add_eq_zero_iff, Multiset.card_map, Multiset.coe_card, Multiset.coe_card,
      List.length_eq_zero_iff, List.length_eq_zero_iff, and_comm]

/-- **Every pool winds down when it is stopped**, whatever was going on in it, however its polls
end, and whatever the order of the moves after that. -/
theorem winds_down_of_stop {workers : Nat} {backoff : Backoff} {start : Pool J}
    {sleep : Nat → Nat} {before after : List (Move J)} {past trace : List (Nat × Event J)}
    (hstart : startPool workers backoff = .ok start)
    (hbefore : ({ start with sleep } : Pool J).run before = some (p, past))
    (hafter : p.stop.run after = some (q, trace)) : WindsDown p.stop q after past trace := by
  obtain ⟨hregistered, -, -⟩ := start_registered hstart
  have hstaffed : ({ start with sleep } : Pool J).Staffed := by
    rw [startPool] at hstart
    split at hstart <;> cases hstart
    exact fun hqueue => absurd rfl hqueue
  obtain ⟨lost, hp, hlost⟩ := run_accounted hbefore
    (registered_iff_accounted.mp ⟨hregistered.exact, hregistered.distinct⟩)
  obtain ⟨lost', hq, hlost'⟩ := run_accounted hafter (Accounted.mk hp.exact hp.distinct)
  have hstaffed : p.stop.Staffed := run_staffed (q := p) hbefore hstaffed
  refine (run_wound rfl hafter).winds_down (run_staffed hafter hstaffed) hq (hlost'.trans ?_)
  rw [hlost, List.forall_mem_append, and_iff_right rfl]

/-- A pool that is stopped while one job is parked, one is polled, one is queued, and a
submission has taken its id; afterwards the polled job converges, and everything is gone. -/
theorem winds_down_of_busy_pool :
    ∃ (start p q : Pool Unit) (past trace : List (Nat × Event Unit))
      (before after : List (Move Unit)),
      startPool 2 (OperatorConfig.watchdogBackoff {}) = .ok start ∧
      ({ start with sleep := id } : Pool Unit).run before = some (p, past) ∧
      p.stopped = false ∧ p.active = ["a", "b", "c", "d"] ∧
      p.stop.run after = some (q, trace) ∧ q.active = [] ∧
      WindsDown p.stop q after past trace := by
  let before : List (Move Unit) :=
    [.arrive "a" (), .register 0, .enter 0, .receive, .begin 0, .conclude 0 (.pending ()),
      .arrive "b" (), .register 1, .enter 1, .receive, .begin 1, .arrive "c" (), .register 2,
      .enter 2, .arrive "d" (), .register 3]
  let after : List (Move Unit) :=
    [.enter 3, .arrive "e" (), .receive, .wake 0, .stop, .begin 2, .exit,
      .conclude 1 (.finished ()), .exit]
  have hrun : (({ Pool.start 2 (OperatorConfig.watchdogBackoff {}) with sleep := id } :
      Pool Unit).run before).map (fun r => (r.1.stopped, r.1.active,
        (r.1.stop.run after).map fun s => s.1.active)) =
      some (false, ["a", "b", "c", "d"], some []) := by
    decide +kernel
  obtain ⟨⟨p, past⟩, hbefore, hp⟩ := Option.map_eq_some_iff.mp hrun
  obtain ⟨hrunning, hactive, hp⟩ := Prod.ext_iff.mp hp |>.imp id Prod.ext_iff.mp
  obtain ⟨⟨q, trace⟩, hafter, hq⟩ := Option.map_eq_some_iff.mp hp
  have hstart : startPool 2 (OperatorConfig.watchdogBackoff {}) =
      .ok (Pool.start (J := Unit) 2 (OperatorConfig.watchdogBackoff {})) := rfl
  exact ⟨_, p, q, past, trace, before, after, hstart, hbefore, hrunning, hactive, hafter, hq,
    winds_down_of_stop hstart hbefore hafter⟩

/-- An id can stay taken when everybody is gone: after the second poll of a job the backoff has
no length, so the job is lost together with its worker. -/
theorem not_always_freed :
    ¬∀ (workers : Nat) (backoff : Backoff) (start p q : Pool Unit)
      (before after : List (Move Unit)) (past trace : List (Nat × Event Unit)),
      startPool workers backoff = .ok start → start.run before = some (p, past) →
      p.stop.run after = some (q, trace) → q.Done → q.entering = [] → q.active = [] := by
  intro always
  let backoff : Backoff := { initial := .ofSecs 1, longest := .ofSecs 8, multiplier := -1.0 }
  let before : List (Move Unit) :=
    [.arrive "a" (), .register 0, .enter 0, .receive, .begin 0, .conclude 0 (.pending ()),
      .tick 1000, .wake 0, .receive, .begin 0, .conclude 0 (.pending ())]
  have hrun : ((Pool.start (J := Unit) 2 backoff).run before).map (fun r =>
      (r.1.stop.run [.exit]).map fun s => (s.1.idle + s.1.taken.length + s.1.running.length +
        s.1.parked.length + s.1.entering.length, s.1.active)) = some (some (0, ["a"])) := by
    decide +kernel
  obtain ⟨⟨p, past⟩, hbefore, hp⟩ := Option.map_eq_some_iff.mp hrun
  obtain ⟨⟨q, trace⟩, hafter, hq⟩ := Option.map_eq_some_iff.mp hp
  simp only [Prod.mk.injEq, Nat.add_eq_zero_iff, List.length_eq_zero_iff] at hq
  obtain ⟨⟨⟨⟨⟨hidle, htaken⟩, hrunning⟩, hparked⟩, hentering⟩, hactive⟩ := hq
  have hfree := always 2 backoff _ p q before [.exit] past trace rfl hbefore hafter
    (done_of_empty hidle htaken hrunning hparked) hentering
  exact absurd (hactive.symm.trans hfree) nofun

end Pool

end ClusterOperator.Watchdog
