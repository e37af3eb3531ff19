import ClusterOperator.Proofs.Watchdog.Lives

/-!
# One job among many

What can happen to a job depends on where it is, on what it carries with it, and on the pool as it
is at that moment: a job that rests does so until it is due, and a poll that has ended is the one
that its ticket counts.  `Advance` lists the ways in which a single job goes on.

A job is known by its serial number, and is at one **spot** of the pool or at none (`Pool.At`).  A
move of the pool lets this job go on in one of those ways, or has nothing to do with it, and then
none of its events is about the job (`At.step`).  So an argument about all jobs of a run is one
about a single job.
-/

namespace ClusterOperator.Watchdog

variable {J : Type}

/-- Where a job is, and what it carries with it. -/
inductive Spot (J : Type) where
  /-- It was not submitted yet. -/
  | unborn
  /-- It is submitted, and has not taken its id. -/
  | arriving (t : Ticket J)
  /-- It has taken its id, and its submission is not answered. -/
  | entering (t : Ticket J)
  /-- It is in the queue, or a worker has taken it out. -/
  | waiting (t : Ticket J)
  /-- It is being polled. -/
  | polling (t : Ticket J)
  /-- It waits for its next poll. -/
  | resting (k : Parked J)
  /-- It has left the pool, or was not taken on. -/
  | gone

namespace Spot

/-- What the job carries with it. -/
def ticket? : Spot J → Option (Ticket J)
  | .unborn | .gone => none
  | .arriving t | .entering t | .waiting t | .polling t => some t
  | .resting k => some k.ticket

/-- The spot as one of the pool; a job that is not there has none. -/
def lodging : Spot J → Multiset (Spot J)
  | .unborn | .gone => 0
  | .arriving t => {.arriving t}
  | .entering t => {.entering t}
  | .waiting t => {.waiting t}
  | .polling t => {.polling t}
  | .resting k => {.resting k}

/-- Whether the spot is that of a job. -/
def isOf (serial : Nat) (spot : Spot J) : Bool := spot.ticket?.any fun t => t.serial == serial

variable {spot : Spot J} {t : Ticket J}

/-- A job that is gone has no ticket any more. -/
theorem serial_of_gone (t : Ticket J) :
    ∀ u : Ticket J, (Spot.gone : Spot J).ticket? = some u → u.serial = t.serial := by
  intro u hu
  cases hu

theorem lodging_of_some (h : spot.ticket? = some t) : spot.lodging = {spot} := by
  cases spot with
  | unborn | gone => cases h
  | arriving | entering | waiting | polling | resting => rfl

theorem lodging_of_none (h : spot.ticket? = none) : spot.lodging = 0 := by
  cases spot with
  | unborn | gone => rfl
  | arriving | entering | waiting | polling | resting => cases h

end Spot

/-- What the job of an event carries with it. -/
def Event.ticket? : Event J → Option (Ticket J)
  | .queued t | .polling t | .finished t | .dropped t _ => some t
  | .parked k => some k.ticket
  | .rejected _ _ => none

/-- Whether an event is about a job. -/
def Event.isOf (serial : Nat) (e : Event J) : Bool := e.ticket?.any fun t => t.serial == serial

/-- The events that are about a job. -/
def eventsOf (serial : Nat) (events : List (Event J)) : List (Event J) :=
  events.filter (Event.isOf serial)

/-- The job that a move is about. -/
def Move.serial? : Move J → Option Nat
  | .register serial | .enter serial | .begin serial | .conclude serial _ | .wake serial =>
    some serial
  | .arrive _ _ | .receive | .exit | .stop | .tick _ => none

/-- **How a job goes on** with a move of a pool: from where, with which events, and to where. -/
inductive Advance (p : Pool J) : Move J → Spot J → List (Event J) → Spot J → Prop where
  | submit (id : String) (job : J) : p.stopped = false →
      Advance p (.arrive id job) .unborn [] (.arriving ⟨p.submitted, id, 0, job⟩)
  | register (t : Ticket J) : t.id ∉ p.active →
      Advance p (.register t.serial) (.arriving t) [] (.entering t)
  | refuse (t : Ticket J) : t.id ∈ p.active →
      Advance p (.register t.serial) (.arriving t) [] .gone
  | accept (t : Ticket J) : p.isOpen = true →
      Advance p (.enter t.serial) (.entering t) [.queued t] (.waiting t)
  | reject (t : Ticket J) : p.isOpen = false →
      Advance p (.enter t.serial) (.entering t) [] .gone
  | poll (t : Ticket J) : p.stopped = false →
      Advance p (.begin t.serial) (.waiting t) [.polling { t with polls := t.polls + 1 }]
        (.polling { t with polls := t.polls + 1 })
  | discard (t : Ticket J) : p.stopped = true →
      Advance p (.begin t.serial) (.waiting t) [.dropped t .stopped] .gone
  | rest (t : Ticket J) (job : J) (pause : Duration) : p.backoff.pause t.polls = .ok pause →
      Advance p (.conclude t.serial (.pending job)) (.polling t)
        [.parked ⟨p.now + p.sleep pause.ceilMillis, { t with job }⟩]
        (.resting ⟨p.now + p.sleep pause.ceilMillis, { t with job }⟩)
  | converge (t : Ticket J) (job : J) :
      Advance p (.conclude t.serial (.finished job)) (.polling t) [.finished { t with job }] .gone
  | fail (t : Ticket J) (job : J) :
      Advance p (.conclude t.serial (.failed job)) (.polling t) [.dropped { t with job } .failed]
        .gone
  /-- The job is lost with its worker. -/
  | crash (t : Ticket J) (job : J) {result : PollEnd J} : result.outcome.isUnsettled = true →
      Advance p (.conclude t.serial result) (.polling t) [.dropped { t with job } .panicked] .gone
  | requeue (k : Parked J) : k.due ≤ p.now → p.isOpen = true →
      Advance p (.wake k.ticket.serial) (.resting k) [.queued k.ticket] (.waiting k.ticket)
  | abandon (k : Parked J) {cause : DropCause} : p.isOpen = false → cause.isClosure = true →
      Advance p (.wake k.ticket.serial) (.resting k) [.dropped k.ticket cause] .gone
  /-- The last worker is lost with another job, and the queue with it. -/
  | desert (serial : Nat) (result : PollEnd J) (t : Ticket J) : t.serial ≠ serial →
      Advance p (.conclude serial result) (.waiting t) [.dropped t .abandoned] .gone

/-- Only its submission brings a job into the pool. -/
theorem Advance.submitted {p : Pool J} {m : Move J} {a b : Spot J} {events : List (Event J)}
    {t : Ticket J} (h : Advance p m a events b) (ha : a.ticket? = none) (hb : b.ticket? = some t) :
    ∃ id job, p.stopped = false ∧ m = .arrive id job ∧ t = ⟨p.submitted, id, 0, job⟩ := by
  cases h with
  | submit id job hrunning =>
    cases hb
    exact ⟨id, job, hrunning, rfl, rfl⟩
  | refuse | reject | discard | converge | fail | crash | abandon | desert => cases hb
  | register | accept | poll | requeue | rest => cases ha

namespace Pool

/-- The spots of the pool where jobs are. -/
def spots (p : Pool J) : Multiset (Spot J) :=
  (p.arriving : Multiset (Ticket J)).map .arriving +
    (p.entering : Multiset (Ticket J)).map .entering +
    (p.queue : Multiset (Ticket J)).map .waiting +
    (p.taken : Multiset (Ticket J)).map .waiting +
    (p.running : Multiset (Ticket J)).map .polling +
    (p.parked : Multiset (Parked J)).map .resting

/-- **What a move does to the jobs.** -/
inductive Progress (p q : Pool J) (m : Move J) (events : List (Event J)) : Prop where
  /-- All jobs stay where they are. -/
  | stays : m.serial? = none → q.spots = p.spots → q.submitted = p.submitted →
      (∀ e ∈ events, e.ticket? = none) → (p.stopped = false → events = []) →
      Progress p q m events
  /-- One more job is submitted. -/
  | submits (id : String) (job : J) : p.stopped = false → m = .arrive id job →
      q.spots = .arriving ⟨p.submitted, id, 0, job⟩ ::ₘ p.spots →
      q.submitted = p.submitted + 1 → events = [] → Progress p q m events
  /-- One job goes on; if it is not taken on, the answer is no event about it. -/
  | goes {a b : Spot J} {t : Ticket J} {others : Multiset (Spot J)} {more : List (Event J)} :
      m.serial? = some t.serial → Advance p m a more b → a.ticket? = some t →
      (∀ u, b.ticket? = some u → u.serial = t.serial) →
      p.spots = a ::ₘ others → q.spots = b.lodging + others → q.submitted = p.submitted →
      events = more ++ (if more = [] ∧ b.ticket? = none then [.rejected t.id t.job] else []) →
      Progress p q m events
  /-- One job is lost with its worker, and with the last worker the queue. -/
  | loses (queue : List (Ticket J)) (t : Ticket J) (job : J) {others : Multiset (Spot J)}
      {result : PollEnd J} : m = .conclude t.serial result → result.outcome.isUnsettled = true →
      p.spots = .polling t ::ₘ ((queue : Multiset (Ticket J)).map .waiting + others) →
      q.spots = others → q.submitted = p.submitted →
      events = .dropped { t with job } .panicked :: queue.map (fun u => .dropped u .abandoned) →
      Progress p q m events

variable {p q : Pool J} {events : List (Event J)} {serial : Nat} {m : Move J}

theorem registerNext_progress (h : p.registerNext serial = some (q, events)) :
    Progress p q (.register serial) events := by
  rw [registerNext] at h
  split at h
  · cases h
  · rename_i t arriving hextract
    have harriving := extract_eq hextract
    obtain rfl := serial_of_extract hextract
    have hspots : p.spots = .arriving t ::ₘ ({ p with arriving } : Pool J).spots := by
      simp only [spots, harriving, Multiset.map_cons, Multiset.cons_add]
    split at h
    · rename_i hregister
      have hactive : t.id ∈ p.active := by
        by_contra hfree
        cases hregister.symm.trans (register_eq_some_iff.mpr ⟨hfree, rfl⟩)
      cases h
      exact .goes rfl (.refuse t hactive) rfl (Spot.serial_of_gone t) hspots
        (zero_add _).symm rfl rfl
    · rename_i registered hregister
      obtain ⟨hfree, rfl⟩ := register_eq_some_iff.mp hregister
      cases h
      refine .goes rfl (.register t hfree) rfl (fun u hu => ?_) hspots ?_ rfl rfl
      · cases hu; rfl
      · simp only [spots, coe_concat, Multiset.map_cons, Multiset.cons_add, Multiset.add_cons,
          Spot.lodging, Multiset.singleton_add]

theorem enterNext_progress (h : p.enterNext serial = some (q, events)) :
    Progress p q (.enter serial) events := by
  rw [enterNext] at h
  split at h
  · cases h
  · rename_i t entering hextract
    have hentering := extract_eq hextract
    obtain rfl := serial_of_extract hextract
    have hspots : p.spots = .entering t ::ₘ ({ p with entering } : Pool J).spots := by
      simp only [spots, hentering, Multiset.map_cons, Multiset.cons_add, Multiset.add_cons]
    rw [enter] at h
    split at h
    · rename_i hopen
      cases h
      refine .goes rfl (.accept t hopen) rfl (fun u hu => ?_) hspots ?_ rfl rfl
      · cases hu; rfl
      · simp only [spots, coe_concat, Multiset.map_cons, Multiset.cons_add, Multiset.add_cons,
          Spot.lodging, Multiset.singleton_add]
    · rename_i hclosed
      cases h
      exact .goes rfl (.reject t (Bool.eq_false_iff.mpr hclosed)) rfl (Spot.serial_of_gone t)
        hspots (zero_add _).symm rfl rfl

theorem receive_progress (h : p.receive = some (q, events)) : Progress p q .receive events := by
  rw [receive] at h
  split at h
  · rename_i idle t queue _ hqueue
    cases h
    refine .stays rfl ?_ rfl (List.forall_mem_nil _) fun _ => rfl
    simp only [spots, hqueue, ← Multiset.cons_coe, coe_concat, Multiset.map_cons,
      Multiset.cons_add, Multiset.add_cons]
  · cases h

theorem beginNext_progress (h : p.beginNext serial = some (q, events)) :
    Progress p q (.begin serial) events := by
  rw [beginNext] at h
  split at h
  · cases h
  · rename_i t taken hextract
    have htaken := extract_eq hextract
    obtain rfl := serial_of_extract hextract
    have hspots : p.spots = .waiting t ::ₘ ({ p with taken } : Pool J).spots := by
      simp only [spots, htaken, Multiset.map_cons, Multiset.cons_add, Multiset.add_cons]
    rw [begin] at h
    split at h
    · rename_i hstopped
      cases h
      exact .goes rfl (.discard t hstopped) rfl (Spot.serial_of_gone t) hspots
        (zero_add _).symm rfl rfl
    · rename_i hrunning
      cases h
      refine .goes rfl (.poll t (Bool.eq_false_iff.mpr hrunning)) rfl (fun u hu => ?_) hspots ?_
        rfl rfl
      · cases hu; rfl
      · simp only [spots, coe_concat, Multiset.map_cons, Multiset.cons_add, Multiset.add_cons,
          Spot.lodging, Multiset.singleton_add]

theorem lose_progress {t : Ticket J} {job : J} {running : List (Ticket J)} {result : PollEnd J}
    (hextract : extract (fun t => t.serial == serial) p.running = some (t, running))
    (houtcome : result.outcome.isUnsettled = true) :
    Progress p (({ p with running } : Pool J).lose { t with job }).1 (.conclude serial result)
      (({ p with running } : Pool J).lose { t with job }).2 := by
  have hrunning := extract_eq hextract
  obtain rfl := serial_of_extract hextract
  have hspots : p.spots = .polling t ::ₘ ({ p with running } : Pool J).spots := by
    simp only [spots, hrunning, Multiset.map_cons, Multiset.cons_add, Multiset.add_cons]
  by_cases hworkers : ({ p with running } : Pool J).hasWorkers = true
  · simp only [lose, abandon, hworkers, if_true]
    exact .loses [] t job rfl houtcome (by rw [hspots]; simp) rfl rfl rfl
  · simp only [lose, abandon, hworkers, if_false, Bool.false_eq_true]
    refine .loses p.queue t job rfl houtcome ?_ rfl rfl rfl
    rw [hspots]
    simp only [spots, Multiset.coe_nil, Multiset.map_zero]
    ac_rfl

theorem conclude_progress {result : PollEnd J} (h : p.conclude serial result = some (q, events)) :
    Progress p q (.conclude serial result) events := by
  rw [conclude] at h
  split at h
  · cases h
  · rename_i t running hextract
    have hrunning := extract_eq hextract
    have hserial := serial_of_extract hextract
    have hspots : p.spots = .polling t ::ₘ ({ p with running } : Pool J).spots := by
      simp only [spots, hrunning, Multiset.map_cons, Multiset.cons_add, Multiset.add_cons]
    cases result with
    | panicked job =>
      cases h
      exact lose_progress hextract rfl
    | finished job =>
      subst hserial
      cases h
      exact .goes rfl (.converge t job) rfl (Spot.serial_of_gone t) hspots
        (zero_add _).symm rfl rfl
    | failed job =>
      subst hserial
      cases h
      exact .goes rfl (.fail t job) rfl (Spot.serial_of_gone t) hspots
        (zero_add _).symm rfl rfl
    | pending job =>
      simp only [settle] at h
      split at h
      · cases h
        exact lose_progress hextract rfl
      · rename_i pause hpause
        subst hserial
        cases h
        refine .goes rfl (.rest t job pause hpause) rfl (fun u hu => ?_) hspots ?_ rfl rfl
        · cases hu; rfl
        · simp only [spots, coe_concat, Multiset.map_cons, Multiset.add_cons, Spot.lodging,
            Multiset.singleton_add]

theorem wake_progress (h : p.wake serial = some (q, events)) :
    Progress p q (.wake serial) events := by
  rw [wake] at h
  split at h
  · cases h
  · rename_i due t parked hextract
    have hparked := extract_eq hextract
    have htest := extract_holds hextract
    obtain rfl : t.serial = serial := beq_iff_eq.mp htest
    have hspots : p.spots = .resting ⟨due, t⟩ ::ₘ ({ p with parked } : Pool J).spots := by
      simp only [spots, hparked, Multiset.map_cons, Multiset.add_cons]
    split at h
    · rename_i hwakes
      split at h
      · rename_i hopen
        have hdue : due ≤ p.now := by
          simp only [isOpen, Bool.and_eq_true, Bool.not_eq_true'] at hopen
          simpa [hopen.1] using hwakes
        cases h
        refine .goes rfl (.requeue ⟨due, t⟩ hdue hopen) rfl (fun u hu => ?_) hspots ?_ rfl rfl
        · cases hu; rfl
        · simp only [spots, coe_concat, Multiset.map_cons, Multiset.cons_add, Multiset.add_cons,
            Spot.lodging, Multiset.singleton_add]
      · rename_i hclosed
        cases h
        have hclosure : (if p.stopped then DropCause.stopped else .abandoned).isClosure = true := by
          split <;> rfl
        exact .goes rfl (.abandon ⟨due, t⟩ (Bool.eq_false_iff.mpr hclosed) hclosure) rfl
          (Spot.serial_of_gone t) hspots (zero_add _).symm rfl rfl
    · cases h

/-- **Every move takes jobs on so**, however polls end. -/
theorem step_progress (h : p.step m = some (q, events)) : Progress p q m events := by
  cases m with
  | arrive id job =>
    rw [step, arrive] at h
    split at h
    · rename_i hstopped
      cases h
      refine .stays rfl rfl rfl (by simp [Event.ticket?]) fun hrunning => ?_
      simp [hrunning] at hstopped
    · rename_i hrunning
      cases h
      refine .submits id job (Bool.eq_false_iff.mpr hrunning) rfl ?_ rfl rfl
      simp only [spots, coe_concat, Multiset.map_cons, Multiset.cons_add]
  | register serial => exact registerNext_progress h
  | enter serial => exact enterNext_progress h
  | receive => exact receive_progress h
  | begin serial => exact beginNext_progress h
  | conclude serial result => exact conclude_progress h
  | wake serial => exact wake_progress h
  | exit =>
    rw [step, exit] at h
    split at h
    · split at h <;> cases h
      exact .stays rfl rfl rfl (List.forall_mem_nil _) fun _ => rfl
    · cases h
  | stop | tick =>
    cases h
    exact .stays rfl rfl rfl (List.forall_mem_nil _) fun _ => rfl

/-! ## One job -/

/-- The spots of a job. -/
def spotsOf (serial : Nat) (spots : Multiset (Spot J)) : Multiset (Spot J) :=
  spots.filter fun spot => spot.isOf serial

/-- **A job is at this spot** and at no other. -/
structure At (p : Pool J) (serial : Nat) (spot : Spot J) : Prop where
  only : spotsOf serial p.spots = spot.lodging
  unborn : spot = .unborn ↔ p.submitted ≤ serial

variable {a b : Spot J} {t : Ticket J} {others : Multiset (Spot J)}

theorem spotsOf_cons (hb : b.ticket? = some t) : spotsOf serial (b ::ₘ others) =
    if t.serial = serial then b ::ₘ spotsOf serial others else spotsOf serial others := by
  have hof : b.isOf serial = true ↔ t.serial = serial := by simp [Spot.isOf, hb]
  by_cases h : t.serial = serial
  · rw [if_pos h]
    exact Multiset.filter_cons_of_pos _ (hof.mpr h)
  · rw [if_neg h]
    exact Multiset.filter_cons_of_neg _ (hof.not.mpr h)

theorem spotsOf_lodging (hb : ∀ u, b.ticket? = some u → u.serial = t.serial) :
    spotsOf serial (b.lodging + others) =
      (if t.serial = serial then b.lodging else 0) + spotsOf serial others := by
  cases hu : b.ticket? with
  | none => simp [Spot.lodging_of_none hu]
  | some u =>
    rw [Spot.lodging_of_some hu, Multiset.singleton_add, spotsOf_cons hu, hb u hu]
    split
    · rw [Multiset.singleton_add]
    · rw [zero_add]

theorem spotsOf_queue (queue : List (Ticket J)) :
    spotsOf serial ((queue : Multiset (Ticket J)).map .waiting + others) =
      ((queue.filter fun u => u.serial = serial : List (Ticket J)) : Multiset (Ticket J)).map
        .waiting + spotsOf serial others := by
  induction queue with
  | nil => simp
  | cons u queue ih =>
    rw [← Multiset.cons_coe, Multiset.map_cons, Multiset.cons_add, spotsOf_cons rfl, ih,
      List.filter_cons]
    by_cases hs : u.serial = serial <;> simp [hs, ← Multiset.cons_coe]

theorem lodging_eq_cons_spot {rest : Multiset (Spot J)} (h : b ::ₘ rest = a.lodging) :
    a = b ∧ rest = 0 ∧ a ≠ .unborn := by
  cases ha : a.ticket? with
  | none => exact absurd (h.trans (Spot.lodging_of_none ha)) Multiset.cons_ne_zero
  | some t =>
    rw [Spot.lodging_of_some ha] at h
    obtain ⟨rfl, rfl⟩ := (Multiset.singleton_eq_cons_iff _).mp h.symm
    refine ⟨rfl, rfl, ?_⟩
    rintro rfl
    cases ha

theorem lodging_eq_cons_queue {queue : List (Ticket J)} {rest : Multiset (Spot J)}
    (h : b ::ₘ ((queue : Multiset (Ticket J)).map .waiting + rest) = a.lodging) :
    a = b ∧ queue = [] ∧ rest = 0 ∧ a ≠ .unborn := by
  obtain ⟨ha, hzero, hborn⟩ := lodging_eq_cons_spot h
  have hcard := congrArg Multiset.card hzero
  simp only [Multiset.card_add, Multiset.card_map, Multiset.coe_card, Multiset.card_zero,
    Nat.add_eq_zero_iff, List.length_eq_zero_iff, Multiset.card_eq_zero] at hcard
  exact ⟨ha, hcard.1, hcard.2, hborn⟩

/-- A job is where its spot is among those of the pool. -/
theorem At.eq_of_mem (h : p.At serial a) (hmem : b ∈ p.spots) (hb : b.isOf serial = true) :
    a = b := by
  have hone : b ∈ a.lodging := h.only ▸ Multiset.mem_filter.mpr ⟨hmem, hb⟩
  cases ha : a.ticket? with
  | none =>
    rw [Spot.lodging_of_none ha] at hone
    exact absurd hone (Multiset.notMem_zero b)
  | some t =>
    rw [Spot.lodging_of_some ha] at hone
    exact (Multiset.mem_singleton.mp hone).symm

theorem At.mem_spotsOf (h : p.At serial a) (ha : a.ticket? = some t) :
    a ∈ spotsOf serial p.spots := by
  rw [h.only, Spot.lodging_of_some ha]
  exact Multiset.mem_singleton_self a

/-- A job that is somewhere is at a spot of the pool. -/
theorem At.mem (h : p.At serial a) (ha : a.ticket? = some t) : a ∈ p.spots :=
  (Multiset.mem_filter.mp (h.mem_spotsOf ha)).1

/-- The ticket of a job has its serial number. -/
theorem At.serial_eq (h : p.At serial a) (ha : a.ticket? = some t) : t.serial = serial := by
  have hof := (Multiset.mem_filter.mp (h.mem_spotsOf ha)).2
  simpa [Spot.isOf, ha] using hof

theorem eventsOf_loss {u : Ticket J} {queue : List (Ticket J)} :
    eventsOf serial (.dropped u .panicked :: queue.map fun v => .dropped v .abandoned) =
      (if u.serial = serial then [.dropped u .panicked] else []) ++
        (queue.filter fun v => v.serial = serial).map fun v => .dropped v .abandoned := by
  rw [eventsOf, List.filter_cons, List.filter_map]
  by_cases hs : u.serial = serial <;>
    simp [Event.isOf, Event.ticket?, hs, Function.comp_def, beq_eq_decide]

/-- The events of a job that goes on are about that job only. -/
theorem eventsOf_advance {more : List (Event J)} (h : Advance p m a more b)
    (ha : a.ticket? = some t) :
    eventsOf serial more = if t.serial = serial then more else [] := by
  have hsingle {e : Event J} (he : e.ticket?.map Ticket.serial = some t.serial) :
      eventsOf serial [e] = if t.serial = serial then [e] else [] := by
    obtain ⟨u, hu, hserial⟩ := Option.map_eq_some_iff.mp he
    by_cases hs : t.serial = serial <;> simp [eventsOf, Event.isOf, hu, hserial, hs]
  cases h with
  | submit => cases ha
  | register | refuse | reject => exact (ite_self _).symm
  | accept | poll | discard | rest | converge | fail | crash | requeue | abandon | desert =>
    cases ha
    exact hsingle rfl

/-- **What a move means for a job.** -/
inductive Impact (p : Pool J) (m : Move J) (events : List (Event J)) (serial : Nat) (a b : Spot J) :
    Prop where
  /-- The job goes on; if it leaves without any event about it, its submission was rejected. -/
  | goes : Advance p m a (eventsOf serial events) b →
      (∀ t, a.ticket? = some t → b.ticket? = none → eventsOf serial events = [] →
        .rejected t.id t.job ∈ events) → Impact p m events serial a b
  /-- The move has nothing to do with it. -/
  | stays : b = a → eventsOf serial events = [] → m.serial? ≠ some serial →
      Impact p m events serial a b

/-- **Every move has such a meaning for every job.** -/
theorem At.step (h : p.At serial a) (hstep : p.step m = some (q, events)) :
    ∃ b, q.At serial b ∧ Impact p m events serial a b := by
  cases step_progress hstep with
  | stays hm hspots hsubmitted hevents =>
    refine ⟨a, ⟨hspots ▸ h.only, hsubmitted ▸ h.unborn⟩, .stays rfl ?_ (by rw [hm]; nofun)⟩
    exact List.filter_eq_nil_iff.mpr fun e he => by simp [Event.isOf, hevents e he]
  | submits id job hrunning hm hspots hsubmitted hevents =>
    subst hm hevents
    by_cases hs : p.submitted = serial
    · -- The serial number was free, so the job is where the move has put it.
      obtain rfl := h.unborn.mpr (Nat.le_of_eq hs)
      refine ⟨.arriving ⟨p.submitted, id, 0, job⟩, ⟨?_, iff_of_false nofun (by omega)⟩,
        .goes (.submit id job hrunning) nofun⟩
      rw [hspots, spotsOf_cons rfl, if_pos hs, h.only]
      rfl
    · refine ⟨a, ⟨?_, h.unborn.trans (by omega)⟩, .stays rfl rfl nofun⟩
      rw [hspots, spotsOf_cons rfl, if_neg hs, h.only]
  | @goes x y t others more hm hadvance hx hy hp hq hsubmitted hevents =>
    have honly := h.only
    rw [hp, spotsOf_cons hx] at honly
    by_cases hs : t.serial = serial
    · -- The job was at one spot only, and that is left.
      rw [if_pos hs] at honly
      obtain ⟨rfl, hothers, hborn⟩ := lodging_eq_cons_spot honly
      have hmore : eventsOf serial events = more := by
        rw [hevents, eventsOf, List.filter_append, ← eventsOf, eventsOf_advance hadvance hx,
          if_pos hs]
        split <;> simp [Event.isOf, Event.ticket?]
      refine ⟨y, ⟨?_, ?_⟩, .goes (hmore ▸ hadvance) fun u hu hgone hnone => ?_⟩
      · rw [hq, spotsOf_lodging hy, if_pos hs, hothers, add_zero]
      · refine iff_of_false ?_ fun hle => hborn (h.unborn.mpr (hsubmitted ▸ hle))
        rintro rfl
        cases hadvance
      · obtain rfl := Option.some.inj (hx.symm.trans hu)
        rw [hevents, if_pos ⟨hmore ▸ hnone, hgone⟩]
        exact List.mem_append_right _ List.mem_cons_self
    · rw [if_neg hs] at honly
      refine ⟨a, ⟨?_, hsubmitted ▸ h.unborn⟩, .stays rfl ?_ ?_⟩
      · rw [hq, spotsOf_lodging hy, if_neg hs, zero_add, honly]
      · rw [hevents, eventsOf, List.filter_append, ← eventsOf, eventsOf_advance hadvance hx,
          if_neg hs]
        split <;> simp [Event.isOf, Event.ticket?]
      · rw [hm]
        exact fun heq => hs (Option.some.inj heq)
  | @loses queue t job others result hm houtcome hp hq hsubmitted hevents =>
    have honly := h.only
    rw [hp, spotsOf_cons rfl, spotsOf_queue] at honly
    subst hm hevents
    by_cases hs : t.serial = serial
    · -- The job was being polled, so it is not in the queue.
      rw [if_pos hs] at honly
      obtain ⟨rfl, hqueue, hothers, hborn⟩ := lodging_eq_cons_queue honly
      refine ⟨.gone, ⟨by rw [hq, hothers]; rfl, iff_of_false nofun fun hle =>
        hborn (h.unborn.mpr (hsubmitted ▸ hle))⟩, ?_⟩
      refine .goes ?_ ?_ <;> rw [eventsOf_loss, if_pos hs, hqueue]
      · exact .crash t job houtcome
      · exact nofun
    · rw [if_neg hs] at honly
      cases hqueue : queue.filter fun v => v.serial = serial with
      | nil =>
        rw [hqueue, Multiset.coe_nil, Multiset.map_zero, zero_add] at honly
        refine ⟨a, ⟨hq ▸ honly, hsubmitted ▸ h.unborn⟩, .stays rfl ?_ ?_⟩
        · rw [eventsOf_loss, if_neg hs, hqueue]
          rfl
        · exact fun heq => hs (Option.some.inj heq)
      | cons v more =>
        rw [hqueue, ← Multiset.cons_coe, Multiset.map_cons, Multiset.cons_add] at honly
        obtain ⟨rfl, rfl, hothers, hborn⟩ := lodging_eq_cons_queue honly
        have hv : v.serial = serial := by
          have hmem : v ∈ queue.filter fun v => v.serial = serial :=
            hqueue ▸ List.mem_cons_self
          simpa using (List.mem_filter.mp hmem).2
        refine ⟨.gone, ⟨by rw [hq, hothers]; rfl, iff_of_false nofun fun hle =>
          hborn (h.unborn.mpr (hsubmitted ▸ hle))⟩, ?_⟩
        refine .goes ?_ ?_ <;> rw [eventsOf_loss, if_neg hs, hqueue]
        · exact .desert t.serial result v fun heq => hs (heq ▸ hv)
        · exact nofun

/-- At the start no job was submitted. -/
theorem start_at {workers : Nat} {backoff : Backoff} (h : startPool workers backoff = .ok p)
    (sleep : Nat → Nat) (now serial : Nat) :
    ({ p with sleep, now } : Pool J).At serial .unborn := by
  rw [startPool] at h
  split at h
  · cases h
  · cases h
    exact ⟨rfl, iff_of_true rfl (Nat.zero_le serial)⟩

end Pool

end ClusterOperator.Watchdog
