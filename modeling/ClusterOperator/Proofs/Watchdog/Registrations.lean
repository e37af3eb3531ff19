import ClusterOperator.Config
import ClusterOperator.Proofs.Backoff
import ClusterOperator.Watchdog.Crew
import Mathlib.Algebra.Order.Group.Multiset

/-!
# Who holds an id

The **live** jobs of a pool are those that have taken their id and have not given it free:
they are about to enter the queue, in it, taken out of it by a worker, being polled, or
waiting for their next poll.  In every pool that can be reached the ids that are taken are
those of the live jobs, each of one of them (`registered_of_run`).

A move does one of three things (`Change`): it leaves the ids of the live jobs alone, lets
one job join that takes an id of nobody, or lets one live job leave that gives its id free.
-/

namespace ClusterOperator.Watchdog

variable {J : Type}

/-- Whether a move is the end of a poll that panicked. -/
def Move.panics : Move J → Bool
  | .conclude _ (.panicked _) => true
  | _ => false

/-- How a poll ends with a move. -/
def Move.result? : Move J → Option (PollEnd J)
  | .conclude _ result => some result
  | _ => none

namespace Pool

/-- **The live jobs** of a pool. -/
def live (p : Pool J) : Multiset (Ticket J) :=
  (p.entering : Multiset (Ticket J)) + p.queue + p.taken + p.running +
    (p.parked : Multiset (Parked J)).map Parked.ticket

/-- The ids of the live jobs, each as often as there are live jobs of that id. -/
def liveIds (p : Pool J) : Multiset String := p.live.map Ticket.id

/-- Unless the pool is stopped, some worker is left. -/
def Manned (p : Pool J) : Prop := p.stopped = false → p.hasWorkers = true

/-- **What a move can do to the registrations.** -/
inductive Change (p q : Pool J) : Prop where
  /-- The ids stay as they are. -/
  | keeps : q.active = p.active → q.liveIds = p.liveIds → Change p q
  /-- A job takes an id that nobody has. -/
  | joins (t : Ticket J) : t.id ∉ p.active → q.active = p.active ++ [t.id] →
      q.live = t ::ₘ p.live → Change p q
  /-- A live job gives its id free. -/
  | leaves (t : Ticket J) : q.active = p.active.filter (fun other => decide (other ≠ t.id)) →
      p.live = t ::ₘ q.live → Change p q

/-- What holds of every move that does not cost a worker. -/
structure Orderly (p q : Pool J) : Prop where
  change : Change p q
  manned : p.Manned → q.Manned
  backoff : q.backoff = p.backoff

variable {p q : Pool J} {events : List (Event J)} {t : Ticket J} {serial : Nat}

theorem extract_eq {α : Type} {test : α → Bool} {l rest : List α} {a : α}
    (h : extract test l = some (a, rest)) : (l : Multiset α) = a ::ₘ rest := by
  induction l generalizing rest with
  | nil => cases h
  | cons b l ih =>
    rw [extract] at h
    by_cases hb : test b = true
    · rw [if_pos hb] at h
      cases h
      rfl
    · rw [if_neg hb] at h
      obtain ⟨⟨_, rest'⟩, hrest, heq⟩ := Option.map_eq_some_iff.mp h
      cases heq
      rw [← Multiset.cons_coe, ih hrest, Multiset.cons_swap, Multiset.cons_coe]

theorem coe_concat {α : Type} (l : List α) (a : α) :
    ((l ++ [a] : List α) : Multiset α) = a ::ₘ (l : Multiset α) := by
  rw [← Multiset.coe_add, Multiset.coe_singleton, add_comm, Multiset.singleton_add]

theorem isActive_iff {id : String} : p.isActive id = true ↔ id ∈ p.active := by
  rw [isActive, List.contains_iff_mem]

/-- A job takes its id exactly if nobody has it. -/
theorem register_eq_some_iff :
    p.register t = some q ↔ t.id ∉ p.active ∧ q = { p with active := p.active ++ [t.id] } := by
  rw [register, ← isActive_iff]
  by_cases h : p.isActive t.id = true <;> simp [h, eq_comm]

/-! ## One move -/

theorem arrive_orderly {id : String} {job : J} (h : p.arrive id job = (q, events)) :
    Orderly p q := by
  rw [arrive] at h
  split at h <;> cases h
  · exact ⟨.keeps rfl rfl, fun hp => hp, rfl⟩
  · exact ⟨.keeps rfl rfl, fun hp => hp, rfl⟩

theorem registerNext_orderly (h : p.registerNext serial = some (q, events)) :
    Orderly p q := by
  rw [registerNext] at h
  split at h
  · cases h
  · rename_i t arriving _
    split at h
    · cases h
      exact ⟨.keeps rfl rfl, fun hp => hp, rfl⟩
    · rename_i registered hregister
      obtain ⟨hfree, rfl⟩ := register_eq_some_iff.mp hregister
      cases h
      refine ⟨.joins t hfree rfl ?_, fun hp => hp, rfl⟩
      simp only [live, coe_concat, Multiset.cons_add]

theorem enterNext_orderly (h : p.enterNext serial = some (q, events)) : Orderly p q := by
  rw [enterNext] at h
  split at h
  · cases h
  · rename_i t entering hextract
    have hentering := extract_eq hextract
    rw [enter] at h
    split at h <;> cases h
    · refine ⟨.keeps rfl ?_, fun hp => hp, rfl⟩
      simp only [liveIds, live, hentering, coe_concat, Multiset.add_cons, Multiset.cons_add]
    · refine ⟨.leaves t rfl ?_, fun hp => hp, rfl⟩
      simp only [live, release, hentering, Multiset.cons_add]

theorem receive_orderly (h : p.receive = some (q, events)) : Orderly p q := by
  rw [receive] at h
  split at h
  · rename_i idle t queue _ hqueue
    cases h
    refine ⟨.keeps rfl ?_, fun _ _ => ?_, rfl⟩
    · simp only [liveIds, live, hqueue, ← Multiset.cons_coe,
        coe_concat, Multiset.add_cons, Multiset.cons_add]
    · simp [hasWorkers]
  · cases h

theorem beginNext_orderly (h : p.beginNext serial = some (q, events)) : Orderly p q := by
  rw [beginNext] at h
  split at h
  · cases h
  · rename_i t taken hextract
    have htaken := extract_eq hextract
    rw [begin] at h
    split at h
    · -- The pool was stopped after the job was taken, so the job is dropped with its id.
      rename_i hstopped
      cases h
      refine ⟨.leaves t rfl ?_, fun _ hrunning => ?_, rfl⟩
      · simp only [live, release, htaken, Multiset.add_cons, Multiset.cons_add]
      · exact absurd hstopped (by simp [show p.stopped = false from hrunning])
    · cases h
      refine ⟨.keeps rfl ?_, fun _ _ => ?_, rfl⟩
      · simp only [liveIds, live, htaken, coe_concat, Multiset.add_cons, Multiset.cons_add,
          Multiset.map_cons]
      · simp [hasWorkers]

theorem not_spared_lose : ¬∀ e ∈ (p.lose t).2, Shift.losesWorker e = false := fun spared =>
  nomatch spared _ List.mem_cons_self

theorem conclude_orderly {result : PollEnd J}
    (spared : ∀ e ∈ events, Shift.losesWorker e = false)
    (h : p.conclude serial result = some (q, events)) : Orderly p q := by
  rw [conclude] at h
  split at h
  · cases h
  · rename_i t running hextract
    have hrunning := extract_eq hextract
    cases result with
    | panicked job =>
      cases h
      exact absurd spared not_spared_lose
    | finished job =>
      cases h
      refine ⟨.leaves t rfl ?_, fun _ _ => ?_, rfl⟩
      · simp only [live, release, hrunning, Multiset.add_cons, Multiset.cons_add]
      · simp [hasWorkers, release]
    | failed job =>
      cases h
      refine ⟨.leaves t rfl ?_, fun _ _ => ?_, rfl⟩
      · simp only [live, release, hrunning, Multiset.add_cons, Multiset.cons_add]
      · simp [hasWorkers, release]
    | pending job =>
      simp only [settle] at h
      split at h <;> cases h
      · -- Without a pause the worker is lost, and the id taken by nobody.
        exact absurd spared not_spared_lose
      · refine ⟨.keeps rfl ?_, fun _ _ => ?_, rfl⟩
        · simp only [liveIds, live, hrunning, coe_concat, Multiset.map_add, Multiset.add_cons,
            Multiset.cons_add, Multiset.map_cons]
        · simp [hasWorkers]

theorem wake_orderly (h : p.wake serial = some (q, events)) : Orderly p q := by
  rw [wake] at h
  split at h
  · cases h
  · rename_i due t parked hextract
    have hparked := extract_eq hextract
    split at h
    · split at h
      · cases h
        refine ⟨.keeps rfl ?_, fun hp => hp, rfl⟩
        simp only [liveIds, live, hparked, coe_concat,
          Multiset.map_cons, Multiset.add_cons, Multiset.cons_add]
      · cases h
        refine ⟨.leaves t rfl ?_, fun hp => hp, rfl⟩
        simp only [live, release, hparked, Multiset.map_cons, Multiset.add_cons]
    · cases h

theorem exit_orderly (h : p.exit = some (q, events)) : Orderly p q := by
  rw [exit] at h
  split at h
  · split at h
    · rename_i hstopped
      cases h
      refine ⟨.keeps rfl rfl, fun _ hrunning => ?_, rfl⟩
      simp only [Bool.and_eq_true] at hstopped
      exact absurd hstopped.1 (by simp [show p.stopped = false from hrunning])
    · cases h
  · cases h

/-- **Every move is orderly** that does not cost a worker. -/
theorem step_orderly {m : Move J} (spared : ∀ e ∈ events, Shift.losesWorker e = false)
    (h : p.step m = some (q, events)) : Orderly p q := by
  cases m with
  | arrive id job => exact arrive_orderly (Option.some.inj h)
  | register serial => exact registerNext_orderly h
  | enter serial => exact enterNext_orderly h
  | receive => exact receive_orderly h
  | begin serial => exact beginNext_orderly h
  | conclude serial result => exact conclude_orderly spared h
  | wake serial => exact wake_orderly h
  | exit => exact exit_orderly h
  | stop =>
    cases h
    exact ⟨.keeps rfl rfl, (fun _ hrunning => nomatch hrunning), rfl⟩
  | tick ms =>
    cases h
    exact ⟨.keeps rfl rfl, fun hp => hp, rfl⟩

/-- As long as the pauses have lengths, only a poll that panics takes a worker along. -/
theorem conclude_spares {result : PollEnd J} (paced : p.backoff.Paced)
    (calm : (Move.conclude serial result).panics = false)
    (h : p.conclude serial result = some (q, events)) :
    ∀ e ∈ events, Shift.losesWorker e = false := by
  rw [conclude] at h
  split at h
  · cases h
  · rename_i t running _
    cases result with
    | panicked job => cases calm
    | finished job | failed job =>
      cases h
      simp [Shift.losesWorker]
    | pending job =>
      obtain ⟨d, hd⟩ := paced t.polls
      simp only [settle, hd] at h
      cases h
      simp [Shift.losesWorker]

/-- Only the end of a poll can cost a worker. -/
theorem spared_of_step {m : Move J} (h : p.step m = some (q, events))
    (hother : ∀ serial result, m ≠ .conclude serial result) :
    ∀ e ∈ events, Shift.losesWorker e = false := by
  cases m with
  | conclude serial result => exact absurd rfl (hother serial result)
  | stop | tick =>
    cases h
    exact List.forall_mem_nil _
  | arrive id job =>
    rw [step, arrive] at h
    split at h <;> cases h <;> simp [Shift.losesWorker]
  | register serial =>
    rw [step, registerNext] at h
    split at h
    · cases h
    · split at h <;> cases h <;> simp [Shift.losesWorker]
  | enter serial =>
    rw [step, enterNext] at h
    split at h
    · cases h
    · rw [enter] at h
      split at h <;> cases h <;> simp [Shift.losesWorker]
  | receive =>
    rw [step, receive] at h
    split at h <;> cases h
    exact List.forall_mem_nil _
  | begin serial =>
    rw [step, beginNext] at h
    split at h
    · cases h
    · rw [begin] at h
      split at h <;> cases h <;> simp [Shift.losesWorker]
  | wake serial =>
    rw [step, wake] at h
    split at h
    · cases h
    · split at h
      · split at h <;> cases h
        · simp [Shift.losesWorker]
        · split <;> simp [Shift.losesWorker]
      · cases h
  | exit =>
    rw [step, exit] at h
    split at h
    · split at h <;> cases h
      exact List.forall_mem_nil _
    · cases h

/-- **No worker is lost**, as long as the pauses have lengths and no poll panics. -/
theorem step_spares {m : Move J} (paced : p.backoff.Paced) (calm : m.panics = false)
    (h : p.step m = some (q, events)) : ∀ e ∈ events, Shift.losesWorker e = false := by
  by_cases hm : ∃ serial result, m = .conclude serial result
  · obtain ⟨serial, result, rfl⟩ := hm
    exact conclude_spares paced calm h
  · exact spared_of_step h fun serial result heq => hm ⟨serial, result, heq⟩

/-! ## Every run -/

/-- **The ids that are taken are those of the live jobs**, each of one of them. -/
structure Registered (p : Pool J) : Prop where
  exact : (p.active : Multiset String) = p.liveIds
  distinct : p.active.Nodup

theorem Registered.mem_iff (h : Registered p) {id : String} :
    id ∈ p.active ↔ ∃ t ∈ p.live, t.id = id := by
  rw [← Multiset.mem_coe, h.exact, liveIds, Multiset.mem_map]

theorem Registered.nodup (h : Registered p) : p.liveIds.Nodup := by
  rw [← h.exact]
  exact Multiset.coe_nodup.mpr h.distinct

/-- A job that leaves takes one registration along, its own. -/
theorem active_of_leaves (distinct : p.active.Nodup) (hmem : t.id ∈ p.active)
    (hactive : q.active = p.active.filter fun other => decide (other ≠ t.id)) :
    (p.active : Multiset String) = t.id ::ₘ q.active := by
  -- Since no id is taken twice, filtering it out takes out one.
  have herase : q.active = p.active.erase t.id := by
    rw [hactive, distinct.erase_eq_filter]
    refine List.filter_congr fun other _ => ?_
    by_cases ho : other = t.id <;> simp [ho]
  rw [herase, ← Multiset.coe_erase]
  exact (Multiset.cons_erase (Multiset.mem_coe.mpr hmem)).symm

theorem Registered.active_of_leaves (h : Registered p)
    (hactive : q.active = p.active.filter fun other => decide (other ≠ t.id))
    (hlive : p.live = t ::ₘ q.live) : (p.active : Multiset String) = t.id ::ₘ q.active :=
  Pool.active_of_leaves h.distinct
    (h.mem_iff.mpr ⟨t, hlive ▸ Multiset.mem_cons_self t q.live, rfl⟩) hactive

/-- The ids that are taken are those of the live jobs and of jobs that are lost, no id twice. -/
structure Accounted (p : Pool J) (lost : List String) : Prop where
  exact : (p.active : Multiset String) = p.liveIds + (lost : Multiset String)
  distinct : p.active.Nodup

theorem registered_iff_accounted : Registered p ↔ Accounted p [] :=
  ⟨fun h => ⟨h.exact.trans (add_zero _).symm, h.distinct⟩,
    fun h => ⟨h.exact.trans (add_zero _), h.distinct⟩⟩

theorem Change.accounted {lost : List String} (h : Change p q) (hp : Accounted p lost) :
    Accounted q lost := by
  cases h with
  | keeps hactive hlive => exact ⟨by rw [hactive, hlive, hp.exact], hactive ▸ hp.distinct⟩
  | joins t hfree hactive hlive =>
    refine ⟨?_, ?_⟩
    · rw [hactive, coe_concat, hp.exact, liveIds, liveIds, hlive, Multiset.map_cons,
        Multiset.cons_add]
    · rw [hactive, ← List.concat_eq_append, List.nodup_concat]
      exact ⟨hfree, hp.distinct⟩
  | leaves t hactive hlive =>
    have hexact : (p.active : Multiset String) = t.id ::ₘ (q.liveIds + lost) := by
      rw [hp.exact, liveIds, liveIds, hlive, Multiset.map_cons, Multiset.cons_add]
    have hmem : t.id ∈ p.active := Multiset.mem_coe.mp (hexact ▸ Multiset.mem_cons_self _ _)
    have hcons := active_of_leaves hp.distinct hmem hactive
    rw [hexact, Multiset.cons_inj_right] at hcons
    exact ⟨hcons.symm, hactive ▸ hp.distinct.filter _⟩

theorem Change.registered (h : Change p q) (hp : Registered p) : Registered q :=
  registered_iff_accounted.mpr (h.accounted (registered_iff_accounted.mp hp))

/-- A run goes on after its first move. -/
theorem run_cons_eq_some {m : Move J} {moves : List (Move J)} {trace : List (Nat × Event J)}
    (h : p.run (m :: moves) = some (q, trace)) :
    ∃ (r : Pool J) (events : List (Event J)) (rest : List (Nat × Event J)),
      p.step m = some (r, events) ∧ r.run moves = some (q, rest) ∧
        trace = events.map (fun e => (p.now, e)) ++ rest := by
  rw [run] at h
  split at h
  · cases h
  · rename_i r events hstep
    obtain ⟨⟨_, rest⟩, hrest, heq⟩ := Option.map_eq_some_iff.mp h
    cases heq
    exact ⟨r, events, rest, hstep, hrest, rfl⟩

/-- What one move keeps, a run keeps. -/
theorem run_registered {moves : List (Move J)} {trace : List (Nat × Event J)}
    (paced : p.backoff.Paced) (calm : ∀ m ∈ moves, m.panics = false)
    (hrun : p.run moves = some (q, trace)) (hp : Registered p) (hm : p.Manned) :
    Registered q ∧ q.Manned ∧ q.backoff = p.backoff := by
  induction moves generalizing p trace with
  | nil =>
    cases hrun
    exact ⟨hp, hm, rfl⟩
  | cons m moves ih =>
    obtain ⟨r, events, rest, hstep, hrest, rfl⟩ := run_cons_eq_some hrun
    -- A move keeps the backoff, so the pauses after it have lengths too.
    have orderly := step_orderly (step_spares paced (calm m List.mem_cons_self) hstep) hstep
    obtain ⟨hq, hmq, hb⟩ := ih (orderly.backoff ▸ paced)
      (fun m' hm' => calm m' (List.mem_cons_of_mem m hm')) hrest
      (orderly.change.registered hp) (orderly.manned hm)
    exact ⟨hq, hmq, hb.trans orderly.backoff⟩

theorem start_registered {workers : Nat} {backoff : Backoff}
    (h : startPool workers backoff = .ok p) : Registered p ∧ p.Manned ∧ p.backoff = backoff := by
  rw [startPool] at h
  split at h
  · cases h
  · rename_i hworkers
    cases h
    refine ⟨⟨rfl, List.nodup_nil⟩, fun _ => ?_, rfl⟩
    simp [start, hasWorkers, Nat.pos_of_ne_zero hworkers]

/-! ## What submissions and releases mean -/

theorem Registered.register_iff (h : Registered p) :
    (∃ q, p.register t = some q) ↔ ∀ u ∈ p.live, u.id ≠ t.id := by
  simp only [register_eq_some_iff, exists_and_left, exists_eq, and_true, h.mem_iff]
  simp

/-- As long as the pool is not stopped, a job that has taken its id is queued. -/
theorem Manned.enter (h : p.Manned) (running : p.stopped = false) :
    (p.enter t).2 = [.queued t] := by
  rw [Pool.enter, if_pos (by simp [isOpen, running, h running])]

/-- **A pool that is not stopped accepts a job exactly if no live job has its id.** -/
theorem Registered.enqueue_iff (h : Registered p) (hm : p.Manned) (running : p.stopped = false)
    (id : String) (job : J) :
    (∃ t, (p.enqueue id job).2 = [.queued t]) ↔ ∀ u ∈ p.live, u.id ≠ id := by
  have hfree : (∀ u ∈ p.live, u.id ≠ id) ↔ id ∉ p.active := by
    rw [h.mem_iff]
    simp
  rw [hfree, enqueue, if_neg (by simp [running])]
  dsimp only
  split
  · rename_i hnone
    constructor
    · rintro ⟨t, ⟨⟩⟩
    · intro hid
      have hsome : ({ p with submitted := p.submitted + 1 } : Pool J).register
          { serial := p.submitted, id, job } = some _ := register_eq_some_iff.mpr ⟨hid, rfl⟩
      exact absurd (hnone.symm.trans hsome) nofun
  · rename_i q hregister
    obtain ⟨hid, rfl⟩ := register_eq_some_iff.mp hregister
    refine ⟨fun _ => hid, fun _ => ⟨_, Manned.enter ?_ running⟩⟩
    exact hm

/-- The submission of a job is made of moves, with nobody else in between. -/
theorem enqueue_eq_run (harriving : p.arriving = []) (hentering : p.entering = []) (id : String)
    (job : J) :
    ∃ moves, (∀ m ∈ moves, m.result? = none) ∧ p.run moves =
      some ((p.enqueue id job).1, (p.enqueue id job).2.map fun e => (p.now, e)) := by
  by_cases stopped : p.stopped = true
  · refine ⟨[.arrive id job], by simp [Move.result?], ?_⟩
    simp [run, step, arrive, enqueue, stopped]
  · by_cases taken : id ∈ p.active
    · refine ⟨[.arrive id job, .register p.submitted], by simp [Move.result?], ?_⟩
      simp [run, step, arrive, registerNext, extract, register, isActive, enqueue, stopped, taken,
        harriving]
    · refine ⟨[.arrive id job, .register p.submitted, .enter p.submitted],
        by simp [Move.result?], ?_⟩
      simp [run, step, arrive, registerNext, enterNext, extract, register, isActive, enqueue,
        stopped, taken, harriving, hentering]

/-- So is what a worker does with the first job of the queue. -/
theorem take_eq_run (htaken : p.taken = []) (h : p.take = some (q, events)) :
    ∃ moves, (∀ m ∈ moves, m.result? = none) ∧
      p.run moves = some (q, events.map fun e => (p.now, e)) := by
  rw [take] at h
  split at h
  · rename_i idle t queue hidle hqueue
    obtain ⟨rfl, rfl⟩ := Prod.ext_iff.mp (Option.some.inj h)
    refine ⟨[.receive, .begin t.serial], by simp [Move.result?], ?_⟩
    simp [run, step, receive, beginNext, extract, hidle, hqueue, htaken]
  · cases h

/-- **What deduplication means** for a pool. -/
structure Deduplicates (p : Pool J) : Prop where
  /-- The ids that are taken are those of the live jobs. -/
  exact : (p.active : Multiset String) = p.liveIds
  /-- No id has two live jobs. -/
  single : p.liveIds.Nodup
  /-- An id is given free only by the live job that has it, and no other job is touched. -/
  releases : ∀ (m : Move J) (q : Pool J) (events : List (Event J)), m.panics = false →
    p.step m = some (q, events) → ∀ id ∈ p.active, id ∉ q.active →
      ∃ t : Ticket J, t.id = id ∧ p.live = t ::ₘ q.live ∧
        (p.active : Multiset String) = id ::ₘ q.active
  /-- Unless the pool is stopped, a job is accepted exactly if no live job has its id. -/
  accepts : p.stopped = false → ∀ (id : String) (job : J),
    (∃ t, (p.enqueue id job).2 = [.queued t]) ↔ ∀ u ∈ p.live, u.id ≠ id
  /-- When others move in between, it is the look at the ids that counts. -/
  registers : ∀ t : Ticket J, (∃ q, p.register t = some q) ↔ ∀ u ∈ p.live, u.id ≠ t.id
  /-- A job that has taken its id is queued, unless the pool is stopped by then. -/
  enters : p.stopped = false → ∀ t : Ticket J, (p.enter t).2 = [.queued t]

theorem Registered.deduplicates (h : Registered p) (hm : p.Manned) (paced : p.backoff.Paced) :
    Deduplicates p where
  exact := h.exact
  single := h.nodup
  releases m q events calm hstep id hid hfree := by
    cases (step_orderly (step_spares paced calm hstep) hstep).change with
    | keeps hactive => exact absurd (hactive ▸ hid) hfree
    | joins t _ hactive => exact absurd (hactive ▸ List.mem_append_left [t.id] hid) hfree
    | leaves t hactive hlive =>
      -- The id that is not taken any more is the one of the job that left.
      have ht : t.id = id := by
        by_contra hne
        rw [hactive, List.mem_filter] at hfree
        exact hfree ⟨hid, by simpa using Ne.symm hne⟩
      exact ⟨t, ht, hlive, ht ▸ h.active_of_leaves hactive hlive⟩
  accepts running := h.enqueue_iff hm running
  registers _ := h.register_iff
  enters running _ := hm.enter running

/-- **Every pool that can be reached deduplicates**, whatever the order of the moves. -/
theorem deduplicates_of_run {workers : Nat} {backoff : Backoff} {start : Pool J}
    {sleep : Nat → Nat} {moves : List (Move J)} {trace : List (Nat × Event J)}
    (hstart : startPool workers backoff = .ok start) (paced : backoff.Paced)
    (calm : ∀ m ∈ moves, m.panics = false)
    (hrun : ({ start with sleep } : Pool J).run moves = some (p, trace)) : Deduplicates p := by
  obtain ⟨hregistered, hmanned, hbackoff⟩ := start_registered hstart
  have hpaced : ({ start with sleep } : Pool J).backoff.Paced := hbackoff ▸ paced
  obtain ⟨hp, hm, hb⟩ := run_registered hpaced calm hrun ⟨hregistered.exact, hregistered.distinct⟩
    hmanned
  exact hp.deduplicates hm (hb ▸ hpaced)

theorem watchdogBackoff_paced : (OperatorConfig.watchdogBackoff {}).Paced := by
  refine Backoff.paced_of_capped ?_
  decide +kernel

/-- A run in which two jobs of one id arrive, the first one is polled and parked, a third
job has taken its id when the pool is stopped, and the parked one wakes up to that. -/
theorem deduplicates_of_contention :
    ∃ (start p : Pool Unit) (trace : List (Nat × Event Unit)),
      startPool 2 (OperatorConfig.watchdogBackoff {}) = .ok start ∧
      ({ start with sleep := id } : Pool Unit).run
        [.arrive "a" (), .arrive "a" (), .register 1, .register 0, .enter 1, .receive, .begin 1,
          .arrive "b" (), .register 2, .conclude 1 (.pending ()), .stop, .wake 1, .enter 2] =
        some (p, trace) ∧
      Deduplicates p := by
  have hrun : (({ Pool.start 2 (OperatorConfig.watchdogBackoff {}) with sleep := id } :
      Pool Unit).run
        [.arrive "a" (), .arrive "a" (), .register 1, .register 0, .enter 1, .receive, .begin 1,
          .arrive "b" (), .register 2, .conclude 1 (.pending ()), .stop, .wake 1,
          .enter 2]).isSome = true := by
    decide +kernel
  obtain ⟨⟨p, trace⟩, hp⟩ := Option.isSome_iff_exists.mp hrun
  have hstart : startPool 2 (OperatorConfig.watchdogBackoff {}) =
      .ok (Pool.start (J := Unit) 2 (OperatorConfig.watchdogBackoff {})) := rfl
  exact ⟨_, p, trace, hstart, hp,
    deduplicates_of_run hstart watchdogBackoff_paced (by decide) hp⟩

end Pool

end ClusterOperator.Watchdog
