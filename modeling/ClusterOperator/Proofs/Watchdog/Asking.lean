import ClusterOperator.Proofs.Transcript
import ClusterOperator.Proofs.Watchdog.Pacing

/-!
# Asked for, and not ended since

Whoever submits a job wants its id to be taken care of.  A pool that is running answers in one of
two ways: the job goes into the queue, or it is turned away because there is a job of its id
already.  Either way the id is taken from then on, until a job of it ends.

So the ids that are taken are those that were asked for with no end of a job since, and those of the
jobs that have taken their id but are not queued yet (`Answering`).  That takes a pool that keeps
its workers: a job that is lost with its worker leaves its id behind.
-/

namespace ClusterOperator.Watchdog

variable {J : Type}

/-- Whether an event answers a submission for an id: the job is queued for the first time, or is
not accepted. -/
def Event.answers (id : String) : Event J → Bool
  | .queued t => t.id == id && t.polls == 0
  | .rejected other _ => other == id
  | _ => false

/-- Whether a job of an id ends with an event. -/
def Event.ends (id : String) : Event J → Bool
  | .finished t | .dropped t _ => t.id == id
  | _ => false

/-- **A submission for the id was answered, and no job of that id has ended since.** -/
def Unended (id : String) (events : List (Event J)) : Prop :=
  ∃ past e later, events = past ++ e :: later ∧ e.answers id = true ∧
    ∀ x ∈ later, x.ends id = false

theorem unended_concat_iff {id : String} {past : List (Event J)} {e : Event J} :
    Unended id (past ++ [e]) ↔
      e.answers id = true ∨ (Unended id past ∧ e.ends id = false) := by
  constructor
  · rintro ⟨before, x, later, heq, hx, hlater⟩
    rcases append_cons_eq_append heq.symm with ⟨ws, rfl, rfl⟩ | ⟨ws, -, hws⟩
    · exact .inr ⟨⟨before, x, ws, rfl, hx, fun y hy => hlater y (List.mem_append_left [e] hy)⟩,
        hlater e (List.mem_append_right ws List.mem_cons_self)⟩
    · cases ws with
      | nil => exact .inl ((List.cons.inj hws).1 ▸ hx)
      | cons w ws => simp at hws
  · rintro (he | ⟨⟨before, x, later, rfl, hx, hlater⟩, he⟩)
    · exact ⟨past, e, [], rfl, he, List.forall_mem_nil _⟩
    · refine ⟨before, x, later ++ [e], by simp, hx, fun y hy => ?_⟩
      rcases List.mem_append.mp hy with hy | hy
      · exact hlater y hy
      · rw [List.mem_singleton.mp hy, he]

theorem unended_append_iff {id : String} {past events : List (Event J)}
    (hends : ∀ e ∈ events, e.ends id = false) :
    Unended id (past ++ events) ↔ (∃ e ∈ events, e.answers id = true) ∨ Unended id past := by
  induction events generalizing past with
  | nil => simp
  | cons e events ih =>
    obtain ⟨he, hevents⟩ := List.forall_mem_cons.mp hends
    rw [List.append_cons, ih hevents, unended_concat_iff, List.exists_mem_cons_iff, he,
      and_iff_left rfl, ← or_assoc, or_comm (b := e.answers id = true)]

namespace Spot

/-- The ticket of a live job. -/
def live? : Spot J → Option (Ticket J)
  | .entering t | .waiting t | .polling t => some t
  | .resting k => some k.ticket
  | .unborn | .arriving _ | .gone => none

/-- The job there has taken this id. -/
def Holds (id : String) (spot : Spot J) : Prop := ∃ t, spot.live? = some t ∧ t.id = id

/-- The job there has taken this id, and its submission is not answered. -/
def Enters (id : String) (spot : Spot J) : Prop := ∃ t, spot = .entering t ∧ t.id = id

/-- A job whose submission is not answered was not polled. -/
def Fresh : Spot J → Prop
  | .arriving t | .entering t => t.polls = 0
  | _ => True

variable {id : String} {spot : Spot J} {others : Multiset (Spot J)}

theorem Enters.holds (h : spot.Enters id) : spot.Holds id := by
  obtain ⟨t, rfl, hid⟩ := h
  exact ⟨t, rfl, hid⟩

theorem Holds.mem_lodging (h : spot.Holds id) : spot ∈ spot.lodging := by
  obtain ⟨t, ht, -⟩ := h
  cases spot with
  | unborn | arriving | gone => cases ht
  | entering | waiting | polling | resting => exact Multiset.mem_singleton_self _

theorem eq_of_mem_lodging {other : Spot J} (h : other ∈ spot.lodging) : other = spot := by
  cases hspot : spot.ticket? with
  | none =>
    rw [lodging_of_none hspot] at h
    exact absurd h (Multiset.notMem_zero other)
  | some t =>
    rw [lodging_of_some hspot] at h
    exact Multiset.mem_singleton.mp h

/-- Among the spots of a pool, an id is taken at the one where a job is now, or at another. -/
theorem exists_holds_iff : (∃ other ∈ spot.lodging + others, other.Holds id) ↔
    spot.Holds id ∨ ∃ other ∈ others, other.Holds id := by
  constructor
  · rintro ⟨other, hmem, hid⟩
    rcases Multiset.mem_add.mp hmem with hmem | hmem
    · exact .inl (eq_of_mem_lodging hmem ▸ hid)
    · exact .inr ⟨other, hmem, hid⟩
  · rintro (hid | ⟨other, hmem, hid⟩)
    · exact ⟨spot, Multiset.mem_add.mpr (.inl hid.mem_lodging), hid⟩
    · exact ⟨other, Multiset.mem_add.mpr (.inr hmem), hid⟩

end Spot

namespace Pool

variable {p q : Pool J} {events past : List (Event J)} {m : Move J}

/-- The live jobs are at the spots of live jobs. -/
theorem live_eq (p : Pool J) : p.live = p.spots.filterMap Spot.live? := by
  have htickets (spot : Ticket J → Spot J) (h : ∀ t, (spot t).live? = some t)
      (l : Multiset (Ticket J)) : (l.map spot).filterMap Spot.live? = l := by
    rw [Multiset.filterMap_map, show Spot.live? ∘ spot = some from funext h,
      Multiset.filterMap_some]
  have harriving (l : Multiset (Ticket J)) :
      (l.map Spot.arriving).filterMap Spot.live? = 0 := by
    refine Multiset.eq_zero_of_forall_notMem fun t ht => ?_
    obtain ⟨spot, hspot, hlive⟩ := (Multiset.mem_filterMap _ _).mp ht
    obtain ⟨u, -, rfl⟩ := Multiset.mem_map.mp hspot
    cases hlive
  have hparked (l : Multiset (Parked J)) :
      (l.map Spot.resting).filterMap Spot.live? = l.map Parked.ticket := by
    rw [Multiset.filterMap_map]
    exact congrFun (Multiset.filterMap_eq_map Parked.ticket) l
  simp only [spots, live, Multiset.filterMap_add, harriving, hparked, zero_add,
    htickets .entering fun _ => rfl, htickets .waiting fun _ => rfl, htickets .polling fun _ => rfl]

/-- The ids that are taken are those of the jobs at the spots of live jobs. -/
theorem Registered.mem_iff_holds (h : Registered p) {id : String} :
    id ∈ p.active ↔ ∃ spot ∈ p.spots, spot.Holds id := by
  rw [h.mem_iff, live_eq]
  constructor
  · rintro ⟨t, ht, hid⟩
    obtain ⟨spot, hspot, hlive⟩ := (Multiset.mem_filterMap _ _).mp ht
    exact ⟨spot, hspot, t, hlive, hid⟩
  · rintro ⟨spot, hspot, t, hlive, hid⟩
    exact ⟨t, (Multiset.mem_filterMap _ _).mpr ⟨spot, hspot, hlive⟩, hid⟩

variable {a : Spot J} {others : Multiset (Spot J)} {t : Ticket J}

/-- No two jobs have taken the same id. -/
theorem Registered.not_holds (h : Registered p) (hspots : p.spots = a ::ₘ others)
    (ha : a.live? = some t) : ∀ spot ∈ others, ¬spot.Holds t.id := by
  rintro spot hspot ⟨u, hu, hid⟩
  have hmem : u ∈ others.filterMap Spot.live? := (Multiset.mem_filterMap _ _).mpr ⟨spot, hspot, hu⟩
  have hnodup := h.nodup
  rw [liveIds, live_eq, hspots, Multiset.filterMap_cons_some _ _ _ ha, Multiset.map_cons,
    Multiset.nodup_cons] at hnodup
  exact hnodup.1 (hid ▸ Multiset.mem_map_of_mem _ hmem)

/-! ## One move -/

/-- **What a pool has answered**: the ids that are taken are those that were asked for with no end
of a job since, and those of the jobs whose submissions are not answered yet. -/
structure Answering (p : Pool J) (past : List (Event J)) : Prop where
  registered : Registered p
  fresh : ∀ spot ∈ p.spots, spot.Fresh
  taken : ∀ id, id ∈ p.active ↔ (∃ spot ∈ p.spots, spot.Enters id) ∨ Unended id past

variable {b : Spot J} {e : Event J}

/-- A job goes on, or is turned away, and no job ends. -/
theorem Answering.of_kept (h : Answering p past) (hq : Registered q)
    (hp : p.spots = a ::ₘ others) (hspots : q.spots = b.lodging + others) (fresh : b.Fresh)
    (kept : ∀ id, a.Holds id → b.Holds id) (gained : ∀ id, b.Holds id → a.Holds id ∨ b.Enters id)
    (entered : ∀ id, a.Enters id → b.Enters id ∨ ∃ e ∈ events, e.answers id = true)
    (answered : ∀ id, ∀ e ∈ events, e.answers id = true → id ∈ p.active)
    (ends : ∀ id, ∀ e ∈ events, e.ends id = false) : Answering q (past ++ events) := by
  have hothers {spot : Spot J} (h : spot ∈ others) : spot ∈ p.spots :=
    hp ▸ Multiset.mem_cons_of_mem h
  refine ⟨hq, fun spot hmem => ?_, fun id => ?_⟩
  · rcases Multiset.mem_add.mp (hspots ▸ hmem) with hmem | hmem
    · exact Spot.eq_of_mem_lodging hmem ▸ fresh
    · exact h.fresh spot (hothers hmem)
  rw [hq.mem_iff_holds, hspots, Spot.exists_holds_iff, unended_append_iff (ends id)]
  -- What was taken still is, and what is taken now was so, or is being entered.
  have hstill (hid : id ∈ p.active) : b.Holds id ∨ ∃ spot ∈ others, spot.Holds id := by
    obtain ⟨spot, hmem, hspot⟩ := h.registered.mem_iff_holds.mp hid
    rcases Multiset.mem_cons.mp (hp ▸ hmem) with rfl | hmem
    · exact .inl (kept id hspot)
    · exact .inr ⟨spot, hmem, hspot⟩
  have hbefore (hid : b.Holds id ∨ ∃ spot ∈ others, spot.Holds id) :
      id ∈ p.active ∨ b.Enters id := by
    rcases hid with hid | ⟨spot, hmem, hspot⟩
    · refine (gained id hid).imp_left fun ha => ?_
      exact h.registered.mem_iff_holds.mpr ⟨a, hp ▸ Multiset.mem_cons_self a others, ha⟩
    · exact .inl (h.registered.mem_iff_holds.mpr ⟨spot, hothers hmem, hspot⟩)
  have henters (hid : b.Enters id) : ∃ spot ∈ b.lodging + others, spot.Enters id :=
    ⟨b, Multiset.mem_add.mpr (.inl hid.holds.mem_lodging), hid⟩
  constructor
  · intro hid
    rcases hbefore hid with hid | hid
    · rcases (h.taken id).mp hid with ⟨spot, hmem, hspot⟩ | hunended
      · rcases Multiset.mem_cons.mp (hp ▸ hmem) with rfl | hmem
        · exact (entered id hspot).imp henters .inl
        · exact .inl ⟨spot, Multiset.mem_add.mpr (.inr hmem), hspot⟩
      · exact .inr (.inr hunended)
    · exact .inl (henters hid)
  · rintro (⟨spot, hmem, hspot⟩ | ⟨e, he, hanswers⟩ | hunended)
    · exact Spot.exists_holds_iff.mp ⟨spot, hmem, hspot.holds⟩
    · exact hstill (answered id e he hanswers)
    · exact hstill ((h.taken id).mpr (.inr hunended))

/-- A live job ends. -/
theorem Answering.of_left (h : Answering p past) (hq : Registered q)
    (hp : p.spots = .polling t ::ₘ others) (hspots : q.spots = others)
    (ends : ∀ id, e.ends id = true ↔ t.id = id) (silent : ∀ id, e.answers id = false) :
    Answering q (past ++ [e]) := by
  have hothers {spot : Spot J} (h : spot ∈ others) : spot ∈ p.spots :=
    hp ▸ Multiset.mem_cons_of_mem h
  have hgone := h.registered.not_holds hp rfl
  refine ⟨hq, fun spot hmem => h.fresh spot (hothers (hspots ▸ hmem)), fun id => ?_⟩
  rw [hq.mem_iff_holds, hspots, unended_concat_iff, silent id, ← Bool.not_eq_true, ends id]
  constructor
  · rintro ⟨spot, hmem, hspot⟩
    rcases (h.taken id).mp (h.registered.mem_iff_holds.mpr ⟨spot, hothers hmem, hspot⟩) with
      ⟨other, hother, hid⟩ | hunended
    · rcases Multiset.mem_cons.mp (hp ▸ hother) with rfl | hother
      · obtain ⟨_, ⟨⟩, -⟩ := hid
      · exact .inl ⟨other, hother, hid⟩
    · exact .inr (.inr ⟨hunended, fun hid => hgone spot hmem (hid ▸ hspot)⟩)
  · rintro (⟨spot, hmem, hspot⟩ | ⟨⟨⟩⟩ | ⟨hunended, hid⟩)
    · exact ⟨spot, hmem, hspot.holds⟩
    · obtain ⟨spot, hmem, hspot⟩ := h.registered.mem_iff_holds.mp ((h.taken id).mpr (.inr hunended))
      rcases Multiset.mem_cons.mp (hp ▸ hmem) with rfl | hmem
      · obtain ⟨u, hu, hspot⟩ := hspot
        exact absurd (Option.some.inj hu ▸ hspot) hid
      · exact ⟨spot, hmem, hspot⟩

/-- **A move of a running pool that costs no worker** keeps that so. -/
theorem Answering.step (h : Answering p past) (running : p.stopped = false) (manned : p.Manned)
    (spared : ∀ e ∈ events, Shift.losesWorker e = false) (hstep : p.step m = some (q, events)) :
    Answering q (past ++ events) := by
  have hq : Registered q := (step_orderly spared hstep).change.registered h.registered
  have hopen : p.isOpen = true := by simp [isOpen, running, manned running]
  cases step_progress hstep with
  | stays hm hspots hsubmitted hevents hnone =>
    obtain rfl := hnone running
    refine ⟨hq, hspots ▸ h.fresh, fun id => ?_⟩
    rw [hq.mem_iff_holds, hspots, ← h.registered.mem_iff_holds, List.append_nil]
    exact h.taken id
  | submits id job _ hm hspots hsubmitted hevents =>
    subst hevents
    refine ⟨hq, ?_, fun other => ?_⟩
    · rw [hspots]
      exact Multiset.forall_mem_cons.mpr ⟨rfl, h.fresh⟩
    · rw [hq.mem_iff_holds, hspots, List.append_nil]
      simpa [Spot.Holds, Spot.Enters, Spot.live?, h.registered.mem_iff_holds] using h.taken other
  | loses queue t job hm houtcome hp hq' hsubmitted hevents =>
    subst hevents
    cases spared _ List.mem_cons_self
  | @goes a b t others more hm hadvance ha hb hp hspots hsubmitted hevents =>
    have hmem : a ∈ p.spots := hp ▸ Multiset.mem_cons_self a others
    cases hadvance with
    | submit => cases ha
    | reject _ hclosed => simp [hopen] at hclosed
    | discard _ hstopped => simp [running] at hstopped
    | abandon k hclosed => simp [hopen] at hclosed
    | crash =>
      subst hevents
      cases spared _ (List.mem_append_left _ List.mem_cons_self)
    | desert _ _ _ hne =>
      cases ha
      exact absurd (Option.some.inj hm).symm hne
    | register =>
      cases ha
      subst hevents
      refine h.of_kept hq hp hspots (h.fresh (.arriving t) hmem) ?_ ?_ ?_ ?_ ?_ <;>
        simp [Spot.Holds, Spot.Enters, Spot.live?, Spot.ticket?]
    | refuse _ htaken =>
      -- The id is taken, which is the answer.
      cases ha
      subst hevents
      refine h.of_kept hq hp hspots trivial ?_ ?_ ?_ ?_ ?_ <;>
        simp [Spot.Holds, Spot.Enters, Spot.live?, Spot.ticket?, Event.answers, Event.ends, htaken]
    | accept =>
      cases ha
      subst hevents
      have hfresh : t.polls = 0 := h.fresh _ hmem
      have htaken : t.id ∈ p.active := h.registered.mem_iff_holds.mpr ⟨_, hmem, t, rfl, rfl⟩
      refine h.of_kept hq hp hspots trivial ?_ ?_ ?_ ?_ ?_ <;>
        simp [Spot.Holds, Spot.Enters, Spot.live?, Event.answers, Event.ends, hfresh, htaken]
    | poll | rest =>
      cases ha
      subst hevents
      refine h.of_kept hq hp hspots trivial ?_ ?_ ?_ ?_ ?_ <;>
        simp [Spot.Holds, Spot.Enters, Spot.live?, Event.answers, Event.ends]
    | requeue k =>
      cases ha
      subst hevents
      have htaken : k.ticket.id ∈ p.active :=
        h.registered.mem_iff_holds.mpr ⟨_, hmem, k.ticket, rfl, rfl⟩
      refine h.of_kept hq hp hspots trivial ?_ ?_ ?_ ?_ ?_ <;>
        simp [Spot.Holds, Spot.Enters, Spot.live?, Event.answers, Event.ends, htaken]
    | converge | fail =>
      cases ha
      subst hevents
      refine h.of_left hq hp (hspots.trans (zero_add _)) ?_ ?_ <;> simp [Event.answers, Event.ends]

/-- **A running pool turns a job away only for another one** that has its id. -/
theorem rejected_of_step {id : String} {job : J} (h : Registered p) (running : p.stopped = false)
    (manned : p.Manned) (hstep : p.step m = some (q, events)) (hmem : .rejected id job ∈ events) :
    ∃ t, .arriving t ∈ p.spots ∧ t.id = id ∧ t.job = job ∧ ∃ u ∈ p.live, u.id = id := by
  have hopen : p.isOpen = true := by simp [isOpen, running, manned running]
  cases step_progress hstep with
  | stays hm hspots hsubmitted hevents hnone =>
    rw [hnone running] at hmem
    cases hmem
  | submits id job _ hm hspots hsubmitted hevents =>
    rw [hevents] at hmem
    cases hmem
  | loses queue t job hm houtcome hp hq' hsubmitted hevents => simp [hevents] at hmem
  | @goes a b t others more hm hadvance ha hb hp hspots hsubmitted hevents =>
    cases hadvance with
    | submit => cases ha
    | reject _ hclosed => simp [hopen] at hclosed
    | accept | poll | discard | rest | converge | fail | crash | requeue | abandon | desert =>
      simp [hevents] at hmem
    | register =>
      simp [hevents, Spot.ticket?] at hmem
    | refuse _ htaken =>
      cases ha
      obtain ⟨rfl, rfl⟩ : id = t.id ∧ job = t.job := by simpa [hevents, Spot.ticket?] using hmem
      exact ⟨t, hp ▸ Multiset.mem_cons_self _ others, rfl, rfl, h.mem_iff.mp htaken⟩

/-! ## Every run -/

/-- **A pool is running**: nobody has stopped it, and it has all of its workers. -/
structure IsRunning (workers : Nat) (p : Pool J) : Prop where
  stopped : p.stopped = false
  hands : p.hands = workers

variable {moves : List (Move J)} {trace : List (Nat × Event J)} {workers : Nat}

theorem stopped_of_run (hrun : p.run moves = some (q, trace)) (h : q.stopped = false) :
    p.stopped = false := by
  induction moves generalizing p trace with
  | nil =>
    cases hrun
    exact h
  | cons m moves ih =>
    obtain ⟨r, events, rest, hstep, hrest, rfl⟩ := run_cons_eq_some hrun
    have hr := ih hrest
    rw [(step_lasting hstep).stopped] at hr
    exact (Bool.or_eq_false_iff.mp hr).1

theorem run_answering (hrun : p.run moves = some (q, trace)) (running : q.stopped = false)
    (spared : ∀ e ∈ trace, Shift.losesWorker e.2 = false) (manned : p.Manned)
    (h : Answering p past) : Answering q (past ++ trace.map Prod.snd) ∧ q.Manned := by
  have hp := stopped_of_run hrun running
  induction moves generalizing p past trace with
  | nil =>
    cases hrun
    exact ⟨by simpa using h, manned⟩
  | cons m moves ih =>
    obtain ⟨r, events, rest, hstep, hrest, rfl⟩ := run_cons_eq_some hrun
    obtain ⟨hevents, hrest'⟩ := List.forall_mem_append.mp spared
    rw [List.forall_mem_map] at hevents
    have hr := ih hrest hrest' ((step_orderly hevents hstep).manned manned)
      (h.step hp manned hevents hstep) (stopped_of_run hrest running)
    simpa [Function.comp_def] using hr

/-- A pool that is running now has been so all the time, and no worker has been lost since. -/
theorem Tallied.isRunning {received : List (Ticket J)} (h : Tallied workers p received past)
    (hrun : p.run moves = some (q, trace)) (running : q.IsRunning workers) :
    p.IsRunning workers ∧ ∀ e ∈ trace, Shift.losesWorker e.2 = false := by
  have hstopped := stopped_of_run hrun running.stopped
  have hlosses := (run_tallied hrun h).hands
  rw [running.hands, losses_append] at hlosses
  have hfull := h.full.resolve_right fun hclosed => by simp [hstopped] at hclosed
  refine ⟨⟨hstopped, by omega⟩, ?_⟩
  have hspared := losses_eq_zero.mp (show losses (trace.map Prod.snd) = 0 by omega)
  exact List.forall_mem_map.mp hspared

theorem start_answering {backoff : Backoff} (h : startPool workers backoff = .ok p)
    (sleep : Nat → Nat) (now : Nat) : Answering { p with sleep, now } [] := by
  rw [startPool] at h
  split at h <;> cases h
  refine ⟨⟨rfl, List.nodup_nil⟩, fun spot hspot => absurd hspot (Multiset.notMem_zero spot),
    fun id => iff_of_false List.not_mem_nil ?_⟩
  rintro (⟨spot, hspot, -⟩ | ⟨before, e, later, heq, -⟩)
  · exact absurd hspot (Multiset.notMem_zero spot)
  · simp at heq

/-- **Every running pool that can be reached has answered so.** -/
theorem answering_of_run {backoff : Backoff} {start : Pool J} {sleep : Nat → Nat} {now : Nat}
    (hstart : startPool workers backoff = .ok start)
    (hrun : ({ start with sleep, now } : Pool J).run moves = some (p, trace))
    (running : p.IsRunning workers) : Answering p (trace.map Prod.snd) ∧ p.Manned := by
  obtain ⟨-, manned, -⟩ := start_registered hstart
  obtain ⟨-, spared⟩ := (start_tallied hstart).isRunning hrun running
  exact run_answering hrun running.stopped spared manned (start_answering hstart sleep now)

end Pool

end ClusterOperator.Watchdog
