import ClusterOperator.Proofs.Watchdog.Order
import ClusterOperator.Proofs.Watchdog.Spots

/-!
# When the next poll begins

A poll of a job that has ended unconverged is followed by a pause, whose length is that of the
attempt that its ticket counts.  The ticket counts the polls of this job and no others, wherever
it goes: it begins with none, one is added when a poll begins, and nobody else touches it
(`Timely`).  While the job rests it is not due before the pause has passed, and it is not woken up
before it is due, unless to be dropped.  So there is a pause between any two polls of a job
(`Spaced`), and none before its first: a job that rests has been polled.
-/

namespace ClusterOperator

theorem Duration.nanoseconds_le_ceilMillis (d : Duration) :
    d.nanoseconds ≤ d.ceilMillis * 1000000 := by
  rw [ceilMillis]
  omega

namespace Watchdog

variable {J : Type}

/-- Whether a poll has begun. -/
def Event.isPoll : Event J → Bool
  | .polling _ => true
  | _ => false

/-- Whether a poll has ended. -/
def Event.isReturn : Event J → Bool
  | .parked _ | .finished _ | .dropped _ .failed | .dropped _ .panicked => true
  | _ => false

/-- Whether a move stops the pool. -/
def Move.isStop : Move J → Bool
  | .stop => true
  | _ => false

/-- How many jobs a move submits. -/
def Move.arrivals : Move J → Nat
  | .arrive _ _ => 1
  | _ => 0

/-- The times of the events of one kind that are about a job. -/
def timesOf (serial : Nat) (kind : Event J → Bool) (trace : List (Nat × Event J)) : List Nat :=
  ((trace.filter fun e => e.2.isOf serial).filter fun e => kind e.2).map Prod.fst

/-- **The times at which the polls of a job begin**, in order. -/
def startsOf (serial : Nat) (trace : List (Nat × Event J)) : List Nat :=
  timesOf serial Event.isPoll trace

/-- **The times at which the polls of a job end**, in order. -/
def endsOf (serial : Nat) (trace : List (Nat × Event J)) : List Nat :=
  timesOf serial Event.isReturn trace

variable {serial : Nat} {kind : Event J → Bool}

theorem timesOf_append (past trace : List (Nat × Event J)) :
    timesOf serial kind (past ++ trace) =
      timesOf serial kind past ++ timesOf serial kind trace := by
  simp only [timesOf, List.filter_append, List.map_append]

/-- The events of a move happen at one time. -/
theorem timesOf_move (now : Nat) (events : List (Event J)) :
    timesOf serial kind (events.map fun e => (now, e)) =
      ((eventsOf serial events).filter kind).map fun _ => now := by
  simp [timesOf, eventsOf, List.filter_map, Function.comp_def]

/-! ## Pauses between polls -/

/-- **A pause has passed** between two times, those in milliseconds. -/
def Passed (pause : Duration) (since now : Nat) : Prop :=
  since * 1000000 + pause.nanoseconds ≤ now * 1000000

theorem Passed.mono {pause : Duration} {since now later : Nat} (h : Passed pause since now)
    (hle : now ≤ later) : Passed pause since later := by
  have hmul : now * 1000000 ≤ later * 1000000 := Nat.mul_le_mul_right _ hle
  exact Nat.le_trans h hmul

/-- Whoever sleeps for the milliseconds of a pause, or longer, lets it pass. -/
theorem passed_sleep {sleep : Nat → Nat} (hsleep : ∀ ms, ms ≤ sleep ms) (pause : Duration)
    (now : Nat) : Passed pause now (now + sleep pause.ceilMillis) := by
  have hceil := pause.nanoseconds_le_ceilMillis
  have hlong := hsleep pause.ceilMillis
  rw [Passed]
  omega

/-- **Polls with pauses in between**: each one but the first begins when the one before it has
ended and the pause has passed that the backoff has after so many attempts. -/
def Spaced (backoff : Backoff) (starts ends : List Nat) : Prop :=
  ∀ k start, starts[k + 1]? = some start → ∃ ended pause, ends[k]? = some ended ∧
    backoff.pause (k + 1) = .ok pause ∧ Passed pause ended start

/-- The pause after the last of so many polls has passed, if there was any. -/
def Paused (backoff : Backoff) (polls : Nat) (ends : List Nat) (now : Nat) : Prop :=
  ∀ n, polls = n + 1 → ∃ ended pause, ends[n]? = some ended ∧ backoff.pause polls = .ok pause ∧
    Passed pause ended now

variable {backoff : Backoff} {starts ends : List Nat} {now later polls : Nat}

theorem Paused.mono (h : Paused backoff polls ends now) (hle : now ≤ later) :
    Paused backoff polls ends later := by
  intro n hn
  obtain ⟨ended, pause, hended, hpause, hpassed⟩ := h n hn
  exact ⟨ended, pause, hended, hpause, hpassed.mono hle⟩

/-- One more poll begins. -/
theorem Spaced.poll (h : Spaced backoff starts ends)
    (hpaused : Paused backoff starts.length ends now) : Spaced backoff (starts ++ [now]) ends := by
  intro k start hstart
  rcases Nat.lt_or_ge (k + 1) starts.length with hlt | hge
  · rw [List.getElem?_append_left hlt] at hstart
    exact h k start hstart
  · -- It is the last one, which comes after the pause.
    obtain ⟨hlength, hlast⟩ : k + 1 = starts.length ∧ now = start := by
      rw [List.getElem?_append_right hge, List.getElem?_singleton] at hstart
      split at hstart
      · exact ⟨by omega, Option.some.inj hstart⟩
      · cases hstart
    subst hlast
    simpa only [hlength] using hpaused k hlength.symm

/-- What is in a list stays where it is when more comes behind it. -/
theorem getElem?_append_of_some {α : Type} {l more : List α} {i : Nat} {a : α}
    (h : l[i]? = some a) : (l ++ more)[i]? = some a := by
  rw [List.getElem?_append_left (List.getElem?_eq_some_iff.mp h).1, h]

/-- One more poll ends. -/
theorem Spaced.conclude (h : Spaced backoff starts ends) (now : Nat) :
    Spaced backoff starts (ends ++ [now]) := by
  intro k start hstart
  obtain ⟨ended, pause, hended, hpause, hpassed⟩ := h k start hstart
  exact ⟨ended, pause, getElem?_append_of_some hended, hpause, hpassed⟩

/-! ## Where a job is, and how often it was polled -/

/-- **How many polls of a job have begun and ended**, by the spot where it is.  One that waits has
let the pause pass, and one that rests is not due before. -/
def Timely (backoff : Backoff) (now : Nat) (starts ends : List Nat) : Spot J → Prop
  | .unborn => starts = [] ∧ ends = []
  | .arriving t | .entering t => starts = [] ∧ ends = [] ∧ t.polls = 0
  | .waiting t => starts.length = t.polls ∧ ends.length = t.polls ∧ Paused backoff t.polls ends now
  | .polling t => starts.length = t.polls ∧ ends.length + 1 = t.polls
  | .resting k => starts.length = k.ticket.polls ∧ ends.length = k.ticket.polls ∧
      k.ticket.polls ≠ 0 ∧ Paused backoff k.ticket.polls ends k.due
  | .gone => True

theorem Timely.mono {spot : Spot J} (h : Timely backoff now starts ends spot) (hle : now ≤ later) :
    Timely backoff later starts ends spot := by
  cases spot with
  | waiting t => exact ⟨h.1, h.2.1, h.2.2.mono hle⟩
  | unborn | arriving | entering | polling | resting | gone => exact h

namespace Pool

variable {p q : Pool J} {events : List (Event J)} {m : Move J} {a b : Spot J}

/-- **A job that goes on stays timely**, and the pauses between its polls are kept. -/
theorem advance_timely (hsleep : ∀ ms, ms ≤ p.sleep ms) (h : Advance p m a events b)
    (ht : Timely p.backoff p.now starts ends a) (hs : Spaced p.backoff starts ends) :
    Timely p.backoff p.now (starts ++ (events.filter Event.isPoll).map fun _ => p.now)
        (ends ++ (events.filter Event.isReturn).map fun _ => p.now) b ∧
      Spaced p.backoff (starts ++ (events.filter Event.isPoll).map fun _ => p.now)
        (ends ++ (events.filter Event.isReturn).map fun _ => p.now) := by
  cases h with
  | submit id job =>
    obtain ⟨rfl, rfl⟩ := ht
    exact ⟨⟨rfl, rfl, rfl⟩, nofun⟩
  | register t =>
    obtain ⟨rfl, rfl, hpolls⟩ := ht
    exact ⟨⟨rfl, rfl, hpolls⟩, nofun⟩
  | refuse | reject =>
    obtain ⟨rfl, rfl, -⟩ := ht
    exact ⟨trivial, nofun⟩
  | accept t =>
    obtain ⟨rfl, rfl, hpolls⟩ := ht
    exact ⟨⟨hpolls.symm, hpolls.symm, fun n hn => absurd hn (by omega)⟩, nofun⟩
  | poll t =>
    obtain ⟨hstarts, hends, hpaused⟩ := ht
    simp only [List.filter_cons, Event.isPoll, Event.isReturn, List.filter_nil, List.map_cons,
      List.map_nil, if_true, Bool.false_eq_true, if_false, List.append_nil]
    refine ⟨⟨by simp [hstarts], by simp [hends]⟩, hs.poll ?_⟩
    rwa [hstarts]
  | rest t job pause hpause =>
    obtain ⟨hstarts, hends⟩ := ht
    simp only [List.filter_cons, Event.isPoll, Event.isReturn, List.filter_nil, List.map_cons,
      List.map_nil, if_true, Bool.false_eq_true, if_false, List.append_nil]
    have hpolls : t.polls ≠ 0 := by omega
    refine ⟨⟨hstarts, by simpa using hends, hpolls, ?_⟩, hs.conclude p.now⟩
    intro n hn
    refine ⟨p.now, pause, ?_, hpause, passed_sleep hsleep pause p.now⟩
    have hn : t.polls = n + 1 := hn
    have hlast : n = ends.length := by omega
    rw [hlast, List.getElem?_concat_length]
  | requeue k hdue =>
    obtain ⟨hstarts, hends, -, hpaused⟩ := ht
    simp only [List.filter_cons, Event.isPoll, Event.isReturn, List.filter_nil, List.map_nil,
      Bool.false_eq_true, if_false, List.append_nil]
    exact ⟨⟨hstarts, hends, hpaused.mono hdue⟩, hs⟩
  | converge | fail | crash =>
    simp only [List.filter_cons, Event.isPoll, Event.isReturn, List.filter_nil, List.map_cons,
      List.map_nil, if_true, Bool.false_eq_true, if_false, List.append_nil]
    exact ⟨trivial, hs.conclude p.now⟩
  | discard | desert =>
    simp only [List.filter_cons, Event.isPoll, Event.isReturn, List.filter_nil, List.map_nil,
      Bool.false_eq_true, if_false, List.append_nil]
    exact ⟨trivial, hs⟩
  | @abandon k cause hclosed hclosure =>
    cases cause with
    | failed | panicked => cases hclosure
    | stopped | abandoned =>
      simp only [List.filter_cons, Event.isPoll, Event.isReturn, List.filter_nil, List.map_nil,
        Bool.false_eq_true, if_false, List.append_nil]
      exact ⟨trivial, hs⟩

/-! ## Every run -/

/-- **What lasts**: no move changes how long the pauses are, or turns back the clock; only one stops
the pool, and only one submits a job. -/
structure Lasting (p q : Pool J) (m : Move J) : Prop where
  backoff : q.backoff = p.backoff
  sleep : q.sleep = p.sleep
  now : p.now ≤ q.now
  stopped : q.stopped = (p.stopped || m.isStop)
  submitted : q.submitted = p.submitted + if p.stopped then 0 else m.arrivals

theorem Lasting.of_eq (backoff : q.backoff = p.backoff) (sleep : q.sleep = p.sleep)
    (now : q.now = p.now) (stopped : q.stopped = p.stopped) (submitted : q.submitted = p.submitted)
    (hstop : m.isStop = false) (harrive : m.arrivals = 0) : Lasting p q m :=
  ⟨backoff, sleep, now.ge, by rw [stopped, hstop, Bool.or_false],
    by rw [submitted, harrive, ite_self, add_zero]⟩

theorem conclude_lasting {serial : Nat} {result : PollEnd J}
    (h : p.conclude serial result = some (q, events)) : Lasting p q (.conclude serial result) := by
  have hlose (running : List (Ticket J)) (t : Ticket J) :
      Lasting p (({ p with running } : Pool J).lose t).1 (.conclude serial result) := by
    by_cases hworkers : ({ p with running } : Pool J).hasWorkers = true <;>
      simp only [lose, abandon, hworkers, if_true, if_false, Bool.false_eq_true] <;>
      exact .of_eq rfl rfl rfl rfl rfl rfl rfl
  rw [conclude] at h
  split at h
  · cases h
  · rename_i t running _
    cases result with
    | panicked job =>
      cases h
      exact hlose running { t with job }
    | finished job | failed job =>
      cases h
      exact .of_eq rfl rfl rfl rfl rfl rfl rfl
    | pending job =>
      simp only [settle] at h
      split at h <;> cases h
      · exact hlose running { t with job }
      · exact .of_eq rfl rfl rfl rfl rfl rfl rfl

theorem step_lasting (h : p.step m = some (q, events)) : Lasting p q m := by
  cases m with
  | conclude serial result => exact conclude_lasting h
  | arrive id job =>
    rw [step, arrive] at h
    split at h
    · rename_i hstopped
      cases h
      exact ⟨rfl, rfl, le_rfl, (Bool.or_false _).symm, by rw [if_pos hstopped, add_zero]⟩
    · rename_i hrunning
      cases h
      exact ⟨rfl, rfl, le_rfl, (Bool.or_false _).symm, by rw [if_neg hrunning]; rfl⟩
  | register serial =>
    rw [step, registerNext] at h
    split at h
    · cases h
    · split at h
      · cases h
        exact .of_eq rfl rfl rfl rfl rfl rfl rfl
      · rename_i registered hregister
        obtain ⟨-, rfl⟩ := register_eq_some_iff.mp hregister
        cases h
        exact .of_eq rfl rfl rfl rfl rfl rfl rfl
  | enter serial =>
    rw [step, enterNext] at h
    split at h
    · cases h
    · rw [enter] at h
      split at h <;> cases h <;> exact .of_eq rfl rfl rfl rfl rfl rfl rfl
  | receive =>
    rw [step, receive] at h
    split at h <;> cases h
    exact .of_eq rfl rfl rfl rfl rfl rfl rfl
  | begin serial =>
    rw [step, beginNext] at h
    split at h
    · cases h
    · rw [begin] at h
      split at h <;> cases h <;> exact .of_eq rfl rfl rfl rfl rfl rfl rfl
  | wake serial =>
    rw [step, wake] at h
    split at h
    · cases h
    · split at h
      · split at h <;> cases h <;> exact .of_eq rfl rfl rfl rfl rfl rfl rfl
      · cases h
  | exit =>
    rw [step, exit] at h
    split at h
    · split at h <;> cases h
      exact .of_eq rfl rfl rfl rfl rfl rfl rfl
    · cases h
  | stop =>
    cases h
    exact ⟨rfl, rfl, le_rfl, (Bool.or_true _).symm, by simp [Move.arrivals, stop]⟩
  | tick ms =>
    cases h
    exact ⟨rfl, rfl, Nat.le_add_right p.now ms, (Bool.or_false _).symm,
      by simp [Move.arrivals, tick]⟩

variable {moves : List (Move J)} {past trace : List (Nat × Event J)}

/-- A job is where it is, has been polled accordingly, and its polls have pauses in between. -/
structure Polled (p : Pool J) (serial : Nat) (past : List (Nat × Event J)) (spot : Spot J) :
    Prop where
  place : p.At serial spot
  timely : Timely p.backoff p.now (startsOf serial past) (endsOf serial past) spot
  spaced : Spaced p.backoff (startsOf serial past) (endsOf serial past)

theorem Polled.step (h : p.Polled serial past a) (hsleep : ∀ ms, ms ≤ p.sleep ms)
    (hstep : p.step m = some (q, events)) :
    ∃ b, q.Polled serial (past ++ events.map fun e => (p.now, e)) b := by
  have hlasting := step_lasting hstep
  obtain ⟨b, hb, ⟨hadvance, -⟩ | ⟨rfl, hevents, -⟩⟩ := h.place.step hstep
  · obtain ⟨htimely, hspaced⟩ := advance_timely hsleep hadvance h.timely h.spaced
    refine ⟨b, hb, ?_, ?_⟩ <;>
      rw [startsOf, endsOf, timesOf_append, timesOf_append, timesOf_move, timesOf_move,
        hlasting.backoff]
    · exact htimely.mono hlasting.now
    · exact hspaced
  · refine ⟨b, hb, ?_, ?_⟩ <;>
      rw [startsOf, endsOf, timesOf_append, timesOf_append, timesOf_move, timesOf_move,
        hlasting.backoff, hevents, List.filter_nil, List.filter_nil, List.map_nil, List.append_nil,
        List.append_nil]
    · exact h.timely.mono hlasting.now
    · exact h.spaced

theorem run_polled (hrun : p.run moves = some (q, trace)) (hsleep : ∀ ms, ms ≤ p.sleep ms)
    (h : p.Polled serial past a) :
    q.backoff = p.backoff ∧ ∃ b, q.Polled serial (past ++ trace) b := by
  induction moves generalizing p past trace a with
  | nil =>
    cases hrun
    exact ⟨rfl, a, by rwa [List.append_nil]⟩
  | cons m moves ih =>
    obtain ⟨r, events, rest, hstep, hrest, rfl⟩ := run_cons_eq_some hrun
    have hlasting := step_lasting hstep
    obtain ⟨b, hb⟩ := h.step hsleep hstep
    obtain ⟨hbackoff, hlast⟩ := ih hrest (hlasting.sleep ▸ hsleep) hb
    exact ⟨hbackoff.trans hlasting.backoff, by rwa [List.append_assoc] at hlast⟩

/-- **How a pool paces the polls of a job**, given the times at which they began and ended. -/
structure Paces (backoff : Backoff) (p : Pool J) (serial : Nat) (starts ends : List Nat) :
    Prop where
  /-- Between two polls there is the pause of the backoff after so many polls of this job. -/
  later : Spaced backoff starts ends
  /-- Wherever the job is, its ticket counts the polls that have begun. -/
  counted : ∀ t ∈ p.live, t.serial = serial → t.polls = starts.length
  /-- Before its first poll a job does not wait for a time, -/
  first : starts = [] → ∀ k ∈ p.parked, k.ticket.serial ≠ serial
  /-- and not for a worker if one is idle: then it is not in the queue yet, if workers and timers
  have made their moves. -/
  prompt : starts = [] → p.AtRest → 0 < p.idle → ∀ t ∈ p.live, t.serial = serial → t ∈ p.entering

variable {t : Ticket J}

/-- A live job is at one of four spots. -/
theorem At.cases_live (h : p.At serial a) (ht : t ∈ p.live) (hs : t.serial = serial) :
    (a = .entering t ∧ t ∈ p.entering) ∨ (a = .waiting t ∧ (t ∈ p.queue ∨ t ∈ p.taken)) ∨
      a = .polling t ∨ ∃ k ∈ p.parked, k.ticket = t ∧ a = .resting k := by
  have hof {spot : Spot J} (hspot : spot.ticket? = some t) : spot.isOf serial = true := by
    simp [Spot.isOf, hspot, hs]
  simp only [live, Multiset.mem_add, Multiset.mem_coe, Multiset.mem_map] at ht
  rcases ht with (((hentering | hqueue) | htaken) | hrunning) | ⟨k, hk, rfl⟩
  · exact .inl ⟨h.eq_of_mem (by simp [spots, hentering]) (hof rfl), hentering⟩
  · exact .inr (.inl ⟨h.eq_of_mem (by simp [spots, hqueue]) (hof rfl), .inl hqueue⟩)
  · exact .inr (.inl ⟨h.eq_of_mem (by simp [spots, htaken]) (hof rfl), .inr htaken⟩)
  · exact .inr (.inr (.inl (h.eq_of_mem (by simp [spots, hrunning]) (hof rfl))))
  · exact .inr (.inr (.inr ⟨k, hk, rfl, h.eq_of_mem (by simp [spots, hk]) (hof rfl)⟩))

theorem Polled.paces (h : p.Polled serial trace a) :
    Paces p.backoff p serial (startsOf serial trace) (endsOf serial trace) where
  later := h.spaced
  counted t ht hs := by
    have htimely := h.timely
    rcases h.place.cases_live ht hs with ⟨rfl, -⟩ | ⟨rfl, -⟩ | rfl | ⟨k, -, rfl, rfl⟩
    · rw [htimely.1, htimely.2.2]
      rfl
    · exact htimely.1.symm
    · exact htimely.1.symm
    · exact htimely.1.symm
  first hstarts k hk hs := by
    have htimely := h.timely
    rw [h.place.eq_of_mem (b := .resting k) (by simp [spots, hk])
      (by simp [Spot.isOf, Spot.ticket?, hs]), hstarts] at htimely
    exact htimely.2.2.1 htimely.1.symm
  prompt hstarts hrest hidle t ht hs := by
    have htimely := h.timely
    rcases h.place.cases_live ht hs with
      ⟨-, hentering⟩ | ⟨-, hqueue | htaken⟩ | rfl | ⟨k, -, rfl, rfl⟩
    · exact hentering
    · have hbusy := (hrest.idle (List.ne_nil_of_mem hqueue)).1
      omega
    · rw [hrest.taken_eq_nil] at htaken
      cases htaken
    · -- The job is being polled, so a poll of it has begun.
      have hlength := htimely.1.trans htimely.2.symm
      rw [hstarts] at hlength
      cases hlength
    · rw [hstarts] at htimely
      exact absurd htimely.1.symm htimely.2.2.1

/-- **Every pool that can be reached has paced the polls of every job so**, whatever the order of
the moves, as long as no sleep ends early. -/
theorem paces_of_run {workers : Nat} {backoff : Backoff} {start : Pool J} {sleep : Nat → Nat}
    {now : Nat} (hstart : startPool workers backoff = .ok start) (hsleep : ∀ ms, ms ≤ sleep ms)
    (hrun : ({ start with sleep, now } : Pool J).run moves = some (p, trace)) (serial : Nat) :
    Paces backoff p serial (startsOf serial trace) (endsOf serial trace) := by
  have hfresh : ({ start with sleep, now } : Pool J).Polled serial [] .unborn :=
    ⟨start_at hstart sleep now serial, ⟨rfl, rfl⟩, nofun⟩
  obtain ⟨hbackoff, spot, hpolled⟩ := run_polled hrun hsleep hfresh
  obtain ⟨-, -, hconfigured⟩ := start_registered hstart
  have hpaces := hpolled.paces
  rw [hbackoff] at hpaces
  exact hconfigured ▸ hpaces

/-- A run in which a job is polled three times while another one is polled and a second one of its
id is rejected; when it has converged, a third one of its id is polled twice. -/
theorem paces_of_reused_id :
    ∃ (start p : Pool Unit) (trace : List (Nat × Event Unit)) (moves : List (Move Unit)),
      startPool 2 (OperatorConfig.watchdogBackoff {}) = .ok start ∧
      ({ start with sleep := id, now := 0 } : Pool Unit).run moves = some (p, trace) ∧
      startsOf 0 trace = [0, 5000, 15000] ∧ endsOf 0 trace = [0, 5000, 15000] ∧
      startsOf 1 trace = [] ∧ startsOf 3 trace = [15000, 20000] ∧
      (∀ ms : Nat, ms ≤ id ms) ∧
      ∀ serial, Paces (OperatorConfig.watchdogBackoff {}) p serial (startsOf serial trace)
        (endsOf serial trace) := by
  let moves : List (Move Unit) :=
    [.arrive "a" (), .register 0, .enter 0, .arrive "a" (), .register 1, .receive, .begin 0,
      .arrive "b" (), .register 2, .enter 2, .receive, .begin 2, .conclude 0 (.pending ()),
      .conclude 2 (.pending ()), .tick 5000, .wake 2, .wake 0, .receive, .receive, .begin 0,
      .begin 2, .conclude 2 (.failed ()), .conclude 0 (.pending ()), .tick 10000, .wake 0, .receive,
      .begin 0, .conclude 0 (.finished ()), .arrive "a" (), .register 3, .enter 3, .receive,
      .begin 3, .conclude 3 (.pending ()), .tick 5000, .wake 3, .receive, .begin 3]
  have hstart : startPool 2 (OperatorConfig.watchdogBackoff {}) =
      .ok (Pool.start (J := Unit) 2 (OperatorConfig.watchdogBackoff {})) := rfl
  have hrun : (({ Pool.start 2 (OperatorConfig.watchdogBackoff {}) with sleep := id, now := 0 } :
      Pool Unit).run moves).map (fun r => (startsOf 0 r.2, endsOf 0 r.2, startsOf 1 r.2,
        startsOf 3 r.2)) = some ([0, 5000, 15000], [0, 5000, 15000], [], [15000, 20000]) := by
    decide +kernel
  obtain ⟨⟨p, trace⟩, hp, htimes⟩ := Option.map_eq_some_iff.mp hrun
  simp only [Prod.mk.injEq] at htimes
  obtain ⟨hstarts, hends, hrejected, hreused⟩ := htimes
  exact ⟨_, p, trace, moves, hstart, hp, hstarts, hends, hrejected, hreused, fun _ => le_rfl,
    paces_of_run hstart (fun _ => le_rfl) hp⟩

end Pool

end Watchdog

end ClusterOperator
