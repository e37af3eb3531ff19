import ClusterOperator.Proofs.Watchdog.Pacing
import ClusterOperator.Watchdog.Guard

/-!
# A pool of guards

The jobs of a watchdog guard scale sets.  Its moves are those of a pool (`GuardMove`), but what is
submitted is a guard that has listed nothing yet, and a poll ends as the answer to its listing has
it, or panics.  A run of a watchdog is one of its pool (`run_of_watch`).

The serial number of a guard is its place among the requests.  Whatever the guard goes through, it
keeps the resource group and the scale set of that request (`OnDuty`).
-/

namespace ClusterOperator.Watchdog

/-- A move of a watchdog. -/
inductive GuardMove where
  /-- Somebody has a scale set guarded. -/
  | request (resourceGroup scaleSet : String)
  /-- The listing of a guard is answered. -/
  | answer (serial : Nat) (listing : Except CloudFault (List ScaleSetInstance))
  /-- The listing of a guard panics. -/
  | panic (serial : Nat)
  /-- Something else happens in the pool. -/
  | other (m : Move GuardJob)

/-- Whether a move is one that submits a job or ends a poll. -/
def Move.isGuarded : Move GuardJob → Bool
  | .arrive _ _ | .conclude _ _ => true
  | _ => false

namespace GuardMove

/-- The move of the pool, if it is possible. -/
def move? (p : Pool GuardJob) : GuardMove → Option (Move GuardJob)
  | .request resourceGroup scaleSet =>
    let job : GuardJob := { resourceGroup, scaleSet }
    some (.arrive job.id job)
  | .answer serial listing =>
    (p.running.find? fun t => t.serial == serial).map fun t =>
      .conclude serial (t.job.conclude listing)
  | .panic serial =>
    (p.running.find? fun t => t.serial == serial).map fun t => .conclude serial (.panicked t.job)
  | .other m => if m.isGuarded then none else some m

/-- The scale set that is to be guarded. -/
def request? : GuardMove → Option (String × String)
  | .request resourceGroup scaleSet => some (resourceGroup, scaleSet)
  | _ => none

/-- Whether the watchdog is stopped. -/
def isStop : GuardMove → Bool
  | .other m => m.isStop
  | _ => false

end GuardMove

/-- **The scale sets that somebody wants guarded**, in order, until the watchdog is stopped. -/
def requests (moves : List GuardMove) : List (String × String) :=
  (moves.takeWhile fun g => !g.isStop).filterMap GuardMove.request?

/-- Every instance of a listing has come to an end. -/
def Ended (listing : List ScaleSetInstance) : Prop :=
  ∀ i ∈ listing, i.state = .succeeded ∨ i.state = .failed ∨ i.state = .canceled

theorem isFinal_iff {state : ProvisioningState} :
    state.isFinal = true ↔ state = .succeeded ∨ state = .failed ∨ state = .canceled := by
  cases state <;> simp [ProvisioningState.isFinal]

/-- **How the poll of a guard ends**: as its listing has it. -/
theorem conclude_cases_guard (job : GuardJob)
    (answer : Except CloudFault (List ScaleSetInstance)) :
    (∃ fault, answer = .error fault ∧ job.conclude answer = .failed job) ∨
      ∃ listing, answer = .ok listing ∧
        ((Ended listing ∧ job.conclude answer = .finished { job with instances := some listing }) ∨
          (¬Ended listing ∧
            job.conclude answer = .pending { job with instances := some listing })) := by
  cases answer with
  | error fault => exact .inl ⟨fault, rfl, rfl⟩
  | ok listing =>
    have hended : ({ job with instances := some listing } : GuardJob).isFinished = true ↔
        Ended listing := by
      simp only [GuardJob.isFinished, List.all_eq_true, isFinal_iff, Ended]
    refine .inr ⟨listing, rfl, ?_⟩
    simp only [GuardJob.conclude, GuardJob.poll]
    by_cases h : Ended listing
    · exact .inl ⟨h, if_pos (hended.mpr h)⟩
    · exact .inr ⟨h, if_neg (hended.not.mpr h)⟩

namespace Pool

/-- The pool after a run of a watchdog, with every event and the time of it; nothing if a move is
not possible. -/
def watch (p : Pool GuardJob) :
    List GuardMove → Option (Pool GuardJob × List (Nat × Event GuardJob))
  | [] => some (p, [])
  | g :: moves =>
    match (g.move? p).bind p.step with
    | none => none
    | some (q, events) =>
      (q.watch moves).map fun r => (r.1, events.map (fun e => (p.now, e)) ++ r.2)

variable {p q r : Pool GuardJob} {g : GuardMove} {moves : List GuardMove}
  {trace : List (Nat × Event GuardJob)}

theorem watch_cons_eq_some (h : p.watch (g :: moves) = some (q, trace)) :
    ∃ (m : Move GuardJob) (r : Pool GuardJob) (events : List (Event GuardJob))
      (rest : List (Nat × Event GuardJob)), g.move? p = some m ∧ p.step m = some (r, events) ∧
        r.watch moves = some (q, rest) ∧ trace = events.map (fun e => (p.now, e)) ++ rest := by
  rw [watch] at h
  split at h
  · cases h
  · rename_i r events hstep
    obtain ⟨m, hm, hstep⟩ := Option.bind_eq_some_iff.mp hstep
    obtain ⟨⟨_, rest⟩, hrest, heq⟩ := Option.map_eq_some_iff.mp h
    cases heq
    exact ⟨m, r, events, rest, hm, hstep, hrest, rfl⟩

/-- **A run of a watchdog is a run of its pool.** -/
theorem run_of_watch (h : p.watch moves = some (q, trace)) :
    ∃ moves' : List (Move GuardJob), p.run moves' = some (q, trace) := by
  induction moves generalizing p trace with
  | nil =>
    cases h
    exact ⟨[], rfl⟩
  | cons g moves ih =>
    obtain ⟨m, r, events, rest, -, hstep, hrest, rfl⟩ := watch_cons_eq_some h
    obtain ⟨moves', hrun⟩ := ih hrest
    exact ⟨m :: moves', by simp only [run, hstep, hrun, Option.map_some]⟩

/-! ## What a guard carries -/

/-- How a poll ends with a move of a watchdog. -/
theorem conclude_of_move? {serial : Nat} {result : PollEnd GuardJob}
    (h : g.move? p = some (.conclude serial result)) :
    ∃ t ∈ p.running, t.serial = serial ∧
      ((∃ listing, g = .answer serial listing ∧ result = t.job.conclude listing) ∨
        (g = .panic serial ∧ result = .panicked t.job)) := by
  cases g with
  | request => cases h
  | answer s listing =>
    obtain ⟨t, ht, heq⟩ := Option.map_eq_some_iff.mp h
    cases heq
    exact ⟨t, List.mem_of_find?_eq_some ht, by simpa using List.find?_some ht,
      .inl ⟨listing, rfl, rfl⟩⟩
  | panic s =>
    obtain ⟨t, ht, heq⟩ := Option.map_eq_some_iff.mp h
    cases heq
    exact ⟨t, List.mem_of_find?_eq_some ht, by simpa using List.find?_some ht, .inr ⟨rfl, rfl⟩⟩
  | other m =>
    rw [GuardMove.move?] at h
    split at h
    · cases h
    · rename_i hguarded
      cases h
      exact absurd rfl hguarded

/-- What is submitted with a move of a watchdog is a guard. -/
theorem arrive_of_move? {id : String} {job : GuardJob} (h : g.move? p = some (.arrive id job)) :
    ∃ resourceGroup scaleSet, g = .request resourceGroup scaleSet ∧
      job = { resourceGroup, scaleSet } ∧ id = job.id := by
  cases g with
  | request resourceGroup scaleSet =>
    cases h
    exact ⟨resourceGroup, scaleSet, rfl, rfl, rfl⟩
  | answer | panic =>
    obtain ⟨t, -, heq⟩ := Option.map_eq_some_iff.mp h
    cases heq
  | other m =>
    rw [GuardMove.move?] at h
    split at h
    · cases h
    · rename_i hguarded
      cases h
      exact absurd rfl hguarded

variable {m : Move GuardJob}

theorem isStop_of_move? (h : g.move? p = some m) : m.isStop = g.isStop := by
  cases g with
  | request =>
    cases h
    rfl
  | answer | panic =>
    obtain ⟨t, -, rfl⟩ := Option.map_eq_some_iff.mp h
    rfl
  | other m' =>
    rw [GuardMove.move?] at h
    split at h <;> cases h
    rfl

theorem arrivals_of_move? (h : g.move? p = some m) : m.arrivals = g.request?.toList.length := by
  cases g with
  | request =>
    cases h
    rfl
  | answer | panic =>
    obtain ⟨t, -, rfl⟩ := Option.map_eq_some_iff.mp h
    rfl
  | other m' =>
    rw [GuardMove.move?] at h
    split at h
    · cases h
    · rename_i hguarded
      cases h
      cases m with
      | arrive => exact absurd rfl hguarded
      | _ => rfl

/-- The requests that a move adds. -/
def added (p : Pool GuardJob) (g : GuardMove) : List (String × String) :=
  if p.stopped then [] else g.request?.toList

/-- **A guard on duty**, given the requests so far: it is at a spot, and carries what was requested
with it. -/
structure OnDuty (guards : List (String × String)) (p : Pool GuardJob) (serial : Nat)
    (spot : Spot GuardJob) : Prop where
  place : p.At serial spot
  counted : guards.length = p.submitted
  carries : ∀ t, spot.ticket? = some t →
    guards[serial]? = some (t.job.resourceGroup, t.job.scaleSet) ∧ t.id = t.job.id

variable {guards : List (String × String)} {serial : Nat} {a b : Spot GuardJob}
  {events : List (Event GuardJob)} {t u : Ticket GuardJob}

/-- The guard whose poll ends is the one that is being polled. -/
theorem At.conclude_of_move? {result : PollEnd GuardJob} (h : p.At serial (.polling t))
    (hg : g.move? p = some (.conclude t.serial result)) :
    (∃ listing, g = .answer serial listing ∧ result = t.job.conclude listing) ∨
      (g = .panic serial ∧ result = .panicked t.job) := by
  obtain ⟨u, hu, hserial, hcases⟩ := Pool.conclude_of_move? hg
  have ht : t.serial = serial := h.serial_eq rfl
  have heq := h.eq_of_mem (b := .polling u) (by simp [spots, hu])
    (by simp [Spot.isOf, Spot.ticket?, hserial, ht])
  cases heq
  rw [ht] at hcases
  exact hcases

/-- Whatever it goes through, a guard keeps its scale set and its id. -/
theorem advance_carries (hat : p.At serial a) (h : Advance p m a events b)
    (hg : g.move? p = some m) (ht : a.ticket? = some t) (hu : b.ticket? = some u) :
    (u.job.resourceGroup, u.job.scaleSet) = (t.job.resourceGroup, t.job.scaleSet) ∧
      u.id = t.id := by
  cases h with
  | submit => cases ht
  | refuse | reject | discard | converge | fail | crash | abandon | desert => cases hu
  | register | accept | poll | requeue =>
    cases ht
    cases hu
    exact ⟨rfl, rfl⟩
  | rest t job pause =>
    cases ht
    cases hu
    refine ⟨?_, rfl⟩
    rcases hat.conclude_of_move? hg with ⟨listing, -, hresult⟩ | ⟨-, hresult⟩
    · rcases conclude_cases_guard t.job listing with
        ⟨_, -, hend⟩ | ⟨listing, -, ⟨-, hend⟩ | ⟨-, hend⟩⟩ <;>
        rw [hend] at hresult <;> cases hresult
      rfl
    · cases hresult

/-- **What a move means for a guard.** -/
theorem OnDuty.step (h : p.OnDuty guards serial a) (hg : g.move? p = some m)
    (hstep : p.step m = some (q, events)) :
    ∃ b, q.OnDuty (guards ++ p.added g) serial b ∧ Impact p m events serial a b := by
  have hcounted : (guards ++ p.added g).length = q.submitted := by
    rw [(step_lasting hstep).submitted, List.length_append, h.counted, arrivals_of_move? hg, added]
    split <;> rfl
  obtain ⟨b, hb, himpact⟩ := h.place.step hstep
  refine ⟨b, ⟨hb, hcounted, fun u hu => ?_⟩, himpact⟩
  rcases himpact with ⟨hadvance, -⟩ | ⟨rfl, -, -⟩
  · cases ha : a.ticket? with
    | some t =>
      obtain ⟨hrequest, hid⟩ := h.carries t ha
      obtain ⟨hjob, hsame⟩ := advance_carries h.place hadvance hg ha hu
      obtain ⟨hgroup, hset⟩ := Prod.mk.inj hjob
      rw [hgroup, hset]
      refine ⟨getElem?_append_of_some hrequest, ?_⟩
      rw [hsame, hid, GuardJob.id, GuardJob.id, hgroup, hset]
    | none =>
      -- The guard was submitted with this move.
      obtain ⟨id, job, hrunning, rfl, rfl⟩ := hadvance.submitted ha hu
      obtain ⟨resourceGroup, scaleSet, rfl, rfl, rfl⟩ := arrive_of_move? hg
      obtain rfl : p.submitted = serial := hb.serial_eq hu
      refine ⟨?_, rfl⟩
      rw [added, if_neg (by simp [hrunning]), ← h.counted]
      exact List.getElem?_concat_length
  · exact ⟨getElem?_append_of_some (h.carries u hu).1, (h.carries u hu).2⟩

theorem requests_cons_of_running {g : GuardMove} (h : g.isStop = false) (moves : List GuardMove) :
    requests (g :: moves) = g.request?.toList ++ requests moves := by
  rw [requests, List.takeWhile_cons_of_pos (by simp [h]), List.filterMap_cons]
  cases g.request? <;> rfl

theorem requests_cons_of_stop {g : GuardMove} (h : g.isStop = true) (moves : List GuardMove) :
    requests (g :: moves) = [] ∧ g.request? = none := by
  refine ⟨by rw [requests, List.takeWhile_cons_of_neg (by simp [h])]; rfl, ?_⟩
  cases g with
  | request => cases h
  | answer | panic | other => rfl

/-- The requests of a run are those that its moves add. -/
theorem requests_cons (hg : g.move? p = some m) (hstep : p.step m = some (q, events)) :
    (if p.stopped then [] else requests (g :: moves)) =
      p.added g ++ if q.stopped then [] else requests moves := by
  rw [added, (step_lasting hstep).stopped, isStop_of_move? hg]
  cases hp : p.stopped with
  | true => rfl
  | false =>
    cases hstop : g.isStop with
    | true =>
      obtain ⟨hrequests, hnone⟩ := requests_cons_of_stop hstop moves
      simp [hrequests, hnone]
    | false => simp [requests_cons_of_running hstop]

theorem start_running {workers : Nat} {backoff : Backoff} (h : startPool workers backoff = .ok p) :
    p.stopped = false := by
  rw [startPool] at h
  split at h <;> cases h
  rfl

theorem start_onDuty {workers : Nat} {backoff : Backoff}
    (h : startPool workers backoff = .ok p) (sleep : Nat → Nat) (now serial : Nat) :
    ({ p with sleep, now } : Pool GuardJob).OnDuty [] serial .unborn := by
  refine ⟨start_at h sleep now serial, ?_, nofun⟩
  rw [startPool] at h
  split at h <;> cases h
  rfl

end Pool

end ClusterOperator.Watchdog
