import ClusterOperator.Proofs.Watchdog.Registrations

/-!
# What is lost with a worker

A poll that panics takes its worker along, and so does a job that is to wait for a pause without
a length.  The job is gone then, but its id stays taken; and when the last worker goes, so do
the jobs in the queue, whose ids stay taken too.

In every pool that can be reached, the ids that are taken are those of the live jobs and the
lost ones, no id twice; and none is lost exactly if no worker was (`run_accounted`).  Whatever
becomes of the workers, no job is left in the queue without one (`run_staffed`).
-/

namespace ClusterOperator.Watchdog.Pool

variable {J : Type} {p q : Pool J} {events : List (Event J)} {serial : Nat} {m : Move J}
  {t : Ticket J} {lost : List String}

/-! ## The ids that are taken -/

/-- When a worker is lost, all ids that were taken stay so. -/
theorem lose_accounted {running : List (Ticket J)} {u : Ticket J}
    (hrunning : (p.running : Multiset (Ticket J)) = t ::ₘ running) (hp : Accounted p lost) :
    ∃ more, Accounted (({ p with running } : Pool J).lose u).1 (t.id :: more) := by
  have hlive : p.live = t ::ₘ ({ p with running } : Pool J).live := by
    simp only [live, hrunning, Multiset.add_cons, Multiset.cons_add]
  by_cases hworkers : ({ p with running } : Pool J).hasWorkers = true
  · refine ⟨lost, ?_, ?_⟩ <;> simp only [lose, abandon, hworkers, if_true]
    · rw [hp.exact, liveIds, liveIds, hlive, Multiset.map_cons, Multiset.cons_add,
        ← Multiset.cons_coe, Multiset.add_cons]
    · exact hp.distinct
  · refine ⟨p.queue.map Ticket.id ++ lost, ?_, ?_⟩ <;>
      simp only [lose, abandon, hworkers, if_false, Bool.false_eq_true]
    · rw [hp.exact, liveIds, hlive, Multiset.map_cons, ← Multiset.cons_coe, Multiset.add_cons,
        Multiset.cons_add, ← Multiset.coe_add, ← Multiset.map_coe]
      simp only [liveIds, live, Multiset.map_add, Multiset.coe_nil, Multiset.map_zero]
      ac_rfl
    · exact hp.distinct

/-! ## One move -/

/-- A poll that ends either spares its worker, or the worker is lost. -/
theorem conclude_cases {result : PollEnd J} (h : p.conclude serial result = some (q, events)) :
    (∀ e ∈ events, Shift.losesWorker e = false) ∨
      ∃ (t u : Ticket J) (running : List (Ticket J)),
        extract (fun t => t.serial == serial) p.running = some (t, running) ∧
          (q, events) = ({ p with running } : Pool J).lose u := by
  rw [conclude] at h
  split at h
  · cases h
  · rename_i t running hextract
    cases result with
    | panicked job =>
      cases h
      exact .inr ⟨t, _, running, hextract, rfl⟩
    | finished job | failed job =>
      cases h
      exact .inl (by simp [Shift.losesWorker])
    | pending job =>
      simp only [settle] at h
      split at h <;> cases h
      · exact .inr ⟨t, _, running, hextract, rfl⟩
      · exact .inl (by simp [Shift.losesWorker])

theorem step_accounted (h : p.step m = some (q, events)) (hp : Accounted p lost) :
    ∃ lost', Accounted q lost' ∧
      (lost' = [] ↔ lost = [] ∧ ∀ e ∈ events, Shift.losesWorker e = false) := by
  by_cases spared : ∀ e ∈ events, Shift.losesWorker e = false
  · exact ⟨lost, (step_orderly spared h).change.accounted hp, (and_iff_left spared).symm⟩
  · -- Only the end of a poll loses something, and the id of its job is among that.
    by_cases hm : ∃ serial result, m = .conclude serial result
    · obtain ⟨serial, result, rfl⟩ := hm
      obtain ⟨t, u, running, hextract, heq⟩ := (conclude_cases h).resolve_left spared
      obtain ⟨rfl, rfl⟩ := Prod.ext_iff.mp heq
      obtain ⟨more, hmore⟩ := lose_accounted (u := u) (extract_eq hextract) hp
      exact ⟨_, hmore, iff_of_false (List.cons_ne_nil _ _) fun h => spared h.2⟩
    · exact absurd (spared_of_step h fun serial result heq => hm ⟨serial, result, heq⟩) spared

/-! ## The workers that are left -/

/-- A queued job has some worker left to take it out. -/
def Staffed (p : Pool J) : Prop := p.queue ≠ [] → p.hasWorkers = true

theorem hasWorkers_of_isOpen (h : p.isOpen = true) : p.hasWorkers = true :=
  ((Bool.and_eq_true _ _).mp h).2

theorem abandon_staffed : Staffed p.abandon.1 := by
  intro hqueue
  by_cases hworkers : p.hasWorkers = true
  · simp [abandon, hworkers]
  · simp [abandon, hworkers] at hqueue

theorem conclude_staffed {result : PollEnd J} (h : p.conclude serial result = some (q, events)) :
    q.Staffed := by
  rw [conclude] at h
  split at h
  · cases h
  · cases result with
    | panicked job =>
      cases h
      exact abandon_staffed
    | finished job | failed job =>
      cases h
      exact fun _ => by simp [hasWorkers, release]
    | pending job =>
      simp only [settle] at h
      split at h <;> cases h
      · exact abandon_staffed
      · exact fun _ => by simp [hasWorkers]

theorem step_staffed (h : p.step m = some (q, events)) (hp : p.Staffed) : q.Staffed := by
  cases m with
  | conclude serial result => exact conclude_staffed h
  | stop | tick =>
    cases h
    exact hp
  | arrive id job =>
    rw [step, arrive] at h
    split at h <;> cases h <;> exact hp
  | register serial =>
    rw [step, registerNext] at h
    split at h
    · cases h
    · split at h
      · cases h
        exact hp
      · rename_i registered hregister
        obtain ⟨-, rfl⟩ := register_eq_some_iff.mp hregister
        cases h
        exact hp
  | enter serial =>
    rw [step, enterNext] at h
    split at h
    · cases h
    · rw [enter] at h
      split at h
      · rename_i hopen
        cases h
        exact fun _ => hasWorkers_of_isOpen hopen
      · cases h
        exact hp
  | receive =>
    rw [step, receive] at h
    split at h <;> cases h
    exact fun _ => by simp [hasWorkers]
  | begin serial =>
    rw [step, beginNext] at h
    split at h
    · cases h
    · rw [begin] at h
      split at h <;> cases h
      · exact fun _ => by simp [hasWorkers, release]
      · exact fun _ => by simp [hasWorkers]
  | wake serial =>
    rw [step, wake] at h
    split at h
    · cases h
    · split at h
      · split at h
        · rename_i hopen
          cases h
          exact fun _ => hasWorkers_of_isOpen hopen
        · cases h
          exact hp
      · cases h
  | exit =>
    rw [step, exit] at h
    split at h
    · split at h
      · -- A worker only goes once the queue is empty.
        rename_i hempty
        cases h
        simp only [Bool.and_eq_true, List.isEmpty_iff] at hempty
        exact fun hqueue => absurd hempty.2 hqueue
      · cases h
    · cases h

/-! ## Every run -/

variable {moves : List (Move J)} {trace : List (Nat × Event J)}

theorem run_accounted (hrun : p.run moves = some (q, trace)) (hp : Accounted p lost) :
    ∃ lost', Accounted q lost' ∧
      (lost' = [] ↔ lost = [] ∧ ∀ e ∈ trace, Shift.losesWorker e.2 = false) := by
  induction moves generalizing p lost trace with
  | nil =>
    cases hrun
    exact ⟨lost, hp, (and_iff_left (List.forall_mem_nil _)).symm⟩
  | cons m moves ih =>
    obtain ⟨r, events, rest, hstep, hrest, rfl⟩ := run_cons_eq_some hrun
    obtain ⟨first, hr, hfirst⟩ := step_accounted hstep hp
    obtain ⟨lost', hq, hlost'⟩ := ih hrest hr
    refine ⟨lost', hq, hlost'.trans ?_⟩
    rw [hfirst, and_assoc, List.forall_mem_append, List.forall_mem_map]

theorem run_staffed (hrun : p.run moves = some (q, trace)) (hp : p.Staffed) : q.Staffed := by
  induction moves generalizing p trace with
  | nil =>
    cases hrun
    exact hp
  | cons m moves ih =>
    obtain ⟨r, events, rest, hstep, hrest, rfl⟩ := run_cons_eq_some hrun
    exact ih hrest (step_staffed hstep hp)

/-- **As long as the pauses have lengths and no poll panics**, no worker is lost. -/
theorem run_spares (paced : p.backoff.Paced) (calm : ∀ m ∈ moves, m.panics = false)
    (hrun : p.run moves = some (q, trace)) : ∀ e ∈ trace, Shift.losesWorker e.2 = false := by
  induction moves generalizing p trace with
  | nil =>
    cases hrun
    exact List.forall_mem_nil _
  | cons m moves ih =>
    obtain ⟨r, events, rest, hstep, hrest, rfl⟩ := run_cons_eq_some hrun
    have spared := step_spares paced (calm m List.mem_cons_self) hstep
    exact List.forall_mem_append.mpr ⟨List.forall_mem_map.mpr spared,
      ih ((step_orderly spared hstep).backoff ▸ paced)
        (fun m' hm' => calm m' (List.mem_cons_of_mem m hm')) hrest⟩

end ClusterOperator.Watchdog.Pool
