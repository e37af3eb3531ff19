import ClusterOperator.Proofs.Watchdog.Asking
import ClusterOperator.Proofs.Watchdog.Guards
import ClusterOperator.Proofs.Watchdog.ScaleSets

/-!
# Which scale sets are guarded

When the guards of some clusters have been created, again and again and in any order, a running
watchdog guards the scale sets of these clusters of which no guard has ended since, each by one job,
and nothing else (`Guarding`).

Every request was answered by then: its guard was queued, or turned away (`Answered`).  It is only
turned away for a guard that has its id, and the id of a guard tells whose it is.
-/

namespace ClusterOperator.Watchdog

variable {guards more : List (String × String)} {serial : Nat}
  {past events : List (Event GuardJob)} {spot : Spot GuardJob}

/-- The request for a guard has an answer. -/
def HasAnswer (guards : List (String × String)) (serial : Nat) (past : List (Event GuardJob)) :
    Prop :=
  ∃ guard, guards[serial]? = some guard ∧
    ∃ e ∈ past, e.answers (GuardJob.idOf guard.1 guard.2) = true

/-- **The request for a guard was answered**, once the guard is in the queue or has not been taken
on. -/
def Answered (guards : List (String × String)) (serial : Nat) (past : List (Event GuardJob)) :
    Spot GuardJob → Prop
  | .unborn => True
  | .arriving t | .entering t => t.polls = 0
  | .waiting _ | .polling _ | .resting _ | .gone => HasAnswer guards serial past

theorem HasAnswer.append (h : HasAnswer guards serial past) :
    HasAnswer (guards ++ more) serial (past ++ events) := by
  obtain ⟨guard, hguard, e, he, hanswers⟩ := h
  exact ⟨guard, getElem?_append_of_some hguard, e, List.mem_append_left events he, hanswers⟩

theorem Answered.append (h : Answered guards serial past spot) :
    Answered (guards ++ more) serial (past ++ events) spot := by
  cases spot with
  | unborn | arriving | entering => exact h
  | waiting | polling | resting | gone => exact HasAnswer.append h

namespace Pool

variable {p q : Pool GuardJob} {g : GuardMove} {m : Move GuardJob} {a b : Spot GuardJob}
  {own : List (Event GuardJob)}

/-- What a step of a guard means for its request. -/
theorem advance_answered (h : p.OnDuty guards serial a) (hadvance : Advance p m a own b)
    (hown : ∀ e ∈ own, e ∈ events)
    (hrejected : ∀ t, a.ticket? = some t → b.ticket? = none → own = [] →
      .rejected t.id t.job ∈ events)
    (ha : Answered guards serial past a) : Answered (guards ++ more) serial (past ++ events) b := by
  -- Whatever answers the request names the id that was requested.
  have hanswered {t : Ticket GuardJob} {e : Event GuardJob} (ht : a.ticket? = some t)
      (he : e ∈ events) (hanswers : e.answers t.id = true) :
      HasAnswer (guards ++ more) serial (past ++ events) := by
    obtain ⟨hguard, hid⟩ := h.carries t ht
    have hname : GuardJob.idOf t.job.resourceGroup t.job.scaleSet = t.id := hid.symm
    exact ⟨(t.job.resourceGroup, t.job.scaleSet), getElem?_append_of_some hguard, e,
      List.mem_append_right past he, by simpa only [hname] using hanswers⟩
  cases hadvance with
  | submit => rfl
  | register => exact ha
  | refuse t | reject t => exact hanswered rfl (hrejected t rfl rfl rfl) (by simp [Event.answers])
  | accept t =>
    have hpolls : t.polls = 0 := ha
    exact hanswered rfl (hown _ List.mem_cons_self) (by simp [Event.answers, hpolls])
  | poll | discard | rest | converge | fail | crash | requeue | abandon | desert => exact ha.append

variable {moves before after : List GuardMove} {trace : List (Nat × Event GuardJob)}

theorem run_answered (hwatch : p.watch moves = some (q, trace)) (h : p.OnDuty guards serial a)
    (ha : Answered guards serial past a) :
    ∃ b, q.OnDuty (guards ++ if p.stopped then [] else requests moves) serial b ∧
      Answered (guards ++ if p.stopped then [] else requests moves) serial
        (past ++ trace.map Prod.snd) b := by
  induction moves generalizing p trace guards past a with
  | nil =>
    cases hwatch
    exact ⟨a, by simpa [requests] using h, by simpa [requests] using ha⟩
  | cons g moves ih =>
    obtain ⟨m, r, events, rest, hg, hstep, hrest, rfl⟩ := watch_cons_eq_some hwatch
    obtain ⟨b, hb, himpact⟩ := h.step hg hstep
    have hanswered : Answered (guards ++ p.added g) serial (past ++ events) b := by
      rcases himpact with ⟨hadvance, hrejected⟩ | ⟨rfl, -, -⟩
      · exact advance_answered h hadvance (fun e he => (List.mem_filter.mp he).1) hrejected ha
      · exact ha.append
    obtain ⟨c, hc, hcanswered⟩ := ih hrest hb hanswered
    refine ⟨c, ?_, ?_⟩ <;> rw [requests_cons hg hstep]
    · simpa only [List.append_assoc] using hc
    · simpa [List.append_assoc, Function.comp_def] using hcanswered

/-! ## The whole time -/

variable {workers : Nat} {start r : Pool GuardJob} {backoff : Backoff} {sleep : Nat → Nat}
  {now : Nat} {past' : List (Nat × Event GuardJob)}

/-- A run goes on from where a part of it has led. -/
theorem watch_later (hwatch : p.watch (before ++ after) = some (q, trace))
    (hbefore : p.watch before = some (r, past')) :
    ∃ later, r.watch after = some (q, later) ∧ trace = past' ++ later := by
  induction before generalizing p past' trace with
  | nil =>
    cases hbefore
    exact ⟨trace, hwatch, rfl⟩
  | cons g before ih =>
    obtain ⟨m, p', events, first, hg, hstep, hfirst, rfl⟩ := watch_cons_eq_some hbefore
    obtain ⟨m', p'', events', rest, hg', hstep', hrest, rfl⟩ := watch_cons_eq_some hwatch
    obtain rfl := Option.some.inj (hg.symm.trans hg')
    obtain ⟨rfl, rfl⟩ := Prod.mk.inj (Option.some.inj (hstep.symm.trans hstep'))
    obtain ⟨later, hlater, rfl⟩ := ih hrest hfirst
    exact ⟨later, hlater, List.append_assoc _ _ _ ▸ rfl⟩

theorem requests_of_earlier (before after : List GuardMove) :
    requests before <+: requests (before ++ after) := by
  induction before with
  | nil => exact List.nil_prefix
  | cons g before ih =>
    rw [List.cons_append]
    cases hstop : g.isStop with
    | true =>
      rw [(requests_cons_of_stop hstop before).1]
      exact List.nil_prefix
    | false =>
      rw [requests_cons_of_running hstop, requests_cons_of_running hstop]
      exact (List.prefix_append_right_inj _).mpr ih

/-- Every guard is on duty, and its request is answered once it is in the queue. -/
theorem onDuty_of_watch (hstart : startPool workers backoff = .ok start)
    (hwatch : ({ start with sleep, now } : Pool GuardJob).watch moves = some (p, trace))
    (serial : Nat) :
    ∃ spot, p.OnDuty (requests moves) serial spot ∧
      Answered (requests moves) serial (trace.map Prod.snd) spot := by
  have hunborn : Answered [] serial [] .unborn := trivial
  have hrun := run_answered hwatch (start_onDuty hstart sleep now serial) hunborn
  simpa [start_running hstart] using hrun

/-- **Every guard in a pool was requested**, and has the id of what was requested. -/
theorem requested_of_watch {t : Ticket GuardJob} (hstart : startPool workers backoff = .ok start)
    (hwatch : ({ start with sleep, now } : Pool GuardJob).watch moves = some (p, trace))
    (hmem : spot ∈ p.spots) (ht : spot.ticket? = some t) :
    (t.job.resourceGroup, t.job.scaleSet) ∈ requests moves ∧ t.id = t.job.id := by
  obtain ⟨place, hduty, -⟩ := onDuty_of_watch hstart hwatch t.serial
  obtain rfl := hduty.place.eq_of_mem hmem (by simp [Spot.isOf, ht])
  obtain ⟨hrequest, hid⟩ := hduty.carries t ht
  exact ⟨List.mem_of_getElem? hrequest, hid⟩

/-- **Every request was answered**, if no submission is under way any more. -/
theorem answered_of_watch (hstart : startPool workers backoff = .ok start)
    (hwatch : ({ start with sleep, now } : Pool GuardJob).watch moves = some (p, trace))
    (harriving : p.arriving = []) (hentering : p.entering = []) :
    ∀ guard ∈ requests moves,
      ∃ e ∈ trace.map Prod.snd, e.answers (GuardJob.idOf guard.1 guard.2) = true := by
  intro guard hguard
  obtain ⟨serial, hlt, rfl⟩ := List.mem_iff_getElem.mp hguard
  obtain ⟨spot, hduty, hanswered⟩ := onDuty_of_watch hstart hwatch serial
  have hget := List.getElem?_eq_getElem hlt
  cases spot with
  | unborn =>
    have hle := hduty.place.unborn.mp rfl
    rw [← hduty.counted] at hle
    omega
  | arriving t =>
    have hmem := hduty.place.mem rfl
    simp [spots, harriving] at hmem
  | entering t =>
    have hmem := hduty.place.mem rfl
    simp [spots, hentering] at hmem
  | waiting | polling | resting | gone =>
    obtain ⟨guard, hguard, hanswer⟩ := hanswered
    rw [hget] at hguard
    exact Option.some.inj hguard ▸ hanswer

/-! ## After passes over clusters -/

/-- **Which scale sets are guarded** after passes over these clusters, given the events so far. -/
structure Guarding (clusters : List Cluster) (p : Pool GuardJob) (events : List (Event GuardJob)) :
    Prop where
  /-- Each scale set of the clusters was asked for, and that was answered. -/
  asked : ∀ c ∈ clusters, ∀ role, ∃ e ∈ events, e.answers (c.guardId role) = true
  /-- The ids that are taken are those of the scale sets of the clusters of which no guard has ended
  since. -/
  exact : ∀ id, p.isActive id = true ↔
    ∃ c ∈ clusters, ∃ role, c.guardId role = id ∧ Unended id events
  /-- Each of these has one job, and the job is about this scale set. -/
  single : ∀ c ∈ clusters, ∀ role, Unended (c.guardId role) events →
    ∃ t, p.live.filter (fun u => u.id = c.guardId role) = {t} ∧
      t.job.resourceGroup = c.resourceGroup ∧ t.job.scaleSet = c.scaleSet role

/-- **A guard is turned away only for one of the same scale set**, which is in the pool. -/
def Discerns (clusters : List Cluster) (p : Pool GuardJob) : Prop :=
  ∀ (m : Move GuardJob) (q : Pool GuardJob) (events : List (Event GuardJob)) (id : String)
    (job : GuardJob), p.step m = some (q, events) → .rejected id job ∈ events →
      ∃ c ∈ clusters, ∃ role,
        (job.resourceGroup = c.resourceGroup ∧ job.scaleSet = c.scaleSet role) ∧
          ∃ t ∈ p.live, t.job.resourceGroup = c.resourceGroup ∧ t.job.scaleSet = c.scaleSet role

variable {clusters : List Cluster}

/-- The guards in a pool are those of scale sets of clusters. -/
def Belongs (clusters : List Cluster) (p : Pool GuardJob) : Prop :=
  ∀ spot ∈ p.spots, ∀ t, spot.ticket? = some t → ∃ c ∈ clusters, ∃ role,
    (t.job.resourceGroup = c.resourceGroup ∧ t.job.scaleSet = c.scaleSet role) ∧
      t.id = c.guardId role

theorem ticket?_of_live? {t : Ticket GuardJob} (h : spot.live? = some t) :
    spot.ticket? = some t := by
  cases spot with
  | unborn | arriving | gone => cases h
  | entering | waiting | polling | resting => exact h

/-- So are the live ones. -/
theorem Belongs.live (h : Belongs clusters p) {t : Ticket GuardJob} (ht : t ∈ p.live) :
    ∃ c ∈ clusters, ∃ role,
      (t.job.resourceGroup = c.resourceGroup ∧ t.job.scaleSet = c.scaleSet role) ∧
        t.id = c.guardId role := by
  rw [live_eq] at ht
  obtain ⟨spot, hmem, hlive⟩ := (Multiset.mem_filterMap _ _).mp ht
  exact h spot hmem t (ticket?_of_live? hlive)

/-- Two guards of one id are of the same scale set. -/
theorem scaleSet_of_guardId {c d : Cluster} {r s : NodeRole} (named : ∀ c ∈ clusters, c.IsNamed)
    (hc : c ∈ clusters) (hd : d ∈ clusters) (h : c.guardId r = d.guardId s) :
    c.resourceGroup = d.resourceGroup ∧ c.scaleSet r = d.scaleSet s := by
  obtain ⟨hgroup, hset⟩ := (Cluster.guardId_inj (named c hc) (named d hd)).mp h
  exact ⟨hgroup, Cluster.scaleSet_inj.mpr hset⟩

theorem Belongs.discerns (h : Belongs clusters p) (named : ∀ c ∈ clusters, c.IsNamed)
    (registered : Registered p) (running : p.stopped = false) (manned : p.Manned) :
    Discerns clusters p := by
  intro m q events id job hstep hmem
  obtain ⟨t, ht, hid, hjob, u, hu, huid⟩ := rejected_of_step registered running manned hstep hmem
  obtain ⟨c, hc, role, hset, hname⟩ := h _ ht t rfl
  obtain ⟨d, hd, other, ⟨hugroup, huset⟩, huname⟩ := h.live hu
  obtain ⟨hgroup, hsame⟩ := scaleSet_of_guardId named hc hd (by rw [← hname, ← huname, hid, huid])
  exact ⟨c, hc, role, hjob ▸ hset, u, hu, hugroup.trans hgroup.symm, huset.trans hsame.symm⟩

theorem filter_eq_singleton {α : Type} {key : α → String} {s : Multiset α} {a : α}
    (h : (s.map key).Nodup) (ha : a ∈ s) : s.filter (fun b => key b = key a) = {a} := by
  obtain ⟨rest, rfl⟩ := Multiset.exists_cons_of_mem ha
  rw [Multiset.map_cons, Multiset.nodup_cons] at h
  have hrest : rest.filter (fun b => key b = key a) = 0 :=
    Multiset.filter_eq_nil.mpr fun b hb heq => h.1 (heq ▸ Multiset.mem_map_of_mem key hb)
  rw [Multiset.filter_cons_of_pos rest (by rfl), hrest, Multiset.cons_zero]

theorem Belongs.guarding (h : Belongs clusters p) (named : ∀ c ∈ clusters, c.IsNamed)
    (answering : Answering p events) (hentering : p.entering = [])
    (asked : ∀ c ∈ clusters, ∀ role, ∃ e ∈ events, e.answers (c.guardId role) = true) :
    Guarding clusters p events := by
  have htaken (id : String) : id ∈ p.active ↔ Unended id events := by
    rw [answering.taken id]
    refine or_iff_right ?_
    rintro ⟨_, hmem, t, rfl, -⟩
    simp [spots, hentering] at hmem
  refine ⟨asked, fun id => ?_, fun c hc role hunended => ?_⟩
  · rw [isActive_iff]
    constructor
    · intro hid
      obtain ⟨t, ht, rfl⟩ := answering.registered.mem_iff.mp hid
      obtain ⟨c, hc, role, -, hname⟩ := h.live ht
      exact ⟨c, hc, role, hname.symm, (htaken t.id).mp hid⟩
    · rintro ⟨c, -, role, -, hunended⟩
      exact (htaken id).mpr hunended
  · obtain ⟨t, ht, hid⟩ := answering.registered.mem_iff.mp ((htaken _).mpr hunended)
    obtain ⟨d, hd, other, ⟨hgroup, hset⟩, hname⟩ := h.live ht
    obtain ⟨hgroup', hset'⟩ := scaleSet_of_guardId named hd hc (hname.symm.trans hid)
    exact ⟨t, hid ▸ filter_eq_singleton answering.registered.nodup ht, hgroup.trans hgroup',
      hset.trans hset'⟩

variable {watchdog : Nat} {xs : List (Exchange gateway)}

/-- **The guards of clusters are told apart, and a running watchdog guards the scale sets of these
clusters**: after any passes over them, whatever else goes on in the meantime.  At no time is a
guard of a cluster turned away because of another cluster. -/
theorem guarding_of_passes (hstart : startPool workers backoff = .ok start)
    (named : ∀ c ∈ clusters, c.IsNamed) (hpasses : GuardPasses watchdog clusters xs)
    (hwatch : ({ start with sleep, now } : Pool GuardJob).watch moves = some (p, trace))
    (hasked : (requests moves).Perm (guardsAsked watchdog xs)) (running : p.IsRunning workers)
    (harriving : p.arriving = []) (hentering : p.entering = []) :
    (∀ (a b : Cluster) (r s : NodeRole), a.IsNamed → b.IsNamed → (a.guardId r = b.guardId s ↔
      a.resourceGroup = b.resourceGroup ∧ a.name = b.name ∧ r = s)) ∧
    Guarding clusters p (trace.map Prod.snd) ∧
    ∀ (before after : List GuardMove) (q : Pool GuardJob) (past : List (Nat × Event GuardJob)),
      moves = before ++ after →
      ({ start with sleep, now } : Pool GuardJob).watch before = some (q, past) →
        Discerns clusters q := by
  have hrequests (guard : String × String) : guard ∈ requests moves ↔
      ∃ c ∈ clusters, ∃ role, guard = (c.resourceGroup, c.scaleSet role) := by
    rw [hasked.mem_iff, hpasses.guardsAsked, List.mem_flatMap]
    simp only [Cluster.mem_guards_iff]
  have hbelongs {before : List GuardMove} {q : Pool GuardJob} {past : List (Nat × Event GuardJob)}
      (hsub : ∀ guard ∈ requests before, guard ∈ requests moves)
      (hbefore : ({ start with sleep, now } : Pool GuardJob).watch before = some (q, past)) :
      Belongs clusters q := by
    intro spot hmem t ht
    obtain ⟨hrequest, hid⟩ := requested_of_watch hstart hbefore hmem ht
    obtain ⟨c, hc, role, heq⟩ := (hrequests _).mp (hsub _ hrequest)
    obtain ⟨hgroup, hset⟩ := Prod.mk.inj heq
    exact ⟨c, hc, role, ⟨hgroup, hset⟩, by rw [hid, GuardJob.id, hgroup, hset, Cluster.guardId]⟩
  refine ⟨fun a b r s => Cluster.guardId_inj, ?_, fun before after q past hmoves hbefore => ?_⟩
  · obtain ⟨moves', hrun⟩ := run_of_watch hwatch
    refine (hbelongs (fun _ h => h) hwatch).guarding named
      (answering_of_run hstart hrun running).1 hentering fun c hc role => ?_
    exact answered_of_watch hstart hwatch harriving hentering _
      ((hrequests _).mpr ⟨c, hc, role, rfl⟩)
  · subst hmoves
    obtain ⟨later, hafter, -⟩ := watch_later hwatch hbefore
    obtain ⟨moves', hrun⟩ := run_of_watch hbefore
    obtain ⟨moves'', hrest⟩ := run_of_watch hafter
    -- The pool was running then, since it is running still.
    have hrunning := ((run_tallied hrun (start_tallied hstart)).isRunning hrest running).1
    obtain ⟨answering, manned⟩ := answering_of_run hstart hrun hrunning
    exact (hbelongs (fun _ h => (requests_of_earlier before after).subset h) hbefore).discerns named
      answering.registered hrunning.stopped manned

/-- Passes over two clusters and the first one again.  Its resource group has a slash, and the name
of the other one a role.  One of its guards is turned away the second time and the other, which has
ended, is not; a guard of the other cluster has failed. -/
theorem guarding_of_repeated_pass :
    ∃ (a b : Cluster) (xs : List (Exchange gateway)) (start p : Pool GuardJob)
      (trace : List (Nat × Event GuardJob)) (moves : List GuardMove),
      startPool 2 (OperatorConfig.watchdogBackoff {}) = .ok start ∧
      (∀ c ∈ [a, b, a], c.IsNamed) ∧ GuardPasses 0 [a, b, a] xs ∧
      ({ start with sleep := id, now := 0 } : Pool GuardJob).watch moves = some (p, trace) ∧
      requests moves = guardsAsked 0 xs ∧ p.IsRunning 2 ∧ p.arriving = [] ∧ p.entering = [] ∧
      p.active = [a.guardId .master, b.guardId .worker, a.guardId .worker] ∧
      Guarding [a, b, a] p (trace.map Prod.snd) := by
  let spec (resourceGroup : String) : ClusterSpec :=
    { resourceGroup := some resourceGroup, location := "", networkCidr := "", releaseVersion := "" }
  let a : Cluster := { name := "c", spec := spec "g/c-master" }
  let b : Cluster := { name := "c-master", spec := spec "g" }
  let xs : List (Exchange gateway) :=
    [⟨.guard 0 "g/c-master" "c-master", true⟩, ⟨.guard 0 "g/c-master" "c-worker", true⟩] ++
      ([⟨.guard 0 "g" "c-master-master", true⟩, ⟨.guard 0 "g" "c-master-worker", true⟩] ++
        ([⟨.guard 0 "g/c-master" "c-master", false⟩, ⟨.guard 0 "g/c-master" "c-worker", true⟩] ++
          []))
  let moves : List GuardMove :=
    [.request "g/c-master" "c-master", .other (.register 0), .other (.enter 0),
      .request "g/c-master" "c-worker", .other (.register 1), .other (.enter 1),
      .request "g" "c-master-master", .other (.register 2), .other (.enter 2),
      .request "g" "c-master-worker", .other (.register 3), .other (.enter 3),
      .other .receive, .other (.begin 0), .other .receive, .other (.begin 1),
      .answer 0 (.ok [⟨"0", .creating⟩]), .answer 1 (.ok []), .other .receive, .other (.begin 2),
      .answer 2 (.error { message := "gone" }), .request "g/c-master" "c-master",
      .other (.register 4), .request "g/c-master" "c-worker", .other (.register 5),
      .other (.enter 5)]
  have hstart : startPool 2 (OperatorConfig.watchdogBackoff {}) =
      .ok (Pool.start (J := GuardJob) 2 (OperatorConfig.watchdogBackoff {})) := rfl
  have hwatch : (({ Pool.start 2 (OperatorConfig.watchdogBackoff {}) with
      sleep := id, now := 0 } : Pool GuardJob).watch moves).map (fun r =>
        (r.1.stopped, r.1.hands, r.1.arriving.length, r.1.entering.length, r.1.active)) =
      some (false, 2, 0, 0, [a.guardId .master, b.guardId .worker, a.guardId .worker]) := by
    decide +kernel
  obtain ⟨⟨p, trace⟩, hp, hfacts⟩ := Option.map_eq_some_iff.mp hwatch
  simp only [Prod.mk.injEq, List.length_eq_zero_iff] at hfacts
  obtain ⟨hstopped, hhands, harriving, hentering, hactive⟩ := hfacts
  have named : ∀ c ∈ [a, b, a], c.IsNamed := by decide +kernel
  have hpass (c : Cluster) (first second : Bool) :
      ((ClusterResource.instanceGuard 0).ensureCreated c).Transcript {}
        [⟨.guard 0 c.resourceGroup (c.scaleSet .master), first⟩,
          ⟨.guard 0 c.resourceGroup (c.scaleSet .worker), second⟩] (.ok ()) {} :=
    Step.transcript_lift_iff.mpr ⟨(), .ask _ (.ask _ (.done _)), rfl, rfl⟩
  have hpasses : GuardPasses 0 [a, b, a] xs :=
    .cons (hpass a true true) (.cons (hpass b true true) (.cons (hpass a false true) .nil))
  have hasked : requests moves = guardsAsked 0 xs := rfl
  exact ⟨a, b, xs, _, p, trace, moves, hstart, named, hpasses, hp, hasked, ⟨hstopped, hhands⟩,
    harriving, hentering, hactive,
    (guarding_of_passes hstart named hpasses hp (.of_eq hasked) ⟨hstopped, hhands⟩ harriving
      hentering).2.1⟩

end Pool

end ClusterOperator.Watchdog
