import ClusterOperator.Proofs.Watchdog.Guards

/-!
# What a guard reports

A guard reports when it is told that it has converged, and then on its last listing.  It is told so
at the end of a poll whose listing has come to an end, and that ends the guard as well; so there is
at most one report, there is one exactly if some listing had come to an end, and no poll begins
after that (`Dutiful`).

The report calls every instance a success that is no failure.  That is right because the instances
of such a listing are all in one of the three final states (`report_eq`).
-/

namespace ClusterOperator.Watchdog

/-- The answer to a listing of a guard. -/
def GuardMove.answer? (serial : Nat) :
    GuardMove → Option (Except CloudFault (List ScaleSetInstance))
  | .answer s listing => if s = serial then some listing else none
  | _ => none

/-- **The answers to the listings of a guard**, in order. -/
def answersTo (serial : Nat) (moves : List GuardMove) :
    List (Except CloudFault (List ScaleSetInstance)) :=
  moves.filterMap (GuardMove.answer? serial)

/-- The report of a guard that is told that it has converged. -/
def Event.report? : Event GuardJob → Option HealthReport
  | .finished t => some t.job.report
  | _ => none

/-- **The reports of a guard**, in order. -/
def reportsOf (serial : Nat) (trace : List (Nat × Event GuardJob)) : List HealthReport :=
  (trace.filter fun e => e.2.isOf serial).filterMap fun e => e.2.report?

/-- The report on a listing that has come to an end. -/
def reportOn (guard : String × String) (listing : List ScaleSetInstance) : HealthReport where
  resourceGroup := guard.1
  scaleSet := guard.2
  succeeded := (listing.filter fun i => i.state = .succeeded).map (·.id)
  failed := (listing.filter fun i => i.state = .failed ∨ i.state = .canceled).map (·.id)

theorem isFailure_iff {state : ProvisioningState} :
    state.isFailure = true ↔ state = .failed ∨ state = .canceled := by
  cases state <;> simp [ProvisioningState.isFailure]

/-- **A guard reports what its listing says**, once that has come to an end. -/
theorem report_eq (job : GuardJob) {listing : List ScaleSetInstance} (h : Ended listing) :
    ({ job with instances := some listing } : GuardJob).report =
      reportOn (job.resourceGroup, job.scaleSet) listing := by
  have hsucceeded : listing.filter (fun i => !i.state.isFailure) =
      listing.filter fun i => i.state = .succeeded := by
    refine List.filter_congr fun i hi => ?_
    rcases h i hi with hs | hs | hs <;> simp [hs, ProvisioningState.isFailure]
  have hfailed : listing.filter (fun i => i.state.isFailure) =
      listing.filter fun i => i.state = .failed ∨ i.state = .canceled :=
    List.filter_congr fun i _ => by rw [Bool.eq_iff_iff, decide_eq_true_eq, isFailure_iff]
  simp only [GuardJob.report, Option.getD_some, hsucceeded, hfailed, reportOn]

/-- **No instance is lost or doubled** in a report. -/
theorem reportOn_perm (guard : String × String) {listing : List ScaleSetInstance}
    (h : Ended listing) :
    ((reportOn guard listing).succeeded ++ (reportOn guard listing).failed).Perm
      (listing.map (·.id)) := by
  have hfailed : listing.filter (fun i => i.state = .failed ∨ i.state = .canceled) =
      listing.filter fun i => !decide (i.state = .succeeded) := by
    refine List.filter_congr fun i hi => ?_
    rcases h i hi with hs | hs | hs <;> simp [hs]
  rw [reportOn, hfailed, ← List.map_append]
  exact (List.filter_append_perm _ listing).map _

/-! ## What has been answered and reported -/

/-- No listing has come to an end, and there is no report. -/
def Awaits (answers : List (Except CloudFault (List ScaleSetInstance)))
    (reports : List HealthReport) : Prop :=
  (∀ listing, .ok listing ∈ answers → ¬Ended listing) ∧ reports = []

/-- The last listing has come to an end, as none before it; it is reported on once. -/
def Told (guard : String × String) (polls : Nat)
    (answers : List (Except CloudFault (List ScaleSetInstance))) (reports : List HealthReport) :
    Prop :=
  ∃ earlier listing, answers = earlier ++ [.ok listing] ∧ Ended listing ∧
    (∀ other, .ok other ∈ earlier → ¬Ended other) ∧ polls = answers.length ∧
    reports = [reportOn guard listing]

/-- **What has been answered and reported**, by the spot where a guard is. -/
def Dutiful (guards : List (String × String)) (serial polls : Nat)
    (answers : List (Except CloudFault (List ScaleSetInstance))) (reports : List HealthReport) :
    Spot GuardJob → Prop
  | .unborn | .arriving _ | .entering _ => Awaits answers reports ∧ polls = 0 ∧ answers = []
  | .waiting _ | .resting _ => Awaits answers reports ∧ polls = answers.length
  | .polling _ => Awaits answers reports ∧ polls = answers.length + 1
  | .gone => Awaits answers reports ∨
      ∃ guard, guards[serial]? = some guard ∧ Told guard polls answers reports

variable {answers : List (Except CloudFault (List ScaleSetInstance))} {reports : List HealthReport}
  {guards more : List (String × String)} {serial polls : Nat} {spot : Spot GuardJob}

theorem Awaits.answer {listing : List ScaleSetInstance} (h : Awaits answers reports)
    (hlisting : ¬Ended listing) : Awaits (answers ++ [.ok listing]) reports := by
  refine ⟨fun other hother => ?_, h.2⟩
  rcases List.mem_append.mp hother with hbefore | hlast
  · exact h.1 other hbefore
  · cases List.mem_singleton.mp hlast
    exact hlisting

theorem Awaits.fault {fault : CloudFault} (h : Awaits answers reports) :
    Awaits (answers ++ [.error fault]) reports := by
  refine ⟨fun other hother => ?_, h.2⟩
  rcases List.mem_append.mp hother with hbefore | hlast
  · exact h.1 other hbefore
  · cases List.mem_singleton.mp hlast

theorem Dutiful.append (h : Dutiful guards serial polls answers reports spot) :
    Dutiful (guards ++ more) serial polls answers reports spot := by
  cases spot with
  | gone =>
    exact h.imp_right fun ⟨guard, hguard, htold⟩ => ⟨guard, getElem?_append_of_some hguard, htold⟩
  | unborn | arriving | entering | waiting | polling | resting => exact h

namespace Pool

variable {p q : Pool GuardJob} {g : GuardMove} {m : Move GuardJob} {a b : Spot GuardJob}
  {events : List (Event GuardJob)}

/-- Only the end of a poll of the guard answers a listing of it. -/
theorem answer?_eq_none (hg : g.move? p = some m)
    (hm : ∀ result, m ≠ .conclude serial result) : g.answer? serial = none := by
  cases g with
  | answer s listing =>
    obtain ⟨t, -, rfl⟩ := Option.map_eq_some_iff.mp hg
    refine if_neg fun hs => ?_
    subst hs
    exact hm _ rfl
  | request | panic | other => rfl

theorem answer?_of_no_result (hg : g.move? p = some m) (hm : m.result? = none) :
    g.answer? serial = none := by
  refine answer?_eq_none hg fun result heq => ?_
  subst heq
  cases hm

/-- **What a step of a guard means** for what is answered and reported. -/
theorem advance_dutiful (h : p.OnDuty guards serial a) (hadvance : Advance p m a events b)
    (hg : g.move? p = some m) (hd : Dutiful guards serial polls answers reports a) :
    Dutiful guards serial (polls + (events.filter Event.isPoll).length)
      (answers ++ (g.answer? serial).toList) (reports ++ events.filterMap Event.report?) b := by
  cases hadvance with
  | accept t =>
    obtain ⟨hawaits, rfl, rfl⟩ := hd
    rw [answer?_of_no_result hg rfl]
    simpa [Dutiful, Event.isPoll, Event.report?, List.filterMap_cons] using hawaits
  | submit | register =>
    rw [answer?_of_no_result hg rfl]
    simpa [Dutiful, Event.isPoll, Event.report?, List.filterMap_cons] using hd
  | refuse | reject =>
    rw [answer?_of_no_result hg rfl]
    simpa [Dutiful, Event.isPoll, Event.report?, List.filterMap_cons] using .inl hd.1
  | poll | requeue =>
    rw [answer?_of_no_result hg rfl]
    simpa [Dutiful, Event.isPoll, Event.report?, List.filterMap_cons, List.filter_cons] using hd
  | discard | abandon =>
    rw [answer?_of_no_result hg rfl]
    simpa [Dutiful, Event.isPoll, Event.report?, List.filterMap_cons] using .inl hd.1
  | desert other result t hother =>
    rw [answer?_eq_none hg]
    · simpa [Dutiful, Event.isPoll, Event.report?, List.filterMap_cons] using .inl hd.1
    · rintro result' heq
      cases heq
      exact hother (h.place.serial_eq rfl)
  | rest t job pause =>
    obtain ⟨hawaits, hpolls⟩ := hd
    rcases h.place.conclude_of_move? hg with ⟨answer, rfl, hresult⟩ | ⟨-, hresult⟩
    · rcases conclude_cases_guard t.job answer with
        ⟨_, -, hend⟩ | ⟨listing, rfl, ⟨-, hend⟩ | ⟨hlisting, -⟩⟩
      · rw [hend] at hresult
        cases hresult
      · rw [hend] at hresult
        cases hresult
      · simpa [Dutiful, GuardMove.answer?, Event.isPoll, Event.report?, List.filterMap_cons,
          hpolls] using
          hawaits.answer hlisting
    · cases hresult
  | converge t job =>
    obtain ⟨hawaits, hpolls⟩ := hd
    rcases h.place.conclude_of_move? hg with ⟨answer, rfl, hresult⟩ | ⟨-, hresult⟩
    · rcases conclude_cases_guard t.job answer with
        ⟨_, -, hend⟩ | ⟨listing, rfl, ⟨hlisting, hend⟩ | ⟨-, hend⟩⟩
      · rw [hend] at hresult
        cases hresult
      · -- This listing has come to an end, and is reported on.
        rw [hend] at hresult
        cases hresult
        refine .inr ⟨_, (h.carries t rfl).1, answers, listing, ?_, hlisting, hawaits.1, ?_, ?_⟩
        · simp [GuardMove.answer?]
        · simp [GuardMove.answer?, Event.isPoll, hpolls]
        · simp [Event.report?, hawaits.2, report_eq t.job hlisting]
      · rw [hend] at hresult
        cases hresult
    · cases hresult
  | fail t job =>
    obtain ⟨hawaits, -⟩ := hd
    rcases h.place.conclude_of_move? hg with ⟨answer, rfl, hresult⟩ | ⟨-, hresult⟩
    · rcases conclude_cases_guard t.job answer with
        ⟨fault, rfl, -⟩ | ⟨listing, rfl, ⟨-, hend⟩ | ⟨-, hend⟩⟩
      · simpa [Dutiful, GuardMove.answer?, Event.isPoll, Event.report?, List.filterMap_cons] using
          .inl hawaits.fault
      · rw [hend] at hresult
        cases hresult
      · rw [hend] at hresult
        cases hresult
    · cases hresult
  | crash t job houtcome =>
    obtain ⟨hawaits, -⟩ := hd
    rcases h.place.conclude_of_move? hg with ⟨answer, rfl, rfl⟩ | ⟨rfl, rfl⟩
    · rcases conclude_cases_guard t.job answer with
        ⟨fault, rfl, hend⟩ | ⟨listing, rfl, ⟨-, hend⟩ | ⟨hlisting, -⟩⟩
      · rw [hend] at houtcome
        cases houtcome
      · rw [hend] at houtcome
        cases houtcome
      · -- The pause that should follow has no length, so the guard is lost.
        simpa [Dutiful, GuardMove.answer?, Event.isPoll, Event.report?, List.filterMap_cons] using
          .inl (hawaits.answer hlisting)
    · simpa [Dutiful, GuardMove.answer?, Event.isPoll, Event.report?, List.filterMap_cons] using
        .inl hawaits

/-! ## Every run -/

variable {moves : List GuardMove} {trace past : List (Nat × Event GuardJob)}

/-- A guard is on duty, and what was answered and reported fits the spot where it is. -/
structure Reporting (guards : List (String × String)) (p : Pool GuardJob) (serial : Nat)
    (answers : List (Except CloudFault (List ScaleSetInstance)))
    (past : List (Nat × Event GuardJob)) (spot : Spot GuardJob) : Prop where
  onDuty : p.OnDuty guards serial spot
  dutiful : Dutiful guards serial (startsOf serial past).length answers (reportsOf serial past) spot

theorem reportsOf_append :
    reportsOf serial (past ++ trace) = reportsOf serial past ++ reportsOf serial trace := by
  rw [reportsOf, List.filter_append, List.filterMap_append, reportsOf, reportsOf]

theorem reportsOf_move (now : Nat) :
    reportsOf serial (events.map fun e => (now, e)) =
      (eventsOf serial events).filterMap Event.report? := by
  simp [reportsOf, eventsOf, List.filter_map, List.filterMap_map, Function.comp_def]

theorem Reporting.step (h : p.Reporting guards serial answers past a) (hg : g.move? p = some m)
    (hstep : p.step m = some (q, events)) :
    ∃ b, q.Reporting (guards ++ p.added g) serial (answers ++ (g.answer? serial).toList)
      (past ++ events.map fun e => (p.now, e)) b := by
  obtain ⟨b, hb, himpact⟩ := h.onDuty.step hg hstep
  refine ⟨b, hb, ?_⟩
  rw [startsOf, timesOf_append, timesOf_move, ← startsOf, List.length_append, List.length_map,
    reportsOf_append, reportsOf_move]
  rcases himpact with ⟨hadvance, -⟩ | ⟨rfl, hevents, hm⟩
  · exact (advance_dutiful h.onDuty hadvance hg h.dutiful).append
  · -- The move has nothing to do with this guard, and so does not answer it.
    have hanswer : g.answer? serial = none := by
      refine answer?_eq_none hg fun result heq => hm ?_
      rw [heq]
      rfl
    rw [hevents, hanswer]
    simpa using h.dutiful.append

theorem run_reporting (hwatch : p.watch moves = some (q, trace))
    (h : p.Reporting guards serial answers past a) :
    ∃ b, q.Reporting (guards ++ if p.stopped then [] else requests moves) serial
      (answers ++ answersTo serial moves) (past ++ trace) b := by
  induction moves generalizing p trace guards answers past a with
  | nil =>
    cases hwatch
    exact ⟨a, by simpa [requests, answersTo] using h⟩
  | cons g moves ih =>
    obtain ⟨m, r, events, rest, hg, hstep, hrest, rfl⟩ := watch_cons_eq_some hwatch
    obtain ⟨b, hb⟩ := h.step hg hstep
    obtain ⟨c, hc⟩ := ih hrest hb
    have hanswers : answersTo serial (g :: moves) =
        (g.answer? serial).toList ++ answersTo serial moves := by
      rw [answersTo, List.filterMap_cons, answersTo]
      cases g.answer? serial <;> rfl
    refine ⟨c, ?_⟩
    rw [requests_cons hg hstep, hanswers]
    simpa only [List.append_assoc] using hc

/-- **How a guard reports**, given what was requested, how often it has begun to poll, and the
answers to its listings. -/
structure Reports (guards : List (String × String)) (serial polls : Nat)
    (answers : List (Except CloudFault (List ScaleSetInstance))) (reports : List HealthReport) :
    Prop where
  /-- If a listing has come to an end, it is the last one, and no poll begins after it.  There is
  one report, on this listing and on the scale set that was requested, and no instance of the
  listing is lost or doubled in it. -/
  once : ∀ listing, .ok listing ∈ answers → Ended listing → ∃ earlier guard,
    guards[serial]? = some guard ∧ answers = earlier ++ [.ok listing] ∧
      (∀ other, .ok other ∈ earlier → ¬Ended other) ∧ polls = answers.length ∧
      reports = [reportOn guard listing] ∧
      ((reportOn guard listing).succeeded ++ (reportOn guard listing).failed).Perm
        (listing.map (·.id))
  /-- If none has, there is no report. -/
  never : (∀ listing, .ok listing ∈ answers → ¬Ended listing) → reports = []

theorem reports_of_awaits (h : Awaits answers reports) :
    Reports guards serial polls answers reports :=
  ⟨fun listing hmem hended => absurd hended (h.1 listing hmem), fun _ => h.2⟩

theorem reports_of_dutiful {spot : Spot GuardJob}
    (h : Dutiful guards serial polls answers reports spot) :
    Reports guards serial polls answers reports := by
  cases spot with
  | unborn | arriving | entering | waiting | polling | resting => exact reports_of_awaits h.1
  | gone =>
    rcases h with hawaits | ⟨guard, hguard, earlier, last, rfl, hlast, hearlier, hpolls, hreports⟩
    · exact reports_of_awaits hawaits
    · refine ⟨fun listing hmem hended => ?_, fun hnone => ?_⟩
      · rcases List.mem_append.mp hmem with hbefore | hmem
        · exact absurd hended (hearlier listing hbefore)
        · cases List.mem_singleton.mp hmem
          exact ⟨earlier, guard, hguard, rfl, hearlier, hpolls, hreports,
            reportOn_perm guard hended⟩
      · exact absurd hlast (hnone last (List.mem_append_right _ List.mem_cons_self))

/-- **Every guard of a watchdog reports so**, whatever the scale sets, the answers to the listings
and the order of the moves, and whenever the watchdog is stopped. -/
theorem reports_of_watch {workers : Nat} {backoff : Backoff} {start : Pool GuardJob}
    {sleep : Nat → Nat} {now : Nat} (hstart : startPool workers backoff = .ok start)
    (hwatch : ({ start with sleep, now } : Pool GuardJob).watch moves = some (p, trace))
    (serial : Nat) :
    Reports (requests moves) serial (startsOf serial trace).length (answersTo serial moves)
      (reportsOf serial trace) := by
  have hfresh : ({ start with sleep, now } : Pool GuardJob).Reporting [] serial [] [] .unborn :=
    ⟨start_onDuty hstart sleep now serial, ⟨⟨nofun, rfl⟩, rfl, rfl⟩⟩
  obtain ⟨spot, hspot⟩ := run_reporting hwatch hfresh
  simpa [start_running hstart] using reports_of_dutiful hspot.dutiful

/-- Two guards, one of which lists an unknown state before all its instances have come to an end;
the listing of the other fails.  A third one, of the first scale set, is rejected in between, and
the watchdog is stopped while a fourth one is polled. -/
theorem reports_of_watch_of_stop :
    ∃ (start p : Pool GuardJob) (trace : List (Nat × Event GuardJob)) (moves : List GuardMove),
      startPool 2 (OperatorConfig.watchdogBackoff {}) = .ok start ∧
      ({ start with sleep := id, now := 0 } : Pool GuardJob).watch moves = some (p, trace) ∧
      requests moves = [("rg", "a-master"), ("rg", "a-worker"), ("rg", "a-master"), ("x/y", "b")] ∧
      reportsOf 0 trace = [⟨"rg", "a-master", ["1", "1"], ["0", "2"]⟩] ∧
      reportsOf 3 trace = [⟨"x/y", "b", [], []⟩] ∧
      ∀ serial, Reports (requests moves) serial (startsOf serial trace).length
        (answersTo serial moves) (reportsOf serial trace) := by
  let moves : List GuardMove :=
    [.request "rg" "a-master", .other (.register 0), .other (.enter 0), .request "rg" "a-worker",
      .other .receive, .other (.begin 0), .other (.register 1), .other (.enter 1), .other .receive,
      .other (.begin 1), .answer 0 (.ok [⟨"0", .failed⟩, ⟨"1", .other "odd"⟩]),
      .request "rg" "a-master", .other (.register 2), .answer 1 (.error { message := "gone" }),
      .other (.tick 5000), .other (.wake 0), .other .receive, .other (.begin 0),
      .answer 0 (.ok [⟨"0", .failed⟩, ⟨"1", .succeeded⟩, ⟨"2", .canceled⟩, ⟨"1", .succeeded⟩]),
      .request "x/y" "b", .other (.register 3), .other (.enter 3), .other .receive,
      .other (.begin 3), .other .stop, .request "rg" "a-worker", .answer 3 (.ok [])]
  have hstart : startPool 2 (OperatorConfig.watchdogBackoff {}) =
      .ok (Pool.start (J := GuardJob) 2 (OperatorConfig.watchdogBackoff {})) := rfl
  have hwatch : (({ Pool.start 2 (OperatorConfig.watchdogBackoff {}) with
      sleep := id, now := 0 } : Pool GuardJob).watch moves).map (fun r =>
        (reportsOf 0 r.2, reportsOf 3 r.2)) =
      some ([⟨"rg", "a-master", ["1", "1"], ["0", "2"]⟩], [⟨"x/y", "b", [], []⟩]) := by
    decide +kernel
  obtain ⟨⟨p, trace⟩, hp, hreports⟩ := Option.map_eq_some_iff.mp hwatch
  obtain ⟨hfirst, hlast⟩ := Prod.mk.inj hreports
  exact ⟨_, p, trace, moves, hstart, hp, rfl, hfirst, hlast, reports_of_watch hstart hp⟩

end Pool

end ClusterOperator.Watchdog
