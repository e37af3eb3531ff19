import ClusterOperator.Proofs.Deployment.Review
import ClusterOperator.Proofs.Pass.Readiness

/-!
# What a look at a deployment decides

A look at a deployment meets a **scene**: what the cloud answers about the deployment, the
template, and what two readings of the status tell.  Whatever it meets, it follows one table.
A deployment that is not found is submitted for the first time, if what is wanted can be
built; one that has ended is submitted again, if what is wanted can be built and is not what
is recorded; nothing else is ever submitted (`Orders`).

A scene says what would be answered, not what was asked, so the table also says that whatever
the decision depends on is asked for.  `ensureCreated_ruling` reads the four ways in which a look
can end off the program; the table (`decides_of_look`) is read off these.
-/

namespace ClusterOperator

/-- Whether a request submits a deployment. -/
def Gateway.Request.isSubmit : Gateway.Request → Bool
  | .submit _ _ _ => true
  | _ => false

/-- Whether a request is none of the two with which a look begins. -/
def Gateway.Request.isLater : Gateway.Request → Prop
  | .lookUp _ _ => False
  | .template _ => False
  | _ => True

/-- What a reading of a status was answered with. -/
def Exchange.reading? : Exchange gateway → Option (Except Failure Snapshot)
  | ⟨.loadStatus _, reply⟩ => some reply
  | _ => none

theorem Gateway.Request.isSubmit_of_isQuiet {q : Gateway.Request} (h : q.isQuiet = true) :
    q.isSubmit = false := by
  cases q with
  | submit => cases h
  | _ => rfl

theorem Gateway.Request.isSubmit_of_isUpdate {name : String} {q : Gateway.Request}
    (h : q.isUpdate name = true) : q.isSubmit = false := by
  cases q with
  | submit => cases h
  | _ => rfl

theorem Gateway.Request.isLater_of_isUpdate {name : String} {q : Gateway.Request}
    (h : q.isUpdate name = true) : q.isLater := by
  cases q with
  | lookUp | template => cases h
  | _ => trivial

namespace DeploymentOrchestrator

/-- **What a look at a deployment meets**, if it asks for it. -/
structure Scene where
  lookup : Except CloudFault DeploymentState
  template : Except Failure Json
  /-- The readings of the status that the two checksums are taken from. -/
  first : Except Failure Snapshot
  second : Except Failure Snapshot

/-- The exchanges are answered as the scene has it. -/
structure Scene.Answers (s : Scene) (xs : List (Exchange gateway)) : Prop where
  lookup : ∀ group name reply, ⟨.lookUp group name, reply⟩ ∈ xs → s.lookup = reply
  template : ∀ name reply, ⟨.template name, reply⟩ ∈ xs → s.template = reply
  readings : (xs.filterMap Exchange.reading?).take 2 <+: [s.first, s.second]

variable (o : DeploymentOrchestrator) (cluster : Cluster)

variable {o cluster}

/-- The scene of a review. -/
def Review.scene (v : Review o cluster) : Scene :=
  ⟨.ok v.observed, .ok v.template, .ok v.first, .ok v.second⟩

variable (o cluster)

/-- **The table**: in which scenes what is submitted, and whether for the first time. -/
def Orders (s : Scene) (d : Deployment) (initial : Bool) : Prop :=
  match s.lookup with
  | .error fault => fault.isNotFound = true ∧ o.built cluster s.template = .ok d ∧ initial = true
  | .ok _ => (∃ v : Review o cluster, s = v.scene ∧ ¬v.Unchanged ∧ v.wanted = d) ∧ initial = false

/-- A submission, what comes of it, and the context after it. -/
inductive Submits (d : Deployment) (initial : Bool) (ctx : PassContext) :
    List (Exchange gateway) → Except Failure DeploymentOutcome → PassContext → Prop where
  /-- The cloud refuses. -/
  | refused (fault : CloudFault) :
      Submits d initial ctx
        [⟨.submit cluster.resourceGroup d.name (d.request initial), .error fault⟩]
        (.error (fault.toFailure "deployments.create_or_update")) ctx
  /-- The cloud accepts, and the checksums cannot be recorded. -/
  | unrecorded {ys : List (Exchange gateway)} {e : Failure} :
      (o.recordChecksums cluster d).Transcript ys (.error e) →
      Submits d initial ctx
        (⟨.submit cluster.resourceGroup d.name (d.request initial), .ok ()⟩ :: ys) (.error e) ctx
  | recorded {ys : List (Exchange gateway)} {written : Bool} {reason : String} :
      (o.recordChecksums cluster d).Transcript ys (.ok written) →
      Submits d initial ctx
        (⟨.submit cluster.resourceGroup d.name (d.request initial), .ok ()⟩ :: ys)
        (.ok (.submitted initial)) (ctx.cancel reason)

/-- **The ways in which a look can end** in a scene. -/
inductive Ruling (s : Scene) (ctx : PassContext) :
    List (Exchange gateway) → Except Failure DeploymentOutcome → PassContext → Prop where
  /-- Something that is needed is not answered, or nothing can be built from it. -/
  | failed {xs : List (Exchange gateway)} {e : Failure} {after : PassContext} :
      (∀ d initial, ¬o.Orders cluster s d initial) → (∀ x ∈ xs, x.request.isQuiet = true) →
      after.isCanceled = ctx.isCanceled → Ruling s ctx xs (.error e) after
  /-- There is nothing to do but to wait. -/
  | waiting {xs : List (Exchange gateway)} {outcome : DeploymentOutcome} {after : PassContext} :
      (∀ d initial, ¬o.Orders cluster s d initial) → (∀ x ∈ xs, x.request.isQuiet = true) →
      outcome ≠ .upToDate → after.isCanceled = true → Ruling s ctx xs (.ok outcome) after
  /-- There is nothing to do. -/
  | upToDate (v : Review o cluster) {after : PassContext} :
      s = v.scene → v.Unchanged → v.observed.state = .succeeded →
      after.isCanceled = ctx.isCanceled → Ruling s ctx v.reads (.ok .upToDate) after
  | submitting (xs : List (Exchange gateway)) {ys : List (Exchange gateway)} {d : Deployment}
      {initial : Bool} {between : PassContext} {r : Except Failure DeploymentOutcome} {after : PassContext} :
      o.Orders cluster s d initial → (∀ x ∈ xs, x.request.isQuiet = true) →
      between.isCanceled = ctx.isCanceled → o.Submits cluster d initial between ys r after →
      Ruling s ctx (xs ++ ys) r after

variable {o cluster} {s : Scene} {ctx after : PassContext} {xs ys : List (Exchange gateway)}
  {r : Except Failure DeploymentOutcome} {d : Deployment} {initial : Bool}

/-! ## The table -/

theorem orders_of_fault {fault : CloudFault} (h : s.lookup = .error fault) :
    o.Orders cluster s d initial ↔
      fault.isNotFound = true ∧ o.built cluster s.template = .ok d ∧ initial = true := by
  rw [Orders, h]

theorem orders_of_found {observed : DeploymentState} (h : s.lookup = .ok observed) :
    o.Orders cluster s d initial ↔
      (∃ v : Review o cluster, s = v.scene ∧ ¬v.Unchanged ∧ v.wanted = d) ∧ initial = false := by
  rw [Orders, h]

theorem lookup_of_scene {v : Review o cluster} (h : s = v.scene) : s.lookup = .ok v.observed := by
  rw [h]
  rfl

/-- Only a deployment that has ended is reviewed. -/
theorem isFinal_of_scene {observed : DeploymentState} {v : Review o cluster}
    (h : s.lookup = .ok observed) (hv : s = v.scene) : observed.state.isFinal = true := by
  obtain rfl : observed = v.observed := Except.ok.inj (h.symm.trans (lookup_of_scene hv))
  exact v.ended

/-- Two reviews in one scene are the same. -/
theorem Review.scene_inj {v w : Review o cluster} (h : v.scene = w.scene) : v = w := by
  obtain ⟨observed, template, first, second, wanted, ended, made⟩ := v
  obtain ⟨observed', template', first', second', wanted', ended', made'⟩ := w
  simp only [Review.scene, Scene.mk.injEq, Except.ok.injEq] at h
  obtain ⟨rfl, rfl, rfl, rfl⟩ := h
  obtain rfl : wanted = wanted' := Except.ok.inj (made.symm.trans made')
  rfl

/-! ## What the exchanges tell of the scene -/

namespace Scene.Answers

theorem lookup_eq {group name : String} {reply : Except CloudFault DeploymentState}
    (h : s.Answers (⟨.lookUp group name, reply⟩ :: xs)) : s.lookup = reply :=
  h.lookup group name reply List.mem_cons_self

theorem template_eq {x : Exchange gateway} {name : String} {reply : Except Failure Json}
    (h : s.Answers (x :: ⟨.template name, reply⟩ :: xs)) : s.template = reply :=
  h.template name reply (List.mem_cons_of_mem _ List.mem_cons_self)

variable {group name file : String} {found : Except CloudFault DeploymentState}
  {template : Except Failure Json} {first second : Except Failure Snapshot}

theorem first_eq
    (h : s.Answers (⟨.lookUp group name, found⟩ :: ⟨.template file, template⟩ ::
      ⟨.loadStatus cluster.name, first⟩ :: xs)) : s.first = first :=
  (List.cons_prefix_cons.mp h.readings).1.symm

theorem second_eq
    (h : s.Answers (⟨.lookUp group name, found⟩ :: ⟨.template file, template⟩ ::
      ⟨.loadStatus cluster.name, first⟩ :: ⟨.loadStatus cluster.name, second⟩ :: xs)) :
    s.second = second :=
  (List.cons_prefix_cons.mp (List.cons_prefix_cons.mp h.readings).2).1.symm

/-- A scene in which a review is made is the scene of the review. -/
theorem eq_scene {v : Review o cluster} (h : s.Answers (v.reads ++ xs)) : s = v.scene := by
  obtain ⟨lookup, template, first, second⟩ := s
  obtain rfl := h.lookup_eq
  obtain rfl := h.template_eq
  obtain rfl := h.first_eq
  obtain rfl := h.second_eq
  rfl

/-- Where a review is stuck, there is none to be made. -/
theorem ne_scene {observed : DeploymentState} {e : Failure} (stuck : o.Stuck cluster xs e)
    (h : s.Answers (⟨.lookUp group name, .ok observed⟩ :: xs)) (v : Review o cluster) :
    s ≠ v.scene := by
  rintro rfl
  cases stuck with
  | unbuilt reply unbuilt =>
    obtain rfl := h.template_eq
    exact nomatch unbuilt.symm.trans v.made
  | unread => exact nomatch h.first_eq
  | halfRead => exact nomatch h.second_eq

end Scene.Answers

/-! ## Every look has a scene -/

/-- What stands in a scene for an answer that nothing asks for. -/
def unasked {α : Type} : Except Failure α := .error (.invalid "not asked")

/-- What is asked later than the lookup and the template does not tell of these. -/
theorem exists_scene_of_later {group name file : String}
    {found : Except CloudFault DeploymentState} {template : Except Failure Json}
    (later : ∀ x ∈ xs, x.request.isLater) :
    ∃ s : Scene, s.Answers (⟨.lookUp group name, found⟩ :: ⟨.template file, template⟩ :: xs) := by
  have hread : ∃ first second, (xs.filterMap Exchange.reading?).take 2 <+: [first, second] := by
    rcases xs.filterMap Exchange.reading? with _ | ⟨first, _ | ⟨second, rest⟩⟩
    · exact ⟨unasked, unasked, List.nil_prefix⟩
    · exact ⟨first, unasked, [_], rfl⟩
    · exact ⟨first, second, List.prefix_rfl⟩
  obtain ⟨first, second, hread⟩ := hread
  refine ⟨⟨found, template, first, second⟩, ?_, ?_, hread⟩
  · intro group' name' reply hx
    rcases List.mem_cons.mp hx with heq | hx
    · cases heq; rfl
    rcases List.mem_cons.mp hx with heq | hx
    · cases heq
    · exact (later _ hx).elim
  · intro file' reply hx
    rcases List.mem_cons.mp hx with heq | hx
    · cases heq
    rcases List.mem_cons.mp hx with heq | hx
    · cases heq; rfl
    · exact (later _ hx).elim

theorem exists_scene_of_lookup {group name : String} {found : Except CloudFault DeploymentState} :
    ∃ s : Scene, s.Answers [⟨.lookUp group name, found⟩] := by
  refine ⟨⟨found, unasked, unasked, unasked⟩, ?_, ?_, List.nil_prefix⟩
  · intro group' name' reply hx
    cases List.mem_singleton.mp hx
    rfl
  · intro file reply hx
    cases List.mem_singleton.mp hx

theorem later_recorded {condition : String} :
    (o.recorded cluster condition).Asks Gateway.Request.isLater := by
  intro xs r h
  obtain ⟨reply, rfl, -⟩ := recorded_transcript_iff.mp h
  exact List.forall_mem_singleton.mpr trivial

theorem later_submit : (o.submit cluster d initial).Asks Gateway.Request.isLater := by
  intro xs r h
  rcases submit_transcript_iff.mp h with ⟨fault, rfl, -⟩ | ⟨ys, written, rfl, hwritten, -⟩
  · exact List.forall_mem_singleton.mpr trivial
  · exact List.forall_mem_cons.mpr ⟨trivial, fun x hx =>
      Gateway.Request.isLater_of_isUpdate (StatusStore.update_requests hwritten x hx)⟩

theorem later_settle {state : ProvisioningState} :
    (o.settle cluster state).Asks Gateway.Request.isLater := by
  rw [settle]
  split
  · exact .bind (.cancel _) fun _ => .pure _
  · exact .pure _

theorem later_resubmit : (o.resubmit cluster d).Asks Gateway.Request.isLater :=
  .bind (.tryLift later_submit) fun _ => .bind (.cancel _) fun _ => .pure _

/-- **Every look has a scene**: what it asks twice, if anything, is the status. -/
theorem exists_scene (h : (o.ensureCreated cluster).Transcript ctx xs r after) :
    ∃ s : Scene, s.Answers xs := by
  -- What follows the lookup is the template with later requests, or nothing.
  have goesOn : ∀ {α : Type} {f : Deployment → Step gateway α} {before ys r'} {reply},
      (∀ d, (f d).Asks Gateway.Request.isLater) →
      ((Step.tryLift (o.desired cluster)).bind f).Transcript before ys r' after →
      ∃ s : Scene, s.Answers
        (⟨.lookUp cluster.resourceGroup (o.deploymentName cluster), reply⟩ :: ys) := by
    intro α f before ys r' reply later h
    rcases Step.transcript_tryLift_bind_iff.mp h with
      ⟨e, hdesired, -, -⟩ | ⟨d, ys, zs, rfl, hdesired, hrest⟩
    · obtain ⟨template, rfl, -⟩ := desired_transcript_iff.mp hdesired
      exact exists_scene_of_later (List.forall_mem_nil _)
    · obtain ⟨template, rfl, -⟩ := desired_transcript_iff.mp hdesired
      exact exists_scene_of_later (later d before zs _ hrest)
  obtain ⟨reply, ys, rfl, hrest⟩ := Step.transcript_ask_bind_iff.mp h
  cases reply with
  | error fault =>
    dsimp only at hrest
    split at hrest
    · exact goesOn (fun d => .bind (.tryLift later_submit) fun _ =>
        .bind (.cancel _) fun _ => .pure _) hrest
    · obtain ⟨rfl, -, -⟩ := Step.transcript_fail_iff.mp hrest
      exact exists_scene_of_lookup
  | ok observed =>
    dsimp only at hrest
    split at hrest
    · refine goesOn (fun d => .bind (.tryLift later_recorded) fun _ =>
        .bind (.tryLift later_recorded) fun _ => ?_) hrest
      split
      · exact later_settle
      · exact later_resubmit
    · simp only [await, Step.bind_eq_bind, Step.transcript_cancel_bind_iff,
        Step.transcript_pure_iff] at hrest
      obtain ⟨rfl, -, -⟩ := hrest
      exact exists_scene_of_lookup

/-! ## The ways in which a look can end -/

/-- A submission goes as it can, and what it ends with is waited for. -/
theorem submits_of_transcript {reason : String}
    (h : ((Step.tryLift (o.submit cluster d initial)).bind fun _ =>
      (Step.cancel reason).bind fun _ =>
        pure (.submitted initial)).Transcript ctx ys r after) :
    o.Submits cluster d initial ctx ys r after := by
  rcases Step.transcript_tryLift_bind_iff.mp h with
    ⟨e, hsubmit, rfl, rfl⟩ | ⟨_, zs, ws, rfl, hsubmit, hrest⟩
  · rcases submit_transcript_iff.mp hsubmit with
      ⟨fault, rfl, he⟩ | ⟨ys, written, rfl, hwritten, he⟩
    · cases he
      exact .refused fault
    · cases written with
      | error => cases he; exact .unrecorded hwritten
      | ok => cases he
  · simp only [Step.transcript_cancel_bind_iff, Step.transcript_pure_iff] at hrest
    obtain ⟨rfl, rfl, rfl⟩ := hrest
    rcases submit_transcript_iff.mp hsubmit with
      ⟨_, -, he⟩ | ⟨ys, written, rfl, hwritten, he⟩
    · cases he
    · cases written with
      | error => cases he
      | ok => rw [List.append_nil]; exact .recorded hwritten

/-- A deployment that is not found is submitted, if what is wanted can be built. -/
theorem ruling_of_create {fault : CloudFault} {group name : String}
    (missing : fault.isNotFound = true) (h : (o.create cluster).Transcript ctx xs r after)
    (hs : s.Answers (⟨.lookUp group name, .error fault⟩ :: xs)) :
    o.Ruling cluster s ctx (⟨.lookUp group name, .error fault⟩ :: xs) r after := by
  simp only [create, Step.bind_eq_bind] at h
  rcases Step.transcript_tryLift_bind_iff.mp h with
    ⟨e, hdesired, rfl, rfl⟩ | ⟨d, ys, zs, rfl, hdesired, hrest⟩
  · obtain ⟨reply, rfl, unbuilt⟩ := desired_transcript_iff.mp hdesired
    refine .failed (fun d initial orders => ?_) (by simp) rfl
    obtain ⟨-, built, -⟩ := (orders_of_fault hs.lookup_eq).mp orders
    rw [hs.template_eq] at built
    cases unbuilt.trans built
  · obtain ⟨reply, rfl, built⟩ := desired_transcript_iff.mp hdesired
    refine .submitting [_, _] ((orders_of_fault hs.lookup_eq).mpr ⟨missing, ?_, rfl⟩) (by simp)
      rfl (submits_of_transcript hrest)
    rw [hs.template_eq]
    exact built.symm

/-- A deployment that has ended is submitted again, if what is wanted can be built and is not
what is recorded. -/
theorem ruling_of_review {observed : DeploymentState} (ended : observed.state.isFinal = true)
    (h : (o.review cluster observed).Transcript ctx xs r after)
    (hs : s.Answers
      (⟨.lookUp cluster.resourceGroup (o.deploymentName cluster), .ok observed⟩ :: xs)) :
    o.Ruling cluster s ctx
      (⟨.lookUp cluster.resourceGroup (o.deploymentName cluster), .ok observed⟩ :: xs) r after := by
  rcases review_cases h with
    ⟨e, stuck, rfl, rfl⟩ | ⟨d, template, first, second, rest, made, rfl, hrest⟩
  · refine .failed (fun d initial orders => ?_) (List.forall_mem_cons.mpr ⟨rfl, stuck.quiet⟩)
      isCanceled_publish
    obtain ⟨⟨v, hv, -⟩, -⟩ := (orders_of_found hs.lookup_eq).mp orders
    exact hs.ne_scene stuck v hv
  -- Everything has been read; what follows depends on the comparison alone.
  let v : Review o cluster := ⟨observed, template, first, second, d, ended, made⟩
  have hv : s = v.scene := Scene.Answers.eq_scene (v := v) hs
  split at hrest
  · rename_i unchanged
    have unchanged : v.Unchanged := Prod.ext unchanged.1 unchanged.2
    have idle : ∀ d initial, ¬o.Orders cluster s d initial := by
      intro d initial orders
      obtain ⟨⟨w, hw, changed, -⟩, -⟩ := (orders_of_found hs.lookup_eq).mp orders
      exact changed (Review.scene_inj (hv.symm.trans hw) ▸ unchanged)
    rw [settle] at hrest
    split at hrest
    · simp only [Step.bind_eq_bind, Step.transcript_cancel_bind_iff,
        Step.transcript_pure_iff] at hrest
      obtain ⟨rfl, rfl, rfl⟩ := hrest
      exact .waiting idle (by simp) (by simp) PassContext.isCanceled_cancel
    · rename_i failed
      obtain ⟨rfl, rfl, rfl⟩ := Step.transcript_pure_iff.mp hrest
      have succeeded := ProvisioningState.eq_succeeded ended (Bool.eq_false_iff.mpr failed)
      exact .upToDate v hv unchanged succeeded isCanceled_publish
  · rename_i changed
    refine .submitting v.reads ((orders_of_found hs.lookup_eq).mpr
      ⟨⟨v, hv, fun unchanged => changed (Prod.mk.inj unchanged), rfl⟩, rfl⟩) ?_
      isCanceled_publish (submits_of_transcript hrest)
    simp [v, Review.reads]

/-- **Every look ends in one of these ways.** -/
theorem ensureCreated_ruling (h : (o.ensureCreated cluster).Transcript ctx xs r after)
    (hs : s.Answers xs) : o.Ruling cluster s ctx xs r after := by
  obtain ⟨reply, ys, rfl, hrest⟩ := Step.transcript_ask_bind_iff.mp h
  cases reply with
  | error fault =>
    dsimp only at hrest
    split at hrest
    · rename_i missing
      exact ruling_of_create missing hrest hs
    · rename_i answered
      obtain ⟨rfl, rfl, rfl⟩ := Step.transcript_fail_iff.mp hrest
      refine .failed (fun d initial orders => ?_) (by simp) rfl
      exact answered ((orders_of_fault hs.lookup_eq).mp orders).1
  | ok observed =>
    dsimp only at hrest
    split at hrest
    · rename_i ended
      exact ruling_of_review ended hrest hs
    · rename_i unfinished
      simp only [await, Step.bind_eq_bind, Step.transcript_cancel_bind_iff,
        Step.transcript_pure_iff] at hrest
      obtain ⟨rfl, rfl, rfl⟩ := hrest
      refine .waiting (fun d initial orders => ?_) (by simp) (by simp) PassContext.isCanceled_cancel
      obtain ⟨⟨v, hv, -⟩, -⟩ := (orders_of_found hs.lookup_eq).mp orders
      exact unfinished (isFinal_of_scene hs.lookup_eq hv)

/-! ## What is submitted -/

/-- The submissions among the exchanges. -/
def submissions (xs : List (Exchange gateway)) : List Gateway.Request :=
  (xs.map (·.request)).filter Gateway.Request.isSubmit

/-- The request that submits a deployment. -/
def submission (cluster : Cluster) (d : Deployment) (initial : Bool) : Gateway.Request :=
  .submit cluster.resourceGroup d.name (d.request initial)

theorem submissions_append :
    submissions (xs ++ ys) = submissions xs ++ submissions ys := by
  rw [submissions, List.map_append, List.filter_append]
  rfl

theorem submissions_of_quiet (quiet : ∀ x ∈ xs, x.request.isQuiet = true) :
    submissions xs = [] := by
  rw [submissions, List.filter_eq_nil_iff, List.forall_mem_map]
  exact fun x hx => Bool.eq_false_iff.mp (Gateway.Request.isSubmit_of_isQuiet (quiet x hx))

theorem submissions_recordChecksums {written : Except Failure Bool}
    (h : (o.recordChecksums cluster d).Transcript xs written) : submissions xs = [] := by
  rw [submissions, List.filter_eq_nil_iff, List.forall_mem_map]
  exact fun x hx => Bool.eq_false_iff.mp
    (Gateway.Request.isSubmit_of_isUpdate (StatusStore.update_requests h x hx))

/-- A submission is made once, whatever comes of it. -/
theorem Submits.submissions_eq (h : o.Submits cluster d initial ctx ys r after) :
    submissions ys = [submission cluster d initial] := by
  cases h with
  | refused fault => rfl
  | unrecorded hys => exact congrArg _ (submissions_recordChecksums hys)
  | recorded hys => exact congrArg _ (submissions_recordChecksums hys)

/-- **What a look submits is what the table orders**, once; or nothing. -/
theorem Ruling.submissions_cases (h : o.Ruling cluster s ctx xs r after) :
    (submissions xs = [] ∧ ∀ d initial, ¬o.Orders cluster s d initial) ∨
      ∃ d initial, submissions xs = [submission cluster d initial] ∧
        o.Orders cluster s d initial := by
  cases h with
  | failed idle quiet => exact .inl ⟨submissions_of_quiet quiet, idle⟩
  | waiting idle quiet => exact .inl ⟨submissions_of_quiet quiet, idle⟩
  | upToDate v hv unchanged =>
    refine .inl ⟨submissions_of_quiet (by simp [Review.reads]), fun d initial orders => ?_⟩
    obtain ⟨⟨w, hw, changed, -⟩, -⟩ := (orders_of_found (lookup_of_scene hv)).mp orders
    exact changed (Review.scene_inj (hv.symm.trans hw) ▸ unchanged)
  | submitting _ orders quiet _ hsubmits =>
    refine .inr ⟨_, _, ?_, orders⟩
    rw [submissions_append, submissions_of_quiet quiet, hsubmits.submissions_eq]
    rfl

theorem Ruling.submits_iff (h : o.Ruling cluster s ctx xs r after) :
    submissions xs ≠ [] ↔ ∃ d initial, o.Orders cluster s d initial := by
  rcases h.submissions_cases with ⟨hnone, idle⟩ | ⟨d, initial, hone, orders⟩
  · exact ⟨fun h => absurd hnone h, fun ⟨d, initial, orders⟩ => absurd orders (idle d initial)⟩
  · exact ⟨fun _ => ⟨d, initial, orders⟩, fun _ => by rw [hone]; exact List.cons_ne_nil _ _⟩

theorem Ruling.orders_of_mem (h : o.Ruling cluster s ctx xs r after) {q : Gateway.Request}
    (hq : q ∈ submissions xs) :
    ∃ d initial, o.Orders cluster s d initial ∧ q = submission cluster d initial := by
  rcases h.submissions_cases with ⟨hnone, -⟩ | ⟨d, initial, hone, orders⟩
  · rw [hnone] at hq
    cases hq
  · rw [hone] at hq
    exact ⟨d, initial, orders, List.mem_singleton.mp hq⟩

/-! ## What a look leaves behind -/

/-- What is waited for cancels the rest of the pass. -/
theorem Ruling.isCanceled_iff (h : o.Ruling cluster s ctx xs r after)
    (fresh : ctx.isCanceled = false) {outcome : DeploymentOutcome} (hr : r = .ok outcome) :
    after.isCanceled = true ↔ outcome ≠ .upToDate := by
  cases h with
  | failed => cases hr
  | waiting _ _ waits canceled =>
    cases hr
    exact iff_of_true canceled waits
  | upToDate _ _ _ _ hafter =>
    cases hr
    rw [hafter, fresh]
    simp
  | submitting _ _ _ _ hsubmits =>
    cases hsubmits with
    | refused | unrecorded => cases hr
    | recorded =>
      cases hr
      exact iff_of_true PassContext.isCanceled_cancel nofun

/-- A failure does not cancel anything. -/
theorem Ruling.isCanceled_of_error (h : o.Ruling cluster s ctx xs r after) {e : Failure}
    (hr : r = .error e) : after.isCanceled = ctx.isCanceled := by
  cases h with
  | failed _ _ hafter => exact hafter
  | waiting | upToDate => cases hr
  | submitting _ _ _ hbetween hsubmits =>
    cases hsubmits with
    | refused | unrecorded => exact hbetween
    | recorded => cases hr

/-- What is up to date was reviewed, has succeeded, and is what is recorded. -/
theorem Ruling.of_upToDate (h : o.Ruling cluster s ctx xs r after) (hr : r = .ok .upToDate) :
    ∃ v : Review o cluster, s = v.scene ∧ v.observed.state = .succeeded ∧ v.Unchanged := by
  cases h with
  | failed => cases hr
  | waiting _ _ waits => cases hr; exact absurd rfl waits
  | upToDate v hv unchanged succeeded => exact ⟨v, hv, succeeded, unchanged⟩
  | submitting _ _ _ _ hsubmits => cases hsubmits <;> cases hr

/-- **What a look at a deployment decides**, by what it meets. -/
structure Decides (o : DeploymentOrchestrator) (cluster : Cluster) (s : Scene) (ctx : PassContext)
    (xs : List (Exchange gateway)) (r : Except Failure DeploymentOutcome) (after : PassContext) :
    Prop where
  once : (submissions xs).length ≤ 1
  /-- What is not found is submitted for the first time, if what is wanted can be built. -/
  missing : ∀ fault, s.lookup = .error fault → fault.isNotFound = true →
    (submissions xs ≠ [] ↔ ∃ d, o.built cluster s.template = .ok d) ∧
      ∀ q ∈ submissions xs, ∃ d, o.built cluster s.template = .ok d ∧ q = submission cluster d true
  /-- Any other fault is passed on, with its status code; nothing else is asked. -/
  unanswered : ∀ fault, s.lookup = .error fault → fault.isNotFound = false →
    xs = [⟨.lookUp cluster.resourceGroup (o.deploymentName cluster), .error fault⟩] ∧
      r = .error (.cloud "deployments.get" fault.describe fault.statusCode) ∧ after = ctx
  /-- What has not ended is waited for; nothing else is asked or published. -/
  unfinished : ∀ observed, s.lookup = .ok observed → observed.state.isFinal = false →
    xs = [⟨.lookUp cluster.resourceGroup (o.deploymentName cluster), .ok observed⟩] ∧
      r = .ok (.inProgress observed.state) ∧
      after = ctx.cancel s!"deployment {o.deploymentName cluster} is {observed.state.toText}"
  /-- What has ended is submitted again, if what is wanted can be built, both checksums can be
  read, and they are not those of what is wanted. -/
  ended : ∀ observed, s.lookup = .ok observed → observed.state.isFinal = true →
    (submissions xs ≠ [] ↔ ∃ v : Review o cluster, s = v.scene ∧ ¬v.Unchanged) ∧
      ∀ q ∈ submissions xs, ∃ v : Review o cluster, s = v.scene ∧
        q = submission cluster v.wanted false
  canceled_iff : ∀ outcome, r = .ok outcome → (after.isCanceled = true ↔ outcome ≠ .upToDate)
  upToDate : r = .ok .upToDate →
    ∃ v : Review o cluster, s = v.scene ∧ v.observed.state = .succeeded ∧ v.Unchanged
  failure : ∀ e, r = .error e → after.isCanceled = false

/-- A fault that is no absence is passed on. -/
theorem unanswered_of_fault (h : (o.ensureCreated cluster).Transcript ctx xs r after)
    (hs : s.Answers xs) {fault : CloudFault} (hlookup : s.lookup = .error fault)
    (answered : fault.isNotFound = false) :
    xs = [⟨.lookUp cluster.resourceGroup (o.deploymentName cluster), .error fault⟩] ∧
      r = .error (.cloud "deployments.get" fault.describe fault.statusCode) ∧ after = ctx := by
  obtain ⟨reply, ys, rfl, hrest⟩ := Step.transcript_ask_bind_iff.mp h
  obtain rfl : Except.error fault = reply := hlookup.symm.trans hs.lookup_eq
  dsimp only at hrest
  rw [if_neg (by simp [answered])] at hrest
  obtain ⟨rfl, rfl, rfl⟩ := Step.transcript_fail_iff.mp hrest
  exact ⟨rfl, rfl, rfl⟩

/-- What has not ended is waited for. -/
theorem unfinished_of_found (h : (o.ensureCreated cluster).Transcript ctx xs r after)
    (hs : s.Answers xs) {observed : DeploymentState} (hlookup : s.lookup = .ok observed)
    (unfinished : observed.state.isFinal = false) :
    xs = [⟨.lookUp cluster.resourceGroup (o.deploymentName cluster), .ok observed⟩] ∧
      r = .ok (.inProgress observed.state) ∧
      after = ctx.cancel s!"deployment {o.deploymentName cluster} is {observed.state.toText}" := by
  obtain ⟨reply, ys, rfl, hrest⟩ := Step.transcript_ask_bind_iff.mp h
  obtain rfl : Except.ok observed = reply := hlookup.symm.trans hs.lookup_eq
  dsimp only at hrest
  rw [if_neg (by simp [unfinished])] at hrest
  simp only [await, Step.bind_eq_bind, Step.transcript_cancel_bind_iff,
    Step.transcript_pure_iff] at hrest
  obtain ⟨rfl, rfl, rfl⟩ := hrest
  exact ⟨rfl, rfl, rfl⟩

/-- What a look decides follows from how it ends. -/
theorem Ruling.decides (ruling : o.Ruling cluster s ctx xs r after)
    (fresh : ctx.isCanceled = false) (h : (o.ensureCreated cluster).Transcript ctx xs r after)
    (hs : s.Answers xs) : Decides o cluster s ctx xs r after := by
  refine
    { once := ?once, missing := ?missing, ended := ?ended,
      unanswered := fun _ => unanswered_of_fault h hs,
      unfinished := fun _ => unfinished_of_found h hs,
      canceled_iff := fun _ => ruling.isCanceled_iff fresh,
      upToDate := ruling.of_upToDate,
      failure := fun _ hr => (ruling.isCanceled_of_error hr).trans fresh }
  case once =>
    rcases ruling.submissions_cases with ⟨hnone, -⟩ | ⟨d, initial, hone, -⟩
    · simp [hnone]
    · simp [hone]
  case missing =>
    intro fault hlookup hmissing
    simp only [ruling.submits_iff, orders_of_fault hlookup]
    refine ⟨by simp [hmissing], fun q hq => ?_⟩
    obtain ⟨d, initial, orders, rfl⟩ := ruling.orders_of_mem hq
    obtain ⟨-, built, rfl⟩ := (orders_of_fault hlookup).mp orders
    exact ⟨d, built, rfl⟩
  case ended =>
    intro observed hlookup _
    simp only [ruling.submits_iff, orders_of_found hlookup]
    refine ⟨by simp, fun q hq => ?_⟩
    obtain ⟨d, initial, orders, rfl⟩ := ruling.orders_of_mem hq
    obtain ⟨⟨v, hv, -, rfl⟩, rfl⟩ := (orders_of_found hlookup).mp orders
    exact ⟨v, hv, rfl⟩

/-- **Every look at a deployment decides by the table**: it has a scene, and in any scene that
answers its requests it does what the table says. -/
theorem decides_of_look (fresh : ctx.isCanceled = false)
    (h : (o.ensureCreated cluster).Transcript ctx xs r after) :
    (∃ s : Scene, s.Answers xs) ∧ ∀ s : Scene, s.Answers xs → Decides o cluster s ctx xs r after :=
  ⟨exists_scene h, fun _ hs => (ensureCreated_ruling h hs).decides fresh h hs⟩

/-! ## A look that is refused -/

namespace FirstLook

/-- The cloud has no deployment, and whoever submits one is told to wait. -/
def missing : CloudFault := .notFound "DeploymentNotFound" "no deployment"

def busy : CloudFault := .withStatus 429 "TooManyRequests" "slow down"

/-- What is asked while a deployment is wanted. -/
def exchanges (d : Deployment) : List (Exchange gateway) :=
  [⟨.lookUp production.resourceGroup (deploymentName {} production), .error missing⟩,
    ⟨.template (MainDeployment.definition {}).templateName, .ok .null⟩,
    ⟨.submit production.resourceGroup d.name (d.request true), .error busy⟩]

theorem transcript {d : Deployment} (built : built {} production (.ok .null) = .ok d) :
    (ensureCreated {} production).Transcript {} (exchanges d)
      (.error (busy.toFailure "deployments.create_or_update")) {} := by
  refine Step.transcript_ask_bind_iff.mpr ⟨.error missing, _, rfl, ?_⟩
  dsimp only
  rw [if_pos (by decide)]
  simp only [create, Step.bind_eq_bind]
  refine (Step.transcript_tryLift_cons_iff desired_transcript_iff built).mpr ?_
  exact Step.transcript_tryLift_bind_iff.mpr
    (.inl ⟨_, submit_transcript_iff.mpr (.inl ⟨busy, rfl, rfl⟩), rfl, rfl⟩)

end FirstLook

/-- What is decided where the first submission of a cluster is refused. -/
theorem decides_of_look_of_refusal :
    ∃ d, built {} production (.ok .null) = .ok d ∧
      ∀ s : Scene, s.Answers (FirstLook.exchanges d) →
        Decides {} production s {} (FirstLook.exchanges d)
          (.error (FirstLook.busy.toFailure "deployments.create_or_update")) {} := by
  obtain ⟨parameters, hparameters⟩ := exists_parameters_production
  refine ⟨assemble {} production .null parameters, ?_, ?_⟩
  · exact congrArg (Except.map _) hparameters
  · exact (decides_of_look rfl
      (FirstLook.transcript (congrArg (Except.map _) hparameters))).2

end DeploymentOrchestrator

end ClusterOperator
