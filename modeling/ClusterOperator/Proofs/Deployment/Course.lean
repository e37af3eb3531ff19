import ClusterOperator.Deployment.Orchestrator
import ClusterOperator.Proofs.Pass.Context
import ClusterOperator.Proofs.Status.Conditions
import ClusterOperator.Proofs.Status.Update

/-!
# The courses a look at a deployment can take

What the orchestrator asks and what it answers, read off its program once and for all.
A pass ends quietly, with nothing submitted and nothing written; finds the deployment up
to date; submits in vain; or submits what the cloud accepts, and goes on to record the
checksums.  `ensureCreated_course` says that there is no other way.

A pass asks for the template at most once, so what it wants deployed can be read off its
exchanges (`desiredIn`).
-/

namespace ClusterOperator

namespace Gateway.Request

/-- Whether a request leaves deployments and statuses as they are. -/
def isQuiet : Gateway.Request → Bool
  | .submit _ _ _ => false
  | .storeStatus _ _ _ => false
  | _ => true

theorem isStore_of_isQuiet {q : Gateway.Request} (h : q.isQuiet = true) : q.isStore = false := by
  cases q with
  | storeStatus => cases h
  | _ => rfl

@[simp] theorem isQuiet_lookUp {resourceGroup name : String} :
    isQuiet (.lookUp resourceGroup name) = true := rfl

@[simp] theorem isQuiet_template {name : String} : isQuiet (.template name) = true := rfl

@[simp] theorem isQuiet_loadStatus {name : String} : isQuiet (.loadStatus name) = true := rfl

end Gateway.Request

namespace Exchange

/-- The template that was read. -/
def template? : Exchange gateway → Option Json
  | ⟨.template _, .ok template⟩ => some template
  | _ => none

/-- Whether this is a submission that the cloud accepted. -/
def isAccepted : Exchange gateway → Bool
  | ⟨.submit _ _ _, .ok _⟩ => true
  | _ => false

theorem isAccepted_of_isQuiet {x : Exchange gateway} (h : x.request.isQuiet = true) :
    x.isAccepted = false := by
  obtain ⟨request, reply⟩ := x
  cases request with
  | submit => cases h
  | _ => rfl

theorem isAccepted_of_isUpdate {name : String} {x : Exchange gateway}
    (h : x.request.isUpdate name = true) : x.isAccepted = false := by
  obtain ⟨request, reply⟩ := x
  cases request with
  | submit => cases h
  | _ => rfl

end Exchange

namespace DeploymentOrchestrator

variable (o : DeploymentOrchestrator) (cluster : Cluster)

/-- The deployment that was wanted in a pass with these exchanges. -/
def desiredIn (xs : List (Exchange gateway)) : Option Deployment :=
  (xs.findSome? Exchange.template?).bind fun template =>
    ((o.definition.parameters cluster).map (o.assemble cluster template)).toOption

/-- What is wanted, as far as it can be built from what the template source answers. -/
def built (template : Except Failure Json) : Except Failure Deployment :=
  template.bind fun t => (o.definition.parameters cluster).map (o.assemble cluster t)

/-- The write of the checksums of a deployment. -/
def recordChecksums (d : Deployment) : Program gateway (Except Failure Bool) :=
  gatewayStore.setConditions cluster.name o.statusRetry d.name (conditionsOf d)

/-- **The courses of a pass**: its exchanges, its result, and the context it leaves. -/
inductive Course (ctx : PassContext) :
    List (Exchange gateway) → Except Failure DeploymentOutcome → PassContext → Prop where
  /-- Nothing is submitted; what is not a failure is waited for. -/
  | quiet (xs : List (Exchange gateway)) (r : Except Failure DeploymentOutcome)
      (after : PassContext) :
      (∀ x ∈ xs, x.request.isQuiet = true) →
      (∀ outcome, r = .ok outcome → (∀ initial, outcome ≠ .submitted initial) ∧
        outcome ≠ .upToDate ∧ after.isCanceled = true) →
      Course ctx xs r after
  /-- The deployment succeeded with the content that is wanted. -/
  | upToDate (d : Deployment) (observed : DeploymentState) (template : Json)
      (first second : Snapshot) :
      observed.state.isFinal = true → observed.state.isFailure = false →
      (o.definition.parameters cluster).map (o.assemble cluster template) = .ok d →
      first.status.condition? d.name templateCondition = some d.templateChecksum →
      second.status.condition? d.name parametersCondition = some d.parametersChecksum →
      Course ctx
        [⟨.lookUp cluster.resourceGroup d.name, .ok observed⟩,
          ⟨.template o.definition.templateName, .ok template⟩,
          ⟨.loadStatus cluster.name, .ok first⟩, ⟨.loadStatus cluster.name, .ok second⟩]
        (.ok .upToDate) (publish o.definition.outputs observed.outputs ctx)
  /-- The cloud refuses a submission. -/
  | refused (d : Deployment) (initial : Bool) (xs : List (Exchange gateway)) (fault : CloudFault)
      (e : Failure) (after : PassContext) :
      (∀ x ∈ xs, x.request.isQuiet = true) → o.desiredIn cluster xs = some d →
      Course ctx
        (xs ++ [⟨.submit cluster.resourceGroup d.name (d.request initial), .error fault⟩])
        (.error e) after
  /-- The cloud accepts a submission. -/
  | accepted (d : Deployment) (initial : Bool) (xs ys : List (Exchange gateway))
      (written : Except Failure Bool) (after : PassContext) :
      (∀ x ∈ xs, x.request.isQuiet = true) → o.desiredIn cluster xs = some d →
      (o.recordChecksums cluster d).Transcript ys written →
      (∀ w, written = .ok w → after.isCanceled = true) →
      Course ctx
        (xs ++ ⟨.submit cluster.resourceGroup d.name (d.request initial), .ok ()⟩ :: ys)
        (written.map fun _ => .submitted initial) after

variable {o cluster} {ctx after : PassContext} {xs ys : List (Exchange gateway)}
  {r : Except Failure DeploymentOutcome} {d : Deployment}

/-! ## What the parts of a pass ask -/

theorem desired_transcript_iff {r : Except Failure Deployment} :
    (o.desired cluster).Transcript xs r ↔
      ∃ reply, xs = [⟨.template o.definition.templateName, reply⟩] ∧
        r = reply.bind fun template =>
          (o.definition.parameters cluster).map (o.assemble cluster template) := by
  constructor
  · intro h
    obtain ⟨reply, ys, rfl, hrest⟩ := Program.transcript_call_bind_iff.mp h
    cases reply with
    | error e =>
      obtain ⟨rfl, rfl⟩ := Program.transcript_done_iff.mp hrest
      exact ⟨.error e, rfl, rfl⟩
    | ok template =>
      obtain ⟨rfl, rfl⟩ := Program.transcript_done_iff.mp hrest
      exact ⟨.ok template, rfl, rfl⟩
  · rintro ⟨reply, rfl, rfl⟩
    cases reply <;> exact Program.transcript_call_bind_iff.mpr ⟨_, [], rfl, .done _⟩

/-- What is wanted is what the template that was read and the cluster make. -/
theorem desired_ok (h : (o.desired cluster).Transcript xs (.ok d)) :
    ∃ template, xs = [⟨.template o.definition.templateName, .ok template⟩] ∧
      (o.definition.parameters cluster).map (o.assemble cluster template) = .ok d := by
  obtain ⟨reply, rfl, hd⟩ := desired_transcript_iff.mp h
  cases reply with
  | error e => cases hd
  | ok template => exact ⟨template, rfl, hd.symm⟩

theorem recorded_transcript_iff {condition : String} {r : Except Failure (Option String)} :
    (o.recorded cluster condition).Transcript xs r ↔
      ∃ reply : Except Failure Snapshot, xs = [⟨.loadStatus cluster.name, reply⟩] ∧
        r = reply.map fun s => s.status.condition? (o.deploymentName cluster) condition := by
  constructor
  · intro h
    obtain ⟨reply, ys, rfl, hrest⟩ := Program.transcript_call_bind_iff.mp h
    cases reply with
    | error e =>
      obtain ⟨rfl, rfl⟩ := Program.transcript_done_iff.mp hrest
      exact ⟨.error e, rfl, rfl⟩
    | ok snapshot =>
      obtain ⟨rfl, rfl⟩ := Program.transcript_done_iff.mp hrest
      exact ⟨.ok snapshot, rfl, rfl⟩
  · rintro ⟨reply, rfl, rfl⟩
    cases reply <;> exact Program.transcript_call_bind_iff.mpr ⟨_, [], rfl, .done _⟩

/-- What is recorded is what the status that was read holds. -/
theorem recorded_ok {condition : String} {v : Option String}
    (h : (o.recorded cluster condition).Transcript xs (.ok v)) :
    ∃ s : Snapshot, xs = [⟨.loadStatus cluster.name, .ok s⟩] ∧
      s.status.condition? (o.deploymentName cluster) condition = v := by
  obtain ⟨reply, rfl, hv⟩ := recorded_transcript_iff.mp h
  cases reply with
  | error e => cases hv
  | ok s => cases hv; exact ⟨s, rfl, rfl⟩

/-- What cannot be read was not answered. -/
theorem recorded_error {condition : String} {e : Failure}
    (h : (o.recorded cluster condition).Transcript xs (.error e)) :
    xs = [⟨.loadStatus cluster.name, .error e⟩] := by
  obtain ⟨reply, rfl, he⟩ := recorded_transcript_iff.mp h
  cases reply with
  | error e => cases he; rfl
  | ok s => cases he

theorem submit_transcript_iff {initial : Bool} {r : Except Failure Unit} :
    (o.submit cluster d initial).Transcript xs r ↔
      (∃ fault, xs =
          [⟨.submit cluster.resourceGroup d.name (d.request initial), .error fault⟩] ∧
        r = .error (fault.toFailure "deployments.create_or_update")) ∨
      ∃ ys written, xs =
          ⟨.submit cluster.resourceGroup d.name (d.request initial), .ok ()⟩ :: ys ∧
        (o.recordChecksums cluster d).Transcript ys written ∧ r = written.map fun _ => () := by
  constructor
  · intro h
    obtain ⟨reply, ys, rfl, hrest⟩ := Program.transcript_call_bind_iff.mp h
    cases reply with
    | error fault =>
      obtain ⟨rfl, rfl⟩ := Program.transcript_done_iff.mp hrest
      exact .inl ⟨fault, rfl, rfl⟩
    | ok =>
      obtain ⟨written, hwritten, rfl⟩ := Program.transcript_map_iff.mp hrest
      exact .inr ⟨ys, written, rfl, hwritten, rfl⟩
  · rintro (⟨fault, rfl, rfl⟩ | ⟨ys, written, rfl, hwritten, rfl⟩)
    · exact Program.transcript_call_bind_iff.mpr ⟨.error fault, [], rfl, .done _⟩
    · exact Program.transcript_call_bind_iff.mpr
        ⟨.ok (), ys, rfl, Program.transcript_map_iff.mpr ⟨written, hwritten, rfl⟩⟩

/-- Later exchanges do not change what was wanted. -/
theorem desiredIn_append (h : o.desiredIn cluster xs = some d) (ys : List (Exchange gateway)) :
    o.desiredIn cluster (xs ++ ys) = some d := by
  obtain ⟨template, htemplate, hd⟩ := Option.bind_eq_some_iff.mp h
  rw [desiredIn, List.findSome?_append, htemplate]
  exact hd

/-- A deployment is wanted under the name that the definition gives. -/
theorem name_of_assemble {template : Json}
    (h : (o.definition.parameters cluster).map (o.assemble cluster template) = .ok d) :
    d.name = o.deploymentName cluster := by
  cases hp : o.definition.parameters cluster with
  | error e => rw [hp] at h; cases h
  | ok parameters => rw [hp] at h; cases h; rfl

/-! ## The courses -/

/-- A pass that fails before it submits anything. -/
theorem course_of_failure {e : Failure} (quiet : ∀ x ∈ xs, x.request.isQuiet = true) :
    Course o cluster ctx xs (.error e) after := by
  refine .quiet xs _ after quiet fun outcome h => ?_
  cases h

/-- A submission and what follows it, after quiet exchanges that tell what is wanted. -/
theorem course_of_submit (xs : List (Exchange gateway)) {initial : Bool} {reason : String}
    {before : PassContext} (quiet : ∀ x ∈ xs, x.request.isQuiet = true)
    (wanted : o.desiredIn cluster xs = some d)
    (h : ((Step.tryLift (o.submit cluster d initial)).bind fun _ =>
      (Step.cancel reason).bind fun _ =>
        pure (.submitted initial)).Transcript ctx ys r after) :
    Course o cluster before (xs ++ ys) r after := by
  rcases Step.transcript_tryLift_bind_iff.mp h with
    ⟨e, hsubmit, rfl, rfl⟩ | ⟨_, zs, ws, rfl, hsubmit, hrest⟩
  · rcases submit_transcript_iff.mp hsubmit with
      ⟨fault, rfl, -⟩ | ⟨ys, written, rfl, hwritten, he⟩
    · exact .refused d initial xs fault e _ quiet wanted
    · cases written with
      | error =>
        cases he
        exact .accepted d initial xs ys (.error e) _ quiet wanted hwritten nofun
      | ok => cases he
  · simp only [Step.transcript_cancel_bind_iff, Step.transcript_pure_iff] at hrest
    obtain ⟨rfl, rfl, rfl⟩ := hrest
    rcases submit_transcript_iff.mp hsubmit with
      ⟨_, -, he⟩ | ⟨ys, written, rfl, hwritten, he⟩
    · cases he
    · cases written with
      | error => cases he
      | ok w =>
        rw [List.append_nil]
        exact .accepted d initial xs ys (.ok w) _ quiet wanted hwritten
          fun _ _ => PassContext.isCanceled_cancel

/-- The course of a deployment that does not exist. -/
theorem course_of_create {resourceGroup name : String} {reply : Except CloudFault DeploymentState}
    {before : PassContext} (h : (o.create cluster).Transcript ctx xs r after) :
    Course o cluster before (⟨.lookUp resourceGroup name, reply⟩ :: xs) r after := by
  simp only [create, Step.bind_eq_bind] at h
  rcases Step.transcript_tryLift_bind_iff.mp h with
    ⟨e, hdesired, rfl, rfl⟩ | ⟨d, ys, zs, rfl, hdesired, hrest⟩
  · obtain ⟨reply, rfl, -⟩ := desired_transcript_iff.mp hdesired
    exact course_of_failure (by simp)
  · obtain ⟨template, rfl, hd⟩ := desired_ok hdesired
    refine course_of_submit [_, _] (by simp) ?_ hrest
    exact congrArg Except.toOption hd

/-- The course of a deployment that has not ended, or has ended without success and is
not to be submitted again. -/
theorem course_of_wait (xs : List (Exchange gateway)) {reason : String}
    {outcome : DeploymentOutcome} {before : PassContext}
    (quiet : ∀ x ∈ xs, x.request.isQuiet = true)
    (h : ((Step.cancel reason).bind fun _ => pure outcome).Transcript ctx ys r after)
    (submitted : ∀ initial, outcome ≠ .submitted initial) (done : outcome ≠ .upToDate) :
    Course o cluster before (xs ++ ys) r after := by
  simp only [Step.transcript_cancel_bind_iff, Step.transcript_pure_iff] at h
  obtain ⟨rfl, rfl, rfl⟩ := h
  refine .quiet _ _ _ (by simpa using quiet) ?_
  rintro _ ⟨⟩
  exact ⟨submitted, done, PassContext.isCanceled_cancel⟩

variable (o cluster) in
/-- The exchanges of a review that has nothing to compare: nothing can be built from what was
answered, or a checksum cannot be read. -/
inductive Stuck : List (Exchange gateway) → Failure → Prop where
  | unbuilt (reply : Except Failure Json) {e : Failure} :
      o.built cluster reply = .error e → Stuck [⟨.template o.definition.templateName, reply⟩] e
  | unread (template : Json) (e : Failure) :
      Stuck [⟨.template o.definition.templateName, .ok template⟩,
        ⟨.loadStatus cluster.name, .error e⟩] e
  | halfRead (template : Json) (first : Snapshot) (e : Failure) :
      Stuck [⟨.template o.definition.templateName, .ok template⟩,
        ⟨.loadStatus cluster.name, .ok first⟩, ⟨.loadStatus cluster.name, .error e⟩] e

theorem Stuck.quiet {e : Failure} (h : o.Stuck cluster xs e) :
    ∀ x ∈ xs, x.request.isQuiet = true := by
  cases h <;> simp

/-- A review is stuck, or reads all that it needs and goes by the comparison. -/
theorem review_cases {observed : DeploymentState}
    (h : (o.review cluster observed).Transcript ctx xs r after) :
    (∃ e, o.Stuck cluster xs e ∧ r = .error e ∧
      after = publish o.definition.outputs observed.outputs ctx) ∨
      ∃ (d : Deployment) (template : Json) (first second : Snapshot)
        (rest : List (Exchange gateway)),
        (o.definition.parameters cluster).map (o.assemble cluster template) = .ok d ∧
        xs = ⟨.template o.definition.templateName, .ok template⟩ ::
          ⟨.loadStatus cluster.name, .ok first⟩ :: ⟨.loadStatus cluster.name, .ok second⟩ :: rest ∧
        (if first.status.condition? d.name templateCondition = some d.templateChecksum ∧
            second.status.condition? d.name parametersCondition = some d.parametersChecksum then
          o.settle cluster observed.state else o.resubmit cluster d).Transcript
            (publish o.definition.outputs observed.outputs ctx) rest r after := by
  simp only [review, Step.bind_eq_bind, Step.transcript_modify_bind_iff] at h
  rcases Step.transcript_tryLift_bind_iff.mp h with
    ⟨e, hdesired, rfl, rfl⟩ | ⟨d, ys, zs, rfl, hdesired, htemplate⟩
  · obtain ⟨reply, rfl, he⟩ := desired_transcript_iff.mp hdesired
    exact .inl ⟨e, .unbuilt reply he.symm, rfl, rfl⟩
  obtain ⟨template, rfl, hd⟩ := desired_ok hdesired
  rcases Step.transcript_tryLift_bind_iff.mp htemplate with
    ⟨e, hread, rfl, rfl⟩ | ⟨_, ys, zs, rfl, hread, hparameters⟩
  · obtain rfl := recorded_error hread
    exact .inl ⟨e, .unread template e, rfl, rfl⟩
  obtain ⟨first, rfl, rfl⟩ := recorded_ok hread
  rcases Step.transcript_tryLift_bind_iff.mp hparameters with
    ⟨e, hread', rfl, rfl⟩ | ⟨_, ys, zs, rfl, hread', hrest⟩
  · obtain rfl := recorded_error hread'
    exact .inl ⟨e, .halfRead template first e, rfl, rfl⟩
  obtain ⟨second, rfl, rfl⟩ := recorded_ok hread'
  refine .inr ⟨d, template, first, second, zs, hd, rfl, ?_⟩
  rw [name_of_assemble hd]
  exact hrest

/-- The course of a deployment that has ended. -/
theorem course_of_review {observed : DeploymentState} (ended : observed.state.isFinal = true)
    (h : (o.review cluster observed).Transcript ctx xs r after) :
    Course o cluster ctx
      (⟨.lookUp cluster.resourceGroup (o.deploymentName cluster), .ok observed⟩ :: xs) r after := by
  rcases review_cases h with
    ⟨e, stuck, rfl, -⟩ | ⟨d, template, first, second, rest, hd, rfl, hrest⟩
  · exact course_of_failure (List.forall_mem_cons.mpr ⟨rfl, stuck.quiet⟩)
  -- Everything has been read; what follows depends on the comparison alone.
  split at hrest
  · rename_i unchanged
    rw [settle] at hrest
    split at hrest
    · simp only [Step.bind_eq_bind] at hrest
      exact course_of_wait [_, _, _, _] (by simp) hrest (by simp) (by simp)
    · rename_i failed
      obtain ⟨rfl, rfl, rfl⟩ := Step.transcript_pure_iff.mp hrest
      rw [← name_of_assemble hd]
      exact .upToDate d observed template first second ended (Bool.eq_false_iff.mpr failed) hd
        unchanged.1 unchanged.2
  · simp only [resubmit, Step.bind_eq_bind] at hrest
    refine course_of_submit [_, _, _, _] (by simp) ?_ hrest
    exact congrArg Except.toOption hd

/-- **A pass takes one of the courses.** -/
theorem ensureCreated_course (h : (o.ensureCreated cluster).Transcript ctx xs r after) :
    Course o cluster ctx xs r after := by
  obtain ⟨reply, ys, rfl, hrest⟩ := Step.transcript_ask_bind_iff.mp h
  cases reply with
  | error e =>
    dsimp only at hrest
    split at hrest
    · exact course_of_create hrest
    · obtain ⟨rfl, rfl, rfl⟩ := Step.transcript_fail_iff.mp hrest
      exact course_of_failure (by simp)
  | ok observed =>
    dsimp only at hrest
    split at hrest
    · rename_i ended
      exact course_of_review ended hrest
    · simp only [await, Step.bind_eq_bind] at hrest
      exact course_of_wait [_] (by simp) hrest (by simp) (by simp)

/-- Whatever is not quiet in a pass is the submission of what the pass wants, or belongs to
the recording of its checksums. -/
theorem Course.of_not_quiet (h : Course o cluster ctx xs r after) {x : Exchange gateway}
    (hx : x ∈ xs) (loud : x.request.isQuiet ≠ true) :
    ∃ d initial, o.desiredIn cluster xs = some d ∧
      ((∃ reply, x = ⟨.submit cluster.resourceGroup d.name (d.request initial), reply⟩) ∨
        ∃ ys written, (o.recordChecksums cluster d).Transcript ys written ∧ x ∈ ys ∧ ys ⊆ xs) := by
  cases h with
  | quiet _ _ _ quiet => exact absurd (quiet x hx) loud
  | upToDate =>
    have quiet : x.request.isQuiet = true := by
      simp only [List.mem_cons, List.not_mem_nil, or_false] at hx
      rcases hx with rfl | rfl | rfl | rfl <;> rfl
    exact absurd quiet loud
  | refused d initial xs fault _ _ quiet wanted =>
    rcases List.mem_append.mp hx with hx | hx
    · exact absurd (quiet x hx) loud
    · exact ⟨d, initial, desiredIn_append wanted _, .inl ⟨_, List.mem_singleton.mp hx⟩⟩
  | accepted d initial xs ys written _ quiet wanted hwritten =>
    refine ⟨d, initial, desiredIn_append wanted _, ?_⟩
    rcases List.mem_append.mp hx with hx | hx
    · exact absurd (quiet x hx) loud
    · rcases List.mem_cons.mp hx with heq | hx
      · exact .inl ⟨_, heq⟩
      · exact .inr ⟨ys, written, hwritten, hx, fun y hy => by simp [hy]⟩

/-- What a pass writes to a status has the phase that the status was read with. -/
theorem Course.keeps_phase (h : Course o cluster ctx xs r after) {name : String}
    {status : Status} {version : Option String} {reply : Except StoreFault Unit}
    (hx : ⟨.storeStatus name status version, reply⟩ ∈ xs) :
    ∃ s : Snapshot, ⟨.loadStatus cluster.name, .ok s⟩ ∈ xs ∧ version = s.version ∧
      status.phase = s.status.phase := by
  obtain ⟨d, initial, -, ⟨_, heq⟩ | ⟨ys, written, hwritten, hx, hsub⟩⟩ := h.of_not_quiet hx nofun
  · cases heq
  · obtain ⟨s, hload, -, hversion, rfl⟩ := StatusStore.update_writes hwritten hx
    exact ⟨s, hsub hload, hversion, Status.phase_setConditions⟩

/-! ## Passes that do happen -/

/-- The status that only records the checksums of a deployment. -/
def recordOf (d : Deployment) : Status :=
  (({} : Status).setConditions default d.name (conditionsOf d)).2

theorem condition?_recordOf {kind value : String} (h : (kind, value) ∈ conditionsOf d) :
    (recordOf d).condition? d.name kind = some value :=
  Status.condition?_setConditions_of_mem
    (by simp [conditionsOf, templateCondition, parametersCondition]) h

theorem templateChecksum_recordOf :
    (recordOf d).condition? d.name templateCondition = some d.templateChecksum :=
  condition?_recordOf (by simp [conditionsOf])

theorem parametersChecksum_recordOf :
    (recordOf d).condition? d.name parametersCondition = some d.parametersChecksum :=
  condition?_recordOf (by simp [conditionsOf])

/-- A cluster whose network can be carved. -/
def production : Cluster where
  name := "production"
  spec := {
    location := "westeurope"
    networkCidr := "10.0.0.0/16"
    releaseVersion := "1.2.3" }

theorem exists_parameters_production :
    ∃ parameters, MainDeployment.parameters {} production = .ok parameters := by
  have hok : (MainDeployment.parameters {} production).isOk = true := by decide +kernel
  cases hp : MainDeployment.parameters {} production with
  | error e =>
    rw [hp] at hok
    cases hok
  | ok parameters => exact ⟨parameters, rfl⟩

/-- A pass over a deployment that has ended, when nothing that is read fails: what follows
depends on the comparison alone. -/
theorem ensureCreated_ended_iff {observed : DeploymentState} {template : Json}
    {first second : Snapshot} (ended : observed.state.isFinal = true)
    (hd : (o.definition.parameters cluster).map (o.assemble cluster template) = .ok d) :
    (o.ensureCreated cluster).Transcript ctx
        (⟨.lookUp cluster.resourceGroup (o.deploymentName cluster), .ok observed⟩ ::
          ⟨.template o.definition.templateName, .ok template⟩ ::
          ⟨.loadStatus cluster.name, .ok first⟩ :: ⟨.loadStatus cluster.name, .ok second⟩ :: xs)
        r after ↔
      (if first.status.condition? d.name templateCondition = some d.templateChecksum ∧
          second.status.condition? d.name parametersCondition = some d.parametersChecksum then
        o.settle cluster observed.state else o.resubmit cluster d).Transcript
          (publish o.definition.outputs observed.outputs ctx) xs r after := by
  have hreview : ∀ {ys}, (o.ensureCreated cluster).Transcript ctx
      (⟨.lookUp cluster.resourceGroup (o.deploymentName cluster), .ok observed⟩ :: ys) r after ↔
        (o.review cluster observed).Transcript ctx ys r after := by
    intro ys
    refine Step.transcript_ask_bind_iff.trans ⟨?_, fun h => ⟨.ok observed, ys, rfl, ?_⟩⟩
    · rintro ⟨_, _, heq, h⟩
      cases heq
      dsimp only at h
      rwa [if_pos ended] at h
    · dsimp only
      rwa [if_pos ended]
  have hdesired : (Except.ok template : Except Failure Json).bind (fun template =>
      (o.definition.parameters cluster).map (o.assemble cluster template)) = .ok d := hd
  have hrecorded : ∀ (condition : String) (s : Snapshot),
      (Except.ok s : Except Failure Snapshot).map
          (fun s => s.status.condition? (o.deploymentName cluster) condition) =
        .ok (s.status.condition? (o.deploymentName cluster) condition) := fun _ _ => rfl
  rw [hreview, name_of_assemble hd]
  simp only [review, Step.bind_eq_bind, Step.transcript_modify_bind_iff]
  refine (Step.transcript_tryLift_cons_iff desired_transcript_iff hdesired).trans ?_
  refine (Step.transcript_tryLift_cons_iff recorded_transcript_iff (hrecorded _ first)).trans ?_
  exact Step.transcript_tryLift_cons_iff recorded_transcript_iff (hrecorded _ second)

/-- A pass over a deployment that succeeded and whose checksums are recorded. -/
theorem ensureCreated_of_recorded {observed : DeploymentState} {template : Json}
    {version : Option String} {now : Instant} (succeeded : observed.state = .succeeded)
    (hd : (o.definition.parameters cluster).map (o.assemble cluster template) = .ok d) :
    (o.ensureCreated cluster).Transcript ctx
      [⟨.lookUp cluster.resourceGroup (o.deploymentName cluster), .ok observed⟩,
        ⟨.template o.definition.templateName, .ok template⟩,
        ⟨.loadStatus cluster.name, .ok ⟨recordOf d, version, now⟩⟩,
        ⟨.loadStatus cluster.name, .ok ⟨recordOf d, version, now⟩⟩]
      (.ok .upToDate) (publish o.definition.outputs observed.outputs ctx) := by
  refine (ensureCreated_ended_iff (by rw [succeeded]; rfl) hd).mpr ?_
  rw [if_pos ⟨templateChecksum_recordOf, parametersChecksum_recordOf⟩, settle, succeeded]
  exact Step.transcript_pure_iff.mpr ⟨rfl, rfl, rfl⟩

/-- A pass over a deployment that does not exist, when the cloud accepts it and its checksums can
be recorded, or are recorded already. -/
theorem ensureCreated_of_missing {fault : CloudFault} {template : Json} {changed : Bool}
    (missing : fault.isNotFound = true)
    (hd : (o.definition.parameters cluster).map (o.assemble cluster template) = .ok d)
    (recorded : (o.recordChecksums cluster d).Transcript xs (.ok changed)) :
    (o.ensureCreated cluster).Transcript ctx
      (⟨.lookUp cluster.resourceGroup (o.deploymentName cluster), .error fault⟩ ::
        ⟨.template o.definition.templateName, .ok template⟩ ::
        ⟨.submit cluster.resourceGroup d.name (d.request true), .ok ()⟩ :: xs)
      (.ok (.submitted true))
      (ctx.cancel s!"deployment {o.deploymentName cluster} submitted") := by
  refine Step.transcript_ask_bind_iff.mpr ⟨.error fault, _, rfl, ?_⟩
  dsimp only
  rw [if_pos missing]
  refine Step.transcript_tryLift_bind_iff.mpr (.inr ⟨d, [_], _, rfl, ?_, ?_⟩)
  · exact desired_transcript_iff.mpr ⟨.ok template, rfl, hd.symm⟩
  refine Step.transcript_tryLift_bind_iff.mpr (.inr ⟨(), _, [], (List.append_nil _).symm, ?_, ?_⟩)
  · exact submit_transcript_iff.mpr (.inr ⟨_, .ok changed, rfl, recorded, rfl⟩)
  · exact Step.transcript_cancel_bind_iff.mpr (Step.transcript_pure_iff.mpr ⟨rfl, rfl, rfl⟩)

end DeploymentOrchestrator

end ClusterOperator
