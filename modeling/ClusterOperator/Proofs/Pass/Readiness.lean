import ClusterOperator.Operator
import ClusterOperator.Proofs.Deployment.Course
import ClusterOperator.Proofs.Deployment.Outputs
import ClusterOperator.Proofs.Pass.BootObjects
import ClusterOperator.Proofs.Pass.Progress
import ClusterOperator.Proofs.Pass.Topics

/-!
# A cluster is recorded as ready only when it is

Nothing tells the operator that a cluster is ready: it records so whenever a pass goes
through.  That is enough, because each of the standard resources either fails or cancels the
pass unless it finds, or brings about, what it is for.  `Provisioned` says what the exchanges
of such a pass contain, and `provisioned_of_ready` that no other pass records readiness,
however the deployments, the storage, the renderer, the templates and the status store behave.
-/

namespace ClusterOperator

theorem ProvisioningState.eq_succeeded {state : ProvisioningState} (ended : state.isFinal = true)
    (well : state.isFailure = false) : state = .succeeded := by
  cases state with
  | succeeded => rfl
  | failed | canceled => cases well
  | _ => cases ended

/-! ## What a deployment that completes has found -/

namespace DeploymentOrchestrator

variable {o : DeploymentOrchestrator} {cluster : Cluster} {ctx after : PassContext}
  {xs : List (Exchange gateway)} {outcome : DeploymentOutcome}

/-- The exchanges in which a deployment is found to have succeeded with the content that is
wanted. -/
structure FoundUpToDate (o : DeploymentOrchestrator) (cluster : Cluster) (d : Deployment)
    (observed : DeploymentState) (xs : List (Exchange gateway)) : Prop where
  succeeded : observed.state = .succeeded
  read : ∃ (template : Json) (first second : Snapshot),
    (o.definition.parameters cluster).map (o.assemble cluster template) = .ok d ∧
    first.status.condition? d.name templateCondition = some d.templateChecksum ∧
    second.status.condition? d.name parametersCondition = some d.parametersChecksum ∧
    xs = [⟨.lookUp cluster.resourceGroup d.name, .ok observed⟩,
      ⟨.template o.definition.templateName, .ok template⟩,
      ⟨.loadStatus cluster.name, .ok first⟩, ⟨.loadStatus cluster.name, .ok second⟩]

/-- The deployment is looked up once, and nothing is submitted. -/
theorem FoundUpToDate.lookUp_or_template {d : Deployment} {observed : DeploymentState}
    (h : o.FoundUpToDate cluster d observed xs) {x : Exchange gateway} (hx : x ∈ xs)
    (topic : x.request.topic = .deployment) :
    x = ⟨.lookUp cluster.resourceGroup d.name, .ok observed⟩ ∨
      ∃ name reply, x = ⟨.template name, reply⟩ := by
  obtain ⟨-, template, first, second, -, -, -, rfl⟩ := h
  simp only [List.mem_cons, List.not_mem_nil, or_false] at hx
  rcases hx with rfl | rfl | rfl | rfl
  · exact .inl rfl
  · exact .inr ⟨_, _, rfl⟩
  · cases topic
  · cases topic

/-- Nothing is asked about boot objects. -/
theorem FoundUpToDate.topic_ne {d : Deployment} {observed : DeploymentState}
    (h : o.FoundUpToDate cluster d observed xs) :
    ∀ x ∈ xs, x.request.topic ≠ .bootObjects := by
  obtain ⟨-, template, first, second, -, -, -, rfl⟩ := h
  simp [Gateway.Request.topic]

/-- **A deployment completes only if it is up to date.** -/
theorem ensureCreated_completes (h : (o.ensureCreated cluster).Completes ctx xs outcome after) :
    ∃ d observed, o.FoundUpToDate cluster d observed xs ∧
      after = publish o.definition.outputs observed.outputs ctx := by
  obtain ⟨htranscript, live⟩ := h
  have notCanceled : after.isCanceled ≠ true := by rw [live]; exact nofun
  generalize hr : (Except.ok outcome : Except Failure DeploymentOutcome) = r at htranscript
  cases ensureCreated_course htranscript with
  | quiet _ _ _ _ waits => exact absurd (waits outcome hr.symm).2.2 notCanceled
  | upToDate d observed template first second ended well hd hfirst hsecond =>
    exact ⟨d, observed, ⟨ProvisioningState.eq_succeeded ended well,
      template, first, second, hd, hfirst, hsecond, rfl⟩, rfl⟩
  | refused => cases hr
  | accepted d initial xs ys written _ _ _ _ canceled =>
    cases written with
    | error => cases hr
    | ok w => exact absurd (canceled w rfl) notCanceled

end DeploymentOrchestrator

/-! ## What the standard resources have done when they complete -/

namespace ClusterResource

variable {cluster : Cluster} {watchdog : Nat} {ctx after : PassContext}
  {xs : List (Exchange gateway)} {u : Unit}

theorem deployment_completes {o : DeploymentOrchestrator}
    (h : ((deployment o).ensureCreated cluster).Completes ctx xs u after) :
    ∃ d observed, o.FoundUpToDate cluster d observed xs ∧
      after = DeploymentOrchestrator.publish o.definition.outputs observed.outputs ctx := by
  obtain ⟨outcome, hdeployment⟩ := discard_completes_iff.mp h
  exact DeploymentOrchestrator.ensureCreated_completes hdeployment

theorem bootObjects_completes (h : (bootObjects.ensureCreated cluster).Completes ctx xs u after) :
    ∃ s, ctx.storage = some s ∧ ⟨.containerExists s.account s.container, .ok true⟩ ∈ xs ∧
      ∀ role, BootObjects.Stored cluster ctx s xs role := by
  obtain ⟨found, hobjects⟩ := discard_completes_iff.mp h
  exact BootObjects.reconcile_completes hobjects

theorem guardAll_transcript {resourceGroup : String} {scaleSets : List String}
    (h : (guardAll watchdog resourceGroup scaleSets).Transcript xs u) :
    ∀ scaleSet ∈ scaleSets, ∃ new : Bool, ⟨.guard watchdog resourceGroup scaleSet, new⟩ ∈ xs := by
  induction scaleSets generalizing xs with
  | nil => exact nofun
  | cons first rest ih =>
    obtain ⟨new, ys, rfl, hrest⟩ := Program.transcript_call_bind_iff.mp h
    intro scaleSet hmem
    rcases List.mem_cons.mp hmem with rfl | hlater
    · exact ⟨new, List.mem_cons_self⟩
    · obtain ⟨new', hguard⟩ := ih hrest scaleSet hlater
      exact ⟨new', List.mem_cons_of_mem _ hguard⟩

/-- Every scale set was handed to the watchdog. -/
theorem instanceGuard_completes
    (h : ((instanceGuard watchdog).ensureCreated cluster).Completes ctx xs u after) :
    ∀ scaleSet ∈ cluster.scaleSets, ∃ new : Bool,
      ⟨.guard watchdog cluster.resourceGroup scaleSet, new⟩ ∈ xs := by
  obtain ⟨v, hguards, -, -⟩ := Step.transcript_lift_iff.mp h.1
  exact guardAll_transcript hguards

end ClusterResource

namespace Operator

/-- The operator takes care of the standard resources of its configuration, with guards on
this watchdog, and keeps the status behind the gateway. -/
structure IsStandard (o : Operator gateway) (watchdog : Nat) : Prop where
  resources : o.resources = .standard o.config watchdog
  status : o.status = gatewayStore

theorem isStandard_of_standard {config : OperatorConfig} {o : Operator gateway}
    (h : Operator.standard config = .ok o) : o.IsStandard 0 := by
  cases hvalid : config.validate with
  | error e =>
    simp only [Operator.standard, hvalid] at h
    cases h
  | ok =>
    simp only [Operator.standard, hvalid] at h
    cases h
    exact ⟨rfl, rfl⟩

variable {o : Operator gateway} {watchdog : Nat} {cluster : Cluster} {d : Deployment}
  {observed : DeploymentState} {xs ys zs : List (Exchange gateway)} {r : Except Failure NextStep}

/-- The orchestrator of the main deployment under a configuration. -/
def orchestrator (config : OperatorConfig) : DeploymentOrchestrator :=
  ⟨MainDeployment.definition config.subnets, config.statusRetry⟩

/-- The context in which the boot objects of a cluster are rendered. -/
def bootContext (o : Operator gateway) (cluster : Cluster) (observed : DeploymentState) :
    PassContext :=
  DeploymentOrchestrator.publish MainDeployment.outputs observed.outputs
    (o.resources.newContext cluster)

/-- The storage container of a cluster. -/
def bootStorage (o : Operator gateway) (cluster : Cluster) : StorageContainer :=
  ⟨storageAccountName cluster.name, o.config.storageContainer⟩

/-- **A pass that has provisioned a cluster**, told by its exchanges: the deployment it wants
and found, and what it did about everything else. -/
structure Provisioned (o : Operator gateway) (watchdog : Nat) (cluster : Cluster)
    (d : Deployment) (observed : DeploymentState) (xs : List (Exchange gateway)) : Prop where
  /-- Nothing failed or canceled the pass. -/
  live : ∃ ys zs after, xs = ys ++ zs ∧
    (ResourceSet.passOver cluster o.resources.resources).Completes
      (o.resources.newContext cluster) ys .completed after
  /-- The deployment was looked up first, and found to have succeeded as it is wanted. -/
  upToDate : ∃ ys zs, xs = ys ++ zs ∧
    (orchestrator o.config).FoundUpToDate cluster d observed ys
  /-- It was seen in no other state. -/
  onlyLookUp : ∀ group name reply, ⟨.lookUp group name, reply⟩ ∈ xs → reply = .ok observed
  notSubmitted : ∀ group name body reply, ⟨.submit group name body, reply⟩ ∉ xs
  container : ⟨.containerExists (o.bootStorage cluster).account (o.bootStorage cluster).container,
    .ok true⟩ ∈ xs
  /-- The object of every role was read, or written, as it was rendered. -/
  objects : ∀ role, BootObjects.Stored cluster (o.bootContext cluster observed)
    (o.bootStorage cluster) xs role
  guarded : ∀ scaleSet ∈ cluster.scaleSets, ∃ new : Bool,
    ⟨.guard watchdog cluster.resourceGroup scaleSet, new⟩ ∈ xs

/-! ## A pass that goes through -/

/-- What the three resources of a pass that goes through have done, one after the other. -/
theorem standard_completes {config : OperatorConfig} {ctx after : PassContext}
    (h : (ResourceSet.passOver cluster (ResourceSet.standard config watchdog).resources).Transcript
      ctx xs (.ok .completed) after) :
    ∃ d observed as bs cs s, xs = as ++ bs ++ cs ∧
      (orchestrator config).FoundUpToDate cluster d observed as ∧
      (∀ x ∈ bs ++ cs, x.request.topic ≠ .deployment) ∧
      ctx.storage = some s ∧ ⟨.containerExists s.account s.container, .ok true⟩ ∈ bs ∧
      (∀ role, BootObjects.Stored cluster
        (DeploymentOrchestrator.publish MainDeployment.outputs observed.outputs ctx) s bs role) ∧
      ∀ scaleSet ∈ cluster.scaleSets, ∃ new : Bool,
        ⟨.guard watchdog cluster.resourceGroup scaleSet, new⟩ ∈ cs := by
  obtain ⟨deployed, as, _, rfl, hdeployment, hlater⟩ :=
    ResourceSet.passOver_completed_cons_iff.mp h
  obtain ⟨booted, bs, _, rfl, hboot, hlast⟩ :=
    ResourceSet.passOver_completed_cons_iff.mp hlater
  obtain ⟨guarded, cs, _, rfl, hguard, hend⟩ :=
    ResourceSet.passOver_completed_cons_iff.mp hlast
  obtain ⟨rfl, -, -⟩ := Step.transcript_pure_iff.mp hend
  obtain ⟨d, observed, found, rfl⟩ := ClusterResource.deployment_completes hdeployment
  obtain ⟨s, hs, hcontainer, hobjects⟩ := ClusterResource.bootObjects_completes hboot
  have bootTopic := ClusterResource.asks_bootObjects _ bs _ hboot.1
  have guardTopic := ClusterResource.asks_instanceGuard _ cs _ hguard.1
  refine ⟨d, observed, as, bs, cs, s, by simp, found, fun x hx => ?_,
    DeploymentOrchestrator.storage_publish.symm.trans hs, hcontainer, hobjects,
    ClusterResource.instanceGuard_completes hguard⟩
  rcases List.mem_append.mp hx with hx | hx
  · rw [show x.request.topic = .bootObjects from bootTopic x hx]
    exact nofun
  · rw [show x.request.topic = .guards from guardTopic x hx]
    exact nofun

/-- **A pass over the standard resources that goes through has provisioned the cluster.** -/
theorem provisioned_of_completed (standard : o.IsStandard watchdog)
    (h : (o.resources.reconcile cluster).Transcript xs (.ok .completed)) :
    ∃ d observed, o.Provisioned watchdog cluster d observed xs := by
  obtain ⟨after, hpass⟩ := ResourceSet.reconcile_transcript_iff.mp h
  have live := ResourceSet.passOver_live ResourceSet.isCanceled_newContext hpass
  have hparts := hpass
  rw [standard.resources] at hparts
  obtain ⟨d, observed, as, bs, cs, s, rfl, found, other, hs, hcontainer, hobjects, hguards⟩ :=
    standard_completes hparts
  obtain rfl : o.bootStorage cluster = s := Option.some.inj hs
  have hcontext : o.bootContext cluster observed =
      DeploymentOrchestrator.publish MainDeployment.outputs observed.outputs
        ((ResourceSet.standard o.config watchdog).newContext cluster) := by
    rw [bootContext, standard.resources]
  -- Only the first part is about the deployment.
  have aboutDeployment : ∀ x ∈ as ++ bs ++ cs, x.request.topic = .deployment →
      x = ⟨.lookUp cluster.resourceGroup d.name, .ok observed⟩ ∨
        ∃ name reply, x = ⟨.template name, reply⟩ := by
    intro x hx topic
    rw [List.append_assoc] at hx
    rcases List.mem_append.mp hx with hx | hx
    · exact found.lookUp_or_template hx topic
    · exact absurd topic (other x hx)
  refine ⟨d, observed, {
    live := ⟨as ++ bs ++ cs, [], after, (List.append_nil _).symm, hpass, live⟩
    upToDate := ⟨as, bs ++ cs, List.append_assoc as bs cs, found⟩
    onlyLookUp := fun group name reply hx => ?_
    notSubmitted := fun group name body reply hx => ?_
    container := by simp [hcontainer]
    objects := fun role => (hcontext ▸ hobjects role).mono (by simp)
    guarded := fun scaleSet hmem => (hguards scaleSet hmem).imp fun new hnew => by simp [hnew] }⟩
  · rcases aboutDeployment _ hx rfl with heq | ⟨_, _, heq⟩
    · cases heq; rfl
    · cases heq
  · rcases aboutDeployment _ hx rfl with heq | ⟨_, _, heq⟩
    · cases heq
    · cases heq

/-- What is not about the deployment may follow. -/
theorem Provisioned.append (h : o.Provisioned watchdog cluster d observed xs)
    (other : ∀ x ∈ ys, x.request.topic ≠ .deployment) :
    o.Provisioned watchdog cluster d observed (xs ++ ys) where
  live := by
    obtain ⟨as, bs, after, rfl, hpass⟩ := h.live
    exact ⟨as, bs ++ ys, after, List.append_assoc as bs ys, hpass⟩
  upToDate := by
    obtain ⟨as, bs, rfl, found⟩ := h.upToDate
    exact ⟨as, bs ++ ys, List.append_assoc as bs ys, found⟩
  onlyLookUp group name reply hx := by
    rcases List.mem_append.mp hx with hx | hx
    · exact h.onlyLookUp group name reply hx
    · exact absurd rfl (other _ hx)
  notSubmitted group name body reply hx := by
    rcases List.mem_append.mp hx with hx | hx
    · exact h.notSubmitted group name body reply hx
    · exact absurd rfl (other _ hx)
  container := List.mem_append_left ys h.container
  objects role := (h.objects role).mono (List.subset_append_left xs ys)
  guarded scaleSet hmem :=
    (h.guarded scaleSet hmem).imp fun _ hnew => List.mem_append_left ys hnew

/-! ## What is recorded -/

/-- A status is written as ready at a version that was not read as ready. -/
def TurnsReady (name : String) (xs : List (Exchange gateway)) : Prop :=
  ∃ status version reply, ⟨.storeStatus name status version, reply⟩ ∈ xs ∧ status.phase = .ready ∧
    ∀ s : Snapshot, ⟨.loadStatus name, .ok s⟩ ∈ xs → s.version = version → s.status.phase ≠ .ready

/-- The pass over the resources goes through; this is when readiness is to be recorded, if it
is not recorded already. -/
def GoesThrough (o : Operator gateway) (cluster : Cluster) (xs : List (Exchange gateway)) : Prop :=
  ∃ ys zs, xs = ys ++ zs ∧ (o.resources.reconcile cluster).Transcript ys (.ok .completed)

@[simp] theorem phase_phaseMutation {phase : Phase} {message : Option String} {now : Instant}
    {s : Status} : (phaseMutation phase message now s).2.phase = phase := by
  unfold phaseMutation
  split
  · rename_i h
    exact h.1
  · rfl

/-- After a pass at most one phase is set, and it is readiness only if the pass went
through. -/
theorem conclude_transcript {name : String} {outcome : Except Failure PassOutcome}
    (h : (o.conclude name outcome).Transcript xs r) :
    xs = [] ∨ ∃ phase message written, (o.setPhase name phase message).Transcript xs written ∧
      (phase = .ready → outcome = .ok .completed) := by
  cases outcome with
  | error e =>
    simp only [conclude, recordFailure] at h
    split at h
    · exact .inl (Program.transcript_done_iff.mp h).1
    · obtain ⟨written, hset, -⟩ := Program.transcript_map_iff.mp h
      exact .inr ⟨_, _, written, hset, nofun⟩
  | ok outcome =>
    cases outcome with
    | completed =>
      obtain ⟨written, hset, -⟩ := Program.transcript_map_iff.mp h
      exact .inr ⟨_, _, written, hset, fun _ => rfl⟩
    | canceled resource reason =>
      obtain ⟨written, hset, -⟩ := Program.transcript_map_iff.mp h
      exact .inr ⟨_, _, written, hset, nofun⟩

/-- What follows a pass is not about the deployment. -/
theorem conclude_topic (standard : o.IsStandard watchdog) {name : String}
    {outcome : Except Failure PassOutcome} (h : (o.conclude name outcome).Transcript xs r) :
    ∀ x ∈ xs, x.request.topic ≠ .deployment := by
  intro x hx
  rcases conclude_transcript h with rfl | ⟨phase, message, written, hset, -⟩
  · cases hx
  rw [setPhase, standard.status] at hset
  have hupdate := StatusStore.update_requests hset x hx
  obtain ⟨request, reply⟩ := x
  cases request with
  | loadStatus | storeStatus | draw | pause => exact nofun
  | _ => cases hupdate

/-- Within a pass the status is written with the phase it was read with. -/
theorem pass_keeps_phase (standard : o.IsStandard watchdog) {outcome : Except Failure PassOutcome}
    (h : (o.resources.reconcile cluster).Transcript xs outcome) {name : String} {status : Status}
    {version : Option String} {reply : Except StoreFault Unit}
    (hx : ⟨.storeStatus name status version, reply⟩ ∈ xs) :
    ∃ s : Snapshot, ⟨.loadStatus cluster.name, .ok s⟩ ∈ xs ∧ version = s.version ∧
      status.phase = s.status.phase := by
  obtain ⟨after, hpass⟩ := ResourceSet.reconcile_transcript_iff.mp h
  obtain ⟨resource, hmem, before, ys, s, between, hresource, hx, hsub⟩ :=
    ResourceSet.mem_passOver hpass hx
  rw [standard.resources] at hmem
  simp only [ResourceSet.standard, List.mem_cons, List.not_mem_nil, or_false] at hmem
  rcases hmem with rfl | rfl | rfl
  · obtain ⟨result, hdeployment, -⟩ := ClusterResource.discard_transcript_iff.mp hresource
    have course := DeploymentOrchestrator.ensureCreated_course hdeployment
    obtain ⟨s, hload, hversion, hphase⟩ := course.keeps_phase hx
    exact ⟨s, hsub hload, hversion, hphase⟩
  · cases ClusterResource.asks_bootObjects before ys _ hresource _ hx
  · cases ClusterResource.asks_instanceGuard before ys _ hresource _ hx

/-- A status turns ready only after a pass that went through. -/
theorem completed_of_turnsReady (standard : o.IsStandard watchdog)
    {outcome : Except Failure PassOutcome}
    (hpass : (o.resources.reconcile cluster).Transcript xs outcome)
    (hconclude : (o.conclude cluster.name outcome).Transcript ys r)
    (turns : TurnsReady cluster.name (xs ++ ys)) : outcome = .ok .completed := by
  obtain ⟨status, version, reply, hstore, hready, unread⟩ := turns
  rcases List.mem_append.mp hstore with hstore | hstore
  · -- A write within the pass does not turn anything.
    obtain ⟨s, hload, hversion, hphase⟩ := pass_keeps_phase standard hpass hstore
    exact absurd (hphase.symm.trans hready)
      (unread s (List.mem_append_left ys hload) hversion.symm)
  · rcases conclude_transcript hconclude with rfl | ⟨phase, message, written, hset, honly⟩
    · cases hstore
    rw [setPhase, standard.status] at hset
    obtain ⟨s, -, -, -, rfl⟩ := StatusStore.update_writes hset hstore
    rw [phase_phaseMutation] at hready
    exact honly hready

/-- The standard resources go away with the resource group: nothing is asked to take them
down. -/
theorem deletion_transcript (standard : o.IsStandard watchdog) {result : Except Failure Unit}
    (h : (o.resources.reconcileDeletion cluster).Transcript xs result) : xs = [] := by
  rw [standard.resources] at h
  exact (Program.transcript_done_iff.mp h).1

/-- **A cluster is recorded as ready only in a pass that has provisioned it.** -/
theorem provisioned_of_ready (standard : o.IsStandard watchdog)
    (h : (o.reconcile cluster).Transcript xs r)
    (ready : TurnsReady cluster.name xs ∨ o.GoesThrough cluster xs) :
    ∃ d observed, o.Provisioned watchdog cluster d observed xs := by
  unfold reconcile at h
  split at h
  · -- A cluster that is being deleted has no pass, so nothing can have been recorded.
    obtain ⟨result, hdeletion, -⟩ := Program.transcript_map_iff.mp h
    obtain rfl := deletion_transcript standard hdeletion
    rcases ready with ⟨_, _, _, hstore, -⟩ | ⟨ys, zs, heq, hthrough⟩
    · cases hstore
    · obtain ⟨rfl, rfl⟩ := List.append_eq_nil_iff.mp heq.symm
      exact provisioned_of_completed standard hthrough
  · obtain ⟨outcome, ys, zs, rfl, hpass, hconclude⟩ := Program.transcript_bind_iff.mp h
    have completed : outcome = .ok .completed := by
      rcases ready with turns | ⟨ys', zs', heq, hthrough⟩
      · exact completed_of_turnsReady standard hpass hconclude turns
      · -- The replies decide how the pass ends, so it ends as the one that went through.
        exact (hpass.unique hthrough heq).2
    subst completed
    obtain ⟨d, observed, provisioned⟩ := provisioned_of_completed standard hpass
    exact ⟨d, observed, provisioned.append (conclude_topic standard hconclude)⟩

/-! ## A pass that turns a cluster ready -/

namespace FirstReady

/-- A deployment that has put out everything the boot objects need. -/
def settled : DeploymentState where
  state := .succeeded
  outputs := .object <| ["apiServerBackendPoolID", "etcdBackendPoolID", "masterSubnetID",
    "workerSubnetID"].map fun name => (name, .object [("value", .text name)])

/-- A storage that has an empty container, with a renderer and a watchdog that never refuse;
nothing else is of use. -/
def serve : (q : Gateway.Request) → Unit → Gateway.Reply q × Unit
  | .containerExists _ _, u => (.ok true, u)
  | .listObjects _ _, u => (.ok [], u)
  | .writeObject _ _ _ _, u => (.ok (), u)
  | .render _, u => (.ok "boot", u)
  | .guard _ _ _, u => (true, u)
  | .lookUp _ _, u => (.ok settled, u)
  | .submit _ _ _, u => (.ok (), u)
  | .readObject _ _ _, u => (.ok "boot", u)
  | .template _, u => (.ok .null, u)
  | .loadStatus _, u => (.ok ⟨{}, none, default⟩, u)
  | .storeStatus _ _ _, u => (.ok (), u)
  | .draw, u => (default, u)
  | .pause _, u => ((), u)

open DeploymentOrchestrator (production recordOf)

/-- The operator of the default configuration. -/
def operator : Operator gateway where
  resources := .standard {} 0
  status := gatewayStore
  config := {}

theorem standard_eq : Operator.standard {} = .ok operator := rfl

/-- Once the deployment is settled, the rest of a pass goes through. -/
theorem exists_rest : ∃ xs after,
    (ResourceSet.passOver production [.bootObjects, .instanceGuard 0]).Transcript
      (operator.bootContext production settled) xs (.ok .completed) after := by
  obtain ⟨xs, h, -⟩ := Program.run_transcript (I := gateway) serve
    (ResourceSet.passOver production [.bootObjects, .instanceGuard 0]
      (operator.bootContext production settled)) ()
  exact ⟨xs, _, h⟩

/-- The rest of a pass does not touch the status. -/
theorem topic_rest {xs : List (Exchange gateway)} {ctx after : PassContext}
    {r : Except Failure PassOutcome}
    (h : (ResourceSet.passOver cluster [.bootObjects, .instanceGuard watchdog]).Transcript
      ctx xs r after) :
    ∀ x ∈ xs, x.request.topic ≠ .status := by
  intro x hx
  obtain ⟨resource, hmem, before, ys, s, between, hresource, hx, -⟩ :=
    ResourceSet.mem_passOver h hx
  simp only [List.mem_cons, List.not_mem_nil, or_false] at hmem
  rcases hmem with rfl | rfl
  · rw [show x.request.topic = .bootObjects from
      ClusterResource.asks_bootObjects before ys _ hresource x hx]
    exact nofun
  · rw [show x.request.topic = .guards from
      ClusterResource.asks_instanceGuard before ys _ hresource x hx]
    exact nofun

variable {d : Deployment}

/-- The status before the pass, at the version that is stored. -/
def stored (d : Deployment) : Snapshot := ⟨recordOf d, some "1", default⟩

/-- The deployment is found as it is wanted. -/
def lookedUp (d : Deployment) : List (Exchange gateway) :=
  [⟨.lookUp production.resourceGroup ((orchestrator {}).deploymentName production), .ok settled⟩,
    ⟨.template mainTemplate, .ok .null⟩,
    ⟨.loadStatus production.name, .ok (stored d)⟩, ⟨.loadStatus production.name, .ok (stored d)⟩]

/-- Readiness is recorded. -/
def recorded (d : Deployment) : List (Exchange gateway) :=
  [⟨.loadStatus production.name, .ok (stored d)⟩,
    ⟨.storeStatus production.name (phaseMutation .ready none default (recordOf d)).2 (some "1"),
      .ok ()⟩]

theorem pass_transcript {bs : List (Exchange gateway)} {after : PassContext}
    (hd : ((orchestrator {}).definition.parameters production).map
      ((orchestrator {}).assemble production .null) = .ok d)
    (hrest : (ResourceSet.passOver production [.bootObjects, .instanceGuard 0]).Transcript
      (operator.bootContext production settled) bs (.ok .completed) after) :
    (operator.resources.reconcile production).Transcript (lookedUp d ++ bs) (.ok .completed) := by
  have hdeployment : ((orchestrator {}).ensureCreated production).Transcript
      (operator.resources.newContext production) (lookedUp d) (.ok .upToDate)
      (operator.bootContext production settled) :=
    DeploymentOrchestrator.ensureCreated_of_recorded rfl hd
  refine ResourceSet.reconcile_transcript_iff.mpr ⟨after, ?_⟩
  refine ResourceSet.passOver_completed_cons_iff.mpr ⟨_, lookedUp d, bs, rfl, ?_, hrest⟩
  exact ClusterResource.discard_completes_iff.mpr ⟨.upToDate, hdeployment, rfl⟩

theorem setPhase_transcript :
    (operator.setPhase production.name .ready none).Transcript (recorded d) (.ok true) := by
  have changed : (phaseMutation .ready none default (recordOf d)).1 = true := rfl
  exact StatusStore.update_of_written changed

/-- Whatever is read is the status before the pass. -/
theorem read_stored {bs : List (Exchange gateway)} (other : ∀ x ∈ bs, x.request.topic ≠ .status)
    {s : Snapshot} (hload : ⟨.loadStatus production.name, .ok s⟩ ∈ lookedUp d ++ bs ++ recorded d) :
    s = stored d := by
  rcases List.mem_append.mp hload with hload | hload
  · rcases List.mem_append.mp hload with hload | hload
    · simp only [lookedUp, List.mem_cons, List.not_mem_nil, or_false] at hload
      rcases hload with heq | heq | heq | heq
      · cases heq
      · cases heq
      · cases heq; rfl
      · cases heq; rfl
    · exact absurd rfl (other _ hload)
  · simp only [recorded, List.mem_cons, List.not_mem_nil, or_false] at hload
    rcases hload with heq | heq
    · cases heq; rfl
    · cases heq

end FirstReady

open FirstReady in
/-- A pass of the operator of the default configuration that does turn a cluster ready. -/
theorem provisioned_of_first_ready :
    ∃ (o : Operator gateway) (cluster : Cluster) (xs : List (Exchange gateway))
        (r : Except Failure NextStep),
      Operator.standard {} = .ok o ∧ (o.reconcile cluster).Transcript xs r ∧
        TurnsReady cluster.name xs ∧ ∃ d observed, o.Provisioned 0 cluster d observed xs := by
  obtain ⟨parameters, hp⟩ := DeploymentOrchestrator.exists_parameters_production
  obtain ⟨bs, after, hrest⟩ := exists_rest
  have hd : ((orchestrator {}).definition.parameters DeploymentOrchestrator.production).map
      ((orchestrator {}).assemble DeploymentOrchestrator.production .null) =
        .ok ((orchestrator {}).assemble DeploymentOrchestrator.production .null parameters) :=
    congrArg _ hp
  generalize (orchestrator {}).assemble _ .null parameters = d at hd
  have hrun : (operator.reconcile DeploymentOrchestrator.production).Transcript
      (lookedUp d ++ bs ++ recorded d) (.ok (.requeue operator.config.readyRequeue)) :=
    Program.transcript_bind_iff.mpr ⟨.ok .completed, _, _, rfl, pass_transcript hd hrest,
      Program.transcript_map_iff.mpr ⟨.ok true, setPhase_transcript, rfl⟩⟩
  have turns : TurnsReady DeploymentOrchestrator.production.name
      (lookedUp d ++ bs ++ recorded d) := by
    refine ⟨_, _, _, List.mem_append_right _ (List.mem_cons_of_mem _ List.mem_cons_self),
      phase_phaseMutation, fun s hload _ => ?_⟩
    rw [read_stored (topic_rest hrest) hload]
    exact nofun
  exact ⟨operator, _, _, _, standard_eq, hrun, turns,
    provisioned_of_ready (isStandard_of_standard standard_eq) hrun (.inl turns)⟩

end Operator

end ClusterOperator
