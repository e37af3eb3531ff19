import ClusterOperator.Proofs.Pass.Container
import ClusterOperator.Proofs.Pass.Readiness

/-!
# The courses of a pass in the world of a cluster

In a world without failures a pass takes one of three courses, and the answer to its lookup says
which: a deployment that is not found is submitted for the first time, one that has not ended is
waited for, and one that succeeded, with its checksums recorded, lets the pass go through
(`ensures_reconcile`).  What each of them does to the world is said once and for all here; what
happens over many passes is a matter of putting courses one after another.
-/

namespace ClusterOperator

/-! ## Rules for passes -/

namespace ClusterResource

variable {I : Interface} {α σ : Type} {answers : σ → Exchange I → σ → Prop} {m : Step I α}
  {ctx : PassContext} {s : σ}
  {post : List (Exchange I) → Except Failure α → PassContext → σ → Prop}

theorem ensures_discard (h : m.Ensures answers ctx s post) :
    (discard m).Ensures answers ctx s fun xs r after t =>
      ∃ result, post xs result after t ∧ r = result.map fun _ => () := by
  refine h.bind (fun xs e after t h => ⟨_, h, rfl⟩) fun xs a between t h => ?_
  refine Step.ensures_pure_iff.mpr ⟨.ok a, ?_, rfl⟩
  rwa [List.append_nil]

end ClusterResource

namespace ResourceSet

variable {I : Interface} {σ : Type} {answers : σ → Exchange I → σ → Prop} {cluster : Cluster}
  {first : ClusterResource I} {rest : List (ClusterResource I)} {ctx : PassContext} {s : σ}
  {post : List (Exchange I) → Except Failure Unit → PassContext → σ → Prop}
  {next : List (Exchange I) → Except Failure PassOutcome → PassContext → σ → Prop}

/-- A pass ends with the failure of its first resource, or canceled by it, or goes on. -/
theorem ensures_passOver_cons (h : (first.ensureCreated cluster).Ensures answers ctx s post)
    (fails : ∀ xs e after t, post xs (.error e) after t → next xs (.error e) after t)
    (cancels : ∀ xs after t reason, post xs (.ok ()) after t → after.cancelReason = some reason →
      next xs (.ok (.canceled first.name reason)) after t)
    (goes : ∀ xs between t, post xs (.ok ()) between t → between.isCanceled = false →
      (passOver cluster rest).Ensures answers between t fun ys r after u =>
        next (xs ++ ys) r after u) :
    (passOver cluster (first :: rest)).Ensures answers ctx s next := by
  refine h.bind fails fun xs _ between t hpost => ?_
  refine Step.ensures_context_bind_iff.mpr ?_
  split
  · rename_i reason hreason
    refine Step.ensures_pure_iff.mpr ?_
    rw [List.append_nil]
    exact cancels xs between t reason hpost hreason
  · rename_i hnone
    exact goes xs between t hpost (PassContext.cancelReason_eq_none_iff.mp hnone)

end ResourceSet

/-- What the lookup of a pass was answered; it is the first thing that a pass asks. -/
def lookedUp? : List (Exchange gateway) → Option (Except CloudFault DeploymentState)
  | ⟨.lookUp _ _, r⟩ :: _ => some r
  | _ => none

namespace World

variable {γ : Type} {site : Site} {cloud : γ → Exchange gateway → γ → Prop} {w : World γ}
  {cluster : Cluster} {observed : DeploymentState} {d : Deployment} {ctx : PassContext}

/-! ## The deployment -/

section

variable {o : DeploymentOrchestrator}

/-- The lookup of a deployment, with its answer. -/
def lookUpOf (o : DeploymentOrchestrator) (cluster : Cluster)
    (reply : Except CloudFault DeploymentState) : Exchange gateway :=
  ⟨.lookUp cluster.resourceGroup (o.deploymentName cluster), reply⟩

/-- **What a lookup may be answered**: that the deployment does not exist, by a cloud that accepts
what is submitted; that it has not ended; or that it succeeded, when its checksums are
recorded. -/
def Foreseen (cloud : γ → Exchange gateway → γ → Prop) (o : DeploymentOrchestrator)
    (cluster : Cluster) (observed : DeploymentState) (d : Deployment) (w : World γ) : Prop :=
  ∀ reply c, cloud w.cloud (lookUpOf o cluster reply) c →
    (∃ fault, reply = .error fault ∧ fault.isNotFound = true ∧ Accepting cloud) ∨
    (∃ running, reply = .ok running ∧ running.state.isFinal = false) ∨
    reply = .ok observed ∧
      w.status.checksums d.name = (some d.templateChecksum, some d.parametersChecksum)

/-- **What a look at the deployment does**, by the answer to the lookup. -/
inductive Looked (cloud : γ → Exchange gateway → γ → Prop) (o : DeploymentOrchestrator)
    (cluster : Cluster) (observed : DeploymentState) (d : Deployment) (ctx : PassContext)
    (w : World γ) : List (Exchange gateway) → Except Failure DeploymentOutcome → PassContext →
      World γ → Prop where
  | created (fault : CloudFault) (c : γ) (xs : List (Exchange gateway)) (after : PassContext)
      (w' : World γ) : fault.isNotFound = true →
      cloud w.cloud (lookUpOf o cluster (.error fault)) c → after.isCanceled = true →
      Submitted cloud cluster d true { w with cloud := c } xs w' →
      Looked cloud o cluster observed d ctx w (lookUpOf o cluster (.error fault) :: xs)
        (.ok (.submitted true)) after w'
  | awaited (running : DeploymentState) (c : γ) (xs : List (Exchange gateway))
      (after : PassContext) : running.state.isFinal = false →
      cloud w.cloud (lookUpOf o cluster (.ok running)) c → after.isCanceled = true →
      effects xs = [] →
      Looked cloud o cluster observed d ctx w (lookUpOf o cluster (.ok running) :: xs)
        (.ok (.inProgress running.state)) after { w with cloud := c }
  | upToDate (c : γ) (xs : List (Exchange gateway)) :
      cloud w.cloud (lookUpOf o cluster (.ok observed)) c → effects xs = [] →
      Looked cloud o cluster observed d ctx w (lookUpOf o cluster (.ok observed) :: xs)
        (.ok .upToDate)
        (DeploymentOrchestrator.publish o.definition.outputs observed.outputs ctx)
        { w with cloud := c }

theorem ensures_ensureCreated (succeeded : observed.state = .succeeded)
    (made : (o.definition.parameters cluster).map (o.assemble cluster site.template) = .ok d)
    (foreseen : Foreseen cloud o cluster observed d w) :
    (o.ensureCreated cluster).Ensures (Answers site cloud) ctx w
      (Looked cloud o cluster observed d ctx w) := by
  refine Step.ensures_ask_bind_iff.mpr ?_
  rintro reply _ ⟨c, hcloud, rfl⟩
  rcases foreseen reply c hcloud with
    ⟨fault, rfl, missing, accepting⟩ | ⟨running, rfl, unended⟩ | ⟨rfl, recorded⟩
  · dsimp only
    rw [if_pos missing]
    refine (ensures_create accepting made).mono fun xs r after w' h => ?_
    obtain ⟨rfl, canceled, submitted⟩ := h
    exact .created fault c xs after w' missing hcloud canceled submitted
  · dsimp only
    rw [if_neg (by simp [unended])]
    refine ensures_await.mono fun xs r after w' h => ?_
    obtain ⟨rfl, canceled, hxs, rfl⟩ := h
    exact .awaited running c xs after unended hcloud canceled hxs
  · dsimp only
    rw [if_pos (by rw [succeeded]; rfl)]
    have hreview : (o.review cluster observed).Ensures (Answers site cloud) ctx
        { w with cloud := c } _ := ensures_review succeeded made recorded
    refine hreview.mono fun xs r after w' h => ?_
    obtain ⟨rfl, rfl, hxs, rfl⟩ := h
    exact .upToDate c xs hcloud hxs

end

/-! ## The pass -/

section

variable {o : Operator gateway} {watchdog : Nat}

open Operator (orchestrator)

/-- **The plan for a cluster**: the deployment that is wanted of it, and the state of the
deployment that gives the boot objects all that they require. -/
structure Plan (site : Site) (o : Operator gateway) (cluster : Cluster)
    (observed : DeploymentState) (d : Deployment) : Prop where
  succeeded : observed.state = .succeeded
  made : (MainDeployment.parameters o.config.subnets cluster).map
    ((orchestrator o.config).assemble cluster site.template) = .ok d
  valid : (o.bootContext cluster observed).validate BootObjects.resourceName
    BootObjects.requirements = .ok ()

/-- **What a pass over the resources does**, by the answer to its lookup. -/
inductive Traversed (site : Site) (cloud : γ → Exchange gateway → γ → Prop)
    (o : Operator gateway) (cluster : Cluster) (observed : DeploymentState) (d : Deployment)
    (w : World γ) :
    List (Exchange gateway) → Except Failure PassOutcome → World γ → Prop where
  | created (fault : CloudFault) (c : γ) (xs : List (Exchange gateway)) (w' : World γ)
      (reason : String) : fault.isNotFound = true →
      cloud w.cloud (lookUpOf (orchestrator o.config) cluster (.error fault)) c →
      Submitted cloud cluster d true { w with cloud := c } xs w' →
      Traversed site cloud o cluster observed d w
        (lookUpOf (orchestrator o.config) cluster (.error fault) :: xs)
        (.ok (.canceled "deployment" reason)) w'
  | awaited (running : DeploymentState) (c : γ) (xs : List (Exchange gateway))
      (reason : String) : running.state.isFinal = false →
      cloud w.cloud (lookUpOf (orchestrator o.config) cluster (.ok running)) c →
      effects xs = [] →
      Traversed site cloud o cluster observed d w
        (lookUpOf (orchestrator o.config) cluster (.ok running) :: xs)
        (.ok (.canceled "deployment" reason)) { w with cloud := c }
  | wentThrough (c : γ) (xs ys zs : List (Exchange gateway)) (w' : World γ) :
      cloud w.cloud (lookUpOf (orchestrator o.config) cluster (.ok observed)) c →
      effects xs = [] →
      BootObjects.Converged site cluster (o.bootContext cluster observed) (o.bootStorage cluster)
        { w with cloud := c } ys w' →
      (∀ q ∈ effects zs, q.effect? = some .guard) →
      Traversed site cloud o cluster observed d w
        (lookUpOf (orchestrator o.config) cluster (.ok observed) :: xs ++ (ys ++ zs))
        (.ok .completed) w'

theorem isCanceled_bootContext : (o.bootContext cluster observed).isCanceled = false :=
  DeploymentOrchestrator.isCanceled_publish.trans ResourceSet.isCanceled_newContext

/-- The resources that follow a deployment that was published. -/
theorem ensures_afterDeployment (standard : o.IsStandard watchdog)
    (valid : (o.bootContext cluster observed).validate BootObjects.resourceName
      BootObjects.requirements = .ok ()) :
    (ResourceSet.passOver cluster [.bootObjects, .instanceGuard watchdog]).Ensures
      (Answers site cloud) (o.bootContext cluster observed) w fun xs r _ w' =>
        r = .ok .completed ∧ ∃ ys zs, xs = ys ++ zs ∧
          BootObjects.Converged site cluster (o.bootContext cluster observed)
            (o.bootStorage cluster) w ys w' ∧
          ∀ q ∈ effects zs, q.effect? = some .guard := by
  have storage : (o.bootContext cluster observed).storage = some (o.bootStorage cluster) := by
    rw [Operator.bootContext, DeploymentOrchestrator.storage_publish, standard.resources]
    rfl
  have live : (o.bootContext cluster observed).isCanceled = false := isCanceled_bootContext
  refine ResourceSet.ensures_passOver_cons (ClusterResource.ensures_discard
    (BootObjects.ensures_reconcile storage live valid)) ?_ ?_ ?_
  · rintro ys e _ w' ⟨_, ⟨⟨found, rfl⟩, -⟩, heq⟩
    cases heq
  · rintro ys _ w' reason ⟨_, ⟨-, rfl, -⟩, -⟩ hreason
    rw [PassContext.cancelReason_eq_none_iff.mpr live] at hreason
    cases hreason
  rintro ys ctx w' ⟨_, ⟨-, rfl, converged⟩, -⟩ -
  have guards : ((ClusterResource.instanceGuard watchdog).ensureCreated cluster).Ensures
      (Answers site cloud) (o.bootContext cluster observed) w' fun zs r after w'' =>
        r = .ok () ∧ after = o.bootContext cluster observed ∧ w'' = w' ∧
          ∀ q ∈ effects zs, q.effect? = some .guard :=
    Step.ensures_lift_iff.mpr (ensures_guardAll.mono fun _ _ _ h => ⟨rfl, rfl, h⟩)
  refine ResourceSet.ensures_passOver_cons guards ?_ ?_ ?_
  · rintro zs e _ _ ⟨he, -⟩
    cases he
  · rintro zs _ w'' reason ⟨-, rfl, -⟩ hreason
    rw [PassContext.cancelReason_eq_none_iff.mpr live] at hreason
    cases hreason
  rintro zs ctx w'' ⟨-, rfl, rfl, hguards⟩ -
  refine Step.ensures_pure_iff.mpr ⟨rfl, ys, zs, ?_, converged, hguards⟩
  rw [List.append_nil]

theorem ensures_passOver (standard : o.IsStandard watchdog)
    (plan : Plan site o cluster observed d)
    (foreseen : Foreseen cloud (orchestrator o.config) cluster observed d w) :
    (ResourceSet.passOver cluster o.resources.resources).Ensures (Answers site cloud)
      (o.resources.newContext cluster) w fun xs r _ w' =>
        Traversed site cloud o cluster observed d w xs r w' := by
  have hresources : o.resources.resources = [.deployment (orchestrator o.config), .bootObjects,
      .instanceGuard watchdog] := by
    rw [standard.resources]
    rfl
  have published : DeploymentOrchestrator.publish (orchestrator o.config).definition.outputs
      observed.outputs (o.resources.newContext cluster) = o.bootContext cluster observed := rfl
  rw [hresources]
  refine ResourceSet.ensures_passOver_cons
    (ClusterResource.ensures_discard (ensures_ensureCreated plan.succeeded plan.made foreseen))
    ?_ ?_ ?_
  · rintro xs e after w' ⟨_, looked, heq⟩
    cases looked <;> cases heq
  · rintro xs after w' reason ⟨_, looked, -⟩ hreason
    cases looked with
    | created fault c xs _ _ missing hcloud _ submitted =>
      exact .created fault c xs w' reason missing hcloud submitted
    | awaited running c xs _ unended hcloud _ hxs =>
      exact .awaited running c xs reason unended hcloud hxs
    | upToDate =>
      rw [published, PassContext.cancelReason_eq_none_iff.mpr isCanceled_bootContext] at hreason
      cases hreason
  · rintro xs between w' ⟨_, looked, -⟩ live
    cases looked with
    | created _ _ _ _ _ _ _ canceled => rw [canceled] at live; cases live
    | awaited _ _ _ _ _ _ canceled => rw [canceled] at live; cases live
    | upToDate c xs hcloud hxs =>
      refine (ensures_afterDeployment standard plan.valid).mono ?_
      rintro _ _ _ w' ⟨rfl, ys, zs, rfl, converged, guards⟩
      exact .wentThrough c xs ys zs w' hcloud hxs converged guards

/-- **What a pass that waits does**: it ends canceled, records that the cluster is being
provisioned, writes no object and has nothing guarded. -/
structure Waited (o : Operator gateway) (cluster : Cluster) (w : World γ)
    (xs : List (Exchange gateway)) (r : Except Failure NextStep) (w' : World γ) : Prop where
  canceled : ∃ ys zs resource reason, xs = ys ++ zs ∧
    (o.resources.reconcile cluster).Transcript ys (.ok (.canceled resource reason))
  answer : r = .ok (.requeue o.config.notReadyRequeue)
  phase : w'.status.phase = .provisioning
  objects : w'.objects = w.objects
  noObjectWritten : Effect.objectWrite.among xs = []
  notGuarded : Effect.guard.among xs = []

/-- The objects of the roles are in the container as they are rendered. -/
def HasObjects (site : Site) (o : Operator gateway) (cluster : Cluster)
    (observed : DeploymentState) (w : World γ) : Prop :=
  ∀ record ∈ BootObjects.rendered site cluster (o.bootContext cluster observed)
      (o.bootStorage cluster), record ∈ BootObjects.managed (o.bootStorage cluster) w.objects

/-- **What a pass that goes through does**: it submits nothing, sees to it that the objects of
the roles are there, and records that the cluster is ready. -/
structure Completed (site : Site) (o : Operator gateway) (cluster : Cluster)
    (observed : DeploymentState) (w : World γ) (xs : List (Exchange gateway))
    (r : Except Failure NextStep) (w' : World γ) : Prop where
  goesThrough : o.GoesThrough cluster xs
  answer : r = .ok (.requeue o.config.readyRequeue)
  phase : w'.status.phase = .ready
  message : w'.status.message = none
  checksums : w'.status.checksums = w.status.checksums
  objects : HasObjects site o cluster observed w'
  notSubmitted : Effect.submission.among xs = []
  /-- Objects that are there are not written again. -/
  noObjectWritten : HasObjects site o cluster observed w → Effect.objectWrite.among xs = []
  objectsWritten : w.objects = ∅ → Effect.objectWrite.among xs =
    (BootObjects.rendered site cluster (o.bootContext cluster observed) (o.bootStorage cluster)).map
      BootObjects.writeOf
  /-- Readiness that is recorded is not recorded again. -/
  noStatusWritten : w.status.phase = .ready → w.status.message = none →
    Effect.statusWrite.among xs = []

/-- **What a pass does**, by the answer to its lookup. -/
inductive Passed (site : Site) (cloud : γ → Exchange gateway → γ → Prop) (o : Operator gateway)
    (cluster : Cluster) (observed : DeploymentState) (d : Deployment) (w : World γ)
    (xs : List (Exchange gateway)) (r : Except Failure NextStep) (w' : World γ) : Prop where
  | created (fault : CloudFault) (c : γ) : lookedUp? xs = some (.error fault) →
      cloud w.cloud (lookUpOf (orchestrator o.config) cluster (.error fault)) c →
      cloud c ⟨.submit cluster.resourceGroup d.name (d.request true), .ok ()⟩ w'.cloud →
      w'.status.checksums d.name = (some d.templateChecksum, some d.parametersChecksum) →
      Effect.submission.among xs =
        [.submit cluster.resourceGroup d.name (d.request true)] →
      Waited o cluster w xs r w' → Passed site cloud o cluster observed d w xs r w'
  | awaited (running : DeploymentState) : lookedUp? xs = some (.ok running) →
      running.state.isFinal = false →
      cloud w.cloud (lookUpOf (orchestrator o.config) cluster (.ok running)) w'.cloud →
      w'.status.checksums = w.status.checksums → Effect.submission.among xs = [] →
      Waited o cluster w xs r w' → Passed site cloud o cluster observed d w xs r w'
  | completed : lookedUp? xs = some (.ok observed) →
      cloud w.cloud (lookUpOf (orchestrator o.config) cluster (.ok observed)) w'.cloud →
      Completed site o cluster observed w xs r w' → Passed site cloud o cluster observed d w xs r w'

/-- A phase is recorded, and it is decided when to look again. -/
theorem ensures_recordAndRequeue (gated : o.status = gatewayStore) {name : String} {phase : Phase}
    {message : Option String} {delay : Duration} :
    (o.recordAndRequeue name phase message delay).Ensures (Answers site cloud) w fun xs r w' =>
      r = .ok (.requeue delay) ∧ PhaseSet phase message w xs w' := by
  refine Program.ensures_map_iff.mpr ((ensures_setPhase gated).mono ?_)
  rintro xs _ w' ⟨⟨written, rfl⟩, phaseSet⟩
  exact ⟨rfl, phaseSet⟩

variable {xs ys : List (Exchange gateway)} {between w' : World γ}

theorem passed_of_canceled {resource reason message : String}
    (htranscript : (o.resources.reconcile cluster).Transcript xs (.ok (.canceled resource reason)))
    (traversed : Traversed site cloud o cluster observed d w xs (.ok (.canceled resource reason))
      between)
    (phaseSet : PhaseSet .provisioning (some message) between ys w') :
    Passed site cloud o cluster observed d w (xs ++ ys)
      (.ok (.requeue o.config.notReadyRequeue)) w' := by
  have canceled : ∃ as bs resource reason, xs ++ ys = as ++ bs ∧
      (o.resources.reconcile cluster).Transcript as (.ok (.canceled resource reason)) :=
    ⟨xs, ys, resource, reason, rfl, htranscript⟩
  cases traversed with
  | created fault c xs _ reason _ hcloud submitted =>
    obtain ⟨stores, honly, hstores⟩ := submitted.only
    -- After the submission the status is written, and nothing else is changed.
    have among (e : Effect) (hne : e ≠ .statusWrite) :
        e.among (lookUpOf (orchestrator o.config) cluster (.error fault) :: xs ++ ys) =
          [.submit cluster.resourceGroup d.name (d.request true)].filter
            (·.effect? = some e) := by
      rw [Effect.among_append, Effect.among_eq_nil phaseSet.stores hne,
        Effect.among_eq_filter_effects, effects_cons_of_none rfl, honly, List.append_nil]
      have hnone : stores.filter (fun q => decide (q.effect? = some e)) = [] :=
        List.filter_eq_nil_iff.mpr fun q hq => by simp [hstores q hq, Ne.symm hne]
      rw [List.filter_cons, List.filter_cons, hnone, List.filter_nil]
    refine .created fault c rfl hcloud ?_ ?_ (among _ nofun) ⟨canceled, rfl, phaseSet.phase_eq,
      phaseSet.objects.trans submitted.objects, among _ nofun, among _ nofun⟩
    · rw [phaseSet.cloud]
      exact submitted.accepted
    · rw [phaseSet.checksums]
      exact submitted.checksums
  | awaited running c xs reason unended hcloud hxs =>
    have among (e : Effect) (hne : e ≠ .statusWrite) :
        e.among (lookUpOf (orchestrator o.config) cluster (.ok running) :: xs ++ ys) = [] := by
      refine Effect.among_eq_nil ?_ hne
      rw [effects_append, effects_cons_of_none rfl, hxs]
      exact phaseSet.stores
    refine .awaited running rfl unended ?_ phaseSet.checksums (among _ nofun)
      ⟨canceled, rfl, phaseSet.phase_eq, phaseSet.objects, among _ nofun, among _ nofun⟩
    rw [phaseSet.cloud]
    exact hcloud

theorem passed_of_completed
    (htranscript : (o.resources.reconcile cluster).Transcript xs (.ok .completed))
    (traversed : Traversed site cloud o cluster observed d w xs (.ok .completed) between)
    (phaseSet : PhaseSet .ready none between ys w') :
    Passed site cloud o cluster observed d w (xs ++ ys)
      (.ok (.requeue o.config.readyRequeue)) w' := by
  have goesThrough : o.GoesThrough cluster (xs ++ ys) := ⟨xs, ys, rfl, htranscript⟩
  cases traversed with
  | wentThrough c as bs cs _ hcloud has converged guards =>
    have hstatus : between.status = w.status := converged.status
    -- Objects are written, scale sets are guarded, and the status is written, in this order.
    have quiet : effects (lookUpOf (orchestrator o.config) cluster (.ok observed) :: as) = [] := by
      rw [effects_cons_of_none rfl, has]
    have among (e : Effect) : e.among
        (lookUpOf (orchestrator o.config) cluster (.ok observed) :: as ++ (bs ++ cs) ++ ys) =
          e.among bs ++ e.among cs ++ e.among ys := by
      rw [Effect.among_append, Effect.among_append, Effect.among_append,
        Effect.among_of_effects_eq_nil quiet, List.nil_append]
    have apart (e : Effect) (hne : e ≠ .objectWrite) : e.among bs = [] :=
      Effect.among_eq_nil converged.effect?_eq hne
    have unguarded (e : Effect) (hne : e ≠ .guard) : e.among cs = [] :=
      Effect.among_eq_nil guards hne
    have unstored (e : Effect) (hne : e ≠ .statusWrite) : e.among ys = [] :=
      Effect.among_eq_nil phaseSet.stores hne
    have amongObjects : Effect.objectWrite.among
        (lookUpOf (orchestrator o.config) cluster (.ok observed) :: as ++ (bs ++ cs) ++ ys) =
          effects bs := by
      rw [among, Effect.among_eq_effects converged.effect?_eq, unguarded .objectWrite nofun,
        unstored .objectWrite nofun, List.append_nil, List.append_nil]
    refine .completed rfl ?_ {
      goesThrough, answer := rfl, phase := phaseSet.phase_eq, message := phaseSet.message_eq
      checksums := by rw [phaseSet.checksums, hstatus]
      objects := ?_
      notSubmitted := ?_
      noObjectWritten := fun there => amongObjects.trans (converged.effects_eq_nil there)
      objectsWritten := fun empty => amongObjects.trans (converged.effects_of_empty empty)
      noStatusWritten := fun phase message => ?_ }
    · rw [phaseSet.cloud, converged.cloud]
      exact hcloud
    · rw [HasObjects, phaseSet.objects]
      exact converged.stored
    · rw [among, apart .submission nofun, unguarded .submission nofun, unstored .submission nofun]
      rfl
    · rw [← hstatus] at phase message
      rw [among, apart .statusWrite nofun, unguarded .statusWrite nofun,
        Effect.among_of_effects_eq_nil (phaseSet.idle phase message)]
      rfl

/-- **Every pass takes one of the three courses.** -/
theorem ensures_reconcile (standard : o.IsStandard watchdog) (present : cluster.deleting = false)
    (plan : Plan site o cluster observed d)
    (foreseen : Foreseen cloud (orchestrator o.config) cluster observed d w) :
    (o.reconcile cluster).Ensures (Answers site cloud) w
      (Passed site cloud o cluster observed d w) := by
  have hreconcile : o.reconcile cluster =
      (o.resources.reconcile cluster).bind (o.conclude cluster.name) := if_neg (by simp [present])
  rw [hreconcile]
  refine Program.ensures_bind_iff.mpr fun xs outcome between htranscript hserved => ?_
  obtain ⟨after, hpass⟩ := ResourceSet.reconcile_transcript_iff.mp htranscript
  have traversed := ensures_passOver standard plan foreseen xs outcome after between hpass hserved
  cases outcome with
  | error e => cases traversed
  | ok outcome =>
    cases outcome with
    | completed =>
      refine (ensures_recordAndRequeue standard.status).mono ?_
      rintro ys _ w' ⟨rfl, phaseSet⟩
      exact passed_of_completed htranscript traversed phaseSet
    | canceled resource reason =>
      refine (ensures_recordAndRequeue standard.status).mono ?_
      rintro ys _ w' ⟨rfl, phaseSet⟩
      exact passed_of_canceled htranscript traversed phaseSet

end

/-! ## Many passes -/

/-- A pass over a cluster, with the world that it left. -/
structure ClusterPass (γ : Type) where
  exchanges : List (Exchange gateway)
  result : Except Failure NextStep
  left : World γ

/-- The pass goes as the operator has it and as the world answers. -/
structure Takes (site : Site) (cloud : γ → Exchange gateway → γ → Prop) (o : Operator gateway)
    (cluster : Cluster) (w : World γ) (pass : ClusterPass γ) : Prop where
  transcript : (o.reconcile cluster).Transcript pass.exchanges pass.result
  served : Served (Answers site cloud) w pass.exchanges pass.left

/-- **Passes over a cluster, one after another**, from one world to another.  In between the
world may change in a way that `others` says. -/
inductive Passes (site : Site) (cloud : γ → Exchange gateway → γ → Prop)
    (others : World γ → World γ → Prop) (o : Operator gateway) (cluster : Cluster) :
    World γ → List (ClusterPass γ) → World γ → Prop where
  | done (w : World γ) : Passes site cloud others o cluster w [] w
  | pass {w w' : World γ} {pass : ClusterPass γ} {passes : List (ClusterPass γ)} :
      Takes site cloud o cluster w pass → Passes site cloud others o cluster pass.left passes w' →
      Passes site cloud others o cluster w (pass :: passes) w'
  | meanwhile {w v w' : World γ} {passes : List (ClusterPass γ)} : others w v →
      Passes site cloud others o cluster v passes w' →
      Passes site cloud others o cluster w passes w'

section

variable {others : World γ → World γ → Prop} {o : Operator gateway} {w' : World γ}
  {passes : List (ClusterPass γ)} {pass : ClusterPass γ}

theorem Passes.concat (h : Passes site cloud others o cluster w passes w')
    (takes : Takes site cloud o cluster w' pass) :
    Passes site cloud others o cluster w (passes ++ [pass]) pass.left := by
  induction h with
  | done w => exact .pass takes (.done _)
  | pass first _ ih => exact .pass first (ih takes)
  | meanwhile change _ ih => exact .meanwhile change (ih takes)

/-- There is always a next pass. -/
theorem exists_pass (responsive : Responsive cloud) (site : Site) (o : Operator gateway)
    (cluster : Cluster) (w : World γ) :
    ∃ pass : ClusterPass γ, Takes site cloud o cluster w pass := by
  obtain ⟨xs, r, w', htranscript, hserved⟩ :=
    Program.exists_served (exists_answer responsive) (o.reconcile cluster) w
  exact ⟨⟨xs, r, w'⟩, htranscript, hserved⟩

end

end World

end ClusterOperator
