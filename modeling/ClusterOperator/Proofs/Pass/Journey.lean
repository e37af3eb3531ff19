import ClusterOperator.Proofs.Deployment.Content
import ClusterOperator.Proofs.Pass.Courses

/-!
# From nothing to ready

A cluster begins with nothing: no deployment in the cloud and no object in its container.  The
deployment is submitted by the first pass, takes as long as it takes, and succeeds for good.
What the passes do on the way depends on what one of them leaves for the next: the checksums
that the first records are those that every later one computes, and the objects that the first
to see the success writes are those that every later one renders (`ready_from_nothing`).

A cluster that is being deleted is not on this way: a pass over it asks for nothing at all
(`Operator.deletion_transcript`).
-/

namespace ClusterOperator

open Operator (orchestrator)

/-! ## Outputs -/

namespace PassContext

variable {ctx : PassContext} {name value : String} {fields : List ContextField}
  {field other : ContextField}

theorem validate_of_isSet (h : ∀ f ∈ fields, ctx.isSet f = true) :
    ctx.validate name fields = .ok () := by
  have hmissing : (fields.filter fun f => !ctx.isSet f) = [] :=
    List.filter_eq_nil_iff.mpr fun f hf => by simp [h f hf]
  simp [validate, hmissing]

/-- An identifier that is set to a text that is not empty is set, and so is what was. -/
theorem isSet_setOutput (text : value ≠ "") (identifier : (ctx.setOutput field value).1 = true)
    (h : other = field ∨ ctx.isSet other = true) :
    (ctx.setOutput field value).2.isSet other = true := by
  rcases h with rfl | h
  · cases other <;> simp_all [setOutput, isSet, isUsable, nonEmpty]
  · cases field <;> cases other <;> simp_all [setOutput, isSet, isUsable, nonEmpty]

end PassContext

namespace DeploymentOrchestrator

variable {bindings : List OutputBinding} {outputs : Json} {ctx : PassContext}
  {field : ContextField}

/-- A text that is not empty is put out for every binding. -/
def PutsOut (bindings : List OutputBinding) (outputs : Json) : Prop :=
  ∀ b ∈ bindings, ∃ value, outputText? outputs b.output = some value ∧ value ≠ ""

/-- What is put out is set, and so is what was. -/
theorem isSet_publish (putsOut : PutsOut bindings outputs)
    (identifiers : ∀ b ∈ bindings, ∀ (ctx : PassContext) value,
      (ctx.setOutput b.field value).1 = true)
    (h : field ∈ bindings.map (·.field) ∨ ctx.isSet field = true) :
    (publish bindings outputs ctx).isSet field = true := by
  unfold publish
  induction bindings generalizing ctx with
  | nil => exact h.resolve_left nofun
  | cons b rest ih =>
    obtain ⟨⟨value, hvalue, text⟩, hrest⟩ := List.forall_mem_cons.mp putsOut
    obtain ⟨identifier, hidentifiers⟩ := List.forall_mem_cons.mp identifiers
    rw [List.foldl_cons, hvalue]
    refine ih hrest hidentifiers ?_
    rcases h with hfield | hset
    · rcases List.mem_cons.mp hfield with rfl | hlater
      · exact .inr (PassContext.isSet_setOutput text (identifier ctx value) (.inl rfl))
      · exact .inl hlater
    · exact .inr (PassContext.isSet_setOutput text (identifier ctx value) (.inr hset))

end DeploymentOrchestrator

/-! ## The cloud -/

/-- How far a deployment is in the cloud: it does not exist, or it is yet to be found in some
states before it is found to have succeeded. -/
inductive DeploymentStage where
  | absent
  | underway (left : List DeploymentState)

/-- **A cloud that provisions what is submitted.**  It accepts every submission.  A deployment
is not found until it is submitted; then it is found in the states of `schedule`, one after
another, and from then on as `observed`. -/
inductive DeploymentStage.Answers (schedule : List DeploymentState) (observed : DeploymentState) :
    DeploymentStage → Exchange gateway → DeploymentStage → Prop where
  | missing (group name : String) (fault : CloudFault) : fault.isNotFound = true →
      Answers schedule observed .absent ⟨.lookUp group name, .error fault⟩ .absent
  | passing (group name : String) (state : DeploymentState) (left : List DeploymentState) :
      Answers schedule observed (.underway (state :: left)) ⟨.lookUp group name, .ok state⟩
        (.underway left)
  | succeeded (group name : String) :
      Answers schedule observed (.underway []) ⟨.lookUp group name, .ok observed⟩ (.underway [])
  | begins (group name : String) (body : DeploymentRequest) :
      Answers schedule observed .absent ⟨.submit group name body, .ok ()⟩ (.underway schedule)
  | again (group name : String) (body : DeploymentRequest) (left : List DeploymentState) :
      Answers schedule observed (.underway left) ⟨.submit group name body, .ok ()⟩
        (.underway left)

namespace World

section

variable {site : Site} {o : Operator gateway} {watchdog : Nat} {cluster : Cluster}
  {schedule left : List DeploymentState} {state observed : DeploymentState} {d : Deployment}
  {w w' : World DeploymentStage} {pass : ClusterPass DeploymentStage}
  {passes : List (ClusterPass DeploymentStage)}

theorem accepting_stages : Accepting (DeploymentStage.Answers schedule observed) := by
  rintro _ _ _ _ _ _ (_ | _)
  · rfl
  · rfl

theorem responsive_stages : Responsive (DeploymentStage.Answers schedule observed) where
  lookUp stage group name := by
    cases stage with
    | absent => exact ⟨_, _, .missing group name (.notFound "DeploymentNotFound" "") rfl⟩
    | underway left =>
      cases left with
      | nil => exact ⟨_, _, .succeeded group name⟩
      | cons state left => exact ⟨_, _, .passing group name state left⟩
  submit stage group name body := by
    cases stage with
    | absent => exact ⟨_, _, .begins group name body⟩
    | underway left => exact ⟨_, _, .again group name body left⟩

section

variable {reply : Except CloudFault DeploymentState} {stage : DeploymentStage}
  {orchestrator : DeploymentOrchestrator}

/-! What a lookup finds in each stage, and the stage that it leaves. -/

theorem lookUp_of_absent (h : DeploymentStage.Answers schedule observed .absent
    (lookUpOf orchestrator cluster reply) stage) :
    ∃ fault, reply = .error fault ∧ fault.isNotFound = true ∧ stage = .absent := by
  unfold lookUpOf at h
  cases h with
  | missing _ _ fault missing => exact ⟨fault, rfl, missing, rfl⟩

theorem lookUp_of_passing (h : DeploymentStage.Answers schedule observed
    (.underway (state :: left)) (lookUpOf orchestrator cluster reply) stage) :
    reply = .ok state ∧ stage = .underway left := by
  unfold lookUpOf at h
  cases h with
  | passing => exact ⟨rfl, rfl⟩

theorem lookUp_of_succeeded (h : DeploymentStage.Answers schedule observed (.underway [])
    (lookUpOf orchestrator cluster reply) stage) :
    reply = .ok observed ∧ stage = .underway [] := by
  unfold lookUpOf at h
  cases h with
  | succeeded => exact ⟨rfl, rfl⟩

end

/-- A deployment that puts out all that is bound gives the boot objects what they require. -/
theorem plan_of_putsOut (standard : o.IsStandard watchdog) (succeeded : observed.state = .succeeded)
    (putsOut : DeploymentOrchestrator.PutsOut MainDeployment.outputs observed.outputs)
    (made : (MainDeployment.parameters o.config.subnets cluster).map
      ((orchestrator o.config).assemble cluster site.template) = .ok d) :
    Plan site o cluster observed d := by
  refine ⟨succeeded, made, PassContext.validate_of_isSet fun field _ => ?_⟩
  refine DeploymentOrchestrator.isSet_publish putsOut MainDeployment.identifier_of_mem_outputs ?_
  rw [standard.resources]
  cases field with
  | storageContainer | cloudConfig => exact .inr rfl
  | _ => exact .inl (by decide)

/-! ## What single passes do -/

/-- **A pass that waits**: it has not seen the deployment succeed, it ends canceled and leaves
the cluster as being provisioned, and it writes no object and has nothing guarded. -/
structure Waits (o : Operator gateway) (cluster : Cluster) (pass : ClusterPass DeploymentStage) :
    Prop where
  unseen : ∀ state, lookedUp? pass.exchanges = some (.ok state) → state.state ≠ .succeeded
  canceled : ∃ ys zs resource reason, pass.exchanges = ys ++ zs ∧
    (o.resources.reconcile cluster).Transcript ys (.ok (.canceled resource reason))
  answer : pass.result = .ok (.requeue o.config.notReadyRequeue)
  phase : pass.left.status.phase = .provisioning
  noObjectWritten : Effect.objectWrite.among pass.exchanges = []
  notGuarded : Effect.guard.among pass.exchanges = []

/-- **A pass that makes ready**: it sees that the deployment has succeeded, goes through and
leaves the cluster ready. -/
structure MakesReady (o : Operator gateway) (cluster : Cluster) (observed : DeploymentState)
    (pass : ClusterPass DeploymentStage) : Prop where
  seen : lookedUp? pass.exchanges = some (.ok observed)
  goesThrough : o.GoesThrough cluster pass.exchanges
  answer : pass.result = .ok (.requeue o.config.readyRequeue)
  phase : pass.left.status.phase = .ready

/-- The deployment was submitted, its checksums are recorded, and no object was written. -/
structure Underway (d : Deployment) (left : List DeploymentState) (w : World DeploymentStage) :
    Prop where
  stage : w.cloud = .underway left
  unended : ∀ state ∈ left, state.state.isFinal = false
  recorded : w.status.checksums d.name = (some d.templateChecksum, some d.parametersChecksum)
  objects : w.objects = ∅

/-- The deployment has succeeded with the checksums that are recorded, and the objects are as
they are rendered. -/
structure Arrived (site : Site) (o : Operator gateway) (cluster : Cluster)
    (observed : DeploymentState) (d : Deployment) (w : World DeploymentStage) : Prop where
  stage : w.cloud = .underway []
  recorded : w.status.checksums d.name = (some d.templateChecksum, some d.parametersChecksum)
  objects : HasObjects site o cluster observed w

theorem foreseen_of_absent (h : w.cloud = .absent) :
    Foreseen (DeploymentStage.Answers schedule observed) (orchestrator o.config) cluster observed d
      w := by
  intro reply c hcloud
  rw [h] at hcloud
  obtain ⟨fault, rfl, missing, -⟩ := lookUp_of_absent hcloud
  exact .inl ⟨fault, rfl, missing, accepting_stages⟩

theorem foreseen_of_underway (h : w.cloud = .underway left)
    (unended : ∀ state ∈ left, state.state.isFinal = false)
    (recorded : w.status.checksums d.name = (some d.templateChecksum, some d.parametersChecksum)) :
    Foreseen (DeploymentStage.Answers schedule observed) (orchestrator o.config) cluster observed d
      w := by
  intro reply c hcloud
  rw [h] at hcloud
  cases left with
  | nil =>
    obtain ⟨rfl, -⟩ := lookUp_of_succeeded hcloud
    exact .inr (.inr ⟨rfl, recorded⟩)
  | cons state left =>
    obtain ⟨rfl, -⟩ := lookUp_of_passing hcloud
    exact .inr (.inl ⟨state, rfl, unended state List.mem_cons_self⟩)

theorem Waited.waits (h : Waited o cluster w pass.exchanges pass.result pass.left)
    (unseen : ∀ state, lookedUp? pass.exchanges = some (.ok state) → state.state ≠ .succeeded) :
    Waits o cluster pass :=
  ⟨unseen, h.canceled, h.answer, h.phase, h.noObjectWritten, h.notGuarded⟩

theorem Completed.makesReady
    (h : Completed site o cluster observed w pass.exchanges pass.result pass.left)
    (seen : lookedUp? pass.exchanges = some (.ok observed)) : MakesReady o cluster observed pass :=
  ⟨seen, h.goesThrough, h.answer, h.phase⟩

/-- Where no deployment exists, a pass submits it for the first time and waits. -/
theorem submits_of_absent (standard : o.IsStandard watchdog) (present : cluster.deleting = false)
    (plan : Plan site o cluster observed d)
    (unended : ∀ state ∈ schedule, state.state.isFinal = false) (absent : w.cloud = .absent)
    (empty : w.objects = ∅)
    (takes : Takes site (DeploymentStage.Answers schedule observed) o cluster w pass) :
    Waits o cluster pass ∧
      Effect.submission.among pass.exchanges =
        [.submit cluster.resourceGroup d.name (d.request true)] ∧
      Underway d schedule pass.left := by
  cases ensures_reconcile standard present plan (foreseen_of_absent absent) _ _ _
    takes.transcript takes.served with
  | created fault c seen hcloud accepted recorded submitted waited =>
    have unseen : ∀ state, lookedUp? pass.exchanges = some (.ok state) →
        state.state ≠ .succeeded := by
      intro state hstate
      rw [seen] at hstate
      cases hstate
    have stage : pass.left.cloud = .underway schedule := by
      rw [absent] at hcloud
      obtain ⟨_, -, -, rfl⟩ := lookUp_of_absent hcloud
      generalize pass.left.cloud = stage at accepted
      cases accepted
      rfl
    exact ⟨waited.waits unseen, submitted, stage, unended, recorded, waited.objects.trans empty⟩
  | awaited running _ _ hcloud =>
    rw [absent] at hcloud
    obtain ⟨_, ⟨⟩, -⟩ := lookUp_of_absent hcloud
  | completed _ hcloud =>
    rw [absent] at hcloud
    obtain ⟨_, ⟨⟩, -⟩ := lookUp_of_absent hcloud

/-- While the deployment is in a state that is not final, a pass waits. -/
theorem Underway.waits (h : Underway d (state :: left) w) (standard : o.IsStandard watchdog)
    (present : cluster.deleting = false) (plan : Plan site o cluster observed d)
    (takes : Takes site (DeploymentStage.Answers schedule observed) o cluster w pass) :
    Waits o cluster pass ∧ Effect.submission.among pass.exchanges = [] ∧
      Underway d left pass.left := by
  obtain ⟨unended, hleft⟩ := List.forall_mem_cons.mp h.unended
  have running : state.state ≠ .succeeded := by
    intro succeeded
    rw [succeeded] at unended
    cases unended
  cases ensures_reconcile standard present plan
    (foreseen_of_underway h.stage h.unended h.recorded) _ _ _ takes.transcript takes.served with
  | created fault c _ hcloud =>
    rw [h.stage] at hcloud
    obtain ⟨⟨⟩, -⟩ := lookUp_of_passing hcloud
  | awaited found seen _ hcloud checksums notSubmitted waited =>
    rw [h.stage] at hcloud
    obtain ⟨hfound, stage⟩ := lookUp_of_passing hcloud
    have unseen : ∀ other, lookedUp? pass.exchanges = some (.ok other) →
        other.state ≠ .succeeded := by
      intro other hother
      rw [seen, hfound] at hother
      cases hother
      exact running
    exact ⟨waited.waits unseen, notSubmitted, stage, hleft, checksums ▸ h.recorded,
      waited.objects.trans h.objects⟩
  | completed _ hcloud =>
    rw [h.stage] at hcloud
    obtain ⟨⟨⟩, -⟩ := lookUp_of_passing hcloud
    exact absurd plan.succeeded running

/-- Where the deployment has succeeded and its checksums are recorded, a pass goes through. -/
theorem completed_of_stage (standard : o.IsStandard watchdog) (present : cluster.deleting = false)
    (plan : Plan site o cluster observed d) (stage : w.cloud = .underway [])
    (recorded : w.status.checksums d.name = (some d.templateChecksum, some d.parametersChecksum))
    (takes : Takes site (DeploymentStage.Answers schedule observed) o cluster w pass) :
    MakesReady o cluster observed pass ∧ pass.left.cloud = .underway [] ∧
      Completed site o cluster observed w pass.exchanges pass.result pass.left := by
  cases ensures_reconcile standard present plan (foreseen_of_underway stage nofun recorded) _ _ _
    takes.transcript takes.served with
  | created fault c _ hcloud =>
    rw [stage] at hcloud
    obtain ⟨⟨⟩, -⟩ := lookUp_of_succeeded hcloud
  | awaited running _ unended hcloud =>
    rw [stage] at hcloud
    obtain ⟨⟨⟩, -⟩ := lookUp_of_succeeded hcloud
    rw [plan.succeeded] at unended
    cases unended
  | completed seen hcloud completed =>
    rw [stage] at hcloud
    exact ⟨completed.makesReady seen, (lookUp_of_succeeded hcloud).2, completed⟩

/-! ## The whole way -/

/-- Nobody else changes the world. -/
def Nobody {γ : Type} (_ _ : World γ) : Prop := False

/-- The requests that write the objects of the roles. -/
def roleWrites (site : Site) (o : Operator gateway) (cluster : Cluster)
    (observed : DeploymentState) : List Gateway.Request :=
  (BootObjects.rendered site cluster (o.bootContext cluster observed) (o.bootStorage cluster)).map
    BootObjects.writeOf

/-- There are two roles. -/
theorem length_roleWrites : (roleWrites site o cluster observed).length = 2 := rfl

/-- **The way from a submission to readiness**: the passes that wait, and those that make ready,
the first of which writes the objects. -/
structure Onward (site : Site) (o : Operator gateway) (cluster : Cluster)
    (observed : DeploymentState) (waiting ready : List (ClusterPass DeploymentStage)) : Prop where
  waits : ∀ pass ∈ waiting, Waits o cluster pass
  makesReady : ∀ pass ∈ ready, MakesReady o cluster observed pass
  written : ∀ first later, ready = first :: later →
    Effect.objectWrite.among first.exchanges = roleWrites site o cluster observed ∧
      ∀ pass ∈ later, Effect.objectWrite.among pass.exchanges = []

theorem among_passes_eq_nil {e : Effect}
    (h : ∀ pass ∈ passes, e.among pass.exchanges = []) :
    e.among (passes.flatMap (·.exchanges)) = [] := by
  induction passes with
  | nil => rfl
  | cons pass passes ih =>
    obtain ⟨hpass, hpasses⟩ := List.forall_mem_cons.mp h
    rw [List.flatMap_cons, Effect.among_append, hpass, ih hpasses]
    rfl

/-- All the objects that are written on the way are written by the first pass that makes
ready. -/
theorem Onward.among_eq {waiting later : List (ClusterPass DeploymentStage)}
    {first : ClusterPass DeploymentStage}
    (h : Onward site o cluster observed waiting (first :: later)) :
    Effect.objectWrite.among ((waiting ++ first :: later).flatMap (·.exchanges)) =
      Effect.objectWrite.among first.exchanges := by
  have before : Effect.objectWrite.among (waiting.flatMap (·.exchanges)) = [] :=
    among_passes_eq_nil fun pass hpass => (h.waits pass hpass).noObjectWritten
  have behind : Effect.objectWrite.among (later.flatMap (·.exchanges)) = [] :=
    among_passes_eq_nil (h.written first later rfl).2
  rw [List.flatMap_append, List.flatMap_cons, Effect.among_append, Effect.among_append, before,
    behind, List.nil_append, List.append_nil]

/-- Once a pass has made the cluster ready every later one does, and writes nothing. -/
theorem Arrived.rest (h : Arrived site o cluster observed d w) (standard : o.IsStandard watchdog)
    (present : cluster.deleting = false) (plan : Plan site o cluster observed d)
    (run : Passes site (DeploymentStage.Answers schedule observed) Nobody o cluster w passes w') :
    ∀ pass ∈ passes, MakesReady o cluster observed pass ∧
      Effect.submission.among pass.exchanges = [] ∧
      Effect.objectWrite.among pass.exchanges = [] := by
  induction run with
  | done => exact List.forall_mem_nil _
  | meanwhile nobody => exact nobody.elim
  | pass takes _ ih =>
    obtain ⟨makesReady, stage, completed⟩ :=
      completed_of_stage standard present plan h.stage h.recorded takes
    have arrived : Arrived site o cluster observed d _ :=
      ⟨stage, completed.checksums ▸ h.recorded, completed.objects⟩
    exact List.forall_mem_cons.mpr ⟨⟨makesReady, completed.notSubmitted,
      completed.noObjectWritten h.objects⟩, ih arrived⟩

/-- From a submission on, one pass waits for every state that is left, and the others make
ready. -/
theorem Underway.rest (h : Underway d left w) (standard : o.IsStandard watchdog)
    (present : cluster.deleting = false) (plan : Plan site o cluster observed d)
    (run : Passes site (DeploymentStage.Answers schedule observed) Nobody o cluster w passes w') :
    (∀ pass ∈ passes, Effect.submission.among pass.exchanges = []) ∧
      ∃ waiting ready, passes = waiting ++ ready ∧
        waiting.length = min passes.length left.length ∧
        Onward site o cluster observed waiting ready := by
  induction run generalizing left with
  | done =>
    exact ⟨List.forall_mem_nil _, [], [], rfl, by simp, List.forall_mem_nil _,
      List.forall_mem_nil _, fun _ _ h => nomatch h⟩
  | meanwhile nobody => exact nobody.elim
  | @pass _ _ pass passes takes run ih =>
    cases left with
    | cons state left =>
      obtain ⟨waits, notSubmitted, underway⟩ := h.waits standard present plan takes
      obtain ⟨none, waiting, ready, rfl, hlength, onward⟩ := ih underway
      refine ⟨List.forall_mem_cons.mpr ⟨notSubmitted, none⟩, pass :: waiting, ready, rfl, ?_,
        List.forall_mem_cons.mpr ⟨waits, onward.waits⟩, onward.makesReady, onward.written⟩
      rw [List.length_cons, List.length_cons, List.length_cons, hlength, Nat.succ_min_succ]
    | nil =>
      obtain ⟨makesReady, stage, completed⟩ :=
        completed_of_stage standard present plan h.stage h.recorded takes
      have arrived : Arrived site o cluster observed d pass.left :=
        ⟨stage, completed.checksums ▸ h.recorded, completed.objects⟩
      have rest := arrived.rest standard present plan run
      refine ⟨List.forall_mem_cons.mpr ⟨completed.notSubmitted, fun p hp => (rest p hp).2.1⟩, [],
        pass :: passes, rfl, by simp, List.forall_mem_nil _,
        List.forall_mem_cons.mpr ⟨makesReady, fun p hp => (rest p hp).1⟩, ?_⟩
      rintro first later heq
      obtain ⟨rfl, rfl⟩ := List.cons.inj heq
      exact ⟨completed.objectsWritten h.objects, fun p hp => (rest p hp).2.2⟩

/-- **A cluster comes from nothing to ready.**  Over all its passes one submission is made, which
says that it is the first.  The passes wait until one of them sees that the deployment has
succeeded, one for the submission and one for every state that is not final; that one and all
later ones make the cluster ready.  Two objects are written, both by the first of these.  And
there is always a next pass. -/
theorem ready_from_nothing {parameters : Parameters} (standard : o.IsStandard watchdog)
    (present : cluster.deleting = false)
    (carved : MainDeployment.parameters o.config.subnets cluster = .ok parameters)
    (unended : ∀ state ∈ schedule, state.state.isFinal = false)
    (succeeded : observed.state = .succeeded)
    (putsOut : DeploymentOrchestrator.PutsOut MainDeployment.outputs observed.outputs)
    (absent : w.cloud = .absent) (empty : w.objects = ∅)
    (run : Passes site (DeploymentStage.Answers schedule observed) Nobody o cluster w passes w')
    (begun : passes ≠ []) :
    ∃ (d : Deployment) (waiting ready : List (ClusterPass DeploymentStage)),
      passes = waiting ++ ready ∧
      waiting.length = min passes.length (schedule.length + 1) ∧
      Effect.submission.among (passes.flatMap (·.exchanges)) =
        [.submit cluster.resourceGroup d.name (d.request true)] ∧
      (d.request true).parameters.member? initialProvisioning =
        some (.object [("value", .text "Yes")]) ∧
      (∀ pass ∈ waiting, Waits o cluster pass) ∧
      (∀ pass ∈ ready, MakesReady o cluster observed pass) ∧
      (∀ first later, ready = first :: later →
        (Effect.objectWrite.among first.exchanges).length = 2 ∧
        Effect.objectWrite.among (passes.flatMap (·.exchanges)) =
          Effect.objectWrite.among first.exchanges) ∧
      ∃ next, Passes site (DeploymentStage.Answers schedule observed) Nobody o cluster w
        (passes ++ [next]) next.left := by
  obtain ⟨d, made⟩ : ∃ d, (MainDeployment.parameters o.config.subnets cluster).map
      ((orchestrator o.config).assemble cluster site.template) = .ok d :=
    ⟨_, congrArg _ carved⟩
  have plan := plan_of_putsOut standard succeeded putsOut made
  obtain ⟨next, hnext⟩ := exists_pass responsive_stages site o cluster w'
  have further := run.concat hnext
  cases run with
  | done => exact absurd rfl begun
  | meanwhile nobody => exact nobody.elim
  | @pass _ _ first passes takes rest =>
    obtain ⟨waits, submitted, underway⟩ :=
      submits_of_absent standard present plan unended absent empty takes
    obtain ⟨none, waiting, ready, rfl, hlength, onward⟩ :=
      underway.rest standard present plan rest
    have whole : Onward site o cluster observed (first :: waiting) ready :=
      ⟨List.forall_mem_cons.mpr ⟨waits, onward.waits⟩, onward.makesReady, onward.written⟩
    refine ⟨d, first :: waiting, ready, rfl, ?_, ?_, Deployment.initialProvisioning_request,
      whole.waits, whole.makesReady, ?_, next, further⟩
    · rw [List.length_cons, List.length_cons, hlength, Nat.succ_min_succ]
    · rw [List.flatMap_cons, Effect.among_append, submitted, among_passes_eq_nil none]
      rfl
    · rintro writer later rfl
      rw [← List.cons_append, whole.among_eq, (whole.written writer later rfl).1]
      exact ⟨length_roleWrites, rfl⟩

end

/-! ## A cluster that comes from nothing -/

namespace FromNothing

open DeploymentOrchestrator (production)
open Operator.FirstReady (operator settled standard_eq)

/-- A template and a renderer. -/
def site : Site := ⟨.null, fun input => input.cluster⟩

/-- The deployment is seen once while it is running. -/
def schedule : List DeploymentState := [⟨.running, .null⟩]

/-- Nothing is there, and nothing was ever recorded. -/
def start : World DeploymentStage := ⟨.absent, {}, none, ∅⟩

theorem putsOut_settled :
    DeploymentOrchestrator.PutsOut MainDeployment.outputs settled.outputs := by
  intro b hb
  simp only [MainDeployment.outputs, List.mem_cons, List.not_mem_nil, or_false] at hb
  rcases hb with rfl | rfl | rfl | rfl
  · exact ⟨"apiServerBackendPoolID", rfl, by decide⟩
  · exact ⟨"etcdBackendPoolID", rfl, by decide⟩
  · exact ⟨"masterSubnetID", rfl, by decide⟩
  · exact ⟨"workerSubnetID", rfl, by decide⟩

/-- Four passes: one that submits the deployment, one that finds it running, one that finds
that it has succeeded and writes the objects, and one that finds nothing to do. -/
theorem ready_from_nothing_of_production :
    ∃ (passes : List (ClusterPass DeploymentStage)) (w' : World DeploymentStage)
        (waiting ready : List (ClusterPass DeploymentStage)),
      Operator.standard {} = .ok operator ∧
        Passes site (DeploymentStage.Answers schedule settled) Nobody operator production start
          passes w' ∧
        passes = waiting ++ ready ∧ waiting.length = 2 ∧ ready.length = 2 ∧
        (∀ pass ∈ waiting, Waits operator production pass) ∧
        ∀ pass ∈ ready, MakesReady operator production settled pass := by
  obtain ⟨parameters, carved⟩ := DeploymentOrchestrator.exists_parameters_production
  have responsive : Responsive (DeploymentStage.Answers schedule settled) := responsive_stages
  have next := exists_pass responsive site operator production
  obtain ⟨first, hfirst⟩ := next start
  obtain ⟨second, hsecond⟩ := next first.left
  obtain ⟨third, hthird⟩ := next second.left
  obtain ⟨fourth, hfourth⟩ := next third.left
  have run : Passes site (DeploymentStage.Answers schedule settled) Nobody operator production
      start [first, second, third, fourth] fourth.left :=
    .pass hfirst (.pass hsecond (.pass hthird (.pass hfourth (.done _))))
  have unended : ∀ state ∈ schedule, state.state.isFinal = false :=
    List.forall_mem_singleton.mpr rfl
  obtain ⟨d, waiting, ready, hsplit, hlength, -, -, waits, makesReady, -, -⟩ :=
    ready_from_nothing (Operator.isStandard_of_standard standard_eq) rfl carved unended rfl
      putsOut_settled rfl rfl run nofun
  have hwaiting : waiting.length = 2 := hlength
  have htotal : waiting.length + ready.length = 4 := by
    rw [← List.length_append, ← hsplit]
    rfl
  exact ⟨_, _, waiting, ready, standard_eq, run, hsplit, hwaiting, by omega, waits, makesReady⟩

end FromNothing

end World

end ClusterOperator
