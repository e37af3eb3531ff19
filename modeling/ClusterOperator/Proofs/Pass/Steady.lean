import ClusterOperator.Proofs.Pass.Courses

/-!
# A cluster that is ready is left alone

A pass that goes through leaves nothing to do: the checksums that it compared are recorded, the
objects are as they are rendered, and so is readiness.  As long as the cluster, its template and
the answer about its deployment stay the same, every further pass recognises all that as its
own, whatever objects come and go besides, and changes nothing (`steady_of_goesThrough`).
-/

namespace ClusterOperator

open Operator (orchestrator)

namespace World

section

variable {γ : Type} {site : Site} {cloud : γ → Exchange gateway → γ → Prop} {o : Operator gateway}
  {watchdog : Nat} {cluster : Cluster} {observed : DeploymentState} {d : Deployment}
  {w w' v : World γ} {pass : ClusterPass γ} {passes : List (ClusterPass γ)}
  {xs : List (Exchange gateway)}

/-! ## A pass that goes through -/

/-- What a pass that goes through has found: the deployment succeeded, its checksums are
recorded, and it put out what the boot objects require. -/
theorem found_of_completed (standard : o.IsStandard watchdog)
    (h : (o.resources.reconcile cluster).Transcript xs (.ok .completed))
    (served : Served (Answers site cloud) w xs w') :
    ∃ d observed, Plan site o cluster observed d ∧
      w.status.checksums d.name = (some d.templateChecksum, some d.parametersChecksum) ∧
      ∃ c, cloud w.cloud (lookUpOf (orchestrator o.config) cluster (.ok observed)) c := by
  obtain ⟨after, hpass⟩ := ResourceSet.reconcile_transcript_iff.mp h
  rw [standard.resources] at hpass
  obtain ⟨deployed, as, _, rfl, hdeployment, hlater⟩ :=
    ResourceSet.passOver_completed_cons_iff.mp hpass
  obtain ⟨booted, bs, _, rfl, hboot, -⟩ := ResourceSet.passOver_completed_cons_iff.mp hlater
  obtain ⟨d, observed, found, rfl⟩ := ClusterResource.deployment_completes hdeployment
  obtain ⟨_, hobjects⟩ := ClusterResource.discard_completes_iff.mp hboot
  have valid := BootObjects.requirements_of_completes hobjects
  obtain ⟨template, first, second, made, hfirst, hsecond, rfl⟩ := found.read
  -- The template and the status that were read are those of the world.
  simp only [List.cons_append, Served.cons_iff, Answers] at served
  obtain ⟨_, ⟨c, hcloud, rfl⟩, _, ⟨htemplate, rfl⟩, _, ⟨⟨_, hone⟩, rfl⟩, _, ⟨⟨_, htwo⟩, rfl⟩, -⟩ :=
    served
  obtain rfl := Except.ok.inj htemplate
  obtain rfl := Except.ok.inj hone
  obtain rfl := Except.ok.inj htwo
  have hname : d.name = (orchestrator o.config).deploymentName cluster :=
    DeploymentOrchestrator.name_of_assemble made
  rw [hname] at hcloud
  refine ⟨d, observed, ⟨found.succeeded, made, ?_⟩, Prod.ext hfirst hsecond, c, hcloud⟩
  rw [Operator.bootContext, standard.resources]
  exact valid

/-- The cloud gives the same answer whenever the deployment is looked up. -/
def SameLookUp (cloud : γ → Exchange gateway → γ → Prop)
    (reply : Except CloudFault DeploymentState) : Prop :=
  ∀ c group name r c', cloud c ⟨.lookUp group name, r⟩ c' → r = reply

/-- Where the deployment has succeeded and its checksums are recorded, every pass goes
through. -/
theorem completed_of_recorded (standard : o.IsStandard watchdog)
    (present : cluster.deleting = false) (plan : Plan site o cluster observed d)
    (same : SameLookUp cloud (.ok observed))
    (recorded : w.status.checksums d.name = (some d.templateChecksum, some d.parametersChecksum))
    (takes : Takes site cloud o cluster w pass) :
    Completed site o cluster observed w pass.exchanges pass.result pass.left := by
  have foreseen : Foreseen cloud (orchestrator o.config) cluster observed d w :=
    fun reply c hcloud => .inr (.inr ⟨same _ _ _ _ _ hcloud, recorded⟩)
  cases ensures_reconcile standard present plan foreseen _ _ _ takes.transcript takes.served with
  | created _ _ _ hcloud => cases same _ _ _ _ _ hcloud
  | awaited running _ unended hcloud =>
    obtain rfl := Except.ok.inj (same _ _ _ _ _ hcloud)
    rw [plan.succeeded] at unended
    cases unended
  | completed _ _ completed => exact completed

/-! ## Nothing is left to do -/

/-- **Nothing is left to do for a cluster**: what a pass would find is what it would bring
about. -/
structure Settled (site : Site) (o : Operator gateway) (cluster : Cluster)
    (observed : DeploymentState) (d : Deployment) (w : World γ) : Prop where
  recorded : w.status.checksums d.name = (some d.templateChecksum, some d.parametersChecksum)
  objects : HasObjects site o cluster observed w
  phase : w.status.phase = .ready
  message : w.status.message = none

/-- **A pass that has nothing to do**: it goes through and leaves the cluster ready, and it
submits nothing, writes no object and writes no status. -/
structure Idle (o : Operator gateway) (cluster : Cluster) (pass : ClusterPass γ) : Prop where
  goesThrough : o.GoesThrough cluster pass.exchanges
  answer : pass.result = .ok (.requeue o.config.readyRequeue)
  phase : pass.left.status.phase = .ready
  notSubmitted : Effect.submission.among pass.exchanges = []
  noObjectWritten : Effect.objectWrite.among pass.exchanges = []
  noStatusWritten : Effect.statusWrite.among pass.exchanges = []

/-- What goes on around a cluster that it has nothing to do with: its status is left alone, and
of the objects in its container those of its roles. -/
structure Aside (cluster : Cluster) (w v : World γ) : Prop where
  status : v.status = w.status
  objects : ∀ role, v.objects.lookup (BootObjects.objectKey role cluster.spec.releaseVersion) =
    w.objects.lookup (BootObjects.objectKey role cluster.spec.releaseVersion)

/-- A pass that goes through leaves nothing to do. -/
theorem Completed.settled
    (h : Completed site o cluster observed w pass.exchanges pass.result pass.left)
    (recorded : w.status.checksums d.name = (some d.templateChecksum, some d.parametersChecksum)) :
    Settled site o cluster observed d pass.left where
  recorded := by rw [h.checksums, recorded]
  objects := h.objects
  phase := h.phase
  message := h.message

/-- **Where nothing is left to do, nothing is done.** -/
theorem Settled.idle (h : Settled site o cluster observed d w)
    (completed : Completed site o cluster observed w pass.exchanges pass.result pass.left) :
    Idle o cluster pass where
  goesThrough := completed.goesThrough
  answer := completed.answer
  phase := completed.phase
  notSubmitted := completed.notSubmitted
  noObjectWritten := completed.noObjectWritten h.objects
  noStatusWritten := completed.noStatusWritten h.phase h.message

theorem Settled.aside (h : Settled site o cluster observed d w) (aside : Aside cluster w v) :
    Settled site o cluster observed d v where
  recorded := by rw [aside.status, h.recorded]
  objects := by
    refine BootObjects.mem_managed_rendered_iff.mpr fun role => ?_
    rw [aside.objects]
    exact BootObjects.mem_managed_rendered_iff.mp h.objects role
  phase := by rw [aside.status, h.phase]
  message := by rw [aside.status, h.message]

/-- From where nothing is left to do, every pass is idle. -/
theorem Settled.idle_of_passes (standard : o.IsStandard watchdog)
    (present : cluster.deleting = false) (plan : Plan site o cluster observed d)
    (same : SameLookUp cloud (.ok observed)) (h : Settled site o cluster observed d w)
    (run : Passes site cloud (Aside cluster) o cluster w passes w') :
    ∀ pass ∈ passes, Idle o cluster pass := by
  induction run with
  | done => exact List.forall_mem_nil _
  | meanwhile aside _ ih => exact ih (h.aside aside)
  | pass takes _ ih =>
    have completed := completed_of_recorded standard present plan same h.recorded takes
    exact List.forall_mem_cons.mpr ⟨h.idle completed, ih (completed.settled h.recorded)⟩

/-- A cluster over which a pass goes through is not being deleted. -/
theorem present_of_goesThrough (standard : o.IsStandard watchdog)
    (takes : Takes site cloud o cluster w pass)
    (goesThrough : o.GoesThrough cluster pass.exchanges) : cluster.deleting = false := by
  obtain ⟨ys, zs, hsplit, hcompleted⟩ := goesThrough
  have htranscript := takes.transcript
  unfold Operator.reconcile at htranscript
  split at htranscript
  · obtain ⟨result, hdeletion, -⟩ := Program.transcript_map_iff.mp htranscript
    rw [Operator.deletion_transcript standard hdeletion] at hsplit
    obtain ⟨rfl, -⟩ := List.append_eq_nil_iff.mp hsplit.symm
    obtain ⟨_, _, provisioned⟩ := Operator.provisioned_of_completed standard hcompleted
    cases provisioned.container
  · rename_i h
    exact Bool.eq_false_iff.mpr h

/-- **A cluster over which a pass went through is left alone**: there is always a next pass, and
as long as the answer about its deployment stays the same, every one of them goes through and
leaves it ready, and none submits anything, writes an object or writes the status. -/
theorem steady_of_goesThrough {reply : Except CloudFault DeploymentState}
    (standard : o.IsStandard watchdog) (responsive : Responsive cloud)
    (same : SameLookUp cloud reply) (takes : Takes site cloud o cluster w pass)
    (goesThrough : o.GoesThrough cluster pass.exchanges)
    (run : Passes site cloud (Aside cluster) o cluster pass.left passes w') :
    (∀ later ∈ passes, Idle o cluster later) ∧
      ∃ next, Passes site cloud (Aside cluster) o cluster pass.left (passes ++ [next])
        next.left := by
  have present := present_of_goesThrough standard takes goesThrough
  obtain ⟨ys, zs, hsplit, htranscript⟩ := goesThrough
  obtain ⟨between, hserved, -⟩ := Served.append_iff.mp (hsplit ▸ takes.served)
  obtain ⟨d, observed, plan, recorded, c, hcloud⟩ :=
    found_of_completed standard htranscript hserved
  obtain rfl := same _ _ _ _ _ hcloud
  have completed := completed_of_recorded standard present plan same recorded takes
  refine ⟨(completed.settled recorded).idle_of_passes standard present plan same run, ?_⟩
  obtain ⟨next, hnext⟩ := exists_pass responsive site o cluster w'
  exact ⟨next, run.concat hnext⟩

end

/-! ## A cluster that is left alone -/

namespace LeftAlone

open DeploymentOrchestrator (production recordOf)
open Operator.FirstReady (operator settled standard_eq)

/-- A template and a renderer. -/
def site : Site := ⟨.null, fun input => input.cluster⟩

/-- A cloud in which the deployment has succeeded, whatever is submitted. -/
def cloud : Unit → Exchange gateway → Unit → Prop
  | _, ⟨.lookUp _ _, r⟩, _ => r = .ok settled
  | _, _, _ => True

/-- The checksums are recorded, and there is an empty container. -/
def start (d : Deployment) : World Unit := ⟨(), recordOf d, some "1", ∅⟩

theorem responsive : Responsive cloud where
  lookUp _ _ _ := ⟨.ok settled, (), rfl⟩
  submit _ _ _ _ := ⟨.ok (), (), trivial⟩

theorem same : SameLookUp cloud (.ok settled) := fun _ _ _ _ _ h => h

/-- The world with an object of an older release. -/
def withOlder (w : World Unit) : World Unit :=
  { w with objects := w.objects.insert (BootObjects.objectKey .master "1.2.2") "old" }

theorem aside_withOlder (w : World Unit) : Aside production w (withOlder w) where
  status := rfl
  objects role := AList.lookup_insert_ne (by cases role <;> decide)

/-- A pass that writes both objects and readiness, and two that find nothing to do, the second
of them after an object of an older release was put into the container. -/
theorem steady_after_first_ready :
    ∃ (d : Deployment) (pass : ClusterPass Unit) (passes : List (ClusterPass Unit))
        (w' : World Unit),
      Operator.standard {} = .ok operator ∧ Takes site cloud operator production (start d) pass ∧
        operator.GoesThrough production pass.exchanges ∧
        Passes site cloud (Aside production) operator production pass.left passes w' ∧
        passes.length = 2 ∧ ∀ later ∈ passes, Idle operator production later := by
  obtain ⟨parameters, hp⟩ := DeploymentOrchestrator.exists_parameters_production
  have hd : (MainDeployment.parameters operator.config.subnets production).map
      ((orchestrator operator.config).assemble production site.template) =
        .ok ((orchestrator operator.config).assemble production site.template parameters) :=
    congrArg _ hp
  generalize (orchestrator operator.config).assemble production site.template parameters = d at hd
  have standard := Operator.isStandard_of_standard standard_eq
  have plan : Plan site operator production settled d := ⟨rfl, hd, rfl⟩
  have recorded : (start d).status.checksums d.name =
      (some d.templateChecksum, some d.parametersChecksum) :=
    Prod.ext DeploymentOrchestrator.templateChecksum_recordOf
      DeploymentOrchestrator.parametersChecksum_recordOf
  obtain ⟨first, hfirst⟩ := exists_pass responsive site operator production (start d)
  obtain ⟨second, hsecond⟩ := exists_pass responsive site operator production first.left
  obtain ⟨third, hthird⟩ :=
    exists_pass responsive site operator production (withOlder second.left)
  have goesThrough := (completed_of_recorded standard rfl plan same recorded hfirst).goesThrough
  have run : Passes site cloud (Aside production) operator production first.left [second, third]
      third.left :=
    .pass hsecond (.meanwhile (aside_withOlder _) (.pass hthird (.done _)))
  exact ⟨d, first, [second, third], third.left, standard_eq, hfirst, goesThrough, run, rfl,
    (steady_of_goesThrough standard responsive same hfirst goesThrough run).1⟩

end LeftAlone

end World

end ClusterOperator
