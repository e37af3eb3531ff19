import ClusterOperator.Proofs.Deployment.Course

/-!
# Why a deployment is submitted

There are two reasons: it was not found, or it was **reviewed**.  A review is a look at a
deployment that has ended, in which the template and both recorded checksums could be read; it
goes on by the comparison alone, and submits the deployment again if and only if what is
recorded is not what is wanted (`Review.submits_iff`).  Nothing else makes a pass submit
anything (`cause_of_submission`).
-/

namespace ClusterOperator

namespace DeploymentOrchestrator

/-- **A review** of the cluster's deployment: what was read, and what is wanted. -/
structure Review (o : DeploymentOrchestrator) (cluster : Cluster) where
  observed : DeploymentState
  template : Json
  /-- The readings of the status that the two checksums are taken from. -/
  first : Snapshot
  second : Snapshot
  wanted : Deployment
  ended : observed.state.isFinal = true
  made : (o.definition.parameters cluster).map (o.assemble cluster template) = .ok wanted

variable {o : DeploymentOrchestrator} {cluster : Cluster} {ctx after : PassContext}
  {xs rest : List (Exchange gateway)} {r : Except Failure DeploymentOutcome} {d : Deployment}

/-- A deployment that is left as it is is not asked about again. -/
theorem settle_asks_nothing {state : ProvisioningState}
    (h : (o.settle cluster state).Transcript ctx rest r after) : rest = [] := by
  rw [settle] at h
  split at h
  · simp only [Step.bind_eq_bind, Step.transcript_cancel_bind_iff, Step.transcript_pure_iff] at h
    exact h.1
  · exact (Step.transcript_pure_iff.mp h).1

/-- What is submitted again is submitted at once. -/
theorem resubmit_begins
    (h : (o.resubmit cluster d).Transcript ctx rest r after) :
    ∃ reply ys, rest = ⟨.submit cluster.resourceGroup d.name (d.request false), reply⟩ :: ys := by
  have hsubmit : ∀ {ys s}, (o.submit cluster d false).Transcript ys s → ∃ reply zs,
      ys = ⟨.submit cluster.resourceGroup d.name (d.request false), reply⟩ :: zs := by
    intro ys s hs
    rcases submit_transcript_iff.mp hs with ⟨fault, rfl, -⟩ | ⟨zs, -, rfl, -⟩
    · exact ⟨.error fault, [], rfl⟩
    · exact ⟨.ok (), zs, rfl⟩
  simp only [resubmit, Step.bind_eq_bind] at h
  rcases Step.transcript_tryLift_bind_iff.mp h with ⟨e, hs, -⟩ | ⟨_, ys, zs, rfl, hs, -⟩
  · exact hsubmit hs
  · obtain ⟨reply, ws, rfl⟩ := hsubmit hs
    exact ⟨reply, ws ++ zs, rfl⟩

namespace Review

variable (v : Review o cluster)

/-- The exchanges of a review, before anything is decided. -/
def reads : List (Exchange gateway) :=
  [⟨.lookUp cluster.resourceGroup (o.deploymentName cluster), .ok v.observed⟩,
    ⟨.template o.definition.templateName, .ok v.template⟩,
    ⟨.loadStatus cluster.name, .ok v.first⟩, ⟨.loadStatus cluster.name, .ok v.second⟩]

/-- The checksums that were read. -/
def recorded : Option String × Option String :=
  (v.first.status.condition? v.wanted.name templateCondition,
    v.second.status.condition? v.wanted.name parametersCondition)

/-- What is recorded is what is wanted. -/
def Unchanged : Prop :=
  v.recorded = (some v.wanted.templateChecksum, some v.wanted.parametersChecksum)

/-- The submission of what is wanted, with the reply of the cloud. -/
def submission (reply : Except CloudFault Unit) : Exchange gateway :=
  ⟨.submit cluster.resourceGroup v.wanted.name (v.wanted.request false), reply⟩

variable {v}

theorem transcript_of_unchanged (h : v.Unchanged) :
    (o.ensureCreated cluster).Transcript ctx (v.reads ++ rest) r after ↔
      (o.settle cluster v.observed.state).Transcript
        (publish o.definition.outputs v.observed.outputs ctx) rest r after := by
  refine (ensureCreated_ended_iff v.ended v.made).trans ?_
  rw [if_pos (Prod.mk.inj h)]
  exact Iff.rfl

theorem transcript_of_changed (h : ¬v.Unchanged) :
    (o.ensureCreated cluster).Transcript ctx (v.reads ++ rest) r after ↔
      (o.resubmit cluster v.wanted).Transcript
        (publish o.definition.outputs v.observed.outputs ctx) rest r after := by
  refine (ensureCreated_ended_iff v.ended v.made).trans ?_
  rw [if_neg fun hequal => h (Prod.ext hequal.1 hequal.2)]
  exact Iff.rfl

/-- **A review submits if and only if what is recorded is not what is wanted.** -/
theorem submits_iff (h : (o.ensureCreated cluster).Transcript ctx (v.reads ++ rest) r after) :
    (∃ reply, v.submission reply ∈ rest) ↔ ¬v.Unchanged := by
  constructor
  · rintro ⟨reply, hsubmitted⟩ unchanged
    obtain rfl := settle_asks_nothing ((transcript_of_unchanged unchanged).mp h)
    cases hsubmitted
  · intro changed
    obtain ⟨reply, ys, rfl⟩ := resubmit_begins ((transcript_of_changed changed).mp h)
    exact ⟨reply, List.mem_cons_self⟩

end Review

/-- **What makes a pass submit or record anything**: the deployment was not found, or it was
reviewed and what is recorded is not what is wanted. -/
theorem cause_of_submission (h : (o.ensureCreated cluster).Transcript ctx xs r after)
    {x : Exchange gateway} (hx : x ∈ xs) (loud : x.request.isQuiet ≠ true) :
    (∃ fault ys, fault.isNotFound = true ∧
      xs = ⟨.lookUp cluster.resourceGroup (o.deploymentName cluster), .error fault⟩ :: ys) ∨
      ∃ (v : Review o cluster) (ys : List (Exchange gateway)),
        ¬v.Unchanged ∧ xs = v.reads ++ ys := by
  obtain ⟨reply, ys, rfl, hrest⟩ := Step.transcript_ask_bind_iff.mp h
  have hys : x ∈ ys := by
    rcases List.mem_cons.mp hx with rfl | hys
    · exact absurd rfl loud
    · exact hys
  cases reply with
  | error fault =>
    dsimp only at hrest
    split at hrest
    · rename_i missing
      exact .inl ⟨fault, ys, missing, rfl⟩
    · obtain ⟨rfl, -, -⟩ := Step.transcript_fail_iff.mp hrest
      cases hys
  | ok observed =>
    dsimp only at hrest
    split at hrest
    · rename_i ended
      rcases review_cases hrest with
        ⟨e, stuck, -, -⟩ | ⟨d, template, first, second, zs, made, rfl, hcompared⟩
      · exact absurd (stuck.quiet x hys) loud
      · refine .inr ⟨⟨observed, template, first, second, d, ended, made⟩, zs, ?_, rfl⟩
        intro unchanged
        rw [if_pos (Prod.mk.inj unchanged)] at hcompared
        obtain rfl := settle_asks_nothing hcompared
        simp only [List.mem_cons, List.not_mem_nil, or_false] at hys
        rcases hys with rfl | rfl | rfl <;> exact loud rfl
    · simp only [await, Step.bind_eq_bind, Step.transcript_cancel_bind_iff,
        Step.transcript_pure_iff] at hrest
      obtain ⟨rfl, -, -⟩ := hrest
      cases hys

end DeploymentOrchestrator

end ClusterOperator
