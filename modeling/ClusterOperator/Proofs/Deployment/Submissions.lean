import ClusterOperator.Proofs.Deployment.Ledger

/-!
# What the cloud has and what is recorded

Three things move at different moments: what is wanted of a deployment, what the cloud
accepted last, and the checksums that are recorded in the status.  A history is any
sequence of passes over one cluster, with specification, template and replies changing
from pass to pass, and with the other entries of the status changing in between.

The recorded checksums are always those of the last submission that a pass **reported**
(`stored_eq_lastReported`).  A submission that the cloud accepted and whose checksums could
not be written is not reported, so the deployment that is found up to date is the one that
was reported last, whatever the cloud accepted since.
-/

namespace ClusterOperator

/-- The two checksums of a deployment. -/
def Deployment.checksums (d : Deployment) : String × String :=
  (d.templateChecksum, d.parametersChecksum)

/-- The checksums that are recorded for a deployment. -/
def StatusCell.checksums (c : StatusCell) (name : String) : Option String × Option String :=
  (c.status.condition? name DeploymentOrchestrator.templateCondition,
    c.status.condition? name DeploymentOrchestrator.parametersCondition)

/-- One pass over the deployment of a cluster. -/
structure DeploymentPass where
  cluster : Cluster
  exchanges : List (Exchange gateway)
  result : Except Failure DeploymentOutcome

namespace DeploymentOrchestrator

variable (o : DeploymentOrchestrator)

/-- The pass goes as the program says, and takes the stored status from one cell to
another. -/
def Takes (pass : DeploymentPass) (c d : StatusCell) : Prop :=
  (∃ ctx after, (o.ensureCreated pass.cluster).Transcript ctx pass.exchanges pass.result after) ∧
    Served (StatusCell.Answers pass.cluster.name) c pass.exchanges d

/-- The deployment that a pass wants. -/
def wantedIn (pass : DeploymentPass) : Option Deployment :=
  o.desiredIn pass.cluster pass.exchanges

/-- The deployment whose submission the cloud accepted in a pass. -/
def acceptedIn (pass : DeploymentPass) : Option Deployment :=
  if pass.exchanges.any Exchange.isAccepted then o.wantedIn pass else none

/-- The deployment that a pass reports as submitted. -/
def reportedIn (pass : DeploymentPass) : Option Deployment :=
  match pass.result with
  | .ok (.submitted _) => o.wantedIn pass
  | _ => none

/-- The latest deployment of a name that `find` finds in one of the passes, the latest of
which comes first. -/
def latest (find : DeploymentPass → Option Deployment) (name : String)
    (passes : List DeploymentPass) : Option Deployment :=
  passes.findSome? fun pass => (find pass).filter fun d => d.name = name

/-- The deployment of a name that the cloud accepted last. -/
def lastAccepted (name : String) (passes : List DeploymentPass) : Option Deployment :=
  latest o.acceptedIn name passes

/-- The deployment of a name that was last reported as submitted. -/
def lastReported (name : String) (passes : List DeploymentPass) : Option Deployment :=
  latest o.reportedIn name passes

/-- **The histories of a cluster's deployment**, the latest pass first, with the stored
status they lead to. -/
inductive History (cluster : String) : List DeploymentPass → StatusCell → Prop where
  /-- Nothing is recorded yet. -/
  | start (c : StatusCell) : (∀ name, c.checksums name = (none, none)) → History cluster [] c
  /-- One more pass. -/
  | pass {passes : List DeploymentPass} {c : StatusCell} (pass : DeploymentPass)
      (d : StatusCell) : History cluster passes c → pass.cluster.name = cluster →
      o.Takes pass c d → History cluster (pass :: passes) d
  /-- Between two passes the status may change, except for the checksums. -/
  | meanwhile {passes : List DeploymentPass} {c : StatusCell} (d : StatusCell) :
      History cluster passes c → (∀ name, d.checksums name = c.checksums name) →
      History cluster passes d

variable {o} {pass : DeploymentPass} {passes : List DeploymentPass} {c d : StatusCell}
  {name cluster : String} {wanted : Deployment}

/-! ## What one pass does -/

theorem served_unwritten {xs : List (Exchange gateway)}
    (h : Served (StatusCell.Answers name) c xs d)
    (unwritten : ∀ x ∈ xs, x.request.isStore = false) : d = c := by
  refine h.invariant (P := fun t => t = c) ?_ rfl
  rintro s x t hx hanswer rfl
  cases hanswer with
  | store => cases unwritten _ hx
  | _ => rfl

/-- Checksums that were recorded are those of the deployment, and no others changed. -/
theorem checksums_of_updated {written : Bool}
    (h : StatusCell.Updated
      (fun now status => status.setConditions now wanted.name (conditionsOf wanted)) c
      (some written) d) :
    d.checksums name =
      if name = wanted.name then (some wanted.templateChecksum, some wanted.parametersChecksum)
      else c.checksums name := by
  have hrecorded : d.status.checksums = c.status.checksums.record wanted := by
    cases h with
    | written now _ _ hd =>
      rw [hd]
      exact checksums_setConditions
    | unchanged now hunchanged => exact (record_of_unchanged hunchanged).symm
  exact congrFun hrecorded name

/-- What one pass may mean for the submissions and the recorded checksums. -/
inductive Effect (o : DeploymentOrchestrator) (pass : DeploymentPass) (c : StatusCell) :
    StatusCell → Prop where
  /-- The cloud accepted nothing. -/
  | idle : o.acceptedIn pass = none → o.reportedIn pass = none → Effect o pass c c
  /-- The cloud accepted a submission, and its checksums could not be recorded. -/
  | unreported (wanted : Deployment) : o.acceptedIn pass = some wanted →
      o.reportedIn pass = none → Effect o pass c c
  /-- The cloud accepted a submission, and its checksums are recorded. -/
  | reported (wanted : Deployment) (d : StatusCell) : o.acceptedIn pass = some wanted →
      o.reportedIn pass = some wanted →
      (∀ name, d.checksums name =
        if name = wanted.name then (some wanted.templateChecksum, some wanted.parametersChecksum)
        else c.checksums name) → Effect o pass c d

theorem acceptedIn_of_mem {x : Exchange gateway} (hx : x ∈ pass.exchanges)
    (accepted : x.isAccepted = true) : o.acceptedIn pass = o.wantedIn pass :=
  if_pos (List.any_eq_true.mpr ⟨x, hx, accepted⟩)

theorem acceptedIn_of_none (h : ∀ x ∈ pass.exchanges, x.isAccepted = false) :
    o.acceptedIn pass = none := by
  refine if_neg ?_
  intro hany
  obtain ⟨x, hx, haccepted⟩ := List.any_eq_true.mp hany
  rw [h x hx] at haccepted
  cases haccepted

theorem acceptedIn_of_quiet (quiet : ∀ x ∈ pass.exchanges, x.request.isQuiet = true) :
    o.acceptedIn pass = none :=
  acceptedIn_of_none fun x hx => Exchange.isAccepted_of_isQuiet (quiet x hx)

/-- **What becomes of a submission**, read off the pass alone: nothing is accepted and nothing
written, or the cloud accepts the submission of what is wanted and the recording of its
checksums ends the pass. -/
theorem submission_cases {ctx after : PassContext}
    (h : (o.ensureCreated pass.cluster).Transcript ctx pass.exchanges pass.result after) :
    (o.acceptedIn pass = none ∧ o.reportedIn pass = none ∧
      ∀ x ∈ pass.exchanges, x.isAccepted = false ∧ x.request.isStore = false) ∨
      ∃ (wanted : Deployment) (initial : Bool) (xs ys : List (Exchange gateway))
        (written : Except Failure Bool),
        o.acceptedIn pass = some wanted ∧ o.wantedIn pass = some wanted ∧
        pass.exchanges = xs ++
          ⟨.submit pass.cluster.resourceGroup wanted.name (wanted.request initial), .ok ()⟩ :: ys ∧
        (∀ x ∈ xs, x.request.isQuiet = true) ∧
        (o.recordChecksums pass.cluster wanted).Transcript ys written ∧
        pass.result = written.map fun _ => .submitted initial := by
  obtain ⟨cluster, exchanges, result⟩ := pass
  have course := ensureCreated_course h
  have idle : ∀ {x : Exchange gateway}, x.request.isQuiet = true →
      x.isAccepted = false ∧ x.request.isStore = false := fun quiet =>
    ⟨Exchange.isAccepted_of_isQuiet quiet, Gateway.Request.isStore_of_isQuiet quiet⟩
  dsimp only at course
  cases course with
  | quiet _ _ _ quiet waits =>
    refine .inl ⟨acceptedIn_of_quiet quiet, ?_, fun x hx => idle (quiet x hx)⟩
    cases result with
    | error => rfl
    | ok outcome =>
      cases outcome with
      | submitted initial => exact absurd rfl ((waits _ rfl).1 initial)
      | _ => rfl
  | upToDate wanted observed template first second =>
    refine .inl ⟨acceptedIn_of_quiet (by simp), rfl, fun x hx => idle ?_⟩
    simp only [List.mem_cons, List.not_mem_nil, or_false] at hx
    rcases hx with rfl | rfl | rfl | rfl <;> rfl
  | refused wanted initial xs fault e _ quiet hwanted =>
    have hunaccepted : ∀ x ∈ xs ++ [⟨.submit cluster.resourceGroup wanted.name
        (wanted.request initial), .error fault⟩],
        x.isAccepted = false ∧ x.request.isStore = false := by
      intro x hx
      rcases List.mem_append.mp hx with hx | hx
      · exact idle (quiet x hx)
      · obtain rfl := List.mem_singleton.mp hx
        exact ⟨rfl, rfl⟩
    exact .inl ⟨acceptedIn_of_none fun x hx => (hunaccepted x hx).1, rfl, hunaccepted⟩
  | accepted wanted initial xs ys written _ quiet hwanted hwritten _ =>
    refine .inr ⟨wanted, initial, xs, ys, written, ?_, desiredIn_append hwanted _, rfl, quiet,
      hwritten, rfl⟩
    exact (acceptedIn_of_mem (List.mem_append_right xs List.mem_cons_self) rfl).trans
      (desiredIn_append hwanted _)

theorem effect_of_takes (h : o.Takes pass c d) : Effect o pass c d := by
  obtain ⟨⟨ctx, after, hpass⟩, hserved⟩ := h
  rcases submission_cases hpass with ⟨haccepted, hreported, hidle⟩ |
    ⟨wanted, initial, xs, ys, written, haccepted, hwanted, hexchanges, quiet, hwritten, hresult⟩
  · obtain rfl := served_unwritten hserved fun x hx => (hidle x hx).2
    exact .idle haccepted hreported
  rw [hexchanges] at hserved
  obtain ⟨_, hquiet, hsubmit⟩ := Served.append_iff.mp hserved
  obtain rfl := served_unwritten hquiet fun x hx => Gateway.Request.isStore_of_isQuiet (quiet x hx)
  obtain ⟨_, hsubmitted, hrecord⟩ := Served.cons_iff.mp hsubmit
  obtain rfl :=
    (StatusCell.answers_elsewhere_iff (by simp [Gateway.Request.status?])).mp hsubmitted
  -- The cloud has accepted by now; all that is open is whether that gets recorded.
  have updated := StatusCell.update_served hwritten hrecord
  cases written with
  | error e =>
    obtain rfl := StatusCell.updated_none_iff.mp updated
    refine .unreported wanted haccepted ?_
    rw [reportedIn, hresult]
    rfl
  | ok w =>
    refine .reported wanted d haccepted ?_ fun name => checksums_of_updated updated
    rw [reportedIn, hresult]
    exact hwanted

/-- A pass that finds the deployment up to date changes nothing, and finds the checksums of
what it wants recorded. -/
theorem takes_upToDate (h : o.Takes pass c d) (hresult : pass.result = .ok .upToDate) :
    d = c ∧ ∃ wanted, o.wantedIn pass = some wanted ∧
      c.checksums wanted.name =
        (some wanted.templateChecksum, some wanted.parametersChecksum) := by
  obtain ⟨⟨ctx, after, hpass⟩, hserved⟩ := h
  obtain ⟨cluster, exchanges, result⟩ := pass
  have course := ensureCreated_course hpass
  dsimp only at course hserved hresult
  cases course with
  | quiet _ _ _ _ waits => exact absurd rfl (waits _ hresult).2.1
  | refused => cases hresult
  | accepted _ _ _ _ written => cases written <;> cases hresult
  | upToDate wanted observed template first second _ _ hwanted hfirst hsecond =>
    obtain ⟨_, hlookUp, h₁⟩ := Served.cons_iff.mp hserved
    obtain rfl := (StatusCell.answers_elsewhere_iff (by simp [Gateway.Request.status?])).mp hlookUp
    obtain ⟨_, htemplate, h₂⟩ := Served.cons_iff.mp h₁
    obtain rfl :=
      (StatusCell.answers_elsewhere_iff (by simp [Gateway.Request.status?])).mp htemplate
    obtain ⟨_, hload, h₃⟩ := Served.cons_iff.mp h₂
    obtain ⟨rfl, hread⟩ := StatusCell.answers_load_iff.mp hload
    obtain ⟨_, hload', h₄⟩ := Served.cons_iff.mp h₃
    obtain ⟨rfl, hread'⟩ := StatusCell.answers_load_iff.mp hload'
    refine ⟨Served.nil_iff.mp h₄, wanted, congrArg Except.toOption hwanted, Prod.ext ?_ ?_⟩
    · rw [← hfirst, (hread first rfl).1]
      rfl
    · rw [← hsecond, (hread' second rfl).1]
      rfl

/-! ## What a history means -/

section

variable {find : DeploymentPass → Option Deployment}

theorem latest_cons_of_none (h : find pass = none) :
    latest find name (pass :: passes) = latest find name passes := by
  rw [latest, List.findSome?_cons, h]
  rfl

theorem latest_cons_of_some (h : find pass = some wanted) :
    latest find name (pass :: passes) =
      if wanted.name = name then some wanted else latest find name passes := by
  rw [latest, List.findSome?_cons, h]
  by_cases hname : wanted.name = name
  · rw [if_pos hname, Option.filter_some_pos (by simpa using hname)]
  · rw [if_neg hname, Option.filter_some_neg (by simpa using hname)]
    rfl

end

/-- **The recorded checksums are those of the submission that was reported last.** -/
theorem stored_eq_lastReported (h : o.History cluster passes c) (name : String) :
    c.checksums name =
      ((o.lastReported name passes).map Deployment.templateChecksum,
        (o.lastReported name passes).map Deployment.parametersChecksum) := by
  induction h with
  | start c hnone => exact hnone name
  | meanwhile d _ hkept ih => rw [hkept, ih]
  | pass pass d _ _ htakes ih =>
    rw [lastReported]
    cases effect_of_takes htakes with
    | idle _ hreported => rw [latest_cons_of_none hreported]; exact ih
    | unreported _ _ hreported => rw [latest_cons_of_none hreported]; exact ih
    | reported wanted _ _ hreported hd =>
      rw [hd, latest_cons_of_some hreported]
      by_cases hname : name = wanted.name
      · rw [if_pos hname, if_pos hname.symm]
        rfl
      · rw [if_neg hname, if_neg (Ne.symm hname)]
        exact ih

/-- The submission that was reported last is the one that was accepted last, unless one
was accepted and not reported. -/
theorem lastAccepted_eq_lastReported (h : o.History cluster passes c)
    (reported : ∀ pass ∈ passes, o.reportedIn pass = none → o.acceptedIn pass = none) :
    o.lastAccepted name passes = o.lastReported name passes := by
  induction h with
  | start => rfl
  | meanwhile _ _ _ ih => exact ih reported
  | pass pass d _ _ htakes ih =>
    have earlier := ih fun p hp => reported p (List.mem_cons_of_mem _ hp)
    rw [lastAccepted, lastReported]
    cases effect_of_takes htakes with
    | idle haccepted hreported =>
      rw [latest_cons_of_none haccepted, latest_cons_of_none hreported]
      exact earlier
    | unreported wanted haccepted hreported =>
      -- This is the pass that is assumed away.
      have hnone := reported pass List.mem_cons_self hreported
      rw [haccepted] at hnone
      cases hnone
    | reported wanted _ haccepted hreported =>
      rw [latest_cons_of_some haccepted, latest_cons_of_some hreported]
      exact congrArg _ earlier

/-- Every pass of a history took the status from one cell to another. -/
theorem History.takes {run earlier : List DeploymentPass} (h : o.History cluster run c)
    (hrun : pass :: earlier <:+ run) :
    ∃ before after, o.History cluster earlier before ∧ o.Takes pass before after := by
  induction h with
  | start => cases List.suffix_nil.mp hrun
  | meanwhile _ _ _ ih => exact ih hrun
  | pass last d hhistory _ htakes ih =>
    rcases List.suffix_cons_iff.mp hrun with heq | hsuffix
    · cases heq
      exact ⟨_, d, hhistory, htakes⟩
    · exact ih hsuffix

/-- Whenever a pass of the run found the deployment up to date, what the cloud accepted
last carries the checksums of what the pass wanted. -/
def Truthful (o : DeploymentOrchestrator) (run : List DeploymentPass) : Prop :=
  ∀ pass earlier, pass :: earlier <:+ run → pass.result = .ok .upToDate →
    ∃ wanted, o.wantedIn pass = some wanted ∧
      (o.lastAccepted wanted.name earlier).map Deployment.checksums = some wanted.checksums

/-- Whenever a pass of the run found the deployment up to date, what the cloud accepted
last carries the checksums of what was reported last. -/
def AcceptedAsReported (o : DeploymentOrchestrator) (run : List DeploymentPass) : Prop :=
  ∀ pass earlier, pass :: earlier <:+ run → pass.result = .ok .upToDate →
    ∃ wanted, o.wantedIn pass = some wanted ∧
      (o.lastAccepted wanted.name earlier).map Deployment.checksums =
        (o.lastReported wanted.name earlier).map Deployment.checksums

/-- A pass that finds the deployment up to date wants what was reported last. -/
theorem lastReported_of_upToDate {run earlier : List DeploymentPass}
    (h : o.History cluster run c) (hrun : pass :: earlier <:+ run)
    (hresult : pass.result = .ok .upToDate) :
    ∃ wanted, o.wantedIn pass = some wanted ∧
      (o.lastReported wanted.name earlier).map Deployment.checksums = some wanted.checksums := by
  obtain ⟨before, after, hearlier, htakes⟩ := h.takes hrun
  obtain ⟨-, wanted, hwanted, hstored⟩ := takes_upToDate htakes hresult
  refine ⟨wanted, hwanted, ?_⟩
  rw [stored_eq_lastReported hearlier, Prod.mk.injEq] at hstored
  obtain ⟨last, hlast, htemplate⟩ := Option.map_eq_some_iff.mp hstored.1
  rw [hlast] at hstored ⊢
  exact congrArg some (Prod.ext htemplate (Option.some.inj hstored.2))

/-- **When "up to date" is true**: exactly if at every such finding the submission that the
cloud accepted last has the content of the one that was reported last. -/
theorem truthful_iff {run : List DeploymentPass} (h : o.History cluster run c) :
    o.Truthful run ↔ o.AcceptedAsReported run := by
  constructor
  · intro truthful pass earlier hrun hresult
    obtain ⟨wanted, hwanted, hreported⟩ := lastReported_of_upToDate h hrun hresult
    obtain ⟨_, hwanted', haccepted⟩ := truthful pass earlier hrun hresult
    obtain rfl := Option.some.inj (hwanted.symm.trans hwanted')
    exact ⟨wanted, hwanted, haccepted.trans hreported.symm⟩
  · intro agree pass earlier hrun hresult
    obtain ⟨wanted, hwanted, hreported⟩ := lastReported_of_upToDate h hrun hresult
    obtain ⟨_, hwanted', hsame⟩ := agree pass earlier hrun hresult
    obtain rfl := Option.some.inj (hwanted.symm.trans hwanted')
    exact ⟨wanted, hwanted, hsame.trans hreported⟩

/-- It is true in every run in which every submission that the cloud accepted was
reported. -/
theorem truthful_of_reported {run : List DeploymentPass} (h : o.History cluster run c)
    (reported : ∀ pass ∈ run, o.reportedIn pass = none → o.acceptedIn pass = none) :
    o.Truthful run := by
  intro pass earlier hrun hresult
  obtain ⟨wanted, hwanted, hreported⟩ := lastReported_of_upToDate h hrun hresult
  obtain ⟨before, _, hearlier, _⟩ := h.takes hrun
  refine ⟨wanted, hwanted, ?_⟩
  rw [lastAccepted_eq_lastReported hearlier fun p hp =>
    reported p (hrun.subset (List.mem_cons_of_mem _ hp))]
  exact hreported

/-! ## A run in which it is false

The template changes, the cloud accepts the submission, the checksums cannot be written,
and the template changes back: the deployment is then found up to date with the template
that the cloud no longer has. -/

namespace StaleRun

/-- The answer that there is no deployment. -/
def missing : CloudFault := .notFound "DeploymentNotFound" "no deployment"

/-- A deployment that succeeded. -/
def succeeded : DeploymentState := ⟨.succeeded, .null⟩

/-- Why a status cannot be written. -/
def unreachable : Failure := .internal "status" "store unreachable"

variable (o : DeploymentOrchestrator) (cluster : Cluster) (first second : Deployment)

/-- The first deployment is submitted and recorded. -/
def creation : DeploymentPass where
  cluster := cluster
  exchanges :=
    [⟨.lookUp cluster.resourceGroup (o.deploymentName cluster), .error missing⟩,
      ⟨.template o.definition.templateName, .ok first.template⟩,
      ⟨.submit cluster.resourceGroup first.name (first.request true), .ok ()⟩,
      ⟨.loadStatus cluster.name, .ok ⟨{}, none, default⟩⟩,
      ⟨.storeStatus cluster.name (recordOf first) none, .ok ()⟩]
  result := .ok (.submitted true)

/-- The second deployment is submitted, and cannot be recorded. -/
def replacement : DeploymentPass where
  cluster := cluster
  exchanges :=
    [⟨.lookUp cluster.resourceGroup (o.deploymentName cluster), .ok succeeded⟩,
      ⟨.template o.definition.templateName, .ok second.template⟩,
      ⟨.loadStatus cluster.name, .ok ⟨recordOf first, some "1", default⟩⟩,
      ⟨.loadStatus cluster.name, .ok ⟨recordOf first, some "1", default⟩⟩,
      ⟨.submit cluster.resourceGroup second.name (second.request false), .ok ()⟩,
      ⟨.loadStatus cluster.name, .ok ⟨recordOf first, some "1", default⟩⟩,
      ⟨.storeStatus cluster.name
        ((recordOf first).setConditions default second.name (conditionsOf second)).2 (some "1"),
        .error (.other unreachable)⟩]
  result := .error unreachable

/-- The first deployment is wanted again. -/
def reversal : DeploymentPass where
  cluster := cluster
  exchanges :=
    [⟨.lookUp cluster.resourceGroup (o.deploymentName cluster), .ok succeeded⟩,
      ⟨.template o.definition.templateName, .ok first.template⟩,
      ⟨.loadStatus cluster.name, .ok ⟨recordOf first, some "1", default⟩⟩,
      ⟨.loadStatus cluster.name, .ok ⟨recordOf first, some "1", default⟩⟩]
  result := .ok .upToDate

/-- The three passes, the latest first. -/
def run : List DeploymentPass :=
  [reversal o cluster first, replacement o cluster first second, creation o cluster first]

variable {o cluster first second} {parameters : Parameters} {old new : Json}

/-- Recording other checksums is a change. -/
theorem changes_recordOf (hname : first.name = second.name)
    (changed : first.templateChecksum ≠ second.templateChecksum) {now : Instant} :
    ((recordOf first).setConditions now second.name (conditionsOf second)).1 = true := by
  refine Bool.of_not_eq_false fun hunchanged => ?_
  have hset : ((recordOf first).setConditions now second.name (conditionsOf second)).2.condition?
      second.name templateCondition = some second.templateChecksum :=
    Status.condition?_setConditions_of_mem
      (by simp [conditionsOf, templateCondition, parametersCondition]) (by simp [conditionsOf])
  have hkept := (Status.condition?_setConditions_unchanged hunchanged).symm.trans hset
  rw [← hname, templateChecksum_recordOf] at hkept
  exact changed (Option.some.inj hkept)

theorem takes_creation (hfirst : (o.definition.parameters cluster).map
      (o.assemble cluster first.template) = .ok first) :
    o.Takes (creation o cluster first) ⟨{}, none, []⟩ ⟨recordOf first, some "1", [none]⟩ := by
  constructor
  · exact ⟨{}, _, ensureCreated_of_missing rfl hfirst
      (StatusStore.update_of_written (s := ⟨{}, none, default⟩) rfl)⟩
  · refine .cons (.elsewhere _ _ (by simp [Gateway.Request.status?])) ?_
    refine .cons (.elsewhere _ _ (by simp [Gateway.Request.status?])) ?_
    refine .cons (.elsewhere _ _ (by simp [Gateway.Request.status?])) ?_
    exact .cons (.load _ _) (.cons (.store _ _ (some "1") (by simp)) (.nil _))

theorem takes_replacement (hname : first.name = second.name)
    (hsecond : (o.definition.parameters cluster).map
      (o.assemble cluster second.template) = .ok second)
    (changed : first.templateChecksum ≠ second.templateChecksum) :
    o.Takes (replacement o cluster first second)
      ⟨recordOf first, some "1", [none]⟩ ⟨recordOf first, some "1", [none]⟩ := by
  constructor
  · refine ⟨{}, publish o.definition.outputs .null {}, (ensureCreated_ended_iff rfl hsecond).mpr ?_⟩
    rw [if_neg ?_]
    · refine Step.transcript_tryLift_bind_iff.mpr (.inl ⟨unreachable, ?_, rfl, rfl⟩)
      refine submit_transcript_iff.mpr (.inr ⟨_, .error unreachable, rfl, ?_, rfl⟩)
      exact StatusStore.update_of_storeFails (s := ⟨recordOf first, some "1", default⟩)
        (changes_recordOf hname changed)
    · rintro ⟨htemplate, -⟩
      rw [← hname, templateChecksum_recordOf] at htemplate
      exact changed (Option.some.inj htemplate)
  · refine .cons (.elsewhere _ _ (by simp [Gateway.Request.status?])) ?_
    refine .cons (.elsewhere _ _ (by simp [Gateway.Request.status?])) ?_
    refine .cons (.load _ _) (.cons (.load _ _) ?_)
    refine .cons (.elsewhere _ _ (by simp [Gateway.Request.status?])) ?_
    exact .cons (.load _ _) (.cons (.storeFails _ _ _ _) (.nil _))

theorem takes_reversal (hfirst : (o.definition.parameters cluster).map
      (o.assemble cluster first.template) = .ok first) :
    o.Takes (reversal o cluster first)
      ⟨recordOf first, some "1", [none]⟩ ⟨recordOf first, some "1", [none]⟩ := by
  constructor
  · exact ⟨{}, publish o.definition.outputs .null {}, ensureCreated_of_recorded rfl hfirst⟩
  · refine .cons (.elsewhere _ _ (by simp [Gateway.Request.status?])) ?_
    refine .cons (.elsewhere _ _ (by simp [Gateway.Request.status?])) ?_
    exact .cons (.load _ _) (.cons (.load _ _) (.nil _))

/-- The run can happen. -/
theorem history_run (hname : first.name = second.name)
    (hfirst : (o.definition.parameters cluster).map
      (o.assemble cluster first.template) = .ok first)
    (hsecond : (o.definition.parameters cluster).map
      (o.assemble cluster second.template) = .ok second)
    (changed : first.templateChecksum ≠ second.templateChecksum) :
    o.History cluster.name (run o cluster first second) ⟨recordOf first, some "1", [none]⟩ := by
  refine .pass _ _ ?_ rfl (takes_reversal hfirst)
  refine .pass _ _ ?_ rfl (takes_replacement hname hsecond changed)
  exact .pass _ _ (.start _ fun _ => rfl) rfl (takes_creation hfirst)

/-- It ends with a deployment that is not the one the cloud has. -/
theorem not_truthful_run (hname : first.name = second.name)
    (hfirst : (o.definition.parameters cluster).map
      (o.assemble cluster first.template) = .ok first)
    (hsecond : (o.definition.parameters cluster).map
      (o.assemble cluster second.template) = .ok second)
    (changed : first.templateChecksum ≠ second.templateChecksum) :
    ¬o.Truthful (run o cluster first second) := by
  intro truthful
  obtain ⟨wanted, hwanted, haccepted⟩ := truthful _ _ (List.suffix_refl _) rfl
  have hw : o.wantedIn (reversal o cluster first) = some first := congrArg Except.toOption hfirst
  obtain rfl := Option.some.inj (hw.symm.trans hwanted)
  have hsubmitted : o.acceptedIn (replacement o cluster first second) = some second :=
    congrArg Except.toOption hsecond
  rw [lastAccepted, latest_cons_of_some hsubmitted, if_pos hname.symm] at haccepted
  exact changed (congrArg Prod.fst (Option.some.inj haccepted)).symm

set_option maxRecDepth 100000 in
theorem checksum_changed : checksum .null ≠ checksum (.bool true) := by
  decide +kernel

/-- The deployments of the run under the default orchestrator. -/
theorem exists_deployments : ∃ first second : Deployment,
    first.name = second.name ∧
    (MainDeployment.parameters {} production).map
      (DeploymentOrchestrator.assemble {} production first.template) = .ok first ∧
    (MainDeployment.parameters {} production).map
      (DeploymentOrchestrator.assemble {} production second.template) = .ok second ∧
    first.templateChecksum ≠ second.templateChecksum := by
  obtain ⟨parameters, hp⟩ := exists_parameters_production
  rw [hp]
  exact ⟨DeploymentOrchestrator.assemble {} production .null parameters,
    DeploymentOrchestrator.assemble {} production (.bool true) parameters,
    rfl, rfl, rfl, checksum_changed⟩

end StaleRun

/-- **"Up to date" is not always true**, with the default orchestrator. -/
theorem not_always_truthful :
    ¬∀ (cluster : String) (run : List DeploymentPass) (c : StatusCell),
      History {} cluster run c → Truthful {} run := by
  intro always
  obtain ⟨first, second, hname, hfirst, hsecond, changed⟩ := StaleRun.exists_deployments
  have hrun := StaleRun.history_run (o := {}) hname hfirst hsecond changed
  exact StaleRun.not_truthful_run hname hfirst hsecond changed (always _ _ _ hrun)

/-- The condition on a run of the default orchestrator that does happen. -/
theorem truthful_iff_of_production :
    ∃ run c, History {} "production" run c ∧ run.length = 3 ∧
      (Truthful {} run ↔ AcceptedAsReported {} run) := by
  obtain ⟨first, second, hname, hfirst, hsecond, changed⟩ := StaleRun.exists_deployments
  have hrun := StaleRun.history_run (o := {}) hname hfirst hsecond changed
  exact ⟨_, _, hrun, rfl, truthful_iff hrun⟩

end DeploymentOrchestrator

end ClusterOperator
