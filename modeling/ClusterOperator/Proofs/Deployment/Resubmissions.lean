import ClusterOperator.Proofs.Deployment.Review
import ClusterOperator.Proofs.Deployment.Submissions

/-!
# A content is submitted once

As long as the checksums of every accepted submission get recorded, and nobody else writes
them, the ledger of recorded checksums holds those of the submission that was accepted last
(`Run.recorded`).  A review compares with the ledger, so it never submits the content that the
cloud accepted last; only a lookup that does not find the deployment leads to that
(`Run.foundMissing_of_repeated`).  While specification and template stay as they are, passes
over a deployment that has ended submit it at most once in all, and not at all if the cloud
accepted this content last (`economical_of_run`).
-/

namespace ClusterOperator

namespace DeploymentPass

/-- What the lookup of a pass was answered. -/
def lookup? (pass : DeploymentPass) : Option (Except CloudFault DeploymentState) :=
  match pass.exchanges with
  | ⟨.lookUp _ _, reply⟩ :: _ => some reply
  | _ => none

/-- The lookup reported the deployment as not found. -/
def FoundMissing (pass : DeploymentPass) : Prop :=
  ∃ fault, pass.lookup? = some (.error fault) ∧ fault.isNotFound = true

/-- The lookup reported a final state. -/
def FoundEnded (pass : DeploymentPass) : Prop :=
  ∃ observed, pass.lookup? = some (.ok observed) ∧ observed.state.isFinal = true

/-- A pass over a deployment that has ended, with this specification and this template. -/
structure Steady (cluster : Cluster) (template : Json) (pass : DeploymentPass) : Prop where
  cluster_eq : pass.cluster = cluster
  template_eq : ∀ x ∈ pass.exchanges, ∀ read, x.template? = some read → read = template
  ended : pass.FoundEnded

theorem FoundEnded.not_foundMissing {pass : DeploymentPass} (h : pass.FoundEnded) :
    ¬pass.FoundMissing := by
  rintro ⟨fault, hmissing, -⟩
  obtain ⟨observed, hended, -⟩ := h
  rw [hended] at hmissing
  cases hmissing

/-- How many submissions the cloud accepted in the passes. -/
def acceptedCount (passes : List DeploymentPass) : Nat :=
  (passes.flatMap DeploymentPass.exchanges).countP Exchange.isAccepted

theorem acceptedCount_cons {pass : DeploymentPass} {passes : List DeploymentPass} :
    acceptedCount (pass :: passes) =
      pass.exchanges.countP Exchange.isAccepted + acceptedCount passes := by
  rw [acceptedCount, List.flatMap_cons, List.countP_append]
  rfl

end DeploymentPass

namespace DeploymentOrchestrator

variable (o : DeploymentOrchestrator)

/-- The pass goes as the program says, and takes the recorded checksums from one ledger to
another. -/
def Books (pass : DeploymentPass) (l l' : Ledger) : Prop :=
  (∃ ctx after, (o.ensureCreated pass.cluster).Transcript ctx pass.exchanges pass.result after) ∧
    Served (Ledger.Answers pass.cluster.name) l pass.exchanges l'

/-- **The runs in which recording checksums never fails**, the latest pass first, with the
ledger they lead to.  Nothing is assumed of the first ledger; a reading of the status may fail,
since nothing is submitted then. -/
inductive Run (cluster : String) : List DeploymentPass → Ledger → Prop where
  | start (l : Ledger) : Run cluster [] l
  /-- One more pass; what the cloud accepts in it is reported as submitted. -/
  | pass {passes : List DeploymentPass} {l : Ledger} (pass : DeploymentPass) (l' : Ledger) :
      Run cluster passes l → pass.cluster.name = cluster → o.Books pass l l' →
      (o.reportedIn pass = none → o.acceptedIn pass = none) → Run cluster (pass :: passes) l'

variable {o} {pass : DeploymentPass} {passes earlier recent : List DeploymentPass}
  {l l' : Ledger} {name : String} {cluster : Cluster} {template : Json}
  {d first wanted : Deployment} {xs : List (Exchange gateway)}

/-! ## What one pass does to the ledger -/

theorem mem_of_acceptedIn (h : o.acceptedIn pass = some d) :
    o.wantedIn pass = some d ∧ ∃ x ∈ pass.exchanges, x.isAccepted = true := by
  unfold acceptedIn at h
  split at h
  · exact ⟨h, List.any_eq_true.mp ‹_›⟩
  · cases h

/-- **The ledger follows what the cloud accepts**, if that gets recorded. -/
theorem books_cases (h : o.Books pass l l')
    (recorded : o.reportedIn pass = none → o.acceptedIn pass = none) :
    (o.acceptedIn pass = none ∧ l' = l) ∨
      ∃ wanted, o.acceptedIn pass = some wanted ∧ l' = l.record wanted := by
  obtain ⟨⟨ctx, after, hpass⟩, hserved⟩ := h
  rcases submission_cases hpass with ⟨haccepted, -, hidle⟩ |
    ⟨wanted, initial, xs, ys, written, haccepted, -, hexchanges, quiet, hwritten, hresult⟩
  · exact .inl ⟨haccepted, Ledger.eq_of_served hserved fun x hx => (hidle x hx).2⟩
  rw [hexchanges] at hserved
  obtain ⟨_, hquiet, hsubmit⟩ := Served.append_iff.mp hserved
  obtain rfl := Ledger.eq_of_served hquiet fun x hx =>
    Gateway.Request.isStore_of_isQuiet (quiet x hx)
  obtain ⟨_, hsubmitted, hrecord⟩ := Served.cons_iff.mp hsubmit
  obtain rfl := Ledger.eq_of_answers hsubmitted rfl
  rcases recordChecksums_served hwritten hrecord with ⟨e, rfl, -⟩ | ⟨-, hl'⟩
  · -- A pass that fails to record what was accepted is assumed away.
    have hunreported : o.reportedIn pass = none := by
      rw [reportedIn, hresult]
      rfl
    rw [recorded hunreported] at haccepted
    cases haccepted
  · exact .inr ⟨wanted, haccepted, hl'⟩

/-- The cloud accepts at most one submission in a pass. -/
theorem countP_accepted (h : o.Books pass l l') :
    (o.acceptedIn pass = none ∧ pass.exchanges.countP Exchange.isAccepted = 0) ∨
      ∃ wanted, o.acceptedIn pass = some wanted ∧
        pass.exchanges.countP Exchange.isAccepted = 1 := by
  obtain ⟨⟨ctx, after, hpass⟩, -⟩ := h
  rcases submission_cases hpass with ⟨haccepted, -, hidle⟩ |
    ⟨wanted, initial, xs, ys, written, haccepted, -, hexchanges, quiet, hwritten, -⟩
  · refine .inl ⟨haccepted, List.countP_eq_zero.mpr fun x hx => ?_⟩
    rw [(hidle x hx).1]
    exact Bool.false_ne_true
  refine .inr ⟨wanted, haccepted, ?_⟩
  have hbefore : xs.countP Exchange.isAccepted = 0 := List.countP_eq_zero.mpr fun x hx => by
    rw [Exchange.isAccepted_of_isQuiet (quiet x hx)]
    exact Bool.false_ne_true
  have hbehind : ys.countP Exchange.isAccepted = 0 := List.countP_eq_zero.mpr fun x hx => by
    rw [Exchange.isAccepted_of_isUpdate (StatusStore.update_requests hwritten x hx)]
    exact Bool.false_ne_true
  rw [hexchanges, List.countP_append, List.countP_cons_of_pos rfl, hbefore, hbehind]

/-! ## What a run does to the ledger -/

/-- **The ledger holds the checksums of what the cloud accepted last.** -/
theorem Run.recorded {cluster : String} (h : o.Run cluster passes l)
    (hlast : o.lastAccepted name passes = some d) :
    l name = (some d.templateChecksum, some d.parametersChecksum) := by
  induction h with
  | start => cases hlast
  | pass pass l' _ _ hbooks recorded ih =>
    rw [lastAccepted] at hlast
    rcases books_cases hbooks recorded with ⟨haccepted, rfl⟩ | ⟨wanted, haccepted, rfl⟩
    · rw [latest_cons_of_none haccepted] at hlast
      exact ih hlast
    · rw [latest_cons_of_some haccepted] at hlast
      by_cases hname : wanted.name = name
      · rw [if_pos hname] at hlast
        obtain rfl := Option.some.inj hlast
        rw [← hname, Ledger.record_self]
      · rw [if_neg hname] at hlast
        rw [Ledger.record_of_ne (Ne.symm hname)]
        exact ih hlast

/-- What came before a moment of a run is a run. -/
theorem Run.of_suffix {cluster : String} (h : o.Run cluster passes l)
    (hsuffix : earlier <:+ passes) : ∃ l, o.Run cluster earlier l := by
  induction h with
  | start =>
    obtain rfl := List.suffix_nil.mp hsuffix
    exact ⟨l, .start l⟩
  | pass pass l' hrun hname hbooks recorded ih =>
    rcases List.suffix_cons_iff.mp hsuffix with rfl | hsuffix
    · exact ⟨l', .pass pass l' hrun hname hbooks recorded⟩
    · exact ih hsuffix

/-! ## Why a content is submitted again -/

/-- A review reads what the ledger holds. -/
theorem Review.recorded_of_served {v : Review o cluster}
    (h : Served (Ledger.Answers cluster.name) l (v.reads ++ xs) l') :
    v.recorded = l v.wanted.name := by
  obtain ⟨_, hlookup, h₁⟩ := Served.cons_iff.mp h
  obtain rfl := Ledger.eq_of_answers hlookup rfl
  obtain ⟨_, htemplate, h₂⟩ := Served.cons_iff.mp h₁
  obtain rfl := Ledger.eq_of_answers htemplate rfl
  obtain ⟨_, hfirst, h₃⟩ := Served.cons_iff.mp h₂
  obtain ⟨hread, rfl⟩ := Ledger.checksums_of_load hfirst
  obtain ⟨_, hsecond, -⟩ := Served.cons_iff.mp h₃
  obtain ⟨hread', -⟩ := Ledger.checksums_of_load hsecond
  have htemplate := congrArg Prod.fst (congrFun hread v.wanted.name)
  have hparameters := congrArg Prod.snd (congrFun hread' v.wanted.name)
  exact Prod.ext htemplate hparameters

/-- What a review wants is what its pass wants. -/
theorem Review.desiredIn_reads (v : Review o cluster) :
    o.desiredIn cluster (v.reads ++ xs) = some v.wanted := by
  refine desiredIn_append ?_ xs
  exact congrArg Except.toOption v.made

/-- **The content that was accepted last is submitted again only if the deployment was not
found.** -/
theorem Run.foundMissing_of_repeated {cluster : String} (h : o.Run cluster (pass :: earlier) l)
    (haccepted : o.acceptedIn pass = some d)
    (hlast : o.lastAccepted d.name earlier = some first)
    (hsame : first.checksums = d.checksums) : pass.FoundMissing := by
  cases h with
  | pass _ _ hearlier _ hbooks _ =>
    obtain ⟨hwanted, x, hx, accepted⟩ := mem_of_acceptedIn haccepted
    obtain ⟨⟨ctx, after, hpass⟩, hserved⟩ := hbooks
    have loud : x.request.isQuiet ≠ true := by
      intro quiet
      rw [Exchange.isAccepted_of_isQuiet quiet] at accepted
      cases accepted
    rcases cause_of_submission hpass hx loud with
      ⟨fault, ys, missing, hexchanges⟩ | ⟨v, ys, changed, hexchanges⟩
    · exact ⟨fault, by rw [DeploymentPass.lookup?, hexchanges], missing⟩
    · -- The review found in the ledger what was accepted last, and wants the same.
      rw [wantedIn, hexchanges, v.desiredIn_reads] at hwanted
      obtain rfl := Option.some.inj hwanted
      rw [hexchanges] at hserved
      refine absurd ?_ changed
      rw [Review.Unchanged, Review.recorded_of_served hserved, hearlier.recorded hlast]
      obtain ⟨htemplate, hparameters⟩ := Prod.mk.inj hsame
      rw [htemplate, hparameters]

/-! ## Passes with nothing new to submit -/

theorem made_of_wanted (h : o.wantedIn pass = some d) : ∃ x ∈ pass.exchanges, ∃ read,
    x.template? = some read ∧
      (o.definition.parameters pass.cluster).map (o.assemble pass.cluster read) = .ok d := by
  obtain ⟨read, hread, hd⟩ := Option.bind_eq_some_iff.mp h
  obtain ⟨x, hx, htemplate⟩ := List.exists_of_findSome?_eq_some hread
  refine ⟨x, hx, read, htemplate, ?_⟩
  cases hmade : (o.definition.parameters pass.cluster).map (o.assemble pass.cluster read) with
  | error e =>
    rw [hmade] at hd
    cases hd
  | ok made =>
    rw [hmade] at hd
    exact congrArg Except.ok (Option.some.inj hd)

/-- What the cloud accepted last has the content that this specification and this template
make. -/
def AcceptedLast (o : DeploymentOrchestrator) (cluster : Cluster) (template : Json)
    (passes : List DeploymentPass) : Prop :=
  ∃ wanted first, (o.definition.parameters cluster).map (o.assemble cluster template) = .ok wanted ∧
    o.lastAccepted wanted.name passes = some first ∧ first.checksums = wanted.checksums

/-- With specification and template unchanged, what a pass submits is what they make. -/
theorem made_of_steady (steady : pass.Steady cluster template) (h : o.acceptedIn pass = some d) :
    (o.definition.parameters cluster).map (o.assemble cluster template) = .ok d := by
  obtain ⟨x, hx, read, htemplate, hd⟩ := made_of_wanted (mem_of_acceptedIn h).1
  rw [← steady.cluster_eq, ← steady.template_eq x hx read htemplate]
  exact hd

theorem AcceptedLast.of_accepted (steady : pass.Steady cluster template)
    (h : o.acceptedIn pass = some d) : o.AcceptedLast cluster template (pass :: earlier) := by
  refine ⟨d, d, made_of_steady steady h, ?_, rfl⟩
  rw [lastAccepted, latest_cons_of_some h, if_pos rfl]

/-- A content that was accepted last is not submitted again. -/
theorem AcceptedLast.idle {name : String} (known : o.AcceptedLast cluster template earlier)
    (h : o.Run name (pass :: earlier) l) (steady : pass.Steady cluster template) :
    o.acceptedIn pass = none := by
  obtain ⟨wanted, first, hmade, hlast, hsame⟩ := known
  refine Option.eq_none_iff_forall_ne_some.mpr fun d haccepted => ?_
  obtain rfl : d = wanted :=
    Except.ok.inj ((made_of_steady steady haccepted).symm.trans hmade)
  exact steady.ended.not_foundMissing (h.foundMissing_of_repeated haccepted hlast hsame)

theorem AcceptedLast.of_idle (known : o.AcceptedLast cluster template earlier)
    (h : o.acceptedIn pass = none) : o.AcceptedLast cluster template (pass :: earlier) := by
  obtain ⟨wanted, first, hmade, hlast, hsame⟩ := known
  refine ⟨wanted, first, hmade, ?_, hsame⟩
  rw [lastAccepted, latest_cons_of_none h]
  exact hlast

/-- **Nothing is accepted after a submission of the same content**, however many passes there
are. -/
theorem acceptedCount_of_acceptedLast {name : String} (h : o.Run name (recent ++ earlier) l)
    (steady : ∀ pass ∈ recent, pass.Steady cluster template)
    (known : o.AcceptedLast cluster template earlier) :
    DeploymentPass.acceptedCount recent = 0 ∧
      o.AcceptedLast cluster template (recent ++ earlier) := by
  induction recent generalizing l with
  | nil => exact ⟨rfl, known⟩
  | cons pass recent ih =>
    rw [List.forall_mem_cons] at steady
    have hrun := h
    cases h with
    | pass _ _ hearlier _ hbooks _ =>
      obtain ⟨hcount, hknown⟩ := ih hearlier steady.2
      have idle : o.acceptedIn pass = none := hknown.idle hrun steady.1
      refine ⟨?_, hknown.of_idle idle⟩
      rcases countP_accepted hbooks with ⟨-, hnone⟩ | ⟨_, haccepted, -⟩
      · rw [DeploymentPass.acceptedCount_cons, hnone, hcount]
      · rw [idle] at haccepted
        cases haccepted

/-- **At most one submission of an unchanged content is accepted**, and only if nothing of the
content was accepted before. -/
theorem acceptedCount_cases {name : String} (h : o.Run name (recent ++ earlier) l)
    (steady : ∀ pass ∈ recent, pass.Steady cluster template) :
    DeploymentPass.acceptedCount recent = 0 ∨
      DeploymentPass.acceptedCount recent = 1 ∧
        o.AcceptedLast cluster template (recent ++ earlier) := by
  induction recent generalizing l with
  | nil => exact .inl rfl
  | cons pass recent ih =>
    rw [List.forall_mem_cons] at steady
    have hrun := h
    cases h with
    | pass _ _ hearlier _ hbooks _ =>
      rw [DeploymentPass.acceptedCount_cons]
      rcases countP_accepted hbooks with ⟨idle, hnone⟩ | ⟨d, haccepted, hone⟩
      · rw [hnone, Nat.zero_add]
        exact (ih hearlier steady.2).imp_right (And.imp_right fun known => known.of_idle idle)
      · rcases ih hearlier steady.2 with hzero | ⟨-, known⟩
        · exact .inr ⟨by rw [hone, hzero], .of_accepted steady.1 haccepted⟩
        · rw [known.idle hrun steady.1] at haccepted
          cases haccepted

/-! ## Runs -/

/-- The name of what a pass submits is that of the cluster's deployment. -/
theorem name_of_accepted (h : o.acceptedIn pass = some d) :
    d.name = o.deploymentName pass.cluster := by
  obtain ⟨_, _, _, _, hmade⟩ := made_of_wanted (mem_of_acceptedIn h).1
  exact name_of_assemble hmade

/-- Where all passes are over one deployment, what was accepted last is what was accepted last
of its name. -/
theorem lastAccepted_of_findSome? (named : ∀ p ∈ passes, o.deploymentName p.cluster = name)
    (h : passes.findSome? o.acceptedIn = some d) : o.lastAccepted name passes = some d := by
  induction passes with
  | nil => cases h
  | cons pass passes ih =>
    rw [List.forall_mem_cons] at named
    rw [lastAccepted]
    cases haccepted : o.acceptedIn pass with
    | none =>
      rw [List.findSome?_cons, haccepted] at h
      rw [latest_cons_of_none haccepted]
      exact ih named.2 h
    | some e =>
      rw [List.findSome?_cons, haccepted] at h
      obtain rfl := Option.some.inj h
      rw [latest_cons_of_some haccepted, if_pos ((name_of_accepted haccepted).trans named.1)]

/-- **How sparingly a run submits.** -/
structure Economical (o : DeploymentOrchestrator) (run : List DeploymentPass) : Prop where
  /-- If a pass submits what the cloud accepted last of that deployment, its lookup did not find
  the deployment. -/
  missing_of_repeated : ∀ pass earlier d first, pass :: earlier <:+ run →
    o.acceptedIn pass = some d → o.lastAccepted d.name earlier = some first →
    first.checksums = d.checksums → pass.FoundMissing
  /-- In particular, of two successive submissions with the same checksums the later one was
  made by such a pass, if all passes are over one deployment. -/
  missing_of_successive : ∀ name, (∀ p ∈ run, o.deploymentName p.cluster = name) →
    ∀ pass earlier d first, pass :: earlier <:+ run → o.acceptedIn pass = some d →
    earlier.findSome? o.acceptedIn = some first → first.checksums = d.checksums →
    pass.FoundMissing
  /-- While specification and template stay as they are, passes that observe final states make at
  most one submission that is accepted. -/
  at_most_once : ∀ recent earlier cluster template, recent ++ earlier <:+ run →
    (∀ pass ∈ recent, pass.Steady cluster template) → DeploymentPass.acceptedCount recent ≤ 1
  /-- They make none if the cloud accepted this content last. -/
  none_again : ∀ recent earlier cluster template, recent ++ earlier <:+ run →
    (∀ pass ∈ recent, pass.Steady cluster template) → o.AcceptedLast cluster template earlier →
    DeploymentPass.acceptedCount recent = 0

/-- **A run in which recording checksums never fails submits sparingly.** -/
theorem economical_of_run {name : String} {run : List DeploymentPass} (h : o.Run name run l) :
    o.Economical run where
  missing_of_repeated := by
    intro pass earlier d first hsuffix haccepted hlast hsame
    obtain ⟨_, hrun⟩ := h.of_suffix hsuffix
    exact hrun.foundMissing_of_repeated haccepted hlast hsame
  missing_of_successive := by
    intro name named pass earlier d first hsuffix haccepted hlast hsame
    obtain ⟨_, hrun⟩ := h.of_suffix hsuffix
    rw [← named pass (hsuffix.subset List.mem_cons_self), ← name_of_accepted haccepted] at named
    have hearlier : ∀ p ∈ earlier, o.deploymentName p.cluster = d.name := fun p hp =>
      named p (hsuffix.subset (List.mem_cons_of_mem _ hp))
    exact hrun.foundMissing_of_repeated haccepted (lastAccepted_of_findSome? hearlier hlast) hsame
  at_most_once := by
    intro recent earlier cluster template hsuffix steady
    obtain ⟨_, hrun⟩ := h.of_suffix hsuffix
    rcases acceptedCount_cases hrun steady with hzero | ⟨hone, -⟩
    · omega
    · omega
  none_again := by
    intro recent earlier cluster template hsuffix steady known
    obtain ⟨_, hrun⟩ := h.of_suffix hsuffix
    exact (acceptedCount_of_acceptedLast hrun steady known).1

/-! ## A run with a repeated submission

A deployment that has ended, and of which nothing is recorded, is submitted; it is found up to
date, although the phase was written in between; it is deleted in the cloud, and submitted again
with the same content. -/

namespace RecreatedRun

open StaleRun (missing succeeded)

variable (o : DeploymentOrchestrator) (cluster : Cluster) (d : Deployment)

/-- The recorded checksums, after somebody else wrote the phase. -/
def noted : Status := { recordOf d with phase := .provisioning }

def adoption : DeploymentPass where
  cluster := cluster
  exchanges :=
    [⟨.lookUp cluster.resourceGroup (o.deploymentName cluster), .ok succeeded⟩,
      ⟨.template o.definition.templateName, .ok d.template⟩,
      ⟨.loadStatus cluster.name, .ok ⟨{}, none, default⟩⟩,
      ⟨.loadStatus cluster.name, .ok ⟨{}, none, default⟩⟩,
      ⟨.submit cluster.resourceGroup d.name (d.request false), .ok ()⟩,
      ⟨.loadStatus cluster.name, .ok ⟨{}, none, default⟩⟩,
      ⟨.storeStatus cluster.name (recordOf d) none, .ok ()⟩]
  result := .ok (.submitted false)

def settled : DeploymentPass where
  cluster := cluster
  exchanges :=
    [⟨.lookUp cluster.resourceGroup (o.deploymentName cluster), .ok succeeded⟩,
      ⟨.template o.definition.templateName, .ok d.template⟩,
      ⟨.loadStatus cluster.name, .ok ⟨noted d, some "2", default⟩⟩,
      ⟨.loadStatus cluster.name, .ok ⟨noted d, some "2", default⟩⟩]
  result := .ok .upToDate

def recreation : DeploymentPass where
  cluster := cluster
  exchanges :=
    [⟨.lookUp cluster.resourceGroup (o.deploymentName cluster), .error missing⟩,
      ⟨.template o.definition.templateName, .ok d.template⟩,
      ⟨.submit cluster.resourceGroup d.name (d.request true), .ok ()⟩,
      ⟨.loadStatus cluster.name, .ok ⟨noted d, some "2", default⟩⟩]
  result := .ok (.submitted true)

variable {o cluster d}
  (hd : (o.definition.parameters cluster).map (o.assemble cluster d.template) = .ok d)

include hd

theorem books_adoption :
    o.Books (adoption o cluster d) ({} : Status).checksums (recordOf d).checksums := by
  constructor
  · refine ⟨{}, (publish o.definition.outputs .null {}).cancel
      s!"deployment {o.deploymentName cluster} resubmitted",
      (ensureCreated_ended_iff rfl hd).mpr ?_⟩
    rw [if_neg (by rintro ⟨⟨⟩, -⟩)]
    refine Step.transcript_tryLift_bind_iff.mpr (.inr ⟨(), _, [], (List.append_nil _).symm, ?_, ?_⟩)
    · refine submit_transcript_iff.mpr (.inr ⟨_, .ok true, rfl, ?_, rfl⟩)
      exact StatusStore.update_of_written (s := ⟨{}, none, default⟩) rfl
    · exact Step.transcript_cancel_bind_iff.mpr (Step.transcript_pure_iff.mpr ⟨rfl, rfl, rfl⟩)
  · refine .cons (.elsewhere _ _ (by simp [Gateway.Request.status?])) ?_
    refine .cons (.elsewhere _ _ (by simp [Gateway.Request.status?])) ?_
    refine .cons (.load ⟨{}, none, default⟩) (.cons (.load ⟨{}, none, default⟩) ?_)
    refine .cons (.elsewhere _ _ (by simp [Gateway.Request.status?])) ?_
    exact .cons (.load ⟨{}, none, default⟩) (.cons (.store _ _ _) (.nil _))

theorem books_settled :
    o.Books (settled o cluster d) (recordOf d).checksums (recordOf d).checksums := by
  constructor
  · refine ⟨{}, publish o.definition.outputs .null {}, (ensureCreated_ended_iff rfl hd).mpr ?_⟩
    have htemplate : (noted d).condition? d.name templateCondition = some d.templateChecksum :=
      templateChecksum_recordOf
    have hparameters :
        (noted d).condition? d.name parametersCondition = some d.parametersChecksum :=
      parametersChecksum_recordOf
    rw [if_pos ⟨htemplate, hparameters⟩]
    exact Step.transcript_pure_iff.mpr ⟨rfl, rfl, rfl⟩
  · refine .cons (.elsewhere _ _ (by simp [Gateway.Request.status?])) ?_
    refine .cons (.elsewhere _ _ (by simp [Gateway.Request.status?])) ?_
    exact .cons (.load ⟨noted d, _, _⟩) (.cons (.load ⟨noted d, _, _⟩) (.nil _))

theorem books_recreation :
    o.Books (recreation o cluster d) (recordOf d).checksums (recordOf d).checksums := by
  constructor
  · have unchanged : ((noted d).setConditions default d.name (conditionsOf d)).1 = false :=
      Status.setConditions_of_recorded fun p hp => condition?_recordOf hp
    exact ⟨{}, _, ensureCreated_of_missing rfl hd
      (StatusStore.update_of_unchanged (s := ⟨noted d, some "2", default⟩) unchanged)⟩
  · refine .cons (.elsewhere _ _ (by simp [Gateway.Request.status?])) ?_
    refine .cons (.elsewhere _ _ (by simp [Gateway.Request.status?])) ?_
    refine .cons (.elsewhere _ _ (by simp [Gateway.Request.status?])) ?_
    exact .cons (.load ⟨noted d, _, _⟩) (.nil _)

theorem accepted_adoption : o.acceptedIn (adoption o cluster d) = some d :=
  congrArg Except.toOption hd

theorem accepted_recreation : o.acceptedIn (recreation o cluster d) = some d :=
  congrArg Except.toOption hd

/-- The run can happen. -/
theorem run_recreation : o.Run cluster.name
    [recreation o cluster d, settled o cluster d, adoption o cluster d]
    (recordOf d).checksums := by
  have hadoption : o.reportedIn (adoption o cluster d) = some d := congrArg Except.toOption hd
  have hrecreation : o.reportedIn (recreation o cluster d) = some d := congrArg Except.toOption hd
  refine .pass _ _ ?_ rfl (books_recreation hd) (by rw [hrecreation]; exact nofun)
  refine .pass _ _ ?_ rfl (books_settled hd) fun _ => rfl
  exact .pass _ _ (.start _) rfl (books_adoption hd) (by rw [hadoption]; exact nofun)

omit hd in
theorem steady_settled : (settled o cluster d).Steady cluster d.template where
  cluster_eq := rfl
  template_eq := by simp [settled, Exchange.template?]
  ended := ⟨succeeded, rfl, rfl⟩

omit hd in
theorem steady_adoption : (adoption o cluster d).Steady cluster d.template where
  cluster_eq := rfl
  template_eq := by simp [adoption, Exchange.template?]
  ended := ⟨succeeded, rfl, rfl⟩

end RecreatedRun

/-- A run of the default orchestrator in which a content is submitted, found up to date, and
submitted again when it was gone. -/
theorem economical_of_recreated_run :
    ∃ recreation settled adoption l,
      Run {} "production" [recreation, settled, adoption] l ∧
      acceptedIn {} recreation = acceptedIn {} adoption ∧ recreation.FoundMissing ∧
      DeploymentPass.acceptedCount [settled, adoption] ≤ 1 ∧
      DeploymentPass.acceptedCount [settled] = 0 := by
  obtain ⟨d, hd⟩ : ∃ d, (MainDeployment.parameters {} production).map
      (assemble {} production d.template) = .ok d := by
    obtain ⟨parameters, hp⟩ := exists_parameters_production
    rw [hp]
    exact ⟨assemble {} production .null parameters, rfl⟩
  have hrun := RecreatedRun.run_recreation (o := {}) hd
  have haccepted := RecreatedRun.accepted_recreation (o := {}) hd
  have hadopted := RecreatedRun.accepted_adoption (o := {}) hd
  have economical := economical_of_run hrun
  have named : ∀ p ∈ [RecreatedRun.recreation {} production d, RecreatedRun.settled {} production d,
      RecreatedRun.adoption {} production d],
      deploymentName {} p.cluster = deploymentName {} production := by
    simp [RecreatedRun.recreation, RecreatedRun.settled, RecreatedRun.adoption]
  have hlast : [RecreatedRun.settled {} production d,
      RecreatedRun.adoption {} production d].findSome? (acceptedIn {}) = some d := by
    rw [List.findSome?_cons_of_isNone rfl, List.findSome?_cons, hadopted]
  refine ⟨_, _, _, _, hrun, haccepted.trans hadopted.symm, ?_, ?_, ?_⟩
  · exact economical.missing_of_successive _ named _ _ _ _ (List.suffix_refl _) haccepted hlast rfl
  · refine economical.at_most_once _ [] production d.template (List.suffix_cons _ _) ?_
    simp [RecreatedRun.steady_settled, RecreatedRun.steady_adoption]
  · refine economical.none_again [_] [_] production d.template (List.suffix_cons _ _) ?_ ?_
    · simp [RecreatedRun.steady_settled]
    · exact .of_accepted RecreatedRun.steady_adoption hadopted

end DeploymentOrchestrator

end ClusterOperator
