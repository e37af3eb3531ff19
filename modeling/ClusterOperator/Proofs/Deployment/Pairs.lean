import ClusterOperator.Proofs.Deployment.Ledger
import ClusterOperator.Proofs.Deployment.Review
import ClusterOperator.Proofs.Status.Concurrent

/-!
# Checksums come in pairs

Passes over a cluster and others who update its status take turns in any order, and every one of
them may fail at any point.  What is recorded for a deployment is at every moment nothing, or
both checksums of one submission that the cloud accepted (`recorded_pair_accepted`).

There are two reasons.  A pass writes checksums only after the cloud accepted their submission,
both in one write that is made of a status it has read (`Course.recorded_after_accepted`).  And
what is written at the version that was read replaces the very status that was read, since no
version comes twice; so nobody brings an older pair back, or half of one.

A pass that fails before anything was accepted has had nothing accepted, and what is recorded is
as it was (`not_accepted_of_failsEarly`, `Interleaved.checksums_kept`).
-/

namespace ClusterOperator

open DeploymentOrchestrator

/-! ## A store whose failures cannot be relied on -/

namespace StatusCell

/-- **How an unreliable store answers**: as the store does, but a write that is reported as
failed may have taken effect. -/
inductive MayAnswer (name : String) (c : StatusCell) : Exchange gateway → StatusCell → Prop where
  | answers {x : Exchange gateway} {d : StatusCell} : Answers name c x d → MayAnswer name c x d
  | lost (status : Status) (fresh : Option String) (e : StoreFault) :
      fresh ∉ c.version :: c.past →
      MayAnswer name c ⟨.storeStatus name status c.version, .error e⟩
        ⟨status, fresh, c.version :: c.past⟩

variable {name : String} {c d : StatusCell} {x : Exchange gateway}

/-- Either the cell stays as it is, and what is read is what it holds, or it is written at the
version that it has. -/
theorem MayAnswer.cases (h : MayAnswer name c x d) :
    (d = c ∧ ∀ s, x = ⟨.loadStatus name, .ok s⟩ → s.version = c.version ∧ s.status = c.status) ∨
      ∃ status fresh r, x = ⟨.storeStatus name status c.version, r⟩ ∧
        fresh ∉ c.version :: c.past ∧ d = ⟨status, fresh, c.version :: c.past⟩ := by
  cases h with
  | answers h =>
    cases h with
    | load readAt => exact .inl ⟨rfl, fun s hs => by cases hs; exact ⟨rfl, rfl⟩⟩
    | loadFails e => exact .inl ⟨rfl, nofun⟩
    | store status fresh hfresh => exact .inr ⟨status, fresh, _, rfl, hfresh, rfl⟩
    | storeFails status version e => exact .inl ⟨rfl, nofun⟩
    | elsewhere _ hx =>
      refine .inl ⟨rfl, ?_⟩
      rintro s rfl
      exact absurd rfl hx
  | lost status fresh e hfresh => exact .inr ⟨status, fresh, _, rfl, hfresh, rfl⟩

end StatusCell

/-! ## Passes in which a submission is accepted -/

/-- Whether a reply makes a pass fail: the lookup fails, other than by not finding the
deployment; there is no template; the status cannot be read; or the submission is rejected. -/
def Exchange.isFailure : Exchange gateway → Bool
  | ⟨.lookUp _ _, .error fault⟩ => !fault.isNotFound
  | ⟨.template _, .error _⟩ => true
  | ⟨.loadStatus _, .error _⟩ => true
  | ⟨.submit _ _ _, .error _⟩ => true
  | _ => false

namespace DeploymentOrchestrator

variable {o : DeploymentOrchestrator} {cluster : Cluster} {ctx after : PassContext}
  {xs before behind : List (Exchange gateway)} {r : Except Failure DeploymentOutcome}
  {d : Deployment}

/-- The cloud accepted a submission of the deployment in a pass with these exchanges. -/
def Submitted (o : DeploymentOrchestrator) (cluster : Cluster) (d : Deployment)
    (xs : List (Exchange gateway)) : Prop :=
  o.desiredIn cluster xs = some d ∧
    ∃ initial, ⟨.submit cluster.resourceGroup d.name (d.request initial), .ok ()⟩ ∈ xs

theorem Submitted.append (h : o.Submitted cluster d xs) (ys : List (Exchange gateway)) :
    o.Submitted cluster d (xs ++ ys) := by
  obtain ⟨hwanted, initial, hsubmit⟩ := h
  exact ⟨desiredIn_append hwanted ys, initial, List.mem_append_left ys hsubmit⟩

/-- **What a pass writes** are the checksums of a submission that was accepted before, entered
into a status that was read before. -/
theorem Course.recorded_after_accepted {name : String} {status : Status}
    {version : Option String} {reply : Except StoreFault Unit}
    (h : Course o cluster ctx (before ++ ⟨.storeStatus name status version, reply⟩ :: behind)
      r after) :
    ∃ (d : Deployment) (s : Snapshot), o.Submitted cluster d before ∧
      ⟨.loadStatus cluster.name, .ok s⟩ ∈ before ∧ version = s.version ∧
      status.checksums = s.status.checksums.record d := by
  -- A pass that is quiet but for a submission has nothing written.
  have hloud : ∀ {xs : List (Exchange gateway)}, (∀ x ∈ xs, x.request.isStore = false) →
      before ++ ⟨.storeStatus name status version, reply⟩ :: behind ≠ xs := by
    rintro xs unwritten rfl
    cases unwritten ⟨.storeStatus name status version, reply⟩ (by simp)
  generalize hxs : before ++ (⟨.storeStatus name status version, reply⟩ : Exchange gateway) ::
    behind = xs at h
  cases h with
  | quiet _ _ _ quiet =>
    exact absurd hxs (hloud fun x hx => Gateway.Request.isStore_of_isQuiet (quiet x hx))
  | upToDate => exact absurd hxs (hloud (by simp [Gateway.Request.isStore]))
  | refused d initial xs fault e _ quiet =>
    refine absurd hxs (hloud fun x hx => ?_)
    rcases List.mem_append.mp hx with hx | hx
    · exact Gateway.Request.isStore_of_isQuiet (quiet x hx)
    · obtain rfl := List.mem_singleton.mp hx
      rfl
  | accepted d initial xs ys written _ quiet wanted hwritten =>
    rcases append_cons_eq_append hxs with ⟨ws, rfl, -⟩ | ⟨ws, rfl, hws⟩
    · cases quiet ⟨.storeStatus name status version, reply⟩ (by simp)
    cases ws with
    | nil => cases hws
    | cons w ws =>
      obtain ⟨rfl, rfl⟩ := List.cons.inj hws
      obtain ⟨s, hload, -, hversion, -, rfl⟩ := StatusStore.update_writes_after hwritten
      refine ⟨d, s, ⟨desiredIn_append wanted _, initial, by simp⟩, ?_, hversion,
        checksums_setConditions⟩
      exact List.mem_append_right xs (List.mem_cons_of_mem _ hload)

/-! ## Passes that fail before anything is accepted -/

/-- What a pass has exchanged before the cloud accepts its submission. -/
inductive Prepares (o : DeploymentOrchestrator) (cluster : Cluster) :
    List (Exchange gateway) → Prop where
  /-- The deployment was not found. -/
  | missing (fault : CloudFault) (template : Json) (d : Deployment) : fault.isNotFound = true →
      (o.definition.parameters cluster).map (o.assemble cluster template) = .ok d →
      Prepares o cluster
        [⟨.lookUp cluster.resourceGroup (o.deploymentName cluster), .error fault⟩,
          ⟨.template o.definition.templateName, .ok template⟩]
  /-- The deployment was reviewed. -/
  | reviewed (v : Review o cluster) : Prepares o cluster v.reads

/-- What is submitted and accepted is followed by the recording of its checksums and nothing
else. -/
theorem submitted_of_accepted {initial : Bool} {reason : String} {x : Exchange gateway}
    (h : ((Step.tryLift (o.submit cluster d initial)).bind fun _ =>
      (Step.cancel reason).bind fun _ =>
        pure (.submitted initial)).Transcript ctx xs r after)
    (hx : x ∈ xs) (accepted : x.isAccepted = true) :
    ∃ ys written, xs = ⟨.submit cluster.resourceGroup d.name (d.request initial), .ok ()⟩ :: ys ∧
      (o.recordChecksums cluster d).Transcript ys written := by
  have hsubmit : ∀ {zs s}, (o.submit cluster d initial).Transcript zs s → x ∈ zs →
      ∃ ys written,
        zs = ⟨.submit cluster.resourceGroup d.name (d.request initial), .ok ()⟩ :: ys ∧
        (o.recordChecksums cluster d).Transcript ys written := by
    intro zs s hzs hx
    rcases submit_transcript_iff.mp hzs with ⟨fault, rfl, -⟩ | ⟨ys, written, rfl, hwritten, -⟩
    · obtain rfl := List.mem_singleton.mp hx
      cases accepted
    · exact ⟨ys, written, rfl, hwritten⟩
  rcases Step.transcript_tryLift_bind_iff.mp h with ⟨e, hs, -⟩ | ⟨_, zs, ws, rfl, hs, hrest⟩
  · exact hsubmit hs hx
  · simp only [Step.transcript_cancel_bind_iff, Step.transcript_pure_iff] at hrest
    obtain ⟨rfl, -, -⟩ := hrest
    rw [List.append_nil] at hx ⊢
    exact hsubmit hs hx

/-- **A pass in which the cloud accepts a submission** has read all that it needed, and after
the submission does nothing but record the checksums. -/
theorem prepares_of_accepted (h : (o.ensureCreated cluster).Transcript ctx xs r after)
    {x : Exchange gateway} (hx : x ∈ xs) (accepted : x.isAccepted = true) :
    ∃ d initial ready ys written, o.Prepares cluster ready ∧
      xs = ready ++ ⟨.submit cluster.resourceGroup d.name (d.request initial), .ok ()⟩ :: ys ∧
      (o.recordChecksums cluster d).Transcript ys written := by
  have loud : x.request.isQuiet ≠ true := by
    intro quiet
    rw [Exchange.isAccepted_of_isQuiet quiet] at accepted
    cases accepted
  rcases cause_of_submission h hx loud with ⟨fault, ys, missing, rfl⟩ | ⟨v, ys, changed, rfl⟩
  · obtain ⟨reply, zs, heq, hrest⟩ := Step.transcript_ask_bind_iff.mp h
    cases heq
    dsimp only at hrest
    rw [if_pos missing] at hrest
    simp only [create, Step.bind_eq_bind] at hrest
    have hys : x ∈ ys := by
      rcases List.mem_cons.mp hx with rfl | hys
      · cases accepted
      · exact hys
    rcases Step.transcript_tryLift_bind_iff.mp hrest with
      ⟨e, hdesired, -⟩ | ⟨d, as, bs, rfl, hdesired, hsubmit⟩
    · obtain ⟨reply, rfl, -⟩ := desired_transcript_iff.mp hdesired
      obtain rfl := List.mem_singleton.mp hys
      cases accepted
    · obtain ⟨template, rfl, hd⟩ := desired_ok hdesired
      have hbs : x ∈ bs := by
        rcases List.mem_cons.mp hys with rfl | hbs
        · cases accepted
        · exact hbs
      obtain ⟨ys, written, rfl, hwritten⟩ := submitted_of_accepted hsubmit hbs accepted
      exact ⟨d, true, _, ys, written, .missing fault template d missing hd, rfl, hwritten⟩
  · have hys : x ∈ ys := by
      refine (List.mem_append.mp hx).resolve_left fun hreads => ?_
      simp only [Review.reads, List.mem_cons, List.not_mem_nil, or_false] at hreads
      rcases hreads with rfl | rfl | rfl | rfl <;> cases accepted
    have hsubmit := (Review.transcript_of_changed changed).mp h
    simp only [resubmit, Step.bind_eq_bind] at hsubmit
    obtain ⟨zs, written, rfl, hwritten⟩ := submitted_of_accepted hsubmit hys accepted
    exact ⟨v.wanted, false, _, zs, written, .reviewed v, rfl, hwritten⟩

/-- **A pass fails before the cloud accepts a submission**: the network of the cluster cannot be
carved, or a failing reply comes while nothing is accepted yet. -/
inductive FailsEarly (o : DeploymentOrchestrator) (cluster : Cluster) :
    List (Exchange gateway) → Prop where
  | parameters (xs : List (Exchange gateway)) (e : Failure) :
      o.definition.parameters cluster = .error e → FailsEarly o cluster xs
  | reply (before behind : List (Exchange gateway)) (x : Exchange gateway) :
      x.isFailure = true → (∀ y ∈ before, y.isAccepted = false) →
      FailsEarly o cluster (before ++ x :: behind)

theorem FailsEarly.append (h : o.FailsEarly cluster xs) (ys : List (Exchange gateway)) :
    o.FailsEarly cluster (xs ++ ys) := by
  cases h with
  | parameters _ e he => exact .parameters _ e he
  | reply before behind x hx hbefore =>
    rw [List.append_assoc, List.cons_append]
    exact .reply before (behind ++ ys) x hx hbefore

/-- What a pass has read before the cloud accepts its submission has not failed. -/
theorem Prepares.no_failure (h : o.Prepares cluster xs) :
    (∃ parameters, o.definition.parameters cluster = .ok parameters) ∧
      ∀ x ∈ xs, x.isFailure = false := by
  have made : ∀ {template : Json} {d : Deployment},
      (o.definition.parameters cluster).map (o.assemble cluster template) = .ok d →
      ∃ parameters, o.definition.parameters cluster = .ok parameters := by
    intro template d hd
    cases hp : o.definition.parameters cluster with
    | error e =>
      rw [hp] at hd
      cases hd
    | ok parameters => exact ⟨parameters, rfl⟩
  cases h with
  | missing fault template d missing hd =>
    exact ⟨made hd, by simp [Exchange.isFailure, missing]⟩
  | reviewed v => exact ⟨made v.made, by simp [Review.reads, Exchange.isFailure]⟩

/-- **A pass that fails early** has no submission accepted. -/
theorem not_accepted_of_failsEarly (h : (o.ensureCreated cluster).Transcript ctx xs r after)
    (early : o.FailsEarly cluster xs) {x : Exchange gateway} (hx : x ∈ xs) :
    x.isAccepted = false := by
  refine Bool.eq_false_iff.mpr fun accepted => ?_
  obtain ⟨d, initial, ready, ys, written, prepares, hxs, -⟩ := prepares_of_accepted h hx accepted
  obtain ⟨⟨parameters, hok⟩, hready⟩ := prepares.no_failure
  cases early with
  | parameters _ e he =>
    rw [hok] at he
    cases he
  | reply before behind y hy hbefore =>
    rcases append_cons_eq_append hxs with ⟨ws, rfl, -⟩ | ⟨ws, rfl, hws⟩
    · rw [hready y (by simp)] at hy
      cases hy
    · -- The failing reply is not the acceptance, and not behind it.
      cases ws with
      | nil =>
        cases hws
        cases hy
      | cons w ws =>
        obtain ⟨rfl, -⟩ := List.cons.inj hws
        exact nomatch hbefore _ (List.mem_append_right ready List.mem_cons_self)

end DeploymentOrchestrator

/-! ## Passes and other writers -/

/-- Who takes part: a pass over the cluster, or somebody else who updates its status. -/
inductive Party where
  | pass (cluster : Cluster) (ctx : PassContext)
  | writer (retry : Backoff) (mutate : Mutation)

namespace Party

/-- What a party does about the status of a name; a pass ends with its result. -/
def program (o : DeploymentOrchestrator) (name : String) :
    Party → Program gateway (Option (Except Failure DeploymentOutcome))
  | .pass cluster ctx => (o.ensureCreated cluster ctx).bind fun r => .done (some r.1)
  | .writer retry mutate => (gatewayStore.update name retry mutate).bind fun _ => .done none

/-- Passes are over the cluster of a name, and the other writers leave alone what is recorded
for a deployment. -/
def Fits (name deployment : String) : Party → Prop
  | .pass cluster _ => cluster.name = name
  | .writer _ mutate => ∀ now s, (mutate now s).1 = true →
      (mutate now s).2.checksums deployment = s.checksums deployment

end Party

section

variable {ι : Type} [DecidableEq ι] {o : DeploymentOrchestrator} {name deployment : String}
  {parties : ι → Party} {c₀ c c₁ d : StatusCell} {history later : List (ι × Exchange gateway)}
  {threads threads' : ι → Program gateway (Option (Except Failure DeploymentOutcome))} {i : ι}
  {cluster : Cluster} {ctx : PassContext}

/-- **As long as the cell has the version that somebody read, it holds the status that was
read.** -/
theorem Interleaved.reads {α : Type} {start threads : ι → Program gateway α}
    (h : Interleaved (StatusCell.MayAnswer name) start c₀ history threads c) :
    ∀ i s, (i, ⟨.loadStatus name, .ok s⟩) ∈ history →
      s.version ∈ c.version :: c.past ∧ (s.version = c.version → s.status = c.status) := by
  induction h with
  | nil => exact nofun
  | step j x next _ _ hanswers ih =>
    intro i s hload
    rcases hanswers.cases with ⟨rfl, hread⟩ | ⟨status, fresh, r, rfl, hfresh, rfl⟩
    · rcases List.mem_append.mp hload with hload | hload
      · exact ih i s hload
      · cases List.mem_singleton.mp hload
        obtain ⟨hversion, hstatus⟩ := hread s rfl
        exact ⟨hversion ▸ List.mem_cons_self, fun _ => hstatus⟩
    · rcases List.mem_append.mp hload with hload | hload
      · obtain ⟨hversion, -⟩ := ih i s hload
        refine ⟨List.mem_cons_of_mem _ hversion, fun hsame => ?_⟩
        have hagain : s.version = fresh := hsame
        exact absurd (hagain ▸ hversion) hfresh
      · cases List.mem_singleton.mp hload

/-- What a pass has exchanged so far begins one of its transcripts. -/
theorem Interleaved.pass_transcript
    (h : Interleaved (StatusCell.MayAnswer name) (fun i => (parties i).program o name) c₀ history
      threads c)
    (hi : parties i = .pass cluster ctx) :
    ∃ ys r after, (o.ensureCreated cluster).Transcript ctx (exchangesOf i history ++ ys) r
      after := by
  obtain ⟨ys, a, hys⟩ := Program.exists_transcript Gateway.reply_nonempty (threads i)
  have hrun := h.transcript hys
  simp only [hi, Party.program] at hrun
  obtain ⟨⟨r, after⟩, hpass, -⟩ := Program.transcript_map_iff.mp hrun
  exact ⟨ys, r, after, hpass⟩

/-- **One exchange** leaves alone what is recorded for a deployment, or belongs to a pass and
records both checksums of a submission that was accepted in this pass. -/
theorem Interleaved.step_checksums (fits : ∀ i, (parties i).Fits name deployment)
    (h : Interleaved (StatusCell.MayAnswer name) (fun i => (parties i).program o name) c₀ history
      threads c)
    {x : Exchange gateway} {next : gateway.Reply x.request → Program gateway _}
    (hasks : threads i = .ask x.request next) (hanswers : StatusCell.MayAnswer name c x d) :
    d.status.checksums deployment = c.status.checksums deployment ∨
      ∃ cluster ctx wanted, parties i = .pass cluster ctx ∧
        o.Submitted cluster wanted (exchangesOf i history) ∧ wanted.name = deployment ∧
        d.status.checksums deployment =
          (some wanted.templateChecksum, some wanted.parametersChecksum) := by
  rcases hanswers.cases with ⟨rfl, -⟩ | ⟨status, fresh, r, rfl, -, rfl⟩
  · exact .inl rfl
  obtain ⟨ys, a, hys⟩ := Program.exists_transcript Gateway.reply_nonempty (next r)
  have hgoes : (threads i).Transcript (⟨.storeStatus name status c.version, r⟩ :: ys) a :=
    hasks ▸ .ask r hys
  have hrun := h.transcript hgoes
  -- The status that is written was made of what the cell holds, which is what was read.
  have hheld : ∀ {s : Snapshot}, ⟨.loadStatus name, .ok s⟩ ∈ exchangesOf i history →
      c.version = s.version → s.status = c.status := fun hload hversion =>
    (h.reads i _ (mem_exchangesOf_iff.mp hload)).2 hversion.symm
  have hfits := fits i
  cases hi : parties i with
  | pass cluster ctx =>
    simp only [hi, Party.program] at hrun
    rw [hi] at hfits
    obtain rfl : cluster.name = name := hfits
    obtain ⟨⟨result, after⟩, hpass, -⟩ := Program.transcript_map_iff.mp hrun
    obtain ⟨wanted, s, submitted, hload, hversion, hchecksums⟩ :=
      (ensureCreated_course hpass).recorded_after_accepted
    rw [hheld hload hversion] at hchecksums
    by_cases hname : deployment = wanted.name
    · subst hname
      refine .inr ⟨cluster, ctx, wanted, rfl, submitted, rfl, ?_⟩
      rw [hchecksums, Ledger.record_self]
    · refine .inl ?_
      rw [hchecksums, Ledger.record_of_ne hname]
  | writer retry mutate =>
    simp only [hi, Party.program] at hrun
    rw [hi] at hfits
    obtain ⟨result, hupdate, -⟩ := Program.transcript_map_iff.mp hrun
    obtain ⟨s, hload, -, hversion, changed, rfl⟩ := StatusStore.update_writes_after hupdate
    rw [hheld hload hversion] at changed ⊢
    exact .inl (hfits s.readAt c.status changed)

/-- A pass in which nothing is accepted has nothing written. -/
theorem Interleaved.not_store_of_not_accepted
    (h : Interleaved (StatusCell.MayAnswer name) (fun i => (parties i).program o name) c₀ history
      threads c)
    (hi : parties i = .pass cluster ctx)
    (idle : ∀ x, (i, x) ∈ history → x.isAccepted = false) {x : Exchange gateway}
    (hx : (i, x) ∈ history) : x.request.isStore = false := by
  refine Bool.eq_false_iff.mpr fun store => ?_
  obtain ⟨ys, r, after, hpass⟩ := h.pass_transcript hi
  obtain ⟨before, behind, hsplit⟩ := List.append_of_mem (mem_exchangesOf_iff.mpr hx)
  rw [hsplit, List.append_assoc, List.cons_append] at hpass
  obtain ⟨request, reply⟩ := x
  cases request with
  | storeStatus n status version =>
    obtain ⟨wanted, s, ⟨-, initial, hsubmit⟩, -⟩ :=
      (ensureCreated_course hpass).recorded_after_accepted
    have hunaccepted := idle _ (mem_exchangesOf_iff.mp (hsplit ▸ List.mem_append_left _ hsubmit))
    cases hunaccepted
  | _ => cases store

/-- What is recorded is nothing, or both checksums of an accepted submission. -/
theorem Interleaved.recorded_cases (fits : ∀ i, (parties i).Fits name deployment)
    (absent : c₀.status.checksums deployment = (none, none))
    (h : Interleaved (StatusCell.MayAnswer name) (fun i => (parties i).program o name) c₀ history
      threads c) :
    c.status.checksums deployment = (none, none) ∨
      ∃ i cluster ctx wanted, parties i = .pass cluster ctx ∧
        o.Submitted cluster wanted (exchangesOf i history) ∧ wanted.name = deployment ∧
        c.status.checksums deployment =
          (some wanted.templateChecksum, some wanted.parametersChecksum) := by
  induction h with
  | nil => exact .inl absent
  | step j x next hbefore hasks hanswers ih =>
    have hgrows : ∀ {i cluster d} {history : List (ι × Exchange gateway)},
        o.Submitted cluster d (exchangesOf i history) →
        o.Submitted cluster d (exchangesOf i (history ++ [(j, x)])) := fun submitted => by
      rw [exchangesOf_append]
      exact submitted.append _
    rcases hbefore.step_checksums fits hasks hanswers with
      hkept | ⟨cluster, ctx, wanted, hj, submitted, hname, hrecorded⟩
    · rw [hkept]
      refine ih.imp_right ?_
      rintro ⟨i, cluster, ctx, wanted, hi, submitted, hrecorded⟩
      exact ⟨i, cluster, ctx, wanted, hi, hgrows submitted, hrecorded⟩
    · exact .inr ⟨j, cluster, ctx, wanted, hj, hgrows submitted, hname, hrecorded⟩

/-- What is recorded stays as it is while a pass in which nothing is accepted takes turns with
other writers. -/
theorem Interleaved.checksums_kept (fits : ∀ i, (parties i).Fits name deployment)
    (h : Interleaved (StatusCell.MayAnswer name) (fun i => (parties i).program o name) c₀ history
      threads c)
    (h' : Interleaved (StatusCell.MayAnswer name) threads c later threads' d)
    (idle : ∀ x, (i, x) ∈ history ++ later → x.isAccepted = false)
    (others : ∀ e ∈ later, e.1 = i ∨ ∃ retry mutate, parties e.1 = .writer retry mutate) :
    d.status.checksums deployment = c.status.checksums deployment := by
  induction h' with
  | nil => rfl
  | step j x next hbefore hasks hanswers ih =>
    rcases (h.append hbefore).step_checksums fits hasks hanswers with
      hkept | ⟨cluster, ctx, wanted, hj, ⟨-, initial, hsubmit⟩, -⟩
    · rw [hkept]
      refine ih (fun y hy => idle y ?_) fun e he => others e (List.mem_append_left _ he)
      rw [← List.append_assoc]
      exact List.mem_append_left _ hy
    · rcases others (j, x) (List.mem_append_right _ List.mem_cons_self) with
        rfl | ⟨retry, mutate, hwriter⟩
      · rw [← List.append_assoc] at idle
        have hunaccepted := idle _ (List.mem_append_left _ (mem_exchangesOf_iff.mp hsubmit))
        cases hunaccepted
      · rw [hj] at hwriter
        cases hwriter

/-- **What is recorded for a deployment is at every moment nothing, or both checksums of one
accepted submission**; and a pass that fails before anything was accepted has had nothing
accepted, has had nothing written, and leaves what is recorded as it was, whoever else updated
the status in the meantime. -/
theorem recorded_pair_accepted (fits : ∀ i, (parties i).Fits name deployment)
    (absent : c₀.status.checksums deployment = (none, none))
    (h : Interleaved (StatusCell.MayAnswer name) (fun i => (parties i).program o name) c₀ history
      threads c) :
    (c.status.checksums deployment = (none, none) ∨
      ∃ i cluster ctx wanted, parties i = .pass cluster ctx ∧
        o.Submitted cluster wanted (exchangesOf i history) ∧ wanted.name = deployment ∧
        c.status.checksums deployment =
          (some wanted.templateChecksum, some wanted.parametersChecksum)) ∧
    ∀ i cluster ctx, parties i = .pass cluster ctx →
      (o.FailsEarly cluster (exchangesOf i history) →
        ∀ x, (i, x) ∈ history → x.isAccepted = false) ∧
      ((∀ x, (i, x) ∈ history → x.isAccepted = false) →
        (∀ x, (i, x) ∈ history → x.request.isStore = false) ∧
        ∀ earlier later between c₁, history = earlier ++ later →
          Interleaved (StatusCell.MayAnswer name) (fun i => (parties i).program o name) c₀ earlier
            between c₁ →
          Interleaved (StatusCell.MayAnswer name) between c₁ later threads c →
          (∀ e ∈ later, e.1 = i ∨ ∃ retry mutate, parties e.1 = .writer retry mutate) →
          c.status.checksums deployment = c₁.status.checksums deployment) := by
  refine ⟨h.recorded_cases fits absent, fun i cluster ctx hi => ⟨fun early x hx => ?_, fun idle =>
    ⟨fun x hx => h.not_store_of_not_accepted hi idle hx, ?_⟩⟩⟩
  · obtain ⟨ys, r, after, hpass⟩ := h.pass_transcript hi
    exact not_accepted_of_failsEarly hpass (early.append ys)
      (List.mem_append_left ys (mem_exchangesOf_iff.mpr hx))
  · rintro earlier later between c₁ rfl hearlier hlater others
    exact hearlier.checksums_kept fits hlater idle others

end

/-! ## Turns that do happen -/

namespace Turns

/-- An orchestrator whose updates are not repeated. -/
def orchestrator : DeploymentOrchestrator where
  definition := {
    deploymentName := fun cluster => cluster.name
    templateName := mainTemplate
    parameters := fun cluster => .ok ⟨[("location", .text cluster.spec.location)]⟩
    outputs := [] }
  statusRetry := .withMaxAttempts 1

/-- The cluster before and after it was moved. -/
def cluster (location : String) : Cluster where
  name := "c"
  spec := { location, networkCidr := "10.0.0.0/16", releaseVersion := "1.2.3" }

/-- Two passes, of which the second one sees another specification, a writer of phases, and a
pass whose lookup fails. -/
def parties : Fin 4 → Party
  | 0 => .pass (cluster "north") {}
  | 1 => .pass (cluster "south") {}
  | 2 => .writer (.withMaxAttempts 1) (Operator.phaseMutation .provisioning none)
  | 3 => .pass (cluster "south") {}

/-- What a pass wants. -/
def wanted (location : String) : Deployment where
  name := "c"
  template := .null
  parameters := ⟨[("location", .text location)]⟩

/-- The status that the writer of phases leaves. -/
def phased : Status := { phase := .provisioning }

/-- A status with the checksums of what a pass wants. -/
def recorded (s : Status) (location : String) : Status :=
  (s.setConditions default "c" (conditionsOf (wanted location))).2

/-- The cloud answers, but not with a state. -/
def unavailable : CloudFault := .withStatus 503 "ServiceUnavailable" ""

theorem fits (i : Fin 4) : (parties i).Fits "c" "c" := by
  match i with
  | 0 | 1 | 3 => rfl
  | 2 =>
    intro now s changed
    dsimp only [Operator.phaseMutation] at changed ⊢
    split <;> rfl

end Turns

open Turns in
/-- The checksums of the first submission are not recorded, since somebody else wrote first; the
pass whose lookup fails leaves no trace; and the checksums of the second submission are recorded
together, although their write is reported as failed. -/
theorem recorded_pair_accepted_of_turns :
    ∃ (history : List (Fin 4 × Exchange gateway)) (threads : Fin 4 → Program gateway _)
        (c : StatusCell),
      Interleaved (StatusCell.MayAnswer "c") (fun i => (parties i).program orchestrator "c")
        ⟨{}, none, []⟩ history threads c ∧
      threads 0 = .done (some (.error (.statusConflict "c" 1))) ∧
      (∃ i cluster ctx wanted, parties i = .pass cluster ctx ∧
        orchestrator.Submitted cluster wanted (exchangesOf i history) ∧ wanted.name = "c" ∧
        c.status.checksums "c" =
          (some wanted.templateChecksum, some wanted.parametersChecksum)) ∧
      ∀ x, (3, x) ∈ history → x.isAccepted = false ∧ x.request.isStore = false := by
  have h₀ : Interleaved (StatusCell.MayAnswer "c")
      (fun i => (parties i).program orchestrator "c") ⟨{}, none, []⟩ [] _ _ := .nil
  have h₁ := h₀.step 0 (⟨.lookUp "c" "c", .error (.notFound "" "")⟩ : Exchange gateway) _
    rfl (.answers (.elsewhere _ _ nofun))
  have h₂ := h₁.step 0 (⟨.template mainTemplate, .ok .null⟩ : Exchange gateway) _
    rfl (.answers (.elsewhere _ _ nofun))
  have h₃ := h₂.step 0
    (⟨.submit "c" "c" ((wanted "north").request true), .ok ()⟩ : Exchange gateway) _
    rfl (.answers (.elsewhere _ _ nofun))
  have h₄ := h₃.step 0 (⟨.loadStatus "c", .ok ⟨{}, none, default⟩⟩ : Exchange gateway) _
    rfl (.answers (.load _ _))
  have h₅ := h₄.step 2 (⟨.loadStatus "c", .ok ⟨{}, none, default⟩⟩ : Exchange gateway) _
    rfl (.answers (.load _ _))
  have h₆ := h₅.step 2 (⟨.storeStatus "c" phased none, .ok ()⟩ : Exchange gateway) _
    rfl (.answers (.store _ _ (some "1") (by simp)))
  have h₇ := h₆.step 0
    (⟨.storeStatus "c" (recorded {} "north") none, .error (.conflict "c")⟩ : Exchange gateway) _
    rfl (.answers (.storeFails _ _ _ _))
  have h₈ := h₇.step 3 (⟨.lookUp "c" "c", .error unavailable⟩ : Exchange gateway) _
    rfl (.answers (.elsewhere _ _ nofun))
  have h₉ := h₈.step 1 (⟨.lookUp "c" "c", .error (.notFound "" "")⟩ : Exchange gateway) _
    rfl (.answers (.elsewhere _ _ nofun))
  have h₁₀ := h₉.step 1 (⟨.template mainTemplate, .ok .null⟩ : Exchange gateway) _
    rfl (.answers (.elsewhere _ _ nofun))
  have h₁₁ := h₁₀.step 1
    (⟨.submit "c" "c" ((wanted "south").request true), .ok ()⟩ : Exchange gateway) _
    rfl (.answers (.elsewhere _ _ nofun))
  have h₁₂ := h₁₁.step 1 (⟨.loadStatus "c", .ok ⟨phased, some "1", default⟩⟩ : Exchange gateway) _
    rfl (.answers (.load _ _))
  have h₁₃ := h₁₂.step 1
    (⟨.storeStatus "c" (recorded phased "south") (some "1"),
      .error (.other (.internal "" ""))⟩ : Exchange gateway) _
    rfl (.lost _ (some "2") _ (by simp))
  obtain ⟨hpair, hpasses⟩ := recorded_pair_accepted fits rfl h₁₃
  obtain ⟨hearly, hidle⟩ := hpasses 3 (cluster "south") {} rfl
  have early : orchestrator.FailsEarly (cluster "south")
      [(⟨.lookUp "c" "c", .error unavailable⟩ : Exchange gateway)] :=
    .reply [] [] _ rfl (List.forall_mem_nil _)
  have idle := hearly early
  refine ⟨_, _, _, h₁₃, rfl, hpair.resolve_left ?_, fun x hx => ⟨idle x hx, (hidle idle).1 x hx⟩⟩
  have hrecorded : (recorded phased "south").checksums "c" =
      (some (wanted "south").templateChecksum, some (wanted "south").parametersChecksum) :=
    (congrFun (checksums_setConditions (d := wanted "south")) "c").trans Ledger.record_self
  rw [hrecorded]
  exact nofun

end ClusterOperator
