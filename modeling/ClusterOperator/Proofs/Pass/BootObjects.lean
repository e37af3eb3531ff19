import ClusterOperator.BootObjects
import ClusterOperator.Proofs.Records.Reconcile

/-!
# Boot objects in a pass that completes

Whatever goes wrong with the storage or the renderer either fails the step or cancels the
pass.  So if the boot objects complete, the container was there, every role's object was
rendered, and each of the rendered bodies was read back under its key or was written there
(`bootObjects_completes`).  Along the way the context is only read.
-/

namespace ClusterOperator

namespace BootObjects

variable {ctx after : PassContext} {xs : List (Exchange gateway)} {s : StorageContainer}
  {cluster : Cluster} {records : List BootObject}

/-- An error of the storage that is no failure cancels the pass. -/
theorem notReadyOrFail_ok {e : CloudFault} {operation : String} {u : Unit}
    (h : (notReadyOrFail e operation).Transcript ctx xs (.ok u) after) :
    after.isCanceled = true := by
  unfold notReadyOrFail at h
  split at h
  · obtain ⟨-, -, rfl⟩ := Step.transcript_cancel_iff.mp h
    exact PassContext.isCanceled_cancel
  · obtain ⟨-, hresult, -⟩ := Step.transcript_fail_iff.mp h
    cases hresult

theorem notReadyOrFail_bind_ok {α : Type} {e : CloudFault} {operation : String} {a b : α}
    (h : ((notReadyOrFail e operation).bind fun _ => pure a).Transcript ctx xs (.ok b) after) :
    b = a ∧ after.isCanceled = true := by
  obtain ⟨u, between, ys, zs, rfl, hfault, hpure⟩ := Step.transcript_bind_ok_iff.mp h
  obtain ⟨-, hvalue, rfl⟩ := Step.transcript_pure_iff.mp hpure
  exact ⟨Except.ok.inj hvalue, notReadyOrFail_ok hfault⟩

theorem not_completes_notReadyOrFail {e : CloudFault} {operation : String} {u : Unit} :
    ¬ (notReadyOrFail e operation).Completes ctx xs u after := by
  rintro ⟨h, live⟩
  rw [notReadyOrFail_ok h] at live
  cases live

theorem not_completes_notReadyOrFail_bind {α : Type} {e : CloudFault} {operation : String}
    {a b : α} :
    ¬ ((notReadyOrFail e operation).bind fun _ => pure a).Completes ctx xs b after := by
  rintro ⟨h, live⟩
  rw [(notReadyOrFail_bind_ok h).2] at live
  cases live

/-! ## Reading -/

/-- The storage can be used if its container was found; otherwise the pass is canceled. -/
theorem readyStorage_ok {ready : Option StorageContainer}
    (h : readyStorage.Transcript ctx xs (.ok ready) after) :
    (ready = none ∧ after.isCanceled = true) ∨
      after = ctx ∧ ∃ s, ctx.storage = some s ∧ ready = some s ∧
        xs = [⟨.containerExists s.account s.container, .ok true⟩] := by
  simp only [readyStorage, Step.bind_eq_bind] at h
  obtain ⟨valid, hcontext⟩ := Step.transcript_require_bind_ok_iff.mp h
  rw [Step.transcript_context_bind_iff] at hcontext
  have isSet : ctx.storage.isSome = true :=
    PassContext.isSet_of_validate valid List.mem_cons_self
  split at hcontext
  · rename_i hnone
    rw [hnone] at isSet
    cases isSet
  · rename_i s hsome
    obtain ⟨reply, ys, rfl, hreply⟩ := Step.transcript_ask_bind_iff.mp hcontext
    split at hreply
    · obtain ⟨rfl, hvalue, rfl⟩ := Step.transcript_pure_iff.mp hreply
      cases hvalue
      exact .inr ⟨rfl, s, hsome, rfl, rfl⟩
    · rw [Step.transcript_cancel_bind_iff, Step.transcript_pure_iff] at hreply
      obtain ⟨-, hvalue, rfl⟩ := hreply
      exact .inl ⟨Except.ok.inj hvalue, PassContext.isCanceled_cancel⟩
    · exact .inl (notReadyOrFail_bind_ok hreply)

/-- Every object that is found was read, unless it had been found before. -/
theorem readObjects_completes {found : List BootObject} {keys : List String}
    (h : (readObjects s found keys).Completes ctx xs records after) :
    after = ctx ∧ ∀ r ∈ records, r ∈ found ∨
      ⟨.readObject r.account r.container r.key, .ok r.body⟩ ∈ xs := by
  induction keys generalizing found xs with
  | nil =>
    obtain ⟨rfl, rfl, rfl, -⟩ := Step.completes_pure_iff.mp h
    exact ⟨rfl, fun r hr => .inl hr⟩
  | cons key keys ih =>
    obtain ⟨reply, ys, rfl, hreply⟩ := Step.completes_ask_bind_iff.mp h
    split at hreply
    · rename_i body
      obtain ⟨rfl, hread⟩ := ih hreply
      refine ⟨rfl, fun r hr => ?_⟩
      rcases hread r hr with hfound | hlater
      · rcases List.mem_append.mp hfound with hfound | hnew
        · exact .inl hfound
        · obtain rfl := List.mem_singleton.mp hnew
          exact .inr List.mem_cons_self
      · exact .inr (List.mem_cons_of_mem _ hlater)
    · split at hreply
      · obtain ⟨rfl, hread⟩ := ih hreply
        exact ⟨rfl, fun r hr => (hread r hr).imp_right (List.mem_cons_of_mem _)⟩
      · exact absurd hreply not_completes_notReadyOrFail_bind

/-- The objects that exist were all read, from a container that was found. -/
theorem current_completes (h : current.Completes ctx xs records after) :
    after = ctx ∧ (∃ s, ctx.storage = some s ∧
      ⟨.containerExists s.account s.container, .ok true⟩ ∈ xs) ∧
      ∀ r ∈ records, ⟨.readObject r.account r.container r.key, .ok r.body⟩ ∈ xs := by
  simp only [current, Step.bind_eq_bind] at h
  obtain ⟨ready, between, ys, zs, rfl, hready, hlist⟩ := Step.completes_bind_iff.mp h
  rcases readyStorage_ok hready with ⟨rfl, canceled⟩ | ⟨rfl, s, hs, rfl, rfl⟩
  · -- Without a storage nothing is listed, but the pass is canceled.
    obtain ⟨-, -, -, live⟩ := Step.completes_pure_iff.mp hlist
    rw [canceled] at live
    cases live
  · obtain ⟨reply, ws, rfl, hreply⟩ := Step.completes_ask_bind_iff.mp hlist
    split at hreply
    · obtain ⟨rfl, hread⟩ := readObjects_completes hreply
      refine ⟨rfl, ⟨s, hs, List.mem_cons_self⟩, fun r hr => ?_⟩
      rcases hread r hr with hfound | hmem
      · cases hfound
      · exact List.mem_cons_of_mem _ (List.mem_cons_of_mem _ hmem)
    · exact absurd hreply not_completes_notReadyOrFail_bind

/-! ## Rendering -/

/-- The object of every role is rendered. -/
theorem renderObjects_completes {before : PassContext} {roles : List NodeRole}
    (h : (renderObjects cluster ctx s roles).Completes before xs records after) :
    after = before ∧ ∀ role ∈ roles, ∃ body,
      ⟨.render (inputOf cluster ctx role), .ok body⟩ ∈ xs ∧
        ⟨s.account, s.container, objectKey role cluster.spec.releaseVersion, body⟩ ∈ records := by
  induction roles generalizing xs records with
  | nil =>
    obtain ⟨rfl, rfl, rfl, -⟩ := Step.completes_pure_iff.mp h
    exact ⟨rfl, nofun⟩
  | cons first roles ih =>
    simp only [renderObjects, Step.bind_eq_bind] at h
    obtain ⟨body, ys, zs, rfl, hrender, hrest⟩ := Step.completes_tryLift_bind_iff.mp h
    obtain ⟨rest, between, vs, ws, rfl, hrest, hpure⟩ := Step.completes_bind_iff.mp hrest
    obtain ⟨rfl, rfl, rfl, live⟩ := Step.completes_pure_iff.mp hpure
    obtain rfl := Program.transcript_call_iff.mp hrender
    obtain ⟨rfl, hlater⟩ := ih ⟨hrest, live⟩
    refine ⟨rfl, fun role hrole => ?_⟩
    rcases List.mem_cons.mp hrole with rfl | hrole
    · exact ⟨body, by simp, List.mem_cons_self⟩
    · obtain ⟨body', hmem, hrecord⟩ := hlater role hrole
      exact ⟨body', by simp [hmem], List.mem_cons_of_mem _ hrecord⟩

/-- What should exist is what was rendered for the roles. -/
theorem desired_completes (hs : ctx.storage = some s)
    (h : (desired cluster).Completes ctx xs records after) :
    after = ctx ∧ ∀ role, ∃ body,
      ⟨.render (inputOf cluster ctx role), .ok body⟩ ∈ xs ∧
        ⟨s.account, s.container, objectKey role cluster.spec.releaseVersion, body⟩ ∈ records := by
  simp only [desired, Step.bind_eq_bind] at h
  obtain ⟨-, hcontext⟩ := Step.completes_require_bind_iff.mp h
  rw [Step.completes_context_bind_iff, hs] at hcontext
  obtain ⟨rfl, hroles⟩ := renderObjects_completes hcontext
  exact ⟨rfl, fun role => hroles role (by cases role <;> simp [NodeRole.all])⟩

/-! ## Writing -/

/-- Every object was written as it is. -/
theorem writeObjects_completes {u : Unit} (h : (writeObjects records).Completes ctx xs u after) :
    after = ctx ∧ ∀ r ∈ records,
      ⟨.writeObject r.account r.container r.key r.body, .ok ()⟩ ∈ xs := by
  induction records generalizing xs with
  | nil =>
    obtain ⟨-, -, rfl, -⟩ := Step.completes_pure_iff.mp h
    exact ⟨rfl, nofun⟩
  | cons first rest ih =>
    obtain ⟨reply, ys, rfl, hrest⟩ := Step.completes_ask_bind_iff.mp h
    split at hrest
    · obtain ⟨rfl, hlater⟩ := ih hrest
      refine ⟨rfl, fun r hr => ?_⟩
      rcases List.mem_cons.mp hr with rfl | hr
      · exact List.mem_cons_self
      · exact List.mem_cons_of_mem _ (hlater r hr)
    · exact absurd hrest not_completes_notReadyOrFail

theorem applyTo_write_completes {u : Unit}
    (h : (RecordResource.applyTo write records).Completes ctx xs u after) :
    after = ctx ∧ ∀ r ∈ records,
      ⟨.writeObject r.account r.container r.key r.body, .ok ()⟩ ∈ xs := by
  unfold RecordResource.applyTo at h
  split at h
  · rename_i hempty
    obtain ⟨-, -, rfl, -⟩ := Step.completes_pure_iff.mp h
    rw [List.isEmpty_iff] at hempty
    exact ⟨rfl, by simp [hempty]⟩
  · simp only [write, Step.bind_eq_bind] at h
    obtain ⟨-, hwrite⟩ := Step.completes_require_bind_iff.mp h
    exact writeObjects_completes hwrite

/-! ## The whole resource -/

/-- The object of a role is in the container as it was rendered from the context: it was read
there, or it was written there. -/
def Stored (cluster : Cluster) (ctx : PassContext) (s : StorageContainer)
    (xs : List (Exchange gateway)) (role : NodeRole) : Prop :=
  let key := objectKey role cluster.spec.releaseVersion
  ∃ body, ⟨.render (inputOf cluster ctx role), .ok body⟩ ∈ xs ∧
    (⟨.readObject s.account s.container key, .ok body⟩ ∈ xs ∨
      ⟨.writeObject s.account s.container key body, .ok ()⟩ ∈ xs)

theorem Stored.mono {ys : List (Exchange gateway)} {role : NodeRole}
    (h : Stored cluster ctx s xs role) (hsub : xs ⊆ ys) : Stored cluster ctx s ys role := by
  obtain ⟨body, hrender, hstored⟩ := h
  exact ⟨body, hsub hrender, hstored.imp (fun h => hsub h) fun h => hsub h⟩

/-- **Boot objects that complete are stored as they were rendered**, in a container that was
found. -/
theorem reconcile_completes {found : ChangeSet BootObject}
    (h : (resource.reconcile cluster).Completes ctx xs found after) :
    ∃ s, ctx.storage = some s ∧ ⟨.containerExists s.account s.container, .ok true⟩ ∈ xs ∧
      ∀ role, Stored cluster ctx s xs role := by
  obtain ⟨current, desired, read, made, created, as, bs, cs, ds, rfl, hcurrent, hdesired, rfl,
    hcreate, hupdate⟩ := RecordResource.reconcile_completes rfl h
  obtain ⟨rfl, ⟨s, hs, hcontainer⟩, hread⟩ := current_completes hcurrent
  obtain ⟨rfl, hroles⟩ := desired_completes hs hdesired
  obtain ⟨rfl, hcreated⟩ := applyTo_write_completes hcreate
  obtain ⟨-, hupdated⟩ := applyTo_write_completes hupdate
  refine ⟨s, hs, by simp [hcontainer], fun role => ?_⟩
  obtain ⟨body, hrender, hrecord⟩ := hroles role
  refine ⟨body, by simp [hrender], ?_⟩
  -- What the difference leaves out is there as it was rendered, so it was read.
  have hdiff : _ ∈ current ∨ _ := Records.mem_diff hrecord
  rcases hdiff with hmem | hmem | hmem
  · exact .inl (by simp [hread _ hmem])
  · exact .inr (by simp [hcreated _ hmem])
  · exact .inr (by simp [hupdated _ hmem])

/-- Boot objects that complete had all that they require. -/
theorem requirements_of_completes {found : ChangeSet BootObject}
    (h : (resource.reconcile cluster).Completes ctx xs found after) :
    ctx.validate resourceName requirements = .ok () := by
  obtain ⟨current, wanted, read, made, created, as, bs, cs, ds, rfl, hcurrent, hwanted, rfl, -⟩ :=
    RecordResource.reconcile_completes rfl h
  obtain ⟨rfl, -, -⟩ := current_completes hcurrent
  simp only [resource, desired, Step.bind_eq_bind] at hwanted
  exact (Step.completes_require_bind_iff.mp hwanted).1

end BootObjects

end ClusterOperator
