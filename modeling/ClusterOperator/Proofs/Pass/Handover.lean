import ClusterOperator.Proofs.Pass.Readiness
import ClusterOperator.Proofs.Pass.Upkeep

/-!
# From the outputs of the deployment to the boot configurations

The identifiers of a cluster's network go by name from hand to hand: the deployment puts them out,
the context of the pass holds them, and the boot configurations are rendered from it.  A fresh
context holds none, so in a pass what is held is what is put out (`Holds`).  Of a run that finds
its container and can list it, `Boots` says what becomes: it cannot read an object that is listed,
or an identifier is missing, or it renders the boot configurations from those that are put out.
-/

namespace ClusterOperator

open DeploymentOrchestrator

/-! ## The identifiers of a network -/

namespace MainDeployment

variable {outputs : Json} {ctx after : PassContext} {cluster : Cluster}

/-- The outputs that boot configurations are rendered from, in the order in which they are asked
for. -/
def outputNames : List String :=
  ["masterSubnetID", "workerSubnetID", "apiServerBackendPoolID", "etcdBackendPoolID"]

/-- **The outputs that are not there**: those that are no text, or the empty one. -/
def missing (outputs : Json) : List String :=
  outputNames.filter fun name => (given? outputs name).isNone

/-- The identifiers of a cluster's network. -/
structure NetworkIds where
  masterSubnet : String
  workerSubnet : String
  apiServerBackendPool : String
  etcdBackendPool : String

namespace NetworkIds

/-- What the boot configuration of a role is rendered from: the subnet is the one of the role. -/
def input (ids : NetworkIds) (cluster : Cluster) (role : NodeRole) : BootInput where
  cluster := cluster.name
  role := role
  release := cluster.spec.releaseVersion
  subnet :=
    match role with
    | .master => ids.masterSubnet
    | .worker => ids.workerSubnet
  apiServerBackendPool := ids.apiServerBackendPool
  etcdBackendPool := ids.etcdBackendPool

/-- All of them are put out. -/
structure PutOut (ids : NetworkIds) (outputs : Json) : Prop where
  masterSubnet : given? outputs "masterSubnetID" = some ids.masterSubnet
  workerSubnet : given? outputs "workerSubnetID" = some ids.workerSubnet
  apiServerBackendPool : given? outputs "apiServerBackendPoolID" = some ids.apiServerBackendPool
  etcdBackendPool : given? outputs "etcdBackendPoolID" = some ids.etcdBackendPool

end NetworkIds

theorem exists_putOut_of_missing (none : missing outputs = []) :
    ∃ ids : NetworkIds, ids.PutOut outputs := by
  have given : ∀ name ∈ outputNames, ∃ id, given? outputs name = some id := by
    intro name hname
    have hsome := List.filter_eq_nil_iff.mp none name hname
    exact Option.ne_none_iff_exists'.mp fun heq => hsome (Option.isNone_iff_eq_none.mpr heq)
  simp only [outputNames, List.forall_mem_cons, List.not_mem_nil, false_imp_iff, implies_true,
    and_true] at given
  obtain ⟨⟨master, hmaster⟩, ⟨worker, hworker⟩, ⟨api, hapi⟩, etcd, hetcd⟩ := given
  exact ⟨⟨master, worker, api, etcd⟩, hmaster, hworker, hapi, hetcd⟩

/-- **The identifiers of a context are those that are put out.** -/
structure Holds (ctx : PassContext) (outputs : Json) : Prop where
  masterSubnet : ctx.masterSubnetId = given? outputs "masterSubnetID"
  workerSubnet : ctx.workerSubnetId = given? outputs "workerSubnetID"
  apiServerBackendPool : ctx.apiServerBackendPoolId = given? outputs "apiServerBackendPoolID"
  etcdBackendPool : ctx.etcdBackendPoolId = given? outputs "etcdBackendPoolID"
  storage : ctx.storage.isSome = true
  hasRenderer : ctx.hasRenderer = true

/-- A fresh context holds none, so that after publishing it holds what is put out. -/
theorem holds_publish {config : OperatorConfig} {watchdog : Nat} :
    Holds (publish MainDeployment.outputs outputs
      ((ResourceSet.standard config watchdog).newContext cluster)) outputs := by
  have published : Published outputs _ (publish MainDeployment.outputs outputs
      ((ResourceSet.standard config watchdog).newContext cluster)) := published_publish
  exact {
    masterSubnet := published.masterSubnet.eq_given?
    workerSubnet := published.workerSubnet.eq_given?
    apiServerBackendPool := published.apiServerBackendPool.eq_given?
    etcdBackendPool := published.etcdBackendPool.eq_given?
    storage := congrArg Option.isSome published.storage
    hasRenderer := published.hasRenderer }

/-- What the boot objects require and miss is what is not put out. -/
theorem Holds.validate (h : Holds ctx outputs) :
    ctx.validate BootObjects.resourceName BootObjects.requirements =
      if (missing outputs).isEmpty then .ok ()
      else .error (.invalidContext BootObjects.resourceName (missing outputs)) := by
  have hmissing : (BootObjects.requirements.filter fun field => !ctx.isSet field).map (·.toText) =
      missing outputs := by
    have hsplit : BootObjects.requirements = [.storageContainer, .cloudConfig] ++
      [.masterSubnetId, .workerSubnetId, .apiServerBackendPoolId, .etcdBackendPoolId] := rfl
    have handles : [ContextField.storageContainer, .cloudConfig].filter
        (fun field => !ctx.isSet field) = [] := by
      simp [PassContext.isSet, h.storage, h.hasRenderer]
    rw [hsplit, List.filter_append, handles, List.nil_append, missing,
      show outputNames = [ContextField.masterSubnetId, .workerSubnetId, .apiServerBackendPoolId,
        .etcdBackendPoolId].map (·.toText) from rfl, List.filter_map]
    refine congrArg (List.map _) (List.filter_congr ?_)
    simp [PassContext.isSet, PassContext.isUsable_eq_isSome given?_ne_empty, ContextField.toText,
      h.masterSubnet, h.workerSubnet, h.apiServerBackendPool, h.etcdBackendPool]
  rw [PassContext.validate, hmissing]

/-- If nothing is missed, everything is put out. -/
theorem Holds.exists_putOut (h : Holds ctx outputs)
    (valid : ctx.validate BootObjects.resourceName BootObjects.requirements = .ok ()) :
    ∃ ids : NetworkIds, ids.PutOut outputs := by
  rw [h.validate] at valid
  split at valid
  · rename_i none
    exact exists_putOut_of_missing (List.isEmpty_iff.mp none)
  · cases valid

theorem Holds.eq_of_invalid {e : Failure} (h : Holds ctx outputs)
    (invalid : ctx.validate BootObjects.resourceName BootObjects.requirements = .error e) :
    missing outputs ≠ [] ∧ e = .invalidContext BootObjects.resourceName (missing outputs) := by
  rw [h.validate] at invalid
  split at invalid
  · cases invalid
  · rename_i some
    exact ⟨fun none => some (List.isEmpty_iff.mpr none), (Except.error.inj invalid).symm⟩

/-- The boot configurations are rendered from what is put out. -/
theorem Holds.inputOf_eq {ids : NetworkIds} (h : Holds ctx outputs) (putOut : ids.PutOut outputs)
    (role : NodeRole) : BootObjects.inputOf cluster ctx role = ids.input cluster role := by
  rw [BootObjects.inputOf, h.apiServerBackendPool, h.etcdBackendPool, putOut.apiServerBackendPool,
    putOut.etcdBackendPool]
  cases role with
  | master =>
    rw [BootObjects.subnetOf, h.masterSubnet, putOut.masterSubnet]
    rfl
  | worker =>
    rw [BootObjects.subnetOf, h.workerSubnet, putOut.workerSubnet]
    rfl

end MainDeployment

/-! ## What is rendered -/

namespace BootObjects

open MainDeployment

variable {α : Type} {cluster : Cluster} {ctx after : PassContext} {s : StorageContainer}
  {xs ys gets : List (Exchange gateway)} {plan : List Gateway.Request} {outputs : Json}

/-- **What was rendered**, and what came of it. -/
def renderings (xs : List (Exchange gateway)) : List (BootInput × Except Failure String) :=
  xs.filterMap fun
    | ⟨.render input, reply⟩ => some (input, reply)
    | _ => none

theorem renderings_append : renderings (xs ++ ys) = renderings xs ++ renderings ys :=
  List.filterMap_append

theorem renderings_eq_nil (planned : xs.map (·.request) <+: plan)
    (others : ∀ q ∈ plan, ∀ input, q ≠ .render input) : renderings xs = [] := by
  refine List.filterMap_eq_nil_iff.mpr fun x hx => ?_
  have hother := others _ (planned.subset (List.mem_map_of_mem hx))
  obtain ⟨request, reply⟩ := x
  cases request with
  | render input => exact absurd rfl (hother input)
  | _ => rfl

theorem not_render_of_mem_readPlan {keys : List String} :
    ∀ q ∈ readPlan s keys, ∀ input, q ≠ .render input := by
  intro q hq input
  obtain ⟨key, -, rfl⟩ := List.mem_map.mp hq
  exact nofun

theorem not_render_of_mem_writePlan {changes : ChangeSet BootObject} :
    ∀ q ∈ writePlan changes, ∀ input, q ≠ .render input := by
  intro q hq input
  obtain ⟨record, -, rfl⟩ := List.mem_map.mp hq
  exact nofun

/-- If nothing ends the run, the objects of both roles are rendered. -/
theorem renderings_of_goes (goes : Goes ctx (renderPlan cluster ctx NodeRole.all) xs) :
    ∃ master worker, renderings xs =
      [(inputOf cluster ctx .master, .ok master), (inputOf cluster ctx .worker, .ok worker)] := by
  obtain ⟨planned, smooth⟩ := goes
  obtain ⟨x, xs, rfl, hx, hxs⟩ := List.map_eq_cons_iff.mp planned
  obtain ⟨y, ys, rfl, hy, hys⟩ := List.map_eq_cons_iff.mp hxs
  obtain rfl := List.map_eq_nil_iff.mp hys
  obtain ⟨request, reply⟩ := x
  obtain rfl : request = _ := hx
  obtain ⟨request, reply'⟩ := y
  obtain rfl : request = _ := hy
  obtain ⟨hsmooth, hsmooth'⟩ := List.forall_mem_cons.mp smooth
  match reply, reply' with
  | .ok master, .ok worker => exact ⟨master, worker, rfl⟩
  | .error e, _ => cases hsmooth
  | .ok _, .error e => cases List.forall_mem_singleton.mp hsmooth'

/-- The last boot configuration that was rendered is the one that could not be, if there is one. -/
theorem renderings_of_halts {result : Except Failure α}
    (halts : Halts ctx (Underway ctx (renderPlan cluster ctx NodeRole.all)) xs result after) :
    ∃ e, result = .error e ∧ (renderings xs = [(inputOf cluster ctx .master, .error e)] ∨
      ∃ master, renderings xs = [(inputOf cluster ctx .master, .ok master),
        (inputOf cluster ctx .worker, .error e)]) := by
  obtain ⟨before, ⟨request, reply⟩, rfl, ⟨planned, smooth⟩, hend⟩ := halts
  -- The reply to the last request is the error.
  have failed : ∀ input reply, ending ctx ⟨.render input, reply⟩ =
      some (failureOf result, after) → ∃ e, reply = .error e ∧ result = .error e := by
    intro input reply hend
    cases reply with
    | ok => cases hend
    | error e =>
      have hfailure := (Prod.mk.inj (Option.some.inj hend)).1
      exact ⟨e, rfl, failureOf_eq_some_iff.mp hfailure.symm⟩
  rcases before with _ | ⟨⟨first, reply'⟩, _ | ⟨second, others⟩⟩
  · obtain rfl : request = _ := (List.cons_prefix_cons.mp planned).1
    obtain ⟨e, rfl, rfl⟩ := failed _ _ hend
    exact ⟨e, rfl, .inl rfl⟩
  · obtain ⟨hfirst, hsecond⟩ := List.cons_prefix_cons.mp planned
    obtain rfl : first = _ := hfirst
    obtain rfl : request = _ := (List.cons_prefix_cons.mp hsecond).1
    obtain ⟨e, rfl, rfl⟩ := failed _ _ hend
    cases reply' with
    | ok master => exact ⟨e, rfl, .inr ⟨master, rfl⟩⟩
    | error e' => cases List.forall_mem_singleton.mp smooth
  · have hlength := planned.length_le
    simp [renderPlan, NodeRole.all] at hlength

/-- What ends a run that has listed its container while it reads, comes after the listing. -/
theorem Unread.reads {x : Exchange gateway} {before : List (Exchange gateway)}
    {keys : List String} (unread : Unread ctx s before x) (ends : ending ctx x ≠ none)
    (listed : ⟨.listObjects s.account s.container, .ok keys⟩ ∈ before ++ [x]) :
    ∃ keys others, before = opened s keys ++ others ∧ Underway ctx (readPlan s keys) others x := by
  refine unread.resolve_left fun ⟨planned, _⟩ => ?_
  rcases List.mem_append.mp listed with hbefore | hlast
  · -- The listing would be the last of two requests, and be followed by another one.
    rcases before with _ | ⟨first, _ | ⟨second, others⟩⟩
    · cases hbefore
    · obtain rfl := List.mem_singleton.mp hbefore
      cases (List.cons_prefix_cons.mp planned).1
    · have hlength := planned.length_le
      simp at hlength
  · obtain rfl := List.mem_singleton.mp hlast
    exact ends rfl

/-- **What ends a run that has listed its container while it reads**: an object that is listed and
cannot be read. -/
theorem unread_cases {result : Except Failure α} {listing : List String}
    (halts : Halts ctx (Unread ctx s) xs result after)
    (listed : ⟨.listObjects s.account s.container, .ok listing⟩ ∈ xs) :
    renderings xs = [] ∧ written xs = [] ∧ ∃ before keys key e,
      ⟨.listObjects s.account s.container, .ok keys⟩ ∈ before ∧ key ∈ keys ∧
      isManagedKey key = true ∧ xs = before ++ [⟨readOf s key, .error e⟩] ∧
      (e.isNotFound && !e.isStorageNotReady) = false ∧
      unusable ctx e "storage.get_object" = (failureOf result, after) := by
  obtain ⟨before, ⟨request, reply⟩, rfl, unread, hend⟩ := halts
  have nothing := unread.written_eq_nil
  obtain ⟨keys, others, rfl, planned, -⟩ := unread.reads (by rw [hend]; exact nofun) listed
  refine ⟨?_, nothing, ?_⟩
  · rw [List.append_assoc, renderings_append,
      renderings_eq_nil planned not_render_of_mem_readPlan]
    rfl
  have hrequest : request ∈ readPlan s keys := planned.subset (by simp)
  obtain ⟨key, hkey, rfl⟩ := List.mem_map.mp hrequest
  cases reply with
  | ok body => cases hend
  | error e =>
    by_cases gone : (e.isNotFound && !e.isStorageNotReady) = true
    · cases (ending_readObject_of_gone gone).symm.trans hend
    · obtain ⟨there, managed⟩ := List.mem_filter.mp hkey
      refine ⟨_, keys, key, e, by simp [opened], there, managed, rfl, by simpa using gone, ?_⟩
      exact Option.some.inj ((ending_readObject gone).symm.trans hend)

/-! ## What becomes of the boot objects -/

/-- **What becomes of a run of the boot objects** whose container was found and listed, where
these are the outputs of the deployment. -/
inductive Boots (cluster : Cluster) (s : StorageContainer) (outputs : Json)
    (xs : List (Exchange gateway)) :
    Except Failure (ChangeSet BootObject) → PassContext → Prop where
  /-- An object that is listed, and not gone since, could not be read, and the run has ended with
  this. -/
  | unread (before : List (Exchange gateway)) (keys : List String) (key : String) (e : CloudFault)
      {result : Except Failure (ChangeSet BootObject)} {after : PassContext} :
      ⟨.listObjects s.account s.container, .ok keys⟩ ∈ before → key ∈ keys →
      isManagedKey key = true → xs = before ++ [⟨readOf s key, .error e⟩] →
      (e.isNotFound && !e.isStorageNotReady) = false →
      (e.isStorageNotReady = true → (∃ changes, result = .ok changes) ∧
        after.isCanceled = true) →
      (e.isStorageNotReady = false → result = .error (e.toFailure "storage.get_object")) →
      renderings xs = [] → written xs = [] → Boots cluster s outputs xs result after
  /-- The run fails with the names of the identifiers that are missing. -/
  | incomplete (after : PassContext) : missing outputs ≠ [] → renderings xs = [] → written xs = [] →
      Boots cluster s outputs xs (.error (.invalidContext "blobobject" (missing outputs))) after
  /-- The renderer fails at the first role. -/
  | unrendered (ids : NetworkIds) (e : Failure) (after : PassContext) : ids.PutOut outputs →
      renderings xs = [(ids.input cluster .master, .error e)] → written xs = [] →
      Boots cluster s outputs xs (.error e) after
  /-- Both roles are rendered from what is put out. -/
  | rendered (ids : NetworkIds) (body : String) (reply : Except Failure String)
      {result : Except Failure (ChangeSet BootObject)} {after : PassContext} :
      ids.PutOut outputs →
      renderings xs = [(ids.input cluster .master, .ok body), (ids.input cluster .worker, reply)] →
      Boots cluster s outputs xs result after

/-- Either the run fails with the names of the identifiers that are missing, with nothing rendered
or written, or both roles are rendered from what is put out. -/
def RefusesOrRenders (cluster : Cluster) (outputs : Json) (xs : List (Exchange gateway))
    (result : Except Failure (ChangeSet BootObject)) : Prop :=
  (result = .error (.invalidContext "blobobject" (missing outputs)) ∧
      renderings xs = [] ∧ written xs = []) ∨
    ∃ ids : NetworkIds, ids.PutOut outputs ∧
      (renderings xs).map Prod.fst = [ids.input cluster .master, ids.input cluster .worker]

section

variable {result : Except Failure (ChangeSet BootObject)}

/-- Whether what was rendered could be written makes no difference. -/
theorem boots_of_goes {reads renders writes : List (Exchange gateway)}
    {changes : ChangeSet BootObject} (holds : Holds ctx outputs) (nothing : renderings reads = [])
    (valid : ctx.validate resourceName requirements = .ok ())
    (rendered : Goes ctx (renderPlan cluster ctx NodeRole.all) renders)
    (planned : writes.map (·.request) <+: writePlan changes) :
    Boots cluster s outputs (reads ++ (renders ++ writes)) result after := by
  obtain ⟨ids, putOut⟩ := holds.exists_putOut valid
  obtain ⟨master, worker, hrendered⟩ := renderings_of_goes rendered
  refine .rendered ids master (.ok worker) putOut ?_
  rw [renderings_append, renderings_append, nothing, hrendered,
    renderings_eq_nil planned not_render_of_mem_writePlan, holds.inputOf_eq putOut,
    holds.inputOf_eq putOut]
  rfl

/-- What becomes of a run that has read what exists. -/
theorem Finish.boots {reads : List (Exchange gateway)} (holds : Holds ctx outputs)
    (nothing : renderings reads = []) (unwritten : written reads = [])
    (finish : Finish cluster ctx s gets xs result after) :
    Boots cluster s outputs (reads ++ xs) result after := by
  cases finish with
  | invalid e invalid =>
    obtain ⟨some, rfl⟩ := holds.eq_of_invalid invalid
    rw [List.append_nil]
    exact .incomplete _ some nothing unwritten
  | unrendered valid halts =>
    obtain ⟨ids, putOut⟩ := holds.exists_putOut valid
    obtain ⟨e, rfl, hfirst | ⟨master, hsecond⟩⟩ := renderings_of_halts halts
    · refine .unrendered ids e after putOut ?_ ?_
      · rw [renderings_append, nothing, hfirst, holds.inputOf_eq putOut]
        rfl
      · rw [written_append, unwritten, written_eq_nil halts.planned written?_of_mem_renderPlan]
        rfl
    · refine .rendered ids master (.error e) putOut ?_
      rw [renderings_append, nothing, hsecond, holds.inputOf_eq putOut, holds.inputOf_eq putOut]
      rfl
  | unwritten renders valid rendered halts =>
    exact boots_of_goes holds nothing valid rendered halts.planned
  | complete renders writes valid rendered goes =>
    exact boots_of_goes holds nothing valid rendered goes.planned

/-- **What becomes of a run** whose container is listed and whose context holds what is put
out. -/
theorem Upkeep.boots {keys : List String} (h : Upkeep cluster ctx xs result after)
    (holds : Holds ctx outputs) (storage : ctx.storage = some s)
    (listed : ⟨.listObjects s.account s.container, .ok keys⟩ ∈ xs) :
    Boots cluster s outputs xs result after := by
  cases h with
  | canceled | noStorage => cases listed
  | unread s' storage' halts =>
    obtain rfl : s = s' := Option.some.inj (storage.symm.trans storage')
    obtain ⟨nothing, unwritten, before, keys, key, e, found, there, managed, rfl, refused, hend⟩ :=
      unread_cases halts listed
    refine .unread before keys key e found there managed rfl refused (fun notReady => ?_)
      (fun ready => ?_) nothing unwritten
    · rw [unusable, if_pos notReady] at hend
      obtain ⟨hresult, rfl⟩ := Prod.mk.inj hend
      exact ⟨failureOf_eq_none_iff.mp hresult.symm, PassContext.isCanceled_cancel⟩
    · rw [unusable, if_neg (by simp [ready])] at hend
      exact failureOf_eq_some_iff.mp (Prod.mk.inj hend).1.symm
  | read s' keys' gets storage' goes finish =>
    obtain rfl : s = s' := Option.some.inj (storage.symm.trans storage')
    refine finish.boots holds ?_ ?_
    · rw [renderings_append, renderings_eq_nil goes.planned not_render_of_mem_readPlan]
      rfl
    · rw [written_append, written_eq_nil goes.planned written?_of_mem_readPlan]
      rfl

end

end BootObjects

/-! ## In a pass -/

namespace Operator

open BootObjects MainDeployment

variable {config : OperatorConfig} {watchdog : Nat} {cluster : Cluster}
  {observed : DeploymentState} {xs : List (Exchange gateway)} {result : Except Failure PassOutcome}

/-- **A pass over the standard resources that lists the container**: its deployment was found like
this and is up to date, and the container is ready. -/
structure Lists (config : OperatorConfig) (watchdog : Nat) (cluster : Cluster)
    (observed : DeploymentState) (xs : List (Exchange gateway))
    (result : Except Failure PassOutcome) : Prop where
  pass : ((ResourceSet.standard config watchdog).reconcile cluster).Transcript xs result
  upToDate : ∃ found rest ctx, xs = found ++ rest ∧
    ((orchestrator config).ensureCreated cluster).Transcript
      ((ResourceSet.standard config watchdog).newContext cluster) found (.ok .upToDate) ctx
  observed : ⟨.lookUp cluster.resourceGroup ((orchestrator config).deploymentName cluster),
    .ok observed⟩ ∈ xs
  ready : ⟨.containerExists (cluster.storage config.storageContainer).account
    config.storageContainer, .ok true⟩ ∈ xs
  listed : ∃ keys, ⟨.listObjects (cluster.storage config.storageContainer).account
    config.storageContainer, .ok keys⟩ ∈ xs

/-- **The part of the boot objects in a pass**: they come after the deployment, and a pass that
they fail or cancel ends with them. -/
def BootPart (config : OperatorConfig) (watchdog : Nat) (cluster : Cluster)
    (xs : List (Exchange gateway)) (result : Except Failure PassOutcome)
    (boot : List (Exchange gateway)) (found : Except Failure (ChangeSet BootObject))
    (after : PassContext) : Prop :=
  ∃ before behind ctx, xs = before ++ (boot ++ behind) ∧
    ((orchestrator config).ensureCreated cluster).Transcript
      ((ResourceSet.standard config watchdog).newContext cluster) before (.ok .upToDate) ctx ∧
    (resource.reconcile cluster).Transcript ctx boot found after ∧
    (∀ e, found = .error e → behind = [] ∧ result = .error e) ∧
    ∀ changes reason, found = .ok changes → after.cancelReason = some reason →
      behind = [] ∧ result = .ok (.canceled "blobobject" reason)

/-- A deployment that is up to date leaves a pass to go on. -/
theorem completes_of_upToDate {o : DeploymentOrchestrator} {ctx after : PassContext}
    (h : (o.ensureCreated cluster).Transcript ctx xs (.ok .upToDate) after)
    (live : ctx.isCanceled = false) :
    (o.ensureCreated cluster).Completes ctx xs .upToDate after := by
  refine ⟨h, ?_⟩
  generalize hr : (Except.ok .upToDate : Except Failure DeploymentOutcome) = r at h
  cases ensureCreated_course h with
  | quiet _ _ _ _ waits => exact absurd rfl (waits _ hr.symm).2.1
  | upToDate => exact isCanceled_publish.trans live
  | refused => cases hr
  | accepted d initial xs ys written => cases written <;> cases hr

/-- What a pass does from the boot objects on. -/
theorem bootObjects_cases {ctx after : PassContext}
    (h : (ResourceSet.passOver cluster [.bootObjects, .instanceGuard watchdog]).Transcript ctx xs
      result after) :
    ∃ boot behind found between, xs = boot ++ behind ∧
      (resource.reconcile cluster).Transcript ctx boot found between ∧
      (∀ e, found = .error e → behind = [] ∧ result = .error e) ∧
      (∀ changes reason, found = .ok changes → between.cancelReason = some reason →
        behind = [] ∧ result = .ok (.canceled "blobobject" reason)) ∧
      ∀ x ∈ behind, x.request.topic = .guards := by
  rcases ResourceSet.passOver_cons h with
    ⟨e, hboot, rfl⟩ | ⟨reason, hboot, canceled, rfl⟩ | ⟨between, ys, zs, rfl, hboot, hguards⟩
  · obtain ⟨found, hboot, hresult⟩ := ClusterResource.discard_transcript_iff.mp hboot
    refine ⟨xs, [], found, after, (List.append_nil xs).symm, hboot, ?_, ?_, List.forall_mem_nil _⟩
    · rintro e rfl
      exact ⟨rfl, congrArg Except.error (Except.error.inj hresult)⟩
    · rintro changes reason rfl
      cases hresult
  · obtain ⟨found, hboot, hresult⟩ := ClusterResource.discard_transcript_iff.mp hboot
    refine ⟨xs, [], found, after, (List.append_nil xs).symm, hboot, ?_, ?_, List.forall_mem_nil _⟩
    · rintro e rfl
      cases hresult
    · intro changes other _ hother
      obtain rfl := Option.some.inj (canceled.symm.trans hother)
      exact ⟨rfl, rfl⟩
  · obtain ⟨changes, hboot, live⟩ := ClusterResource.discard_completes_iff.mp hboot
    refine ⟨ys, zs, .ok changes, between, rfl, hboot, nofun, ?_, fun x hx => ?_⟩
    · intro _ reason _ canceled
      rw [PassContext.cancelReason_eq_none_iff.mpr live] at canceled
      cases canceled
    · obtain ⟨last, hlast, _, vs, _, _, hresource, hx, -⟩ := ResourceSet.mem_passOver hguards hx
      obtain rfl := List.mem_singleton.mp hlast
      exact ClusterResource.asks_instanceGuard _ vs _ hresource x hx

/-- **What becomes of the boot objects in a pass** that lists their container. -/
theorem Lists.boots (lists : Lists config watchdog cluster observed xs result) :
    ∃ boot found after, BootPart config watchdog cluster xs result boot found after ∧
      Boots cluster (cluster.storage config.storageContainer) observed.outputs boot found
        after := by
  obtain ⟨before, rest, ctx, rfl, hdeployment⟩ := lists.upToDate
  obtain ⟨after, hpass⟩ := ResourceSet.reconcile_transcript_iff.mp lists.pass
  have completes := completes_of_upToDate hdeployment ResourceSet.isCanceled_newContext
  have hrest := (ResourceSet.passOver_append_iff
    (ClusterResource.discard_completes_iff.mpr ⟨_, completes⟩)).mp hpass
  obtain ⟨boot, behind, found, between, rfl, hboot, fails, cancels, guards⟩ :=
    bootObjects_cases hrest
  obtain ⟨d, state, foundUpToDate, rfl⟩ := ensureCreated_completes completes
  have course := upkeep_of_reconcile hboot
  have bootTopic : ∀ x ∈ boot, x.request.topic = .bootObjects :=
    fun x hx => course.topic hx
  have deploymentTopic : ∀ x ∈ before, x.request.topic ≠ .bootObjects := foundUpToDate.topic_ne
  obtain rfl : observed = state := by
    have hlookUp := lists.observed
    generalize (orchestrator config).deploymentName cluster = name at hlookUp
    rcases List.mem_append.mp hlookUp with hx | hx
    · rcases foundUpToDate.lookUp_or_template hx rfl with heq | ⟨_, _, heq⟩ <;> cases heq
      rfl
    · rcases List.mem_append.mp hx with hx | hx
      · cases bootTopic _ hx
      · cases guards _ hx
  obtain ⟨keys, hlisted⟩ := lists.listed
  have listed : ⟨.listObjects (cluster.storage config.storageContainer).account
      config.storageContainer, .ok keys⟩ ∈ boot := by
    rcases List.mem_append.mp hlisted with hx | hx
    · exact absurd rfl (deploymentTopic _ hx)
    · rcases List.mem_append.mp hx with hx | hx
      · exact hx
      · cases guards _ hx
  exact ⟨boot, found, between, ⟨before, behind, _, rfl, hdeployment, hboot, fails, cancels⟩,
    course.boots holds_publish storage_publish listed⟩

/-- **From the outputs of the deployment to the boot configurations.** -/
theorem boots_from_outputs (config : OperatorConfig) (watchdog : Nat) (cluster : Cluster) :
    (∀ outputs ctx, Published outputs ctx (publish MainDeployment.outputs outputs ctx)) ∧
      ∀ observed xs result, Lists config watchdog cluster observed xs result →
        ∃ boot found after, BootPart config watchdog cluster xs result boot found after ∧
          Boots cluster (cluster.storage config.storageContainer) observed.outputs boot found
            after :=
  ⟨fun _ _ => published_publish, fun _ _ _ lists => lists.boots⟩

/-! ## Passes that fail -/

namespace Shortfall

open FirstReady (settled stored)
open DeploymentOrchestrator (production)

/-- A deployment that has put out a number in one place and the empty text in another. -/
def patchy : DeploymentState where
  state := .succeeded
  outputs := .object
    [("masterSubnetID", .object [("value", .text "masters")]),
      ("workerSubnetID", .object [("value", .number (.integer 7))]),
      ("apiServerBackendPoolID", .object [("value", .text "api")]),
      ("etcdBackendPoolID", .object [("value", .text "")])]

/-- The container of the cluster. -/
def storage : StorageContainer := production.storage "ignition"

/-- The context in which the boot objects are looked after. -/
def context (observed : DeploymentState) : PassContext :=
  publish MainDeployment.outputs observed.outputs
    ((ResourceSet.standard {} 0).newContext production)

variable {observed : DeploymentState} {d : Deployment} {boot : List (Exchange gateway)}
  {keys : List String} {e : Failure}

/-- The deployment is found like this and is up to date. -/
def lookedUp (observed : DeploymentState) (d : Deployment) : List (Exchange gateway) :=
  [⟨.lookUp production.resourceGroup ((orchestrator {}).deploymentName production), .ok observed⟩,
    ⟨.template mainTemplate, .ok .null⟩,
    ⟨.loadStatus production.name, .ok (stored d)⟩, ⟨.loadStatus production.name, .ok (stored d)⟩]

theorem exists_deployment : ∃ d, ((orchestrator {}).definition.parameters production).map
    ((orchestrator {}).assemble production .null) = .ok d := by
  obtain ⟨parameters, hp⟩ := exists_parameters_production
  exact ⟨_, congrArg (Except.map _) hp⟩

/-- A run of the boot objects that fails is the last part of its pass. -/
theorem bootPart_of_failing (succeeded : observed.state = .succeeded)
    (hd : ((orchestrator {}).definition.parameters production).map
      ((orchestrator {}).assemble production .null) = .ok d)
    (failing : (resource.reconcile production).Transcript (context observed)
      (opened storage keys ++ boot) (.error e) (context observed)) :
    Lists {} 0 production observed (lookedUp observed d ++ (opened storage keys ++ boot))
        (.error e) ∧
      BootPart {} 0 production (lookedUp observed d ++ (opened storage keys ++ boot)) (.error e)
        (opened storage keys ++ boot) (.error e) (context observed) := by
  have hdeployment : ((orchestrator {}).ensureCreated production).Transcript
      ((ResourceSet.standard {} 0).newContext production) (lookedUp observed d) (.ok .upToDate)
      (context observed) :=
    ensureCreated_of_recorded succeeded hd
  have completes := completes_of_upToDate hdeployment ResourceSet.isCanceled_newContext
  have hdiscarded := ClusterResource.discard_transcript_iff.mpr ⟨_, failing, rfl⟩
  constructor
  · refine ⟨?_, ⟨_, _, _, rfl, hdeployment⟩, by simp [lookedUp],
      by simp [opened, storage, Cluster.storage], keys, by simp [opened, storage, Cluster.storage]⟩
    refine ResourceSet.reconcile_transcript_iff.mpr ⟨context observed, ?_⟩
    refine (ResourceSet.passOver_append_iff
      (ClusterResource.discard_completes_iff.mpr ⟨_, completes⟩)).mpr ?_
    exact Step.transcript_bind_iff.mpr (.inl ⟨e, hdiscarded, rfl⟩)
  · exact ⟨_, [], _, by rw [List.append_nil], hdeployment, failing,
      fun _ heq => ⟨rfl, congrArg Except.error (Except.error.inj heq)⟩,
      fun _ _ heq => by cases heq⟩

/-- Two identifiers are missing. -/
theorem fails_of_patchy :
    (resource.reconcile production).Transcript (context patchy) (opened storage [] ++ [])
      (.error (.invalidContext "blobobject" ["workerSubnetID", "etcdBackendPoolID"]))
      (context patchy) :=
  .ask _ (.ask _ (.done _))

/-- What is replied for an object that cannot be read. -/
def unreadable : CloudFault := .withStatus 500 "InternalError" "try again"

/-- An object that is there cannot be read. -/
theorem fails_of_unreadable :
    (resource.reconcile production).Transcript (context settled)
      (opened storage ["master-1.2.3"] ++
        [⟨readOf storage "master-1.2.3", .error unreadable⟩])
      (.error (unreadable.toFailure "storage.get_object")) (context settled) :=
  .ask _ (.ask _ (.ask _ (.done _)))

/-- The renderer fails at the first role. -/
theorem fails_of_unrendered :
    (resource.reconcile production).Transcript (context settled)
      (opened storage [] ++ [⟨.render (inputOf production (context settled) .master),
        .error (.internal "renderer" "no template")⟩])
      (.error (.internal "renderer" "no template")) (context settled) :=
  .ask _ (.ask _ (.ask _ (.done _)))

end Shortfall

open Shortfall DeploymentOrchestrator in
/-- What becomes of the boot objects of a cluster two of whose identifiers are not put out. -/
theorem boots_from_outputs_of_patchy :
    missing patchy.outputs = ["workerSubnetID", "etcdBackendPoolID"] ∧
      ∃ xs result, Lists {} 0 production patchy xs result ∧
        result = .error (.invalidContext "blobobject" ["workerSubnetID", "etcdBackendPoolID"]) ∧
        ∃ boot found after, BootPart {} 0 production xs result boot found after ∧
          Boots production Shortfall.storage patchy.outputs boot found after := by
  obtain ⟨d, hd⟩ := exists_deployment
  obtain ⟨lists, -⟩ := bootPart_of_failing rfl hd fails_of_patchy
  exact ⟨by decide, _, _, lists, rfl, (boots_from_outputs {} 0 production).2 _ _ _ lists⟩

/-- In every pass that lists the container and none of whose exchanges is like this, the boot
objects refuse or render. -/
def AlwaysRefuseOrRender (excepted : Exchange gateway → Bool) : Prop :=
  ∀ (config : OperatorConfig) (watchdog : Nat) (cluster : Cluster) (observed : DeploymentState)
    (xs : List (Exchange gateway)) (result : Except Failure PassOutcome)
    (boot : List (Exchange gateway)) (found : Except Failure (ChangeSet BootObject))
    (after : PassContext), Lists config watchdog cluster observed xs result →
      BootPart config watchdog cluster xs result boot found after →
      (∀ x ∈ xs, excepted x = false) → RefusesOrRenders cluster observed.outputs boot found

/-- An object could not be read. -/
def isFailedReading : Exchange gateway → Bool
  | ⟨.readObject _ _ _, .error _⟩ => true
  | _ => false

/-- A boot configuration could not be rendered. -/
def isFailedRendering : Exchange gateway → Bool
  | ⟨.render _, .error _⟩ => true
  | _ => false

open Shortfall in
/-- **The boot objects do not always refuse or render**: an object that cannot be read keeps them
from it, and so does a boot configuration that cannot be rendered. -/
theorem not_always_refused_or_rendered :
    ¬AlwaysRefuseOrRender isFailedRendering ∧ ¬AlwaysRefuseOrRender isFailedReading := by
  obtain ⟨d, hd⟩ := exists_deployment
  constructor
  · intro always
    obtain ⟨lists, part⟩ := bootPart_of_failing rfl hd fails_of_unreadable
    rcases always _ _ _ _ _ _ _ _ _ lists part
      (by simp [Shortfall.lookedUp, opened, readOf, readAt, isFailedRendering]) with
      ⟨heq, -⟩ | ⟨ids, -, hinputs⟩
    · cases heq
    · cases congrArg List.length hinputs
  · intro always
    obtain ⟨lists, part⟩ := bootPart_of_failing rfl hd fails_of_unrendered
    rcases always _ _ _ _ _ _ _ _ _ lists part
      (by simp [Shortfall.lookedUp, opened, isFailedReading]) with
      ⟨heq, -⟩ | ⟨ids, -, hinputs⟩
    · cases heq
    · cases congrArg List.length hinputs

end Operator

end ClusterOperator
