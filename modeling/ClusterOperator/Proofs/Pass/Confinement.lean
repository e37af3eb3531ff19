import ClusterOperator.Operator
import ClusterOperator.Proofs.Pass.Readiness

/-!
# What a pass writes to blob storage

A step is **confined** if, from a context with a certain storage, it makes requests of one sort
only, whatever is replied, and leaves the storage of the context as it is.  Confined steps make
up confined steps, so that a pass is confined if its resources are (`confined_passOver`); and what
is said of the values of its parts carries over from the objects that are rendered to those that
are written.

Of the resources only the boot objects write to blob storage.  They write the objects of the
node roles at the release of the cluster, into the container of the context, which no resource
replaces: so this is all that reconciling a cluster writes there (`asks_reconcile`).
-/

namespace ClusterOperator

/-! ## Confined steps -/

namespace Step

variable {I : Interface} {α β : Type} {storage : Option StorageContainer}
  {sort : I.Request → Prop} {value : α → Prop} {result : β → Prop}

/-- **Whatever is replied**, from a context with this storage the step makes requests of one sort
only, leaves the storage as it is, and its value is one of these. -/
def Confined (storage : Option StorageContainer) (sort : I.Request → Prop) (value : α → Prop)
    (m : Step I α) : Prop :=
  ∀ ctx xs r after, ctx.storage = storage → m.Transcript ctx xs r after →
    (∀ x ∈ xs, sort x.request) ∧ after.storage = storage ∧ ∀ a, r = .ok a → value a

theorem Confined.mono {value' : α → Prop} {m : Step I α} (h : m.Confined storage sort value)
    (weaker : ∀ a, value a → value' a) : m.Confined storage sort value' := by
  intro ctx xs r after hctx hm
  obtain ⟨asks, kept, hvalue⟩ := h ctx xs r after hctx hm
  exact ⟨asks, kept, fun a ha => weaker a (hvalue a ha)⟩

theorem Confined.pure {a : α} (h : value a) :
    (Pure.pure a : Step I α).Confined storage sort value := by
  intro ctx xs r after hctx hm
  obtain ⟨rfl, rfl, rfl⟩ := transcript_pure_iff.mp hm
  refine ⟨nofun, hctx, ?_⟩
  rintro _ ⟨⟩
  exact h

theorem Confined.fail {e : Failure} : (Step.fail e : Step I α).Confined storage sort value := by
  intro ctx xs r after hctx hm
  obtain ⟨rfl, rfl, rfl⟩ := transcript_fail_iff.mp hm
  exact ⟨nofun, hctx, nofun⟩

theorem Confined.context :
    (Step.context : Step I PassContext).Confined storage sort (·.storage = storage) := by
  intro ctx xs r after hctx hm
  obtain ⟨rfl, heq⟩ := Program.transcript_done_iff.mp hm
  cases heq
  refine ⟨nofun, hctx, ?_⟩
  rintro _ ⟨⟩
  exact hctx

theorem Confined.isCanceled :
    (Step.isCanceled : Step I Bool).Confined storage sort fun _ => True := by
  intro ctx xs r after hctx hm
  obtain ⟨rfl, heq⟩ := Program.transcript_done_iff.mp hm
  cases heq
  exact ⟨nofun, hctx, fun _ _ => trivial⟩

theorem Confined.modify {f : PassContext → PassContext} (h : ∀ ctx, (f ctx).storage = ctx.storage) :
    (Step.modify f : Step I Unit).Confined storage sort fun _ => True := by
  intro ctx xs r after hctx hm
  obtain ⟨rfl, -, rfl⟩ := transcript_modify_iff.mp hm
  exact ⟨nofun, (h ctx).trans hctx, fun _ _ => trivial⟩

theorem Confined.cancel {reason : String} :
    (Step.cancel reason : Step I Unit).Confined storage sort fun _ => True := by
  refine .modify fun ctx => ?_
  rw [PassContext.cancel]
  split <;> rfl

theorem Confined.require {name : String} {fields : List ContextField} :
    (Step.require name fields : Step I Unit).Confined storage sort fun _ => True := by
  intro ctx xs r after hctx hm
  obtain ⟨rfl, -, rfl⟩ := transcript_require_iff.mp hm
  exact ⟨nofun, hctx, fun _ _ => trivial⟩

theorem Confined.lift {p : Program I α} (hp : p.Asks sort) :
    (Step.lift p).Confined storage sort fun _ => True := by
  intro ctx xs r after hctx hm
  obtain ⟨a, ha, -, rfl⟩ := transcript_lift_iff.mp hm
  exact ⟨hp xs a ha, hctx, fun _ _ => trivial⟩

theorem Confined.tryLift {p : Program I (Except Failure α)} (hp : p.Asks sort) :
    (Step.tryLift p).Confined storage sort fun _ => True := by
  intro ctx xs r after hctx hm
  obtain ⟨hr, rfl⟩ := transcript_tryLift_iff.mp hm
  exact ⟨hp xs r hr, hctx, fun _ _ => trivial⟩

theorem Confined.bind {m : Step I α} {f : α → Step I β} (hm : m.Confined storage sort value)
    (hf : ∀ a, value a → (f a).Confined storage sort result) :
    (m.bind f).Confined storage sort result := by
  intro ctx xs r after hctx h
  rcases transcript_bind_iff.mp h with ⟨e, hfails, rfl⟩ | ⟨a, between, ys, zs, rfl, hok, hrest⟩
  · obtain ⟨asks, kept, -⟩ := hm ctx xs _ after hctx hfails
    exact ⟨asks, kept, nofun⟩
  · obtain ⟨asks, kept, hvalue⟩ := hm ctx ys _ between hctx hok
    obtain ⟨asks', kept', hresult⟩ := hf a (hvalue a rfl) between zs r after kept hrest
    exact ⟨List.forall_mem_append.mpr ⟨asks, asks'⟩, kept', hresult⟩

/-- A step that goes on whatever the value of its first part is. -/
theorem Confined.then {m : Step I α} {f : α → Step I β}
    (hm : m.Confined storage sort fun _ => True) (hf : ∀ a, (f a).Confined storage sort result) :
    (m.bind f).Confined storage sort result :=
  hm.bind fun a _ => hf a

end Step

variable {I : Interface} {storage : Option StorageContainer} {cluster : Cluster}

namespace ResourceSet

variable {sort : I.Request → Prop}

/-- A pass is confined if its resources are. -/
theorem confined_passOver {resources : List (ClusterResource I)}
    (h : ∀ r ∈ resources, (r.ensureCreated cluster).Confined storage sort fun _ => True) :
    (passOver cluster resources).Confined storage sort fun _ => True := by
  induction resources with
  | nil => exact .pure trivial
  | cons first rest ih =>
    obtain ⟨hfirst, hrest⟩ := List.forall_mem_cons.mp h
    refine hfirst.then fun _ => .bind .context fun ctx _ => ?_
    split
    · exact .pure trivial
    · exact ih hrest

end ResourceSet

namespace RecordResource

variable {R α : Type} {sort : I.Request → Prop} {r : RecordResource I R} {value : α → Prop}

theorem confined_unlessCanceled {a : α} {next : Step I α} (ha : value a)
    (h : next.Confined storage sort value) :
    (unlessCanceled a next).Confined storage sort value := by
  refine .then .isCanceled fun canceled => ?_
  cases canceled with
  | true => exact .pure ha
  | false => exact h

theorem confined_applyTo {apply : List R → Step I Unit} {records : List R}
    (h : (apply records).Confined storage sort fun _ => True) :
    (applyTo apply records).Confined storage sort fun _ => True := by
  unfold applyTo
  split
  · exact .pure trivial
  · exact h

/-- A convergence in which nothing is removed is confined if its calls are, on records that are
all desired. -/
theorem confined_reconcile [Keyed R] [DecidableEq R] (wanted : R → Prop)
    (cascade : r.policy = .cascade)
    (hcurrent : (r.current cluster).Confined storage sort fun _ => True)
    (hdesired : (r.desired cluster).Confined storage sort fun records => ∀ x ∈ records, wanted x)
    (hcreate : ∀ records : List R, (∀ x ∈ records, wanted x) →
      (r.create cluster records).Confined storage sort fun _ => True)
    (hoverwrite : ∀ records : List R, (∀ x ∈ records, wanted x) →
      (r.overwrite cluster records).Confined storage sort fun _ => True) :
    (r.reconcile cluster).Confined storage sort fun _ => True := by
  refine confined_unlessCanceled trivial (hcurrent.then fun current => ?_)
  refine confined_unlessCanceled trivial (hdesired.bind fun desired hwanted => ?_)
  refine confined_unlessCanceled trivial ?_
  have created : ∀ x ∈ (Records.diff current desired).toCreate, wanted x :=
    fun x hx => hwanted x (List.mem_filter.mp hx).1
  have updated : ∀ x ∈ (Records.diff current desired).toUpdate, wanted x :=
    fun x hx => hwanted x (List.mem_filter.mp hx).1
  refine (confined_applyTo (hcreate _ created)).then fun _ => confined_unlessCanceled trivial ?_
  refine (confined_applyTo (hoverwrite _ updated)).then fun _ => confined_unlessCanceled trivial ?_
  rw [cascade]
  exact .pure trivial

end RecordResource

/-! ## Where objects are -/

/-- The place of an object in blob storage. -/
structure ObjectAddress where
  account : String
  container : String
  key : String
  deriving DecidableEq, Repr

def BootObject.address (r : BootObject) : ObjectAddress := ⟨r.account, r.container, r.key⟩

/-- Whatever is written to blob storage is written at one of these places. -/
def Gateway.Request.WritesAt (places : ObjectAddress → Prop) : Gateway.Request → Prop
  | .writeObject account container key _ => places ⟨account, container, key⟩
  | _ => True

theorem Gateway.Request.writesAt_of_isUpdate {places : ObjectAddress → Prop} {name : String}
    {q : Gateway.Request} (h : q.isUpdate name = true) : q.WritesAt places := by
  cases q with
  | writeObject => cases h
  | _ => trivial

namespace BootObjects

/-- **The objects of a cluster at a release**: one for every role. -/
def targets (s : StorageContainer) (release : String) : List ObjectAddress :=
  NodeRole.all.map fun role => ⟨s.account, s.container, objectKey role release⟩

/-- The objects at a release, if there is storage. -/
def IsTarget (storage : Option StorageContainer) (release : String) (place : ObjectAddress) :
    Prop :=
  ∃ s, storage = some s ∧ place ∈ targets s release

/-! ## Boot objects -/

variable {places : ObjectAddress → Prop} {release : String}

theorem confined_notReadyOrFail {e : CloudFault} {operation : String} :
    (notReadyOrFail e operation).Confined storage (Gateway.Request.WritesAt places)
      fun _ => True := by
  unfold notReadyOrFail
  split
  · exact .cancel
  · exact .fail

theorem confined_readyStorage :
    readyStorage.Confined storage (Gateway.Request.WritesAt places) fun _ => True := by
  refine .then .require fun _ => .bind .context fun ctx _ => ?_
  split
  · exact .pure trivial
  · refine .then (.lift (.call trivial)) fun reply => ?_
    split
    · exact .pure trivial
    · exact .then .cancel fun _ => .pure trivial
    · exact .then confined_notReadyOrFail fun _ => .pure trivial

theorem confined_readObjects {s : StorageContainer} {found : List BootObject}
    {keys : List String} :
    (readObjects s found keys).Confined storage (Gateway.Request.WritesAt places)
      fun _ => True := by
  induction keys generalizing found with
  | nil => exact .pure trivial
  | cons key keys ih =>
    refine .then (.lift (.call trivial)) fun reply => ?_
    split
    · exact ih
    · split
      · exact ih
      · exact .then confined_notReadyOrFail fun _ => .pure trivial

theorem confined_current :
    current.Confined storage (Gateway.Request.WritesAt places) fun _ => True := by
  refine .then confined_readyStorage fun ready => ?_
  split
  · exact .pure trivial
  · refine .then (.lift (.call trivial)) fun reply => ?_
    split
    · exact confined_readObjects
    · exact .then confined_notReadyOrFail fun _ => .pure trivial

/-- What is rendered for some roles is to go to the places of these roles. -/
theorem confined_renderObjects {ctx : PassContext} {s : StorageContainer} {roles : List NodeRole} :
    (renderObjects cluster ctx s roles).Confined storage (Gateway.Request.WritesAt places)
      fun records => ∀ r ∈ records, ∃ role ∈ roles,
        r.address = ⟨s.account, s.container, objectKey role cluster.spec.releaseVersion⟩ := by
  induction roles with
  | nil => exact .pure nofun
  | cons first roles ih =>
    refine .then (.tryLift (.call trivial)) fun body => .bind ih fun rest hrest => .pure ?_
    refine List.forall_mem_cons.mpr ⟨⟨first, List.mem_cons_self, rfl⟩, fun r hr => ?_⟩
    obtain ⟨role, hrole, haddress⟩ := hrest r hr
    exact ⟨role, List.mem_cons_of_mem _ hrole, haddress⟩

theorem confined_desired :
    (desired cluster).Confined storage (Gateway.Request.WritesAt places)
      fun records => ∀ r ∈ records, IsTarget storage cluster.spec.releaseVersion r.address := by
  refine .then .require fun _ => .bind .context fun ctx hctx => ?_
  split
  · exact .pure nofun
  · rename_i s hs
    refine confined_renderObjects.mono fun records h r hr => ?_
    obtain ⟨role, hrole, haddress⟩ := h r hr
    refine ⟨s, hctx.symm.trans hs, ?_⟩
    rw [haddress]
    exact List.mem_map.mpr ⟨role, hrole, rfl⟩

/-- Records are written where they belong. -/
theorem confined_writeObjects {records : List BootObject} (h : ∀ r ∈ records, places r.address) :
    (writeObjects records).Confined storage (Gateway.Request.WritesAt places) fun _ => True := by
  induction records with
  | nil => exact .pure trivial
  | cons first rest ih =>
    obtain ⟨hfirst, hrest⟩ := List.forall_mem_cons.mp h
    refine .then (.lift (.call hfirst)) fun reply => ?_
    split
    · exact ih hrest
    · exact confined_notReadyOrFail

theorem confined_write {records : List BootObject} (h : ∀ r ∈ records, places r.address) :
    (write records).Confined storage (Gateway.Request.WritesAt places) fun _ => True :=
  .then .require fun _ => confined_writeObjects h

/-- **Boot objects write the objects of the roles** at the release of the cluster. -/
theorem confined_reconcile :
    (resource.reconcile cluster).Confined storage
      (Gateway.Request.WritesAt (IsTarget storage cluster.spec.releaseVersion)) fun _ => True :=
  RecordResource.confined_reconcile
    (fun r => IsTarget storage cluster.spec.releaseVersion r.address) rfl
    confined_current confined_desired (fun _ => confined_write) fun _ => confined_write

end BootObjects

/-! ## The deployment -/

namespace DeploymentOrchestrator

variable {o : DeploymentOrchestrator} {places : ObjectAddress → Prop} {d : Deployment}
  {initial : Bool}

theorem asks_desired : (o.desired cluster).Asks (Gateway.Request.WritesAt places) := by
  intro xs r h
  obtain ⟨reply, rfl, -⟩ := desired_transcript_iff.mp h
  exact List.forall_mem_singleton.mpr trivial

theorem asks_recorded {condition : String} :
    (o.recorded cluster condition).Asks (Gateway.Request.WritesAt places) := by
  intro xs r h
  obtain ⟨reply, rfl, -⟩ := recorded_transcript_iff.mp h
  exact List.forall_mem_singleton.mpr trivial

theorem asks_submit : (o.submit cluster d initial).Asks (Gateway.Request.WritesAt places) := by
  intro xs r h
  rcases submit_transcript_iff.mp h with ⟨fault, rfl, -⟩ | ⟨ys, written, rfl, hwritten, -⟩
  · exact List.forall_mem_singleton.mpr trivial
  · exact List.forall_mem_cons.mpr ⟨trivial, fun x hx =>
      Gateway.Request.writesAt_of_isUpdate (StatusStore.update_requests hwritten x hx)⟩

theorem confined_settle {state : ProvisioningState} :
    (o.settle cluster state).Confined storage (Gateway.Request.WritesAt places) fun _ => True := by
  rw [settle]
  split
  · exact .then .cancel fun _ => .pure trivial
  · exact .pure trivial

theorem confined_review {observed : DeploymentState} :
    (o.review cluster observed).Confined storage (Gateway.Request.WritesAt places)
      fun _ => True := by
  refine .then (.modify fun _ => storage_publish) fun _ => ?_
  refine .then (.tryLift asks_desired) fun d => .then (.tryLift asks_recorded) fun _ => ?_
  refine .then (.tryLift asks_recorded) fun _ => ?_
  split
  · exact confined_settle
  · exact .then (.tryLift asks_submit) fun _ => .then .cancel fun _ => .pure trivial

/-- The deployment is none of the objects in blob storage. -/
theorem confined_ensureCreated :
    (o.ensureCreated cluster).Confined storage (Gateway.Request.WritesAt places)
      fun _ => True := by
  refine .then (.lift (.call trivial)) fun reply => ?_
  split
  · split
    · exact .then (.tryLift asks_desired) fun d => .then (.tryLift asks_submit) fun _ =>
        .then .cancel fun _ => .pure trivial
    · exact .fail
  · split
    · exact confined_review
    · exact .then .cancel fun _ => .pure trivial

end DeploymentOrchestrator

/-! ## All of them -/

namespace Operator

/-- The operator takes care of resources of the three kinds, in some order, and keeps the status
behind the gateway. -/
structure IsAssembled (o : Operator gateway) : Prop where
  resources : ∀ r ∈ o.resources.resources, (∃ orchestrator, r = .deployment orchestrator) ∨
    r = .bootObjects ∨ ∃ watchdog, r = .instanceGuard watchdog
  status : o.status = gatewayStore

theorem IsStandard.isAssembled {o : Operator gateway} {watchdog : Nat}
    (h : o.IsStandard watchdog) : o.IsAssembled where
  resources := by
    rw [h.resources]
    simp [ResourceSet.standard]
  status := h.status

variable {o : Operator gateway}

theorem IsAssembled.confined (assembled : o.IsAssembled) {r : ClusterResource gateway}
    (hr : r ∈ o.resources.resources) :
    (r.ensureCreated cluster).Confined storage (Gateway.Request.WritesAt
      (BootObjects.IsTarget storage cluster.spec.releaseVersion)) fun _ => True := by
  rcases assembled.resources r hr with ⟨orchestrator, rfl⟩ | rfl | ⟨watchdog, rfl⟩
  · exact DeploymentOrchestrator.confined_ensureCreated.then fun _ => .pure trivial
  · exact BootObjects.confined_reconcile.then fun _ => .pure trivial
  · refine .lift fun xs u h x hx => ?_
    have topic := ClusterResource.asks_guardAll xs u h x hx
    obtain ⟨request, reply⟩ := x
    cases request with
    | guard => trivial
    | _ => cases topic

/-- Taking resources of the three kinds down asks for nothing. -/
theorem IsAssembled.takeDown_transcript (assembled : o.IsAssembled)
    {resources : List (ClusterResource gateway)} (sub : resources ⊆ o.resources.resources)
    {ctx after : PassContext} {xs : List (Exchange gateway)} {r : Except Failure Unit}
    (h : (ResourceSet.takeDown cluster resources).Transcript ctx xs r after) : xs = [] := by
  induction resources generalizing ctx xs with
  | nil => exact (Step.transcript_pure_iff.mp h).1
  | cons first rest ih =>
    have hfirst : first.ensureDeleted cluster = pure () := by
      rcases assembled.resources first (sub List.mem_cons_self) with ⟨_, rfl⟩ | rfl | ⟨_, rfl⟩
      · rfl
      · rfl
      · rfl
    rw [ResourceSet.takeDown, hfirst] at h
    exact ih (fun r hr => sub (List.mem_cons_of_mem _ hr)) h

/-- **Reconciling a cluster writes its objects to blob storage**, at its release, and no
others. -/
theorem IsAssembled.asks_reconcile (assembled : o.IsAssembled) :
    (o.reconcile cluster).Asks (Gateway.Request.WritesAt
      (BootObjects.IsTarget (o.resources.newContext cluster).storage
        cluster.spec.releaseVersion)) := by
  intro xs r h
  rw [reconcile] at h
  split at h
  · obtain ⟨result, hdeletion, -⟩ := Program.transcript_map_iff.mp h
    obtain ⟨⟨_, after⟩, htakeDown, -⟩ := Program.transcript_map_iff.mp hdeletion
    obtain rfl := assembled.takeDown_transcript (List.reverse_subset.mpr (List.Subset.refl _))
      htakeDown
    exact List.forall_mem_nil _
  · obtain ⟨outcome, ys, zs, rfl, hpass, hconclude⟩ := Program.transcript_bind_iff.mp h
    obtain ⟨after, hpass⟩ := ResourceSet.reconcile_transcript_iff.mp hpass
    refine List.forall_mem_append.mpr
      ⟨(ResourceSet.confined_passOver (fun r hr => assembled.confined hr) _ _ _ _ rfl hpass).1, ?_⟩
    rcases conclude_transcript hconclude with rfl | ⟨phase, message, written, hset, -⟩
    · exact List.forall_mem_nil _
    · rw [setPhase, assembled.status] at hset
      exact fun x hx =>
        Gateway.Request.writesAt_of_isUpdate (StatusStore.update_requests hset x hx)

end Operator

end ClusterOperator
