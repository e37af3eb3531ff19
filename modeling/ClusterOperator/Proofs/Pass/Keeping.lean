import ClusterOperator.Proofs.Pass.Blobs
import ClusterOperator.Proofs.Pass.Vanished

/-!
# How a run of the boot objects keeps them

A run reads the objects of the roles and writes those at the release of the cluster, each at most
once and only if it is missing or different; all others stay as they are.  Errors of the storage
are of three kinds.  An account that is not usable yet cancels the pass, and so does a container
that does not exist; an object that was gone when it was read is skipped; and every other error is
the failure of the run.  Whatever ends a run, nothing is written after it, and a run that
completes leaves every role's object as it was rendered (`reconcile_keeps_objects`).
-/

namespace ClusterOperator

namespace BootObjects

open Blobs Records

section

variable {cluster : Cluster} {ctx after : PassContext} {s : StorageContainer} {w w' : Blobs}
  {xs : List (Exchange gateway)} {place : ObjectAddress} {body : String}

/-! ## Errors of the storage -/

section

variable {x : Exchange gateway} {e : CloudFault} {operation : String}

/-- The error of the storage that an exchange has met, and what was to be done. -/
def faultOf? : Exchange gateway → Option (String × CloudFault)
  | ⟨.containerExists _ _, .error e⟩ => some ("storage.container_exists", e)
  | ⟨.listObjects _ _, .error e⟩ => some ("storage.list_objects", e)
  | ⟨.readObject _ _ _, .error e⟩ => some ("storage.get_object", e)
  | ⟨.writeObject _ _ _ _, .error e⟩ => some ("storage.put_object", e)
  | _ => none

/-- Every error ends the run, unless an object was gone. -/
theorem ending_of_fault (ctx : PassContext) (hfault : faultOf? x = some (operation, e))
    (there : e.isNotFound = true → e.isStorageNotReady = false →
      ∀ place, x.request ≠ readAt place) :
    ending ctx x = some (unusable ctx e operation) := by
  obtain ⟨request, reply⟩ := x
  cases request with
  | containerExists =>
    match reply, hfault with
    | .error e, hfault =>
      cases hfault
      exact ending_containerExists
  | listObjects =>
    match reply, hfault with
    | .error e, hfault =>
      cases hfault
      exact ending_listObjects
  | readObject account container key =>
    match reply, hfault with
    | .error e, hfault =>
      cases hfault
      refine ending_readObject fun gone => ?_
      obtain ⟨missing, ready⟩ := Bool.and_eq_true_iff.mp gone
      exact there missing (by simpa using ready) ⟨account, container, key⟩ rfl
  | writeObject =>
    match reply, hfault with
    | .error e, hfault =>
      cases hfault
      exact ending_writeObject
  | _ => cases hfault

end

/-! ## What a run does -/

/-- The request that writes an object at a place. -/
def writeAt (place : ObjectAddress) (body : String) : Gateway.Request :=
  .writeObject place.account place.container place.key body

/-- **What a run of the boot objects does to blob storage**, and what it makes of errors. -/
structure Keeps (cluster : Cluster) (ctx : PassContext) (w : Blobs) (xs : List (Exchange gateway))
    (result : Except Failure (ChangeSet BootObject)) (after : PassContext) (w' : Blobs) :
    Prop where
  course : Upkeep cluster ctx xs result after
  only : ∀ x ∈ xs, x.request.topic = .bootObjects
  /-- Only objects of the roles are read, in the container of the pass. -/
  reads : ∀ place reply, ⟨readAt place, reply⟩ ∈ xs →
    ctx.storage = some ⟨place.account, place.container⟩ ∧
      ("master-".toList <+: place.key.toList ∨ "worker-".toList <+: place.key.toList)
  /-- Only the objects at the release are written, as they were rendered, if they were missing or
  different. -/
  writes : ∀ place body reply, ⟨writeAt place body, reply⟩ ∈ xs →
    ∃ s role, ctx.storage = some s ∧ place = target cluster s role ∧
      ⟨.render (inputOf cluster ctx role), .ok body⟩ ∈ xs ∧ Outdated w xs place body
  once : (written xs).Nodup
  /-- Nothing is done in a container that does not exist. -/
  missing : ∀ account container, ⟨.containerExists account container, .ok false⟩ ∈ xs →
    xs = [⟨.containerExists account container, .ok false⟩] ∧ (∃ found, result = .ok found) ∧
      after = ctx.cancel s!"container {container} not ready"
  /-- An account that is not usable yet cancels the pass, and nothing else is asked. -/
  notReady : ∀ before x behind operation e, xs = before ++ x :: behind →
    faultOf? x = some (operation, e) → e.isStorageNotReady = true →
      behind = [] ∧ (∃ found, result = .ok found) ∧ after = ctx.cancel "storage account not ready"
  /-- An object that was gone when it was read makes no difference but that it is not there. -/
  gone : ∀ before place e behind, xs = before ++ ⟨readAt place, .error e⟩ :: behind →
    e.isNotFound = true → e.isStorageNotReady = false →
      (resource.reconcile cluster).Transcript ctx (before.map (unlist place.key) ++ behind) result
        after
  /-- Every other error is the failure of the run, and nothing else is asked. -/
  fails : ∀ before x behind operation e, xs = before ++ x :: behind →
    faultOf? x = some (operation, e) → e.isStorageNotReady = false →
      (e.isNotFound = true → ∀ place, x.request ≠ readAt place) →
      behind = [] ∧ result = .error (.cloud operation e.describe e.statusCode) ∧ after = ctx
  /-- A run that completes leaves the objects as they were rendered. -/
  stored : ∀ found, result = .ok found → after.isCanceled = false → ∃ s, ctx.storage = some s ∧
    ∀ role, ∃ body, ⟨.render (inputOf cluster ctx role), .ok body⟩ ∈ xs ∧
      w' (target cluster s role) = some body
  /-- What was not written is as it was, or was gone when it was to be read. -/
  untouched : ∀ place, place ∉ written xs →
    w' place = w place ∨ w' place = none ∧ ∃ e, ⟨readAt place, .error e⟩ ∈ xs

section

variable {result : Except Failure (ChangeSet BootObject)} {x : Exchange gateway}

theorem reads_of_upkeep (h : Upkeep cluster ctx xs result after)
    {reply : gateway.Reply (readAt place)} (hx : ⟨readAt place, reply⟩ ∈ xs) :
    ctx.storage = some ⟨place.account, place.container⟩ ∧
      ("master-".toList <+: place.key.toList ∨ "worker-".toList <+: place.key.toList) := by
  obtain ⟨s, storage, heq | heq | ⟨key, managed, heq⟩ | ⟨role, heq⟩ | ⟨record, heq⟩⟩ := h.asks hx
  · cases heq
  · cases heq
  · obtain rfl : place = ⟨s.account, s.container, key⟩ := readAt_inj heq
    obtain ⟨role, -, hfirst⟩ := List.any_eq_true.mp managed
    have hrole := List.isPrefixOf_iff_prefix.mp hfirst
    refine ⟨storage, ?_⟩
    cases role with
    | master => exact .inl hrole
    | worker => exact .inr hrole
  · cases heq
  · cases heq

/-- What is written, was missing or different, and was rendered. -/
theorem writes_of_upkeep (h : Upkeep cluster ctx xs result after)
    (served : Served Blobs.Answers w xs w') {reply : gateway.Reply (writeAt place body)}
    (hx : ⟨writeAt place body, reply⟩ ∈ xs) :
    ∃ s role, ctx.storage = some s ∧ place = target cluster s role ∧
      ⟨.render (inputOf cluster ctx role), .ok body⟩ ∈ xs ∧ Outdated w xs place body := by
  have hplace : place ∈ written xs := List.mem_filterMap.mpr ⟨_, hx, rfl⟩
  obtain ⟨s, keys, gets, renders, writes, storage, rfl, read, rendered, planned⟩ :=
    h.writes (List.ne_nil_of_mem hplace)
  have hmem : ⟨writeAt place body, reply⟩ ∈ writes := mem_writes read rendered hx rfl
  obtain ⟨record, hr, heq⟩ := List.mem_map.mp (planned.subset (List.mem_map_of_mem hmem))
  obtain ⟨haccount, hcontainer, hkey, rfl⟩ := Gateway.Request.writeObject.inj heq
  obtain rfl : record.address = place := by
    rw [BootObject.address, haccount, hcontainer, hkey]
  obtain ⟨role, -, hrender, haddress⟩ := of_mem_renderedIn rendered (mem_renderedIn_of_compared hr)
  rw [List.append_assoc] at served
  obtain ⟨-, listed, served⟩ := served_opened served
  obtain ⟨t, served, -⟩ := Served.append_iff.mp served
  refine ⟨s, role, storage, haddress, by simp [hrender], ?_⟩
  exact (outdated_of_compared read rendered listed served hr).mono fun x hx => by simp [hx]

/-- No object is written twice. -/
theorem once_of_upkeep (h : Upkeep cluster ctx xs result after) : (written xs).Nodup := by
  by_cases hnil : written xs = []
  · rw [hnil]
    exact List.nodup_nil
  obtain ⟨s, keys, gets, renders, writes, storage, rfl, read, rendered, planned⟩ := h.writes hnil
  rw [written_append, written_append, written_append, written_gets read,
    written_eq_nil rendered.planned written?_of_mem_renderPlan]
  exact nodup_written (distinctKeys_compared rendered) planned

/-- A run that completes is complete. -/
theorem stored_of_upkeep {found : ChangeSet BootObject}
    (h : Upkeep cluster ctx xs (.ok found) after) (served : Served Blobs.Answers w xs w')
    (live : after.isCanceled = false) :
    ∃ s, ctx.storage = some s ∧ ∀ role, ∃ body,
      ⟨.render (inputOf cluster ctx role), .ok body⟩ ∈ xs ∧
        w' (target cluster s role) = some body := by
  cases h with
  | canceled hcanceled =>
    rw [hcanceled] at live
    cases live
  | unread s storage halts => exact absurd live halts.not_completes
  | read s keys gets storage read finish =>
    cases finish with
    | unrendered valid halts => exact absurd live halts.not_completes
    | unwritten renders valid rendered halts => exact absurd live halts.not_completes
    | complete renders writes valid rendered goes =>
      rw [List.append_assoc] at served
      obtain ⟨distinct, -, hrest⟩ := served_opened served
      refine ⟨s, storage, fun role => ?_⟩
      obtain ⟨body, hrender, hbody⟩ := stored_of_complete distinct read rendered goes hrest role
      exact ⟨body, by simp [hrender], hbody⟩

/-- A container that does not exist ends the run at once. -/
theorem missing_of_upkeep (h : Upkeep cluster ctx xs result after) {account container : String}
    (hx : ⟨.containerExists account container, .ok false⟩ ∈ xs) :
    xs = [⟨.containerExists account container, .ok false⟩] ∧ (∃ found, result = .ok found) ∧
      after = ctx.cancel s!"container {container} not ready" := by
  obtain ⟨before, behind, rfl⟩ := List.append_of_mem hx
  obtain rfl := h.first rfl
  obtain ⟨rfl, hresult, hafter⟩ := h.of_ending rfl
  exact ⟨rfl, failureOf_eq_none_iff.mp hresult, hafter⟩

section

variable {before behind : List (Exchange gateway)} {operation : String} {e : CloudFault}

theorem notReady_of_upkeep (h : Upkeep cluster ctx (before ++ x :: behind) result after)
    (hfault : faultOf? x = some (operation, e)) (notReady : e.isStorageNotReady = true) :
    behind = [] ∧ (∃ found, result = .ok found) ∧
      after = ctx.cancel "storage account not ready" := by
  have hend : ending ctx x = some (unusable ctx e operation) :=
    ending_of_fault ctx hfault fun _ ready => by
      rw [notReady] at ready
      cases ready
  rw [unusable, if_pos notReady] at hend
  obtain ⟨rfl, hresult, hafter⟩ := h.of_ending hend
  exact ⟨rfl, failureOf_eq_none_iff.mp hresult, hafter⟩

theorem fails_of_upkeep (h : Upkeep cluster ctx (before ++ x :: behind) result after)
    (hfault : faultOf? x = some (operation, e)) (ready : e.isStorageNotReady = false)
    (there : e.isNotFound = true → ∀ place, x.request ≠ readAt place) :
    behind = [] ∧ result = .error (.cloud operation e.describe e.statusCode) ∧ after = ctx := by
  have hend := ending_of_fault ctx hfault fun missing _ => there missing
  rw [unusable, if_neg (by simp [ready])] at hend
  obtain ⟨rfl, hresult, hafter⟩ := h.of_ending hend
  exact ⟨rfl, failureOf_eq_some_iff.mp hresult, hafter⟩

end

/-- An object that was gone is only skipped, where no key is listed twice. -/
theorem gone_of_served {before behind : List (Exchange gateway)} {e : CloudFault}
    (h : (resource.reconcile cluster).Transcript ctx
      (before ++ ⟨readAt place, .error e⟩ :: behind) result after)
    (served : Served Blobs.Answers w (before ++ ⟨readAt place, .error e⟩ :: behind) w')
    (missing : e.isNotFound = true) (ready : e.isStorageNotReady = false) :
    (resource.reconcile cluster).Transcript ctx (before.map (unlist place.key) ++ behind) result
      after := by
  have hplace : (⟨readAt place, .error e⟩ : Exchange gateway) ∈
      before ++ ⟨readAt place, .error e⟩ :: behind :=
    List.mem_append_right before List.mem_cons_self
  obtain ⟨storage, -⟩ := reads_of_upkeep (upkeep_of_reconcile h) hplace
  refine reconcile_without storage (fun keys hkeys => ?_) (by simp [missing, ready]) h
  obtain ⟨ys, zs, rfl⟩ := List.append_of_mem hkeys
  rw [List.append_assoc] at served
  obtain ⟨t, -, hrest⟩ := Served.append_iff.mp served
  obtain ⟨u, ⟨hlisting, -⟩, -⟩ := Served.cons_iff.mp hrest
  exact (hlisting keys rfl).1

/-- **What the boot objects do to blob storage.** -/
theorem reconcile_keeps_objects (cluster : Cluster) (ctx : PassContext) (w : Blobs) :
    (resource.reconcile cluster).Ensures Blobs.Answers ctx w (Keeps cluster ctx w) := by
  intro xs result after w' h served
  have course := upkeep_of_reconcile h
  refine ⟨course, fun x hx => course.topic hx,
    fun place reply hx => reads_of_upkeep course hx,
    fun place body reply hx => writes_of_upkeep course served hx, once_of_upkeep course,
    fun account container hx => missing_of_upkeep course hx, ?_, ?_, ?_, ?_,
    fun place unwritten => kept_of_served served unwritten⟩
  · rintro before x behind operation e rfl hfault notReady
    exact notReady_of_upkeep course hfault notReady
  · rintro before place e behind rfl missing ready
    exact gone_of_served h served missing ready
  · rintro before x behind operation e rfl hfault ready there
    exact fails_of_upkeep course hfault ready there
  · rintro found rfl live
    exact stored_of_upkeep course served live

end

end

/-! ## A run in an old container -/

namespace OldRelease

open DeploymentOrchestrator (production)

/-! An object of an older release vanishes, one of the two at the release is there with another
body, the other one is missing, and something else is in the container as well. -/

def storage : StorageContainer := ⟨"productionsa", "ignition"⟩

/-- Everything is there that is required. -/
def ctx : PassContext where
  apiServerBackendPoolId := some "api"
  etcdBackendPoolId := some "etcd"
  masterSubnetId := some "masters"
  workerSubnetId := some "workers"
  storage := some storage
  hasRenderer := true

def place (key : String) : ObjectAddress := ⟨"productionsa", "ignition", key⟩

/-- What is in the container. -/
def entries : List (String × String) :=
  [("worker-1.0.0", "boot"), ("master-1.2.3", "old"), ("notes", "text")]

def before : Blobs := fun p =>
  if p.account = "productionsa" ∧ p.container = "ignition" then entries.lookup p.key else none

def after : Blobs :=
  ((before.drop (place "worker-1.0.0")).put (place "worker-1.2.3") "workers boot").put
    (place "master-1.2.3") "masters boot"

def run : List (Exchange gateway) :=
  [⟨.containerExists "productionsa" "ignition", .ok true⟩,
    ⟨.listObjects "productionsa" "ignition", .ok (entries.map Prod.fst)⟩,
    ⟨readAt (place "worker-1.0.0"), .error (.notFound "BlobNotFound" "")⟩,
    ⟨readAt (place "master-1.2.3"), .ok "old"⟩,
    ⟨.render (inputOf production ctx .master), .ok "masters boot"⟩,
    ⟨.render (inputOf production ctx .worker), .ok "workers boot"⟩,
    ⟨writeAt (place "worker-1.2.3") "workers boot", .ok ()⟩,
    ⟨writeAt (place "master-1.2.3") "masters boot", .ok ()⟩]

theorem transcript_run :
    ∃ found, (resource.reconcile production).Transcript ctx run (.ok found) ctx :=
  ⟨_, .ask _ (.ask _ (.ask _ (.ask _ (.ask _ (.ask _ (.ask _ (.ask _ (.done _))))))))⟩

theorem served_run : Served Blobs.Answers before run after := by
  refine .cons rfl (.cons ⟨?_, rfl⟩ (.cons (.inr rfl) (.cons ⟨by decide, rfl⟩ (.cons rfl
    (.cons rfl (.cons (.inl rfl) (.cons (.inl rfl) (.nil _))))))))
  rintro keys ⟨⟩
  refine ⟨by decide, fun key => ?_⟩
  have hbefore : before ⟨"productionsa", "ignition", key⟩ = entries.lookup key :=
    if_pos ⟨rfl, rfl⟩
  rw [hbefore, ← Option.ne_none_iff_isSome, Ne, List.lookup_eq_none_iff]
  simp

end OldRelease

open OldRelease in
/-- The objects are kept where one is old, one is missing and one vanishes. -/
theorem reconcile_keeps_objects_of_old_release :
    ∃ found, (resource.reconcile DeploymentOrchestrator.production).Transcript ctx run (.ok found)
        ctx ∧
      Served Blobs.Answers before run after ∧
      Keeps DeploymentOrchestrator.production ctx before run (.ok found) ctx after := by
  obtain ⟨found, h⟩ := transcript_run
  exact ⟨found, h, served_run, reconcile_keeps_objects _ ctx before _ _ _ _ h served_run⟩

end BootObjects

end ClusterOperator
