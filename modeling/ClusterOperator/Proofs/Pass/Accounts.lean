import ClusterOperator.Proofs.Pass.Confinement
import ClusterOperator.Proofs.Pass.Container

/-!
# Whose objects are whose

A cluster's boot objects are told from another cluster's by the storage account alone: the
container is the same for all clusters of an operator, and a key names a role and a release.
The account has the first twenty-two letters and digits of the cluster's name (`accountStem`),
so clusters keep apart in blob storage exactly if their names differ in these
(`Operator.keepApart_of_assembled`).  Clusters whose names do not have the very same objects at
every release, and write them over each other's (`Operator.not_always_apart`).
-/

namespace ClusterOperator

/-! ## Accounts -/

/-- What the storage account keeps of the name of a cluster. -/
def accountStem (clusterName : String) : List Char :=
  ((clusterName.toList.filter isAsciiAlphanumeric).map Char.toLower).take 22

theorem toList_storageAccountName {name : String} :
    (storageAccountName name).toList = accountStem name ++ ['s', 'a'] := by
  rw [storageAccountName, String.toList_append, String.toList_ofList]
  rfl

/-- Names are told apart by their accounts as far as by their stems. -/
theorem storageAccountName_eq_iff {a b : String} :
    storageAccountName a = storageAccountName b ↔ accountStem a = accountStem b := by
  rw [← String.toList_inj, toList_storageAccountName, toList_storageAccountName,
    List.append_cancel_right_eq]

namespace Cluster

/-- Where the objects of a cluster go, in containers of this name. -/
def storage (cluster : Cluster) (container : String) : StorageContainer :=
  ⟨storageAccountName cluster.name, container⟩

end Cluster

/-! ## Written and managed objects -/

/-- Where a request writes to blob storage. -/
def Gateway.Request.written? : Gateway.Request → Option ObjectAddress
  | .writeObject account container key _ => some ⟨account, container, key⟩
  | _ => none

/-- **What was written to blob storage** in these exchanges, or was to be. -/
def written (xs : List (Exchange gateway)) : List ObjectAddress :=
  xs.filterMap (·.request.written?)

theorem written_append {xs ys : List (Exchange gateway)} :
    written (xs ++ ys) = written xs ++ written ys :=
  List.filterMap_append

theorem of_mem_written {places : ObjectAddress → Prop} {xs : List (Exchange gateway)}
    (h : ∀ x ∈ xs, x.request.WritesAt places) {place : ObjectAddress} (hplace : place ∈ written xs) :
    places place := by
  obtain ⟨x, hx, hwritten⟩ := List.mem_filterMap.mp hplace
  have hat := h x hx
  obtain ⟨request, reply⟩ := x
  cases request with
  | writeObject => cases hwritten; exact hat
  | _ => cases hwritten

namespace BootObjects

variable {s t : StorageContainer} {release : String} {place : ObjectAddress}

/-- **The objects that are managed** in a container: those of all roles and all releases. -/
def Manages (s : StorageContainer) (place : ObjectAddress) : Prop :=
  place.account = s.account ∧ place.container = s.container ∧ isManagedKey place.key = true

theorem manages_of_mem_targets (h : place ∈ targets s release) : Manages s place := by
  obtain ⟨role, -, rfl⟩ := List.mem_map.mp h
  exact ⟨rfl, rfl, isManagedKey_objectKey⟩

/-- A container manages no object of another account. -/
theorem not_manages_of_ne (h : s.account ≠ t.account) (hs : Manages s place) :
    ¬Manages t place :=
  fun ht => h (hs.1.symm.trans ht.1)

theorem disjoint_targets_iff :
    (∀ release other, (targets s release).Disjoint (targets t other)) ↔ s ≠ t := by
  constructor
  · rintro disjoint rfl
    exact disjoint "" "" List.mem_cons_self List.mem_cons_self
  · intro hne release other place hs ht
    obtain ⟨haccount, hcontainer, -⟩ := manages_of_mem_targets hs
    obtain ⟨haccount', hcontainer', -⟩ := manages_of_mem_targets ht
    obtain ⟨account, container⟩ := s
    obtain ⟨account', container'⟩ := t
    obtain rfl := haccount.symm.trans haccount'
    obtain rfl := hcontainer.symm.trans hcontainer'
    exact hne rfl

end BootObjects

/-! ## Two clusters -/

open BootObjects

variable {container : String} {a b : Cluster}

theorem Cluster.storage_eq_iff :
    a.storage container = b.storage container ↔ accountStem a.name = accountStem b.name := by
  rw [Cluster.storage, Cluster.storage, StorageContainer.mk.injEq, storageAccountName_eq_iff]
  exact and_iff_left rfl

namespace Operator

/-- **How two clusters of an operator get on** in blob storage. -/
structure KeepApart (o : Operator gateway) (container : String) (a b : Cluster) : Prop where
  /-- A pass writes the objects of its own cluster, at its release. -/
  own : ∀ xs r, (o.reconcile a).Transcript xs r → ∀ place ∈ written xs,
    place ∈ targets (a.storage container) a.spec.releaseVersion ∧
      Manages (a.storage container) place
  /-- Under another stem it writes nothing that is managed for the other cluster. -/
  apart : accountStem a.name ≠ accountStem b.name →
    ∀ xs r, (o.reconcile a).Transcript xs r → ∀ place ∈ written xs,
      ¬Manages (b.storage container) place
  /-- The stems decide whether the objects are disjoint, whatever the releases are. -/
  disjoint_iff :
    (∀ release other, (targets (a.storage container) release).Disjoint
      (targets (b.storage container) other)) ↔ accountStem a.name ≠ accountStem b.name
  /-- Under one stem the objects are the same at every release. -/
  same : accountStem a.name = accountStem b.name →
    ∀ release, targets (a.storage container) release = targets (b.storage container) release

/-- **Two clusters keep apart exactly if the stems of their names differ.** -/
theorem keepApart_of_assembled {o : Operator gateway} (assembled : o.IsAssembled)
    (hcontainer : o.resources.storageContainer = some container) (a b : Cluster) :
    o.KeepApart container a b := by
  have own : ∀ xs r, (o.reconcile a).Transcript xs r → ∀ place ∈ written xs,
      place ∈ targets (a.storage container) a.spec.releaseVersion ∧
        Manages (a.storage container) place := by
    intro xs r h place hplace
    obtain ⟨s, hs, htarget⟩ := of_mem_written (assembled.asks_reconcile xs r h) hplace
    have hstorage : (o.resources.newContext a).storage = some (a.storage container) :=
      congrArg (Option.map _) hcontainer
    obtain rfl : a.storage container = s := Option.some.inj (hstorage.symm.trans hs)
    exact ⟨htarget, manages_of_mem_targets htarget⟩
  refine ⟨own, fun hstem xs r h place hplace => ?_, ?_, fun hstem release => ?_⟩
  · exact not_manages_of_ne (fun haccount => hstem (storageAccountName_eq_iff.mp haccount))
      (own xs r h place hplace).2
  · rw [disjoint_targets_iff, Ne, Cluster.storage_eq_iff]
  · rw [Cluster.storage_eq_iff.mpr hstem]

end Operator

/-! ## Two clusters of one stem -/

/-- The labels of which object names are made: lower-case letters, digits and inner hyphens. -/
def isNameLabel (label : List Char) : Bool :=
  !label.isEmpty && label.all (fun c => c.isLower || c.isDigit || c == '-') &&
    label.head? != some '-' && label.getLast? != some '-'

/-- **What a cluster object may be called**: labels with dots in between. -/
def IsObjectName (name : String) : Prop :=
  name.toList.length ≤ 253 ∧ ∀ label ∈ name.toList.splitOn '.', isNameLabel label = true

instance {name : String} : Decidable (IsObjectName name) := inferInstanceAs (Decidable (_ ∧ _))

namespace Operator

namespace OneStem

open FirstReady DeploymentOrchestrator

/-- A cluster whose network can be carved. -/
def cluster (name : String) : Cluster := { production with name }

/-- The status of a cluster that is recorded as ready, as its deployment is recorded. -/
def ready (d : Deployment) : Snapshot :=
  { stored d with status := { recordOf d with phase := .ready } }

variable {c : Cluster}

/-- The deployment is found as it is wanted and recorded. -/
def lookedUp (c : Cluster) (d : Deployment) : List (Exchange gateway) :=
  [⟨.lookUp c.resourceGroup ((orchestrator {}).deploymentName c), .ok settled⟩,
    ⟨.template mainTemplate, .ok .null⟩,
    ⟨.loadStatus c.name, .ok (stored d)⟩, ⟨.loadStatus c.name, .ok (stored d)⟩]

/-- Both objects are written to a container that is empty. -/
def boots (c : Cluster) : List (Exchange gateway) :=
  let s := operator.bootStorage c
  let ctx := operator.bootContext c settled
  [⟨.containerExists s.account s.container, .ok true⟩,
    ⟨.listObjects s.account s.container, .ok []⟩,
    ⟨.render (inputOf c ctx .master), .ok "boot"⟩,
    ⟨.render (inputOf c ctx .worker), .ok "boot"⟩,
    ⟨.writeObject s.account s.container (objectKey .master c.spec.releaseVersion) "boot", .ok ()⟩,
    ⟨.writeObject s.account s.container (objectKey .worker c.spec.releaseVersion) "boot", .ok ()⟩]

theorem written_boots :
    written (boots c) = targets (c.storage "ignition") c.spec.releaseVersion := rfl

theorem boots_completes :
    (ClusterResource.bootObjects.ensureCreated c).Completes (operator.bootContext c settled)
      (boots c) () (operator.bootContext c settled) :=
  ⟨.ask _ (.ask _ (.ask _ (.ask _ (.ask _ (.ask _ (.done _)))))), isCanceled_publish⟩

/-- A cluster whose deployment is up to date has a pass in which its objects are written. -/
theorem exists_pass {d : Deployment} (present : c.deleting = false)
    (hd : ((orchestrator {}).definition.parameters c).map ((orchestrator {}).assemble c .null) =
      .ok d) :
    ∃ xs r, (operator.reconcile c).Transcript xs r ∧
      ∀ place ∈ targets (c.storage "ignition") c.spec.releaseVersion, place ∈ written xs := by
  have hdeployment : ((orchestrator {}).ensureCreated c).Transcript
      (operator.resources.newContext c) (lookedUp c d) (.ok .upToDate)
      (operator.bootContext c settled) :=
    ensureCreated_of_recorded rfl hd
  obtain ⟨guards, hguards, -⟩ := Program.run_transcript (I := gateway) serve
    (ResourceSet.passOver c [.instanceGuard 0] (operator.bootContext c settled)) ()
  have hpass : (operator.resources.reconcile c).Transcript _ (.ok .completed) :=
    ResourceSet.reconcile_transcript_iff.mpr ⟨_, ResourceSet.passOver_completed_cons_iff.mpr
      ⟨_, _, _, rfl, ClusterResource.discard_completes_iff.mpr ⟨.upToDate, hdeployment, rfl⟩,
        ResourceSet.passOver_completed_cons_iff.mpr
          ⟨_, _, _, rfl, boots_completes, hguards⟩⟩⟩
  have hphase : (operator.setPhase c.name .ready none).Transcript
      [⟨.loadStatus c.name, .ok (ready d)⟩] (.ok false) :=
    StatusStore.update_of_unchanged rfl
  have hrun : (operator.reconcile c).Transcript _ (.ok (.requeue operator.config.readyRequeue)) :=
    (if_neg (by simp [present]) : operator.reconcile c = _) ▸ Program.transcript_bind_iff.mpr
      ⟨_, _, _, rfl, hpass, Program.transcript_map_iff.mpr ⟨_, hphase, rfl⟩⟩
  refine ⟨_, _, hrun, fun place hplace => ?_⟩
  rw [written_append, written_append, written_append, written_boots]
  simp [hplace]

/-- The network of a cluster can be carved under any of the two names. -/
theorem exists_parameters {name : String} (h : name = "prod-eu" ∨ name = "prodeu") :
    ∃ d, ((orchestrator {}).definition.parameters (cluster name)).map
      ((orchestrator {}).assemble (cluster name) .null) = .ok d := by
  have hok : ((orchestrator {}).definition.parameters (cluster name)).isOk = true := by
    rcases h with rfl | rfl <;> decide +kernel
  cases hp : (orchestrator {}).definition.parameters (cluster name) with
  | error e => rw [hp] at hok; cases hok
  | ok parameters => exact ⟨_, rfl⟩

end OneStem

/-- What two clusters whose names have different stems do not do to each other. -/
theorem keepApart_of_assembled_of_other_stem :
    FirstReady.operator.IsAssembled ∧
      FirstReady.operator.resources.storageContainer = some "ignition" ∧
      ∀ xs r, (FirstReady.operator.reconcile (OneStem.cluster "prod-eu")).Transcript xs r →
        ∀ place ∈ written xs, ¬Manages ((OneStem.cluster "prod-us").storage "ignition") place := by
  have assembled : FirstReady.operator.IsAssembled :=
    (isStandard_of_standard FirstReady.standard_eq).isAssembled
  refine ⟨assembled, rfl, ?_⟩
  exact (keepApart_of_assembled assembled rfl (OneStem.cluster "prod-eu")
    (OneStem.cluster "prod-us")).apart (by decide)

/-- **Clusters of different names do not always keep apart**, whatever their names are. -/
theorem not_always_apart :
    ¬∀ (o : Operator gateway) (container : String) (a b : Cluster), o.IsAssembled →
      o.resources.storageContainer = some container →
      IsObjectName a.name → IsObjectName b.name → a.name ≠ b.name →
      a.resourceGroup ≠ b.resourceGroup →
      ∀ xs r ys s, (o.reconcile a).Transcript xs r → (o.reconcile b).Transcript ys s →
        (written xs).Disjoint (written ys) := by
  intro always
  obtain ⟨d, hd⟩ := OneStem.exists_parameters (.inl rfl)
  obtain ⟨e, he⟩ := OneStem.exists_parameters (.inr rfl)
  obtain ⟨xs, r, hxs, hwritten⟩ := OneStem.exists_pass rfl hd
  obtain ⟨ys, s, hys, hwritten'⟩ := OneStem.exists_pass rfl he
  have disjoint := always FirstReady.operator "ignition" _ _
    (isStandard_of_standard FirstReady.standard_eq).isAssembled rfl (by decide) (by decide)
    (by decide) (by decide) xs r ys s hxs hys
  refine disjoint (hwritten _ List.mem_cons_self) (hwritten' _ ?_)
  have hstorage : (OneStem.cluster "prod-eu").storage "ignition" =
      (OneStem.cluster "prodeu").storage "ignition" :=
    Cluster.storage_eq_iff.mpr (by decide)
  rw [hstorage]
  exact List.mem_cons_self

end Operator

end ClusterOperator
