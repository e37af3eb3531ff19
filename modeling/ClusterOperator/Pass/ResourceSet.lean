import ClusterOperator.BootObjects
import ClusterOperator.Deployment.Orchestrator
import ClusterOperator.Watchdog.Guard

/-!
# A pass over the resources of a cluster

The resources of a cluster are taken in a fixed order, in one pass that starts from a
fresh context.  The pass ends at the first resource that fails or leaves the context
canceled.  A deletion goes through the resources in reverse order, from a fresh
context too.

The standard resources are the deployment, the boot objects, and the guards of the
scale sets.  All but the first depend on what an earlier one put into the context or
made sure of.
-/

namespace ClusterOperator

/-- A resource that is managed on behalf of clusters. -/
structure ClusterResource (I : Interface) where
  name : String
  /-- Takes the resource towards what it should be. -/
  ensureCreated : Cluster → Step I Unit
  /-- Takes the resource down together with its cluster. -/
  ensureDeleted : Cluster → Step I Unit := fun _ => pure ()

namespace ClusterResource

/-- A resource whose value nobody needs. -/
def discard {I : Interface} {α : Type} (m : Step I α) : Step I Unit := m.bind fun _ => pure ()

/-- The deployment of a cluster.  It goes away with its resource group. -/
def deployment (o : DeploymentOrchestrator) : ClusterResource gateway where
  name := "deployment"
  ensureCreated cluster := discard (o.ensureCreated cluster)

/-- The boot objects of a cluster. -/
def bootObjects : ClusterResource gateway where
  name := BootObjects.resourceName
  ensureCreated cluster := discard (BootObjects.resource.reconcile cluster)
  ensureDeleted cluster := BootObjects.resource.reconcileDeletion cluster

/-- Has scale sets of a resource group guarded. -/
def guardAll (watchdog : Nat) (resourceGroup : String) : List String → Program gateway Unit
  | [] => .done ()
  | scaleSet :: rest =>
    (Gateway.call (.guard watchdog resourceGroup scaleSet)).bind fun _ =>
      guardAll watchdog resourceGroup rest

/-- The guards of a cluster's scale sets, which go away with the resource group. -/
def instanceGuard (watchdog : Nat) : ClusterResource gateway where
  name := "instanceguard"
  ensureCreated cluster := Step.lift (guardAll watchdog cluster.resourceGroup cluster.scaleSets)

end ClusterResource

/-- How a pass ended. -/
inductive PassOutcome where
  /-- Every resource was gone through. -/
  | completed
  /-- A resource canceled the pass. -/
  | canceled (resource reason : String)
  deriving DecidableEq, Repr

/-- The resources of a pass, in order, and what a fresh context has. -/
structure ResourceSet (I : Interface) where
  resources : List (ClusterResource I)
  /-- The container of the boot objects, if there is blob storage. -/
  storageContainer : Option String := none
  hasRenderer : Bool := false

namespace ResourceSet

variable {I : Interface} (set : ResourceSet I)

/-- The names of the resources. -/
def resourceNames : List String := set.resources.map (·.name)

/-- The context from which a pass over a cluster starts. -/
def newContext (cluster : Cluster) : PassContext where
  storage := set.storageContainer.map fun c => ⟨storageAccountName cluster.name, c⟩
  hasRenderer := set.hasRenderer

/-- Goes through resources until one fails or the context is canceled. -/
def passOver (cluster : Cluster) : List (ClusterResource I) → Step I PassOutcome
  | [] => pure .completed
  | r :: rest =>
    (r.ensureCreated cluster).bind fun _ =>
    Step.context.bind fun ctx =>
    match ctx.cancelReason with
    | some reason => pure (.canceled r.name reason)
    | none => passOver cluster rest

/-- One pass over a cluster. -/
def reconcile (cluster : Cluster) : Program I (Except Failure PassOutcome) :=
  (passOver cluster set.resources (set.newContext cluster)).bind fun r => .done r.1

/-- Takes resources down one after another. -/
def takeDown (cluster : Cluster) : List (ClusterResource I) → Step I Unit
  | [] => pure ()
  | r :: rest => (r.ensureDeleted cluster).bind fun _ => takeDown cluster rest

/-- Takes every resource of a cluster down. -/
def reconcileDeletion (cluster : Cluster) : Program I (Except Failure Unit) :=
  (takeDown cluster set.resources.reverse (set.newContext cluster)).bind fun r => .done r.1

end ResourceSet

/-- The standard resources under a configuration, with guards on the watchdog of the
given index. -/
def ResourceSet.standard (config : OperatorConfig) (watchdog : Nat) : ResourceSet gateway where
  resources :=
    [.deployment ⟨MainDeployment.definition config.subnets, config.statusRetry⟩,
      .bootObjects,
      .instanceGuard watchdog]
  storageContainer := some config.storageContainer
  hasRenderer := true

end ClusterOperator
