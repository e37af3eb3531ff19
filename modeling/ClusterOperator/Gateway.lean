import ClusterOperator.Cloud.Fault
import ClusterOperator.Cloud.Provisioning
import ClusterOperator.Cluster.Spec
import ClusterOperator.Cluster.Status
import ClusterOperator.Deployment.Content
import ClusterOperator.Duration
import ClusterOperator.Program

/-!
# The gateway

The interface through which the operator meets the world: deployments, blob storage,
the renderer of boot configurations, templates, the stored status of clusters, the
watchdog, and the clock by which it pauses.  Every cloud call may be answered by an
error, and reading and writing the status by a failure.
-/

namespace ClusterOperator

/-- The state of a deployment in the cloud. -/
structure DeploymentState where
  state : ProvisioningState
  /-- What the deployment puts out, by name; null while it is running. -/
  outputs : Json
  deriving Repr

/-- What a boot configuration is rendered from. -/
structure BootInput where
  cluster : String
  role : NodeRole
  release : String
  subnet : String
  apiServerBackendPool : String
  etcdBackendPool : String
  deriving DecidableEq, Repr

/-- A status as it was read: with the token of its version, none if nothing was ever
written, and the time of the reading. -/
structure Snapshot where
  status : Status
  version : Option String
  readAt : Instant
  deriving DecidableEq, Repr

/-- Why a status was not written. -/
inductive StoreFault where
  /-- The stored version is not the one that was read. -/
  | conflict (name : String)
  | other (failure : Failure)
  deriving DecidableEq, Repr

namespace StoreFault

/-- The wording of a fault. -/
def message : StoreFault → String
  | .conflict name => s!"status of {name} was modified concurrently"
  | .other failure => failure.message

/-- Whether reading again and writing again may succeed. -/
def isConflict : StoreFault → Bool
  | .conflict _ => true
  | .other _ => false

end StoreFault

namespace Gateway

/-- What the operator can ask for. -/
inductive Request where
  /-- The state of a deployment. -/
  | lookUp (resourceGroup name : String)
  /-- Creating or updating a deployment. -/
  | submit (resourceGroup name : String) (body : DeploymentRequest)
  | containerExists (account container : String)
  /-- The keys of the objects in a container. -/
  | listObjects (account container : String)
  | readObject (account container key : String)
  | writeObject (account container key body : String)
  | render (input : BootInput)
  | template (name : String)
  | loadStatus (name : String)
  /-- Replacing a status that was read at a version. -/
  | storeStatus (name : String) (status : Status) (version : Option String)
  /-- Having a scale set guarded by a watchdog; the answer says whether that is new. -/
  | guard (watchdog : Nat) (resourceGroup scaleSet : String)
  /-- A random factor for the next pause. -/
  | draw
  | pause (d : Duration)

/-- The type of the reply to a request. -/
@[reducible]
def Reply : Request → Type
  | .lookUp _ _ => Except CloudFault DeploymentState
  | .submit _ _ _ => Except CloudFault Unit
  | .containerExists _ _ => Except CloudFault Bool
  | .listObjects _ _ => Except CloudFault (List String)
  | .readObject _ _ _ => Except CloudFault String
  | .writeObject _ _ _ _ => Except CloudFault Unit
  | .render _ => Except Failure String
  | .template _ => Except Failure Json
  | .loadStatus _ => Except Failure Snapshot
  | .storeStatus _ _ _ => Except StoreFault Unit
  | .guard _ _ _ => Bool
  | .draw => Jitter
  | .pause _ => Unit

end Gateway

/-- The interface of the operator. -/
@[reducible]
def gateway : Interface where
  Request := Gateway.Request
  Reply := Gateway.Reply

namespace Gateway

/-- A single request. -/
def call (q : Request) : Program gateway (Reply q) := @Program.call gateway q

end Gateway

end ClusterOperator
