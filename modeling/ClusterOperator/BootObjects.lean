import ClusterOperator.Gateway
import ClusterOperator.Records.Reconcile

/-!
# Boot configurations in blob storage

Every node role of a cluster has one object in the cluster's container, under the key
of the role and the release.  Its body is rendered from what the deployment put into
the context, so this resource comes after it.  Objects of earlier releases are managed
too, but stay until the container goes away.

Storage that is not usable yet cancels the pass and is no failure; an object that went
away between the listing and the reading counts as absent.
-/

namespace ClusterOperator

/-- An object in blob storage. -/
structure BootObject where
  account : String
  container : String
  key : String
  body : String
  deriving DecidableEq, Repr

instance : Keyed BootObject := ⟨BootObject.key⟩

/-- The letters and digits of ASCII. -/
def isAsciiAlphanumeric (c : Char) : Bool :=
  ('a'.val ≤ c.val && c.val ≤ 'z'.val) || ('A'.val ≤ c.val && c.val ≤ 'Z'.val) ||
    ('0'.val ≤ c.val && c.val ≤ '9'.val)

/-- The storage account of a cluster: the first letters and digits of its name in
lower case, at most twenty-two, and `sa`. -/
def storageAccountName (clusterName : String) : String :=
  String.ofList (((clusterName.toList.filter isAsciiAlphanumeric).map Char.toLower).take 22) ++ "sa"

namespace BootObjects

/-- The key of a role's object at a release. -/
def objectKey (role : NodeRole) (release : String) : String := s!"{role.toText}-{release}"

/-- Whether a key is of the form that objects of node roles have. -/
def isManagedKey (key : String) : Bool :=
  NodeRole.all.any fun role => (role.toText ++ "-").toList.isPrefixOf key.toList

/-- The name of the resource. -/
def resourceName : String := "blobobject"

/-- What the objects are rendered from and where they go. -/
def requirements : List ContextField :=
  [.storageContainer, .cloudConfig, .masterSubnetId, .workerSubnetId, .apiServerBackendPoolId,
    .etcdBackendPoolId]

/-- An error of blob storage cancels the pass if it says that the account is not
usable, and is a failure otherwise. -/
def notReadyOrFail (e : CloudFault) (operation : String) : Step gateway Unit :=
  if e.isStorageNotReady then Step.cancel "storage account not ready"
  else Step.fail (e.toFailure operation)

/-- The container of the pass, if it can be used; if not, the pass is canceled. -/
def readyStorage : Step gateway (Option StorageContainer) := do
  Step.require resourceName [.storageContainer]
  match (← Step.context).storage with
  | none => return none
  | some s =>
    match ← Step.lift (Gateway.call (.containerExists s.account s.container)) with
    | .ok true => return some s
    | .ok false =>
      Step.cancel s!"container {s.container} not ready"
      return none
    | .error e =>
      notReadyOrFail e "storage.container_exists"
      return none

/-- Reads the objects of the given keys onto those read so far; an unusable account
leaves nothing. -/
def readObjects (s : StorageContainer) : List BootObject → List String →
    Step gateway (List BootObject)
  | found, [] => pure found
  | found, key :: keys => do
    match ← Step.lift (Gateway.call (.readObject s.account s.container key)) with
    | .ok body => readObjects s (found ++ [⟨s.account, s.container, key, body⟩]) keys
    | .error e =>
      if e.isNotFound && !e.isStorageNotReady then readObjects s found keys
      else
        notReadyOrFail e "storage.get_object"
        return []

/-- The managed objects in the container. -/
def current : Step gateway (List BootObject) := do
  match ← readyStorage with
  | none => return []
  | some s =>
    match ← Step.lift (Gateway.call (.listObjects s.account s.container)) with
    | .ok keys => readObjects s [] (keys.filter isManagedKey)
    | .error e =>
      notReadyOrFail e "storage.list_objects"
      return []

/-- The subnet of a role. -/
def subnetOf (ctx : PassContext) : NodeRole → Option String
  | .master => ctx.masterSubnetId
  | .worker => ctx.workerSubnetId

/-- What the boot configuration of a role is rendered from. -/
def inputOf (cluster : Cluster) (ctx : PassContext) (role : NodeRole) : BootInput where
  cluster := cluster.name
  role := role
  release := cluster.spec.releaseVersion
  subnet := (subnetOf ctx role).getD ""
  apiServerBackendPool := ctx.apiServerBackendPoolId.getD ""
  etcdBackendPool := ctx.etcdBackendPoolId.getD ""

/-- Renders the objects of the given roles. -/
def renderObjects (cluster : Cluster) (ctx : PassContext) (s : StorageContainer) :
    List NodeRole → Step gateway (List BootObject)
  | [] => pure []
  | role :: roles => do
    let body ← Step.tryLift (Gateway.call (.render (inputOf cluster ctx role)))
    let rest ← renderObjects cluster ctx s roles
    return ⟨s.account, s.container, objectKey role cluster.spec.releaseVersion, body⟩ :: rest

/-- The objects that the cluster should have. -/
def desired (cluster : Cluster) : Step gateway (List BootObject) := do
  Step.require resourceName requirements
  let ctx ← Step.context
  match ctx.storage with
  | none => return []
  | some s => renderObjects cluster ctx s NodeRole.all

/-- Writes objects one after another, until the account turns out not to be usable. -/
def writeObjects : List BootObject → Step gateway Unit
  | [] => pure ()
  | r :: rest => do
    match ← Step.lift (Gateway.call (.writeObject r.account r.container r.key r.body)) with
    | .ok () => writeObjects rest
    | .error e => notReadyOrFail e "storage.put_object"

/-- Writes objects, given that there is a container. -/
def write (records : List BootObject) : Step gateway Unit := do
  Step.require resourceName [.storageContainer]
  writeObjects records

/-- The boot configurations of a cluster as a resource. -/
def resource : RecordResource gateway BootObject where
  name := resourceName
  policy := .cascade
  current _ := current
  desired := desired
  create _ := write
  overwrite _ := write

end BootObjects

end ClusterOperator
