import ClusterOperator.Json.Record

/-!
# Clusters

A cluster object declares the cloud infrastructure of one workload cluster: where it
lies, which network it is cut from, and which release its nodes run.  Its name
identifies it in the cloud, and stands for the resource group if none is given.
-/

namespace ClusterOperator

/-- What a cluster is declared to be. -/
structure ClusterSpec where
  resourceGroup : Option String := none
  location : String
  networkCidr : String
  releaseVersion : String
  vpnGateway : Bool := true
  /-- Deployment parameters that win over the computed ones. -/
  parameterOverrides : List (String × Json) := []
  deriving Repr, Inhabited

/-- A cluster object, as far as the operator looks at it. -/
structure Cluster where
  name : String
  deleting : Bool := false
  spec : ClusterSpec
  deriving Repr, Inhabited

/-- What a node is for. -/
inductive NodeRole where
  | master
  | worker
  deriving DecidableEq, Repr

namespace NodeRole

/-- Both roles, in provisioning order. -/
def all : List NodeRole := [.master, .worker]

def toText : NodeRole → String
  | .master => "master"
  | .worker => "worker"

end NodeRole

namespace ClusterSpec

def fieldNames : List String :=
  ["resourceGroup", "location", "networkCidr", "releaseVersion", "vpnGateway",
    "parameterOverrides"]

/-- The parameters that an object gives. -/
def parametersOfTree? (v : Json.Tree) : Option (List (String × Json)) :=
  v.document?.bind Json.members?

/-- The specification that a value gives. -/
def ofTree? (v : Json.Tree) : Option ClusterSpec := do
  let fs ← v.fields? fieldNames
  let resourceGroup ← fs.optional "resourceGroup" Json.Tree.text?
  let location ← fs.require "location" Json.Tree.text?
  let networkCidr ← fs.require "networkCidr" Json.Tree.text?
  let releaseVersion ← fs.require "releaseVersion" Json.Tree.text?
  let vpnGateway ← fs.orDefault "vpnGateway" true Json.Tree.bool?
  let parameterOverrides ← fs.orDefault "parameterOverrides" [] parametersOfTree?
  return { resourceGroup, location, networkCidr, releaseVersion, vpnGateway, parameterOverrides }

/-- The specification that a document holds. -/
def ofJson? (v : Json) : Option ClusterSpec := ofTree? v.toTree

/-- The document of a specification; what is absent or empty is left out. -/
def toJson (s : ClusterSpec) : Json :=
  .object <|
    (match s.resourceGroup with
      | none => []
      | some g => [("resourceGroup", .text g)]) ++
    [("location", .text s.location), ("networkCidr", .text s.networkCidr),
      ("releaseVersion", .text s.releaseVersion), ("vpnGateway", .bool s.vpnGateway)] ++
    (if s.parameterOverrides.isEmpty then []
      else [("parameterOverrides", .object s.parameterOverrides)])

end ClusterSpec

namespace Cluster

/-- The resource group of the cluster's cloud resources. -/
def resourceGroup (c : Cluster) : String := c.spec.resourceGroup.getD c.name

/-- The scale set of the nodes of one role. -/
def scaleSet (c : Cluster) (role : NodeRole) : String := s!"{c.name}-{role.toText}"

/-- The scale sets of the cluster, one per role. -/
def scaleSets (c : Cluster) : List String := NodeRole.all.map c.scaleSet

end Cluster

end ClusterOperator
