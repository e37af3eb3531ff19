import ClusterOperator.Cluster.Spec
import ClusterOperator.Deployment.Content
import ClusterOperator.Net.Carving
import ClusterOperator.Pass.Context

/-!
# What is deployed for a cluster

A definition says what a deployment is called, which template it uses, which
parameters follow from the cluster, and which outputs of the deployment go into which
field of the context.  The main deployment of a cluster is its network: the virtual
network with the blocks that are carved from it, the load balancers, and the VPN
gateway if one is wanted.
-/

namespace ClusterOperator

/-- An output of a deployment and the field of the context it is published in. -/
structure OutputBinding where
  output : String
  field : ContextField
  deriving DecidableEq, Repr

/-- What a deployment consists of for a given cluster. -/
structure DeploymentDefinition where
  deploymentName : Cluster → String
  templateName : String
  /-- The computed parameters, without overrides. -/
  parameters : Cluster → Except Failure Parameters
  outputs : List OutputBinding

/-- The name of the main template. -/
def mainTemplate : String := "main"

namespace MainDeployment

/-- The outputs of the main deployment. -/
def outputs : List OutputBinding :=
  [⟨"apiServerBackendPoolID", .apiServerBackendPoolId⟩,
    ⟨"etcdBackendPoolID", .etcdBackendPoolId⟩,
    ⟨"masterSubnetID", .masterSubnetId⟩,
    ⟨"workerSubnetID", .workerSubnetId⟩]

/-- The parameters of a cluster whose network has been carved. -/
def parametersOf (cluster : Cluster) (carving : Net.Carving) : Parameters where
  entries :=
    [("clusterID", .text cluster.name),
      ("location", .text cluster.spec.location),
      ("virtualNetworkCidr", .text carving.parent.toText),
      ("calicoSubnetCidr", .text carving.calico.toText),
      ("masterSubnetCidr", .text carving.master.toText),
      ("workerSubnetCidr", .text carving.worker.toText),
      ("vpnSubnetCidr", .text carving.vpn.toText),
      ("vpnGatewayEnabled", .bool cluster.spec.vpnGateway)]

/-- The parameters of a cluster. -/
def parameters (sizes : Net.CarvingSizes) (cluster : Cluster) : Except Failure Parameters := do
  let network ← Net.parseNetwork cluster.name cluster.spec.networkCidr
  let carving ← Net.Carving.compute network sizes
  return parametersOf cluster carving

/-- The main deployment with blocks of the given sizes. -/
def definition (sizes : Net.CarvingSizes) : DeploymentDefinition where
  deploymentName cluster := s!"{cluster.name}-main"
  templateName := mainTemplate
  parameters := parameters sizes
  outputs := outputs

end MainDeployment

end ClusterOperator
