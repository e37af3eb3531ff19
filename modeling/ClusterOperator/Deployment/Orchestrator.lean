import ClusterOperator.Cluster.Update
import ClusterOperator.Config
import ClusterOperator.Deployment.Definition
import ClusterOperator.Pass.Step

/-!
# Driving a deployment

A cluster has one deployment, which is looked at anew in every pass.  One that does
not exist is submitted for the first time; one that is still running is waited for;
one that has ended publishes its outputs, and is submitted again if its content is
not the one whose checksums were recorded with the last submission.  One that failed
and has not changed is waited for too, since it would fail again.

The checksums are recorded in the status of the cluster, after the cloud accepted the
submission and both in one write.  Whenever something was submitted or has to be
waited for, the rest of the pass is canceled.
-/

namespace ClusterOperator

/-- What one look at a deployment led to. -/
inductive DeploymentOutcome where
  /-- It was submitted; `initial` if for the first time. -/
  | submitted (initial : Bool)
  /-- It is still running. -/
  | inProgress (state : ProvisioningState)
  /-- It ended without success, and its content is unchanged. -/
  | failed (state : ProvisioningState)
  /-- It succeeded, and its content is unchanged. -/
  | upToDate
  deriving DecidableEq, Repr

/-- What is deployed, and how the writes of its checksums are repeated. -/
structure DeploymentOrchestrator where
  definition : DeploymentDefinition := MainDeployment.definition {}
  statusRetry : Backoff := OperatorConfig.statusRetry {}

namespace DeploymentOrchestrator

/-- The condition that holds the checksum of the submitted template. -/
def templateCondition : String := "DeploymentTemplateChecksum"

/-- The condition that holds the checksum of the submitted parameters. -/
def parametersCondition : String := "DeploymentParametersChecksum"

/-- The conditions that are recorded for a submitted deployment. -/
def conditionsOf (d : Deployment) : List (String × String) :=
  [(templateCondition, d.templateChecksum), (parametersCondition, d.parametersChecksum)]

variable (o : DeploymentOrchestrator) (cluster : Cluster)

/-- The name of the cluster's deployment. -/
def deploymentName : String := o.definition.deploymentName cluster

/-- The deployment of a template and computed parameters; overrides win. -/
def assemble (template : Json) (parameters : Parameters) : Deployment where
  name := o.deploymentName cluster
  template := template
  parameters := parameters.insertAll cluster.spec.parameterOverrides

/-- The deployment that the cluster should have. -/
def desired : Program gateway (Except Failure Deployment) :=
  (Gateway.call (.template o.definition.templateName)).bind fun
    | .error e => .done (.error e)
    | .ok template => .done ((o.definition.parameters cluster).map (o.assemble cluster template))

/-- Submits a deployment and records its checksums. -/
def submit (d : Deployment) (initial : Bool) : Program gateway (Except Failure Unit) :=
  (Gateway.call (.submit cluster.resourceGroup d.name (d.request initial))).bind fun
    | .error e => .done (.error (e.toFailure "deployments.create_or_update"))
    | .ok () =>
      (gatewayStore.setConditions cluster.name o.statusRetry d.name (conditionsOf d)).bind fun r =>
        .done (r.map fun _ => ())

/-- The text that a deployment puts out under a name. -/
def outputText? (outputs : Json) (name : String) : Option String :=
  ((outputs.member? name).bind (Json.member? "value")).bind Json.text?

/-- Puts the outputs of a deployment into the context; one that is no text leaves its
field as it was. -/
def publish (bindings : List OutputBinding) (outputs : Json) (ctx : PassContext) : PassContext :=
  bindings.foldl
    (fun ctx b =>
      match outputText? outputs b.output with
      | some value => (ctx.setOutput b.field value).2
      | none => ctx)
    ctx

/-- A recorded checksum of the cluster's deployment. -/
def recorded (condition : String) : Program gateway (Except Failure (Option String)) :=
  gatewayStore.condition cluster.name (o.deploymentName cluster) condition

/-- Goes on with a deployment that does not exist. -/
def create : Step gateway DeploymentOutcome := do
  let d ← Step.tryLift (o.desired cluster)
  Step.tryLift (o.submit cluster d true)
  Step.cancel s!"deployment {o.deploymentName cluster} submitted"
  return .submitted true

/-- Goes on with a deployment that has not ended. -/
def await (state : ProvisioningState) : Step gateway DeploymentOutcome := do
  Step.cancel s!"deployment {o.deploymentName cluster} is {state.toText}"
  return .inProgress state

/-- Goes on with a deployment that has ended and whose content is unchanged. -/
def settle (state : ProvisioningState) : Step gateway DeploymentOutcome :=
  if state.isFailure then do
    Step.cancel s!"deployment {o.deploymentName cluster} is {state.toText}"
    return .failed state
  else return .upToDate

/-- Goes on with a deployment whose content has changed. -/
def resubmit (d : Deployment) : Step gateway DeploymentOutcome := do
  Step.tryLift (o.submit cluster d false)
  Step.cancel s!"deployment {o.deploymentName cluster} resubmitted"
  return .submitted false

/-- Goes on with a deployment that has ended. -/
def review (observed : DeploymentState) : Step gateway DeploymentOutcome := do
  Step.modify (publish o.definition.outputs observed.outputs)
  let d ← Step.tryLift (o.desired cluster)
  let template ← Step.tryLift (o.recorded cluster templateCondition)
  let parameters ← Step.tryLift (o.recorded cluster parametersCondition)
  if template = some d.templateChecksum ∧ parameters = some d.parametersChecksum then
    o.settle cluster observed.state
  else o.resubmit cluster d

/-- Looks at the deployment and takes it one step further. -/
def ensureCreated : Step gateway DeploymentOutcome := do
  let reply ← Step.lift (Gateway.call (.lookUp cluster.resourceGroup (o.deploymentName cluster)))
  match reply with
  | .error e =>
    if e.isNotFound then o.create cluster else Step.fail (e.toFailure "deployments.get")
  | .ok observed =>
    if observed.state.isFinal then o.review cluster observed else o.await cluster observed.state

end DeploymentOrchestrator

end ClusterOperator
