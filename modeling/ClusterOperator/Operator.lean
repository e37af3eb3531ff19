import ClusterOperator.Pass.ResourceSet

/-!
# Reconciling clusters

A cluster is reconciled by one pass over its resources.  How the pass ended is
recorded as the phase of the cluster, with a message that says what it waits for or
why it failed, and decides when to look at the cluster again.  A phase that is
recorded already is not written again.  A failure that may pass with time is not
recorded, and whether recording one succeeds makes no difference to the answer.

A cluster that is being deleted is taken down, and then left alone.
-/

namespace ClusterOperator

/-- What to do with a cluster that was reconciled. -/
inductive NextStep where
  /-- Nothing until it changes. -/
  | awaitChange
  /-- Looking at it again after a while. -/
  | requeue (after : Duration)
  deriving DecidableEq, Repr

/-- What reconciles clusters: the resources, the store of their status, and the
configuration. -/
structure Operator (I : Interface) where
  resources : ResourceSet I
  status : StatusStore I
  config : OperatorConfig

namespace Operator

variable {I : Interface} (o : Operator I)

/-- Sets phase and message of a status, if they are not set so already. -/
def phaseMutation (phase : Phase) (message : Option String) : Mutation := fun _ status =>
  if status.phase = phase ∧ status.message = message then (false, status)
  else (true, { status with phase, message })

/-- Records the phase of a cluster. -/
def setPhase (name : String) (phase : Phase) (message : Option String) :
    Program I (Except Failure Bool) :=
  o.status.update name o.config.statusRetry (phaseMutation phase message)

/-- Records a phase and answers when to look again. -/
def recordAndRequeue (name : String) (phase : Phase) (message : Option String)
    (after : Duration) : Program I (Except Failure NextStep) :=
  (o.setPhase name phase message).bind fun r => .done (r.map fun _ => .requeue after)

/-- Records a failure that time does not heal, and answers it. -/
def recordFailure (name : String) (e : Failure) : Program I (Except Failure NextStep) :=
  if e.isRetryable then .done (.error e)
  else (o.setPhase name .failed (some e.message)).bind fun _ => .done (.error e)

/-- What follows from how a pass ended. -/
def conclude (name : String) : Except Failure PassOutcome → Program I (Except Failure NextStep)
  | .error e => o.recordFailure name e
  | .ok .completed => o.recordAndRequeue name .ready none o.config.readyRequeue
  | .ok (.canceled resource reason) =>
    o.recordAndRequeue name .provisioning (some s!"waiting on {resource}: {reason}")
      o.config.notReadyRequeue

/-- Reconciles a cluster. -/
def reconcile (cluster : Cluster) : Program I (Except Failure NextStep) :=
  if cluster.deleting then
    (o.resources.reconcileDeletion cluster).bind fun r => .done (r.map fun _ => .awaitChange)
  else (o.resources.reconcile cluster).bind (o.conclude cluster.name)

/-- When to look again at a cluster whose reconciliation failed. -/
def errorPolicy : NextStep := .requeue o.config.errorRequeue

end Operator

/-- The operator with the standard resources. -/
def Operator.standard (config : OperatorConfig) : Except Failure (Operator gateway) := do
  config.validate
  return { resources := .standard config 0, status := gatewayStore, config }

end ClusterOperator
