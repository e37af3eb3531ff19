import ClusterOperator.Cloud.Fault
import ClusterOperator.Cloud.Provisioning
import ClusterOperator.Watchdog.Pool

/-!
# Guarding a scale set

A guard job lists the instances of a scale set again and again, until every one of
them has come to an end, one way or the other; then it reports which ones succeeded
and which did not.  A scale set without instances has come to its end.  A listing that
fails ends the job without a report.
-/

namespace ClusterOperator

/-- An instance of a scale set. -/
structure ScaleSetInstance where
  id : String
  state : ProvisioningState
  deriving DecidableEq, Repr

namespace ScaleSetInstance

/-- The instance in diagnostics. -/
def describe (i : ScaleSetInstance) : String :=
  "VmssInstance \x7b instance_id: " ++ Text.quote i.id ++ ", provisioning_state: " ++
    i.state.describe ++ " \x7d"

end ScaleSetInstance

/-- How the instances of a guarded scale set ended. -/
structure HealthReport where
  resourceGroup : String
  scaleSet : String
  succeeded : List String
  failed : List String
  deriving DecidableEq, Repr

/-- Whether no instance failed. -/
def HealthReport.isHealthy (r : HealthReport) : Bool := r.failed.isEmpty

/-- A job that guards a scale set, with the instances of the last listing. -/
structure GuardJob where
  resourceGroup : String
  scaleSet : String
  instances : Option (List ScaleSetInstance) := none
  deriving DecidableEq, Repr

namespace GuardJob

/-- The id of the job that guards a scale set. -/
def idOf (resourceGroup scaleSet : String) : String := s!"{resourceGroup}/{scaleSet}"

def id (job : GuardJob) : String := idOf job.resourceGroup job.scaleSet

/-- Takes in the answer to a listing. -/
def poll (job : GuardJob) : Except CloudFault (List ScaleSetInstance) → Except Failure GuardJob
  | .ok instances => .ok { job with instances := some instances }
  | .error e => .error (e.toFailure "vmss.list_instances")

/-- Whether every instance of the last listing has come to an end. -/
def isFinished (job : GuardJob) : Bool :=
  match job.instances with
  | none => false
  | some instances => instances.all fun i => i.state.isFinal

/-- The report on the last listing. -/
def report (job : GuardJob) : HealthReport where
  resourceGroup := job.resourceGroup
  scaleSet := job.scaleSet
  succeeded := ((job.instances.getD []).filter fun i => !i.state.isFailure).map (·.id)
  failed := ((job.instances.getD []).filter fun i => i.state.isFailure).map (·.id)

/-- How a poll with this answer ends for the pool. -/
def conclude (job : GuardJob) (answer : Except CloudFault (List ScaleSetInstance)) :
    Watchdog.PollEnd GuardJob :=
  match job.poll answer with
  | .error _ => .failed job
  | .ok job => if job.isFinished then .finished job else .pending job

/-- The job in diagnostics. -/
def describe (job : GuardJob) : String :=
  "VmssGuardJob \x7b id: " ++ Text.quote job.id ++ ", instances: " ++
    (match job.instances with
      | none => "None"
      | some instances =>
        "Some([" ++ ", ".intercalate (instances.map ScaleSetInstance.describe) ++ "])") ++
    ", .. \x7d"

end GuardJob

namespace Watchdog

/-- Has a scale set guarded. -/
def Pool.guard (p : Pool GuardJob) (resourceGroup scaleSet : String) :
    Pool GuardJob × List (Event GuardJob) :=
  let job : GuardJob := { resourceGroup, scaleSet }
  p.enqueue job.id job

end Watchdog

end ClusterOperator
