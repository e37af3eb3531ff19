import ClusterOperator.Text.Quoted

/-!
# Provisioning states

The cloud reports the state of a deployment or of an instance as a word.  Case does
not matter; a word that is not known is kept as it is and counts as work in progress.
-/

namespace ClusterOperator

/-- How far the cloud is with something. -/
inductive ProvisioningState where
  | accepted
  | running
  | creating
  | updating
  | deleting
  | succeeded
  | failed
  | canceled
  | other (raw : String)
  deriving DecidableEq, Repr

namespace ProvisioningState

/-- The state of a word. -/
def ofText (raw : String) : ProvisioningState :=
  match String.ofList (raw.toList.map Char.toLower) with
  | "accepted" => .accepted
  | "running" => .running
  | "creating" => .creating
  | "updating" => .updating
  | "deleting" => .deleting
  | "succeeded" => .succeeded
  | "failed" => .failed
  | "canceled" => .canceled
  | "cancelled" => .canceled
  | _ => .other raw

/-- Whether the cloud is done. -/
def isFinal : ProvisioningState → Bool
  | .succeeded => true
  | .failed => true
  | .canceled => true
  | _ => false

/-- Whether the cloud is done and did not succeed. -/
def isFailure : ProvisioningState → Bool
  | .failed => true
  | .canceled => true
  | _ => false

/-- The name of the kind of state. -/
def kind : ProvisioningState → String
  | .accepted => "Accepted"
  | .running => "Running"
  | .creating => "Creating"
  | .updating => "Updating"
  | .deleting => "Deleting"
  | .succeeded => "Succeeded"
  | .failed => "Failed"
  | .canceled => "Canceled"
  | .other _ => "Other"

/-- The word of a state. -/
def toText : ProvisioningState → String
  | .other raw => raw
  | s => s.kind

/-- The state in diagnostics. -/
def describe : ProvisioningState → String
  | .other raw => "Other(" ++ Text.quote raw ++ ")"
  | s => s.kind

end ProvisioningState

end ClusterOperator
