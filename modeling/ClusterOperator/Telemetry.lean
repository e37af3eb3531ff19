/-!
# Telemetry

How the operator names itself in its logs, which of them it keeps, and in which form.
Telemetry is set up once; setting it up again is refused.
-/

namespace ClusterOperator

/-- How logs are written. -/
structure TelemetryConfig where
  serviceName : String := "lattice-azure"
  /-- Whether logs are documents. -/
  json : Bool := true
  /-- What is kept unless the environment says otherwise. -/
  defaultFilter : String := "info,lattice=debug,lattice_azure=debug,kube=info"
  deriving DecidableEq, Repr

instance : Inhabited TelemetryConfig := ⟨{}⟩

/-- Why telemetry was not set up. -/
inductive TelemetryFault where
  /-- Something receives the logs already. -/
  | alreadySet
  deriving DecidableEq, Repr

/-- The wording of a fault. -/
def TelemetryFault.message : TelemetryFault → String
  | .alreadySet =>
    "failed to initialize tracing subscriber: a global default trace dispatcher has already been set"

/-- Sets telemetry up, given whether something receives the logs already. -/
def TelemetryConfig.setUp (_ : TelemetryConfig) (occupied : Bool) : Except TelemetryFault Unit :=
  if occupied then .error .alreadySet else .ok ()

end ClusterOperator
