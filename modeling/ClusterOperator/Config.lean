import ClusterOperator.Backoff
import ClusterOperator.Net.Carving

/-!
# Operator configuration

The operator is configured by named settings, each a text that may be absent.  An
absent setting has its default; a numeric one is an unsigned numeral with blanks
around it, no larger than its word.  The settings are read in a fixed order and the
first that cannot be read is reported; after that the configuration is validated as a
whole, whether its values were set or are defaults.
-/

namespace ClusterOperator

/-- Where settings come from: the text under a name, if it is set. -/
abbrev Settings : Type := String → Option String

/-- What the resources and the watchdog share. -/
structure OperatorConfig where
  /-- Sizes of the blocks cut from each cluster network. -/
  subnets : Net.CarvingSizes := {}
  /-- Number of watchdog workers. -/
  watchdogWorkers : Nat := 4
  /-- Pause before the first repeated poll of a guard job. -/
  watchdogInitial : Duration := .ofSecs 5
  /-- The longest pause between polls. -/
  watchdogLongest : Duration := .ofSecs 60
  /-- When to look again at a cluster whose pass was canceled. -/
  notReadyRequeue : Duration := .ofSecs 30
  /-- When to look again at a cluster whose pass completed. -/
  readyRequeue : Duration := .ofSecs 300
  /-- When to look again at a cluster whose pass failed. -/
  errorRequeue : Duration := .ofSecs 60
  /-- Attempts at a status write that keeps conflicting. -/
  statusConflictRetries : Nat := 5
  /-- The container of the rendered boot objects. -/
  storageContainer : String := "ignition"
  deriving DecidableEq, Repr

instance : Inhabited OperatorConfig := ⟨{}⟩

namespace Setting

def masterSubnetSize : String := "LATTICE_AZURE_MASTER_SUBNET_PREFIX"

def workerSubnetSize : String := "LATTICE_AZURE_WORKER_SUBNET_PREFIX"

def watchdogWorkers : String := "LATTICE_AZURE_WATCHDOG_WORKERS"

def watchdogRequeueMs : String := "LATTICE_AZURE_WATCHDOG_REQUEUE_MS"

def watchdogRequeueMaxMs : String := "LATTICE_AZURE_WATCHDOG_REQUEUE_MAX_MS"

def notReadyRequeueSecs : String := "LATTICE_AZURE_NOT_READY_REQUEUE_SECS"

def readyRequeueSecs : String := "LATTICE_AZURE_READY_REQUEUE_SECS"

def statusConflictRetries : String := "LATTICE_AZURE_STATUS_CONFLICT_RETRIES"

def storageContainer : String := "LATTICE_AZURE_STORAGE_CONTAINER"

/-- The number under `key`, or `default` if the setting is absent. -/
def number (settings : Settings) (key : String) (bits default : Nat) : Except Failure Nat :=
  match settings key with
  | none => .ok default
  | some raw =>
    match Text.readNumeral (Text.wordLimit bits) (Text.trim raw.toList) with
    | .ok n => .ok n
    | .error fault =>
      .error (.invalid s!"invalid value {Text.quote raw} for {key}: {fault.message}")

end Setting

namespace OperatorConfig

/-- Refuses values that the operator could not work with. -/
def validate (c : OperatorConfig) : Except Failure Unit := do
  c.subnets.validate
  if c.watchdogWorkers = 0 then throw (.invalid s!"{Setting.watchdogWorkers} must be at least 1")
  if c.watchdogLongest.nanoseconds < c.watchdogInitial.nanoseconds then
    throw (.invalid
      s!"{Setting.watchdogRequeueMaxMs} must not be smaller than {Setting.watchdogRequeueMs}")
  if c.statusConflictRetries = 0 then
    throw (.invalid s!"{Setting.statusConflictRetries} must be at least 1")
  if c.storageContainer = "" then throw (.invalid s!"{Setting.storageContainer} must not be empty")

/-- The configuration of the settings as they stand, not validated. -/
def read (settings : Settings) : Except Failure OperatorConfig := do
  let master ← Setting.number settings Setting.masterSubnetSize 8 24
  let worker ← Setting.number settings Setting.workerSubnetSize 8 24
  let workers ← Setting.number settings Setting.watchdogWorkers 64 4
  let initial ← Setting.number settings Setting.watchdogRequeueMs 64 5000
  let longest ← Setting.number settings Setting.watchdogRequeueMaxMs 64 60000
  let notReady ← Setting.number settings Setting.notReadyRequeueSecs 64 30
  let ready ← Setting.number settings Setting.readyRequeueSecs 64 300
  let retries ← Setting.number settings Setting.statusConflictRetries 32 5
  return {
    subnets := { master, worker }
    watchdogWorkers := workers
    watchdogInitial := .ofMillis initial
    watchdogLongest := .ofMillis longest
    notReadyRequeue := .ofSecs notReady
    readyRequeue := .ofSecs ready
    statusConflictRetries := retries
    storageContainer := (settings Setting.storageContainer).getD "ignition" }

/-- The configuration of the settings. -/
def load (settings : Settings) : Except Failure OperatorConfig := do
  let c ← read settings
  c.validate
  return c

/-- Pauses between the polls of a guard job. -/
def watchdogBackoff (c : OperatorConfig) : Backoff where
  maxAttempts := 0
  initial := c.watchdogInitial
  longest := c.watchdogLongest
  multiplier := 2.0

/-- How status writes that conflict are repeated. -/
def statusRetry (c : OperatorConfig) : Backoff where
  maxAttempts := c.statusConflictRetries
  initial := .ofMillis 50
  longest := .ofSecs 2
  multiplier := 2.0

end OperatorConfig

end ClusterOperator
