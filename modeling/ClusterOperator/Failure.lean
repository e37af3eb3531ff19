import ClusterOperator.Text.Quoted

/-!
# Failures

Everything a pass can fail with, each with the fields that say which cluster, cloud
operation or resource it was about.  Something that is merely not ready yet is no
failure: it cancels the pass.

A failure is retryable if doing the same again may succeed.  Answers of the cloud and
of the cluster API in the range 400 to 499 are final, the cloud's request to slow down
(429) excepted; what has no code may be tried again.
-/

namespace ClusterOperator

/-- An error answer of the cluster API. -/
structure ApiStatus where
  status : String
  message : String
  reason : String
  code : Nat
  deriving DecidableEq, Repr

/-- What went wrong while talking to the cluster API: it answered with an error, or
there was no readable answer. -/
inductive ApiFault where
  | answered (status : ApiStatus)
  | unanswered (description : String)
  deriving DecidableEq, Repr

/-- Why a pass failed. -/
inductive Failure where
  | kubernetes (fault : ApiFault)
  | validation (cluster message : String) (field : Option String)
  | cloud (operation message : String) (statusCode : Option Nat)
  | serialization (message : String) (kind : Option String)
  | invalidContext (resource : String) (missing : List String)
  | subnetSpaceExhausted (parent : String) (maskLength : Nat)
  | statusConflict (name : String) (attempts : Nat)
  | internal (context message : String)
  deriving DecidableEq, Repr

/-- What stands for a cluster or a context that is not known. -/
def unknownContext : String := "unknown"

/-- The written form of an error answer, with its fields by name. -/
def ApiStatus.describe (s : ApiStatus) : String :=
  "ErrorResponse \x7b status: " ++ Text.quote s.status ++ ", message: " ++ Text.quote s.message ++
    ", reason: " ++ Text.quote s.reason ++ ", code: " ++ toString s.code ++ " \x7d"

def ApiFault.message : ApiFault → String
  | .answered s => s!"ApiError: {s.message}: {s.reason} ({s.describe})"
  | .unanswered description => description

namespace Failure

/-- A validation failure that names neither cluster nor field. -/
def invalid (message : String) : Failure := .validation unknownContext message none

/-- A validation failure of one field of a cluster. -/
def invalidField (cluster field message : String) : Failure :=
  .validation cluster message (some field)

/-- The wording of a failure. -/
def message : Failure → String
  | .kubernetes fault => s!"kubernetes error: {fault.message}"
  | .validation cluster text _ => s!"validation error for {cluster}: {text}"
  | .cloud operation text _ => s!"cloud error during {operation}: {text}"
  | .serialization text _ => s!"serialization error: {text}"
  | .invalidContext resource missing =>
    s!"invalid reconciliation context for {resource}: missing " ++ ", ".intercalate missing
  | .subnetSpaceExhausted parent maskLength =>
    s!"subnet space exhausted: no free /{maskLength} block left in {parent}"
  | .statusConflict name attempts => s!"status update for {name} conflicted {attempts} times"
  | .internal context text => s!"internal error [{context}]: {text}"

/-- Whether a status code says that the request itself is at fault. -/
def isRequestFault (code : Nat) : Bool := decide (400 ≤ code) && decide (code < 500)

/-- Whether doing the same again may succeed. -/
def isRetryable : Failure → Bool
  | .kubernetes (.answered s) => !isRequestFault s.code
  | .kubernetes (.unanswered _) => true
  | .cloud _ _ (some code) => !isRequestFault code || code == 429
  | .cloud _ _ none => true
  | .validation _ _ _ => false
  | .serialization _ _ => false
  | .invalidContext _ _ => false
  | .subnetSpaceExhausted _ _ => false
  | .statusConflict _ _ => true
  | .internal _ _ => true

/-- The cluster a failure names. -/
def cluster? : Failure → Option String
  | .validation cluster _ _ => some cluster
  | .statusConflict name _ => some name
  | _ => none

end Failure

end ClusterOperator
