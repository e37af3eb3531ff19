import ClusterOperator.Records.Reconcile

/-!
# A record resource of a rehearsal

The records are pairs of texts that are kept in a list.  Every method first cancels
the pass if it was told to, then fails if it was told to, and only then does what it
is for.
-/

namespace ClusterOperator.Rehearsal

/-- A record that is nothing but a key and a value. -/
structure PlainRecord where
  key : String
  value : String
  deriving DecidableEq, Repr

instance : Keyed PlainRecord := ⟨PlainRecord.key⟩

/-- The methods of a record resource. -/
inductive Method where
  | current
  | desired
  | create
  | overwrite
  | delete
  deriving DecidableEq, Repr

/-- What a method answers. -/
structure MethodAnswer where
  cancelReason : Option String := none
  result : Except Failure (List PlainRecord)

/-- Each method is a request with its records. -/
@[reducible]
def recordInterface : Interface where
  Request := Method × List PlainRecord
  Reply _ := MethodAnswer

/-- Calls a method. -/
def callMethod (method : Method) (records : List PlainRecord) :
    Step recordInterface (List PlainRecord) := do
  let answer ← Step.lift (@Program.call recordInterface (method, records))
  match answer.cancelReason with
  | some reason => Step.cancel reason
  | none => pure ()
  Step.ofExcept answer.result

/-- Calls a method whose result nobody needs. -/
def callApply (method : Method) (_ : Cluster) (records : List PlainRecord) :
    Step recordInterface Unit := do
  let _ ← callMethod method records

/-- A resource whose methods are all requests. -/
def scriptedResource (name : String) (policy : DeletePolicy) :
    RecordResource recordInterface PlainRecord where
  name := name
  policy := policy
  current _ := callMethod .current []
  desired _ := callMethod .desired []
  create := callApply .create
  overwrite := callApply .overwrite
  delete := callApply .delete

/-- A resource that leaves the policy and the deletion as they are by default. -/
def defaultResource (name : String) : RecordResource recordInterface PlainRecord where
  name := name
  current _ := callMethod .current []
  desired _ := callMethod .desired []
  create := callApply .create
  overwrite := callApply .overwrite

/-- The records, what is going to happen, and what was called. -/
structure RecordScene where
  records : List PlainRecord := []
  desired : List PlainRecord := []
  cancelAt : Method → Option String := fun _ => none
  failAt : Method → Option Failure := fun _ => none
  calls : List (Method × List PlainRecord) := []

namespace RecordScene

/-- Replaces the first record with the key of the given one. -/
def overwriteFirst (r : PlainRecord) : List PlainRecord → List PlainRecord
  | [] => []
  | old :: rest => if old.key = r.key then r :: rest else old :: overwriteFirst r rest

/-- The records after a method has done what it is for. -/
def apply (records given : List PlainRecord) : Method → List PlainRecord
  | .current => records
  | .desired => records
  | .create => records ++ given
  | .overwrite => given.foldl (fun rs r => overwriteFirst r rs) records
  | .delete => records.filter fun r => !given.any fun g => decide (g.key = r.key)

/-- Answers a method call. -/
def serve (q : Method × List PlainRecord) (s : RecordScene) : MethodAnswer × RecordScene :=
  let s := { s with calls := s.calls ++ [q] }
  let cancelReason := s.cancelAt q.1
  match s.failAt q.1 with
  | some failure => ({ cancelReason, result := .error failure }, s)
  | none =>
    let s := { s with records := apply s.records q.2 q.1 }
    ({ cancelReason, result := .ok (if q.1 = .desired then s.desired else s.records) }, s)

/-- Runs a step of a pass. -/
def perform {α : Type} (s : RecordScene) (ctx : PassContext) (m : Step recordInterface α) :
    Except Failure α × PassContext × RecordScene :=
  let ((answer, ctx), s) := (m ctx).run serve s
  (answer, ctx, s)

end RecordScene

end ClusterOperator.Rehearsal
