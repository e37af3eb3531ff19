import ClusterOperator.Cluster.Spec
import ClusterOperator.Pass.Step
import ClusterOperator.Records.Diff

/-!
# Converging keyed records

A resource that is a list of keyed records says what exists and what should exist,
and how records are created, overwritten and removed.  A pass reads both lists, takes
their difference and applies it in that order, each of the three only if it has
something to do.  Whether the pass was canceled is looked at before the first call
and after every one; from then on nothing is called.

Under the policy `cascade` nothing is ever removed: the records go away with what
holds them.
-/

namespace ClusterOperator

/-- How records that are no longer wanted are removed. -/
inductive DeletePolicy where
  /-- They are deleted one by one. -/
  | apply
  /-- They go away with their parent. -/
  | cascade
  deriving DecidableEq, Repr, Inhabited

/-- A kind of cloud object that is managed as a list of keyed records. -/
structure RecordResource (I : Interface) (R : Type) where
  name : String
  policy : DeletePolicy := .apply
  /-- The records that exist. -/
  current : Cluster → Step I (List R)
  /-- The records that should exist. -/
  desired : Cluster → Step I (List R)
  create : Cluster → List R → Step I Unit
  overwrite : Cluster → List R → Step I Unit
  delete : Cluster → List R → Step I Unit := fun _ _ =>
    Step.fail (.internal name "resource does not delete records individually")

namespace RecordResource

variable {I : Interface} {R : Type} [Keyed R]

/-- Goes on with `next` unless the pass is canceled, which leaves `value`. -/
def unlessCanceled {α : Type} (value : α) (next : Step I α) : Step I α :=
  Step.isCanceled.bind fun canceled => if canceled then pure value else next

/-- Calls an apply method if its list has records. -/
def applyTo (apply : List R → Step I Unit) (records : List R) : Step I Unit :=
  if records.isEmpty then pure () else apply records

/-- Applies a difference. -/
def applyChanges (r : RecordResource I R) (cluster : Cluster) (changes : ChangeSet R) :
    Step I (ChangeSet R) :=
  (applyTo (r.create cluster) changes.toCreate).bind fun _ =>
  unlessCanceled changes <|
  (applyTo (r.overwrite cluster) changes.toUpdate).bind fun _ =>
  unlessCanceled changes <|
  match r.policy with
  | .apply => (applyTo (r.delete cluster) changes.toDelete).bind fun _ => pure changes
  | .cascade => pure changes

/-- Converges a resource towards its desired records; the value is the difference that
was found. -/
def reconcile [DecidableEq R] (r : RecordResource I R) (cluster : Cluster) :
    Step I (ChangeSet R) :=
  unlessCanceled {} <|
  (r.current cluster).bind fun current =>
  unlessCanceled {} <|
  (r.desired cluster).bind fun desired =>
  unlessCanceled {} <|
  r.applyChanges cluster (Records.diff current desired)

/-- Removes every record of a resource, unless they go away with their parent. -/
def reconcileDeletion (r : RecordResource I R) (cluster : Cluster) : Step I Unit :=
  match r.policy with
  | .cascade => pure ()
  | .apply =>
    (r.current cluster).bind fun current =>
    unlessCanceled () <|
    applyTo (r.delete cluster) current

end RecordResource

end ClusterOperator
