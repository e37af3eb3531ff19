import ClusterOperator.Pass.ResourceSet
import ClusterOperator.Proofs.Transcript

/-!
# What the resources of a pass ask

Every request has a topic, and a resource keeps to its own: boot objects ask the storage and
the renderer, guards ask the watchdog.  So whatever is said about a deployment or a status in
a pass is said by the resource that looks after the deployment.
-/

namespace ClusterOperator

/-- What a request is about. -/
inductive Topic where
  | deployment
  | bootObjects
  | guards
  | status
  | clock
  deriving DecidableEq, Repr

/-- The topic of a request. -/
def Gateway.Request.topic : Gateway.Request → Topic
  | .lookUp _ _ => .deployment
  | .submit _ _ _ => .deployment
  | .template _ => .deployment
  | .containerExists _ _ => .bootObjects
  | .listObjects _ _ => .bootObjects
  | .readObject _ _ _ => .bootObjects
  | .writeObject _ _ _ _ => .bootObjects
  | .render _ => .bootObjects
  | .guard _ _ _ => .guards
  | .loadStatus _ => .status
  | .storeStatus _ _ _ => .status
  | .draw => .clock
  | .pause _ => .clock

/-- The requests of a topic. -/
def Topic.Covers (t : Topic) (q : Gateway.Request) : Prop := q.topic = t

namespace RecordResource

variable {I : Interface} {R α : Type} {sort : I.Request → Prop}
  {r : RecordResource I R} {cluster : Cluster}

theorem asks_unlessCanceled {value : α} {next : Step I α} (h : next.Asks sort) :
    (unlessCanceled value next).Asks sort := by
  refine .bind .isCanceled fun canceled => ?_
  cases canceled with
  | true => exact .pure value
  | false => exact h

theorem asks_applyTo {apply : List R → Step I Unit} {records : List R}
    (h : ∀ records, (apply records).Asks sort) : (applyTo apply records).Asks sort := by
  unfold applyTo
  split
  · exact .pure ()
  · exact h records

/-- A convergence asks what its calls ask. -/
theorem asks_reconcile [Keyed R] [DecidableEq R] (hcurrent : (r.current cluster).Asks sort)
    (hdesired : (r.desired cluster).Asks sort)
    (hcreate : ∀ records, (r.create cluster records).Asks sort)
    (hoverwrite : ∀ records, (r.overwrite cluster records).Asks sort)
    (hdelete : ∀ records, (r.delete cluster records).Asks sort) :
    (r.reconcile cluster).Asks sort := by
  refine asks_unlessCanceled (.bind hcurrent fun current => ?_)
  refine asks_unlessCanceled (.bind hdesired fun desired => ?_)
  refine asks_unlessCanceled (.bind (asks_applyTo hcreate) fun _ => ?_)
  refine asks_unlessCanceled (.bind (asks_applyTo hoverwrite) fun _ => ?_)
  refine asks_unlessCanceled ?_
  cases r.policy with
  | apply => exact .bind (asks_applyTo hdelete) fun _ => .pure _
  | cascade => exact .pure _

end RecordResource

/-! ## Boot objects -/

namespace BootObjects

variable {cluster : Cluster} {ctx : PassContext} {s : StorageContainer}

theorem asks_notReadyOrFail {e : CloudFault} {operation : String} :
    (notReadyOrFail e operation).Asks Topic.bootObjects.Covers := by
  unfold notReadyOrFail
  split
  · exact .cancel _
  · exact .fail _

theorem asks_readyStorage : readyStorage.Asks Topic.bootObjects.Covers := by
  refine .bind (.require _ _) fun _ => .bind .context fun ctx => ?_
  split
  · exact .pure none
  · refine .bind (.lift (.call rfl)) fun reply => ?_
    split
    · exact .pure _
    · exact .bind (.cancel _) fun _ => .pure none
    · exact .bind asks_notReadyOrFail fun _ => .pure none

theorem asks_readObjects {found : List BootObject} {keys : List String} :
    (readObjects s found keys).Asks Topic.bootObjects.Covers := by
  induction keys generalizing found with
  | nil => exact .pure found
  | cons key keys ih =>
    refine .bind (.lift (.call rfl)) fun reply => ?_
    split
    · exact ih
    · split
      · exact ih
      · exact .bind asks_notReadyOrFail fun _ => .pure []

theorem asks_current : current.Asks Topic.bootObjects.Covers := by
  refine .bind asks_readyStorage fun storage => ?_
  split
  · exact .pure []
  · refine .bind (.lift (.call rfl)) fun reply => ?_
    split
    · exact asks_readObjects
    · exact .bind asks_notReadyOrFail fun _ => .pure []

theorem asks_renderObjects {roles : List NodeRole} :
    (renderObjects cluster ctx s roles).Asks Topic.bootObjects.Covers := by
  induction roles with
  | nil => exact .pure []
  | cons role roles ih =>
    exact .bind (.tryLift (.call rfl)) fun _ => .bind ih fun _ => .pure _

theorem asks_desired : (desired cluster).Asks Topic.bootObjects.Covers := by
  refine .bind (.require _ _) fun _ => .bind .context fun ctx => ?_
  split
  · exact .pure []
  · exact asks_renderObjects

theorem asks_writeObjects {records : List BootObject} :
    (writeObjects records).Asks Topic.bootObjects.Covers := by
  induction records with
  | nil => exact .pure ()
  | cons r rest ih =>
    refine .bind (.lift (.call rfl)) fun reply => ?_
    split
    · exact ih
    · exact asks_notReadyOrFail

theorem asks_write {records : List BootObject} : (write records).Asks Topic.bootObjects.Covers :=
  .bind (.require _ _) fun _ => asks_writeObjects

end BootObjects

/-! ## The resources of a pass -/

namespace ClusterResource

variable {cluster : Cluster} {watchdog : Nat}

theorem asks_discard {I : Interface} {α : Type} {sort : I.Request → Prop} {m : Step I α}
    (h : m.Asks sort) : (discard m).Asks sort :=
  .bind h fun _ => .pure ()

/-- Boot objects ask the storage and the renderer. -/
theorem asks_bootObjects : (bootObjects.ensureCreated cluster).Asks Topic.bootObjects.Covers :=
  asks_discard <| RecordResource.asks_reconcile BootObjects.asks_current BootObjects.asks_desired
    (fun _ => BootObjects.asks_write) (fun _ => BootObjects.asks_write) fun _ => .fail _

theorem asks_guardAll {resourceGroup : String} {scaleSets : List String} :
    (guardAll watchdog resourceGroup scaleSets).Asks Topic.guards.Covers := by
  induction scaleSets with
  | nil => exact .done ()
  | cons scaleSet rest ih => exact .bind (.call rfl) fun _ => ih

/-- Guards ask the watchdog. -/
theorem asks_instanceGuard :
    ((instanceGuard watchdog).ensureCreated cluster).Asks Topic.guards.Covers :=
  .lift asks_guardAll

end ClusterResource

end ClusterOperator
