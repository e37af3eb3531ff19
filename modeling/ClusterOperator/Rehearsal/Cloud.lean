import ClusterOperator.BootObjects
import ClusterOperator.Watchdog.Guard

/-!
# The cloud of a rehearsal

A rehearsal runs the operator against surroundings that behave as it was told
beforehand.  Here is its cloud: one deployment, one container of objects, a renderer
and scale sets, each of which can be made to fail.  Object storage answers from the
same objects whatever the account and the container; a renderer joins what it is
given with bars.
-/

namespace ClusterOperator.Rehearsal

/-- What looking the deployment up gives. -/
inductive DeploymentScene where
  | absent
  | failing (fault : CloudFault)
  | present (state : DeploymentState)

/-- The answers of the instance listings of one scale set, in order; the last one is
given again and again. -/
abbrev Listings : Type := List (Except CloudFault (List ScaleSetInstance))

/-- How the cloud behaves. -/
structure CloudScene where
  deployment : DeploymentScene := .absent
  submitFault : Option CloudFault := none
  /-- The state that a deployment has after it was submitted, if it is to change. -/
  submitState : Option String := none
  container : Except CloudFault Bool := .ok true
  listFault : Option CloudFault := none
  /-- The keys that a listing gives; those of the objects if nothing is set. -/
  listing : Option (List String) := none
  /-- The bodies of the objects by key. -/
  objects : List (String × String) := []
  readFaults : List (String × CloudFault) := []
  writeFaults : List (String × CloudFault) := []
  /-- Failures of the renderer by role. -/
  renderFailures : List (String × Failure) := []
  /-- Listings of instances by resource group and name. -/
  scaleSets : List (String × Listings) := []
  /-- How often the instances of each scale set were listed. -/
  listed : List (String × Nat) := []

/-- A call that was made. -/
inductive Call where
  | lookUp (resourceGroup name : String)
  | submit (resourceGroup name : String) (body : DeploymentRequest)
  | containerExists (account container : String)
  | listObjects (account container : String)
  | readObject (account container key : String)
  | writeObject (account container key body : String)
  | render (role : NodeRole)

namespace CloudScene

variable (c : CloudScene)

/-- Looks a deployment up. -/
def lookUp (name : String) : Except CloudFault DeploymentState :=
  match c.deployment with
  | .absent => .error (.notFound "DeploymentNotFound" s!"{name} not found")
  | .failing fault => .error fault
  | .present state => .ok state

/-- Submits a deployment. -/
def submit : Except CloudFault Unit × CloudScene :=
  match c.submitFault, c.submitState with
  | some fault, _ => (.error fault, c)
  | none, none => (.ok (), c)
  | none, some state =>
    (.ok (), { c with deployment := .present ⟨.ofText state, .null⟩ })

/-- The keys of objects in the order of their characters. -/
def sortedKeys : List String := (c.objects.map (·.1)).mergeSort fun a b => decide (a ≤ b)

/-- Lists the keys of the objects. -/
def listObjects : Except CloudFault (List String) :=
  match c.listFault with
  | some fault => .error fault
  | none => .ok (c.listing.getD c.sortedKeys)

/-- Reads an object. -/
def readObject (key : String) : Except CloudFault String :=
  match Json.findMember key c.readFaults, Json.findMember key c.objects with
  | some fault, _ => .error fault
  | none, some body => .ok body
  | none, none => .error (.notFound "BlobNotFound" key)

/-- Writes an object. -/
def writeObject (key body : String) : Except CloudFault Unit × CloudScene :=
  match Json.findMember key c.writeFaults with
  | some fault => (.error fault, c)
  | none => (.ok (), { c with objects := Json.setMember key body c.objects })

/-- Renders a boot configuration. -/
def render (input : BootInput) : Except Failure String :=
  match Json.findMember input.role.toText c.renderFailures with
  | some failure => .error failure
  | none =>
    .ok ("|".intercalate
      [input.role.toText, input.cluster, input.release, input.subnet, input.apiServerBackendPool,
        input.etcdBackendPool])

/-- Lists the instances of a scale set.  One that is not known has none. -/
def listInstances (id : String) : Except CloudFault (List ScaleSetInstance) × CloudScene :=
  let count := (Json.findMember id c.listed).getD 0
  let answers := (Json.findMember id c.scaleSets).getD []
  let answer := (answers[count]?).getD ((answers.getLast?).getD (.ok []))
  (answer, { c with listed := Json.setMember id (count + 1) c.listed })

/-- Sets new listings, which are given from the start. -/
def setScaleSets (scaleSets : List (String × Listings)) : CloudScene :=
  { c with scaleSets, listed := [] }

end CloudScene

end ClusterOperator.Rehearsal
