import ClusterOperator.Cluster.Spec
import ClusterOperator.Cluster.Status

/-!
# Cluster objects as they are stored

The cluster API stores a cluster as one object: metadata, the specification and, once
it has been reconciled, the status.  Every part of the metadata that is known has to be
of its kind, as often as it is written; the last time counts, and only the version of
the object matters here.  A status is written as a merge patch, in which
what is to be cleared is given as null, since a patch leaves alone what it does not
name; a patch that names the version of the object applies to that version only.
-/

namespace ClusterOperator

/-- A stored cluster, as far as its status is concerned. -/
structure ClusterObject where
  spec : ClusterSpec
  status : Option Status := none
  version : Option String := none
  deriving Repr

namespace ClusterObject

/-- Whether a value is an object whose known parts are null or of their kinds. -/
def hasParts (parts : List (String × (Json.Tree → Bool))) (v : Json.Tree) : Bool :=
  match v.members? with
  | some ms => ms.all fun m =>
    match m.1 with
    | some name =>
      match Json.findMember name parts with
      | some test => m.2.isNull || test m.2
      | none => true
    | none => false
  | none => false

/-- Whether a value is a list of values of one kind. -/
def isListOf (test : Json.Tree → Bool) (v : Json.Tree) : Bool :=
  match v.items? with
  | some xs => xs.all test
  | none => false

/-- Whether a value is a text. -/
def isText (v : Json.Tree) : Bool := v.text?.isSome

/-- Whether a value is true or false. -/
def isFlag (v : Json.Tree) : Bool := v.bool?.isSome

/-- Whether a value is a text that gives a time. -/
def isTime (v : Json.Tree) : Bool := (instantOfTree? v).isSome

/-- Whether a value is an integer of sixty-four bits, one of them for the sign. -/
def isWord (v : Json.Tree) : Bool :=
  match v.integer? with
  | some n => decide (-Int.pow 2 63 ≤ n) && decide (n < Int.pow 2 63)
  | none => false

/-- Whether a value is an object of texts. -/
def isTextMap (v : Json.Tree) : Bool :=
  match v.members? with
  | some ms => ms.all fun m => m.1.isSome && isText m.2
  | none => false

/-- The parts of a note on who manages which fields. -/
def managerParts : List (String × (Json.Tree → Bool)) :=
  [("apiVersion", isText), ("fieldsType", isText), ("fieldsV1", fun v => v.document?.isSome),
    ("manager", isText), ("operation", isText), ("subresource", isText), ("time", isTime)]

/-- The parts of a reference to an owner. -/
def ownerParts : List (String × (Json.Tree → Bool)) :=
  [("apiVersion", isText), ("blockOwnerDeletion", isFlag), ("controller", isFlag),
    ("kind", isText), ("name", isText), ("uid", isText)]

/-- The parts of the metadata of an object. -/
def metadataParts : List (String × (Json.Tree → Bool)) :=
  [("annotations", isTextMap), ("creationTimestamp", isTime),
    ("deletionGracePeriodSeconds", isWord), ("deletionTimestamp", isTime),
    ("finalizers", isListOf isText), ("generateName", isText), ("generation", isWord),
    ("labels", isTextMap), ("managedFields", isListOf (hasParts managerParts)),
    ("name", isText), ("namespace", isText), ("ownerReferences", isListOf (hasParts ownerParts)),
    ("resourceVersion", isText), ("selfLink", isText), ("uid", isText)]

/-- The text that the last part of a name gives. -/
def lastText? (name : String) (members : List (Option String × Json.Tree)) : Option String :=
  (members.reverse.find? fun m => m.1 = some name).bind fun m => m.2.text?

/-- The version in the metadata of an object, where it has one; none if the metadata is
not well-formed. -/
def versionOfTree? (v : Json.Tree) : Option (Option String) :=
  if hasParts metadataParts v then some (v.members?.bind (lastText? "resourceVersion")) else none

/-- The object that a value gives. -/
def ofTree? (v : Json.Tree) : Option ClusterObject := do
  let fs ← v.fields? ["metadata", "spec", "status"]
  let version ← fs.require "metadata" versionOfTree?
  let spec ← fs.require "spec" ClusterSpec.ofTree?
  let status ← fs.nullable "status" Status.ofTree?
  return { spec, status, version }

end ClusterObject

/-- The patch that replaces the whole status of an object. -/
def statusPatch (status : Status) (version : Option String) : Json :=
  let members := (status.toJson.members?).getD []
  let message := if status.message.isNone then [("message", Json.null)] else []
  let resources := if status.resources.isEmpty then [("resources", Json.null)] else []
  let metadata :=
    match version with
    | none => []
    | some v => [("metadata", Json.object [("resourceVersion", .text v)])]
  .object (("status", .object (members ++ message ++ resources)) :: metadata)

end ClusterOperator
