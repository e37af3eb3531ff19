import ClusterOperator.Binary64.Numeral
import ClusterOperator.Rehearsal.Jobs
import ClusterOperator.Rehearsal.World

/-!
# Scripts of a rehearsal

What the surroundings of a rehearsal are going to do can be written down in documents:
failures, cloud errors, listings of instances, settings of the cloud, and what happens
to readings and writings of the status.  A part that is missing, null or not of its
kind stands for nothing, an empty text or an empty list; settings that a document does
not name stay as they are.
-/

namespace ClusterOperator.Rehearsal.Script

/-- The member of a document under a name; null if there is none. -/
def get (v : Json) (name : String) : Json := (v.member? name).getD .null

/-- The member of a document under a name, unless it is null. -/
def part? (v : Json) (name : String) : Option Json :=
  match get v name with
  | .null => none
  | part => some part

def text? (v : Json) (name : String) : Option String := (get v name).text?

def text (v : Json) (name : String) : String := (text? v name).getD ""

/-- A number that is not negative. -/
def nat? (v : Json) (name : String) : Option Nat :=
  (get v name).integer?.bind fun n => if 0 ≤ n then some n.toNat else none

def nat (v : Json) (name : String) (default : Nat) : Nat := (nat? v name).getD default

def flag (v : Json) (name : String) (default : Bool) : Bool := ((get v name).bool?).getD default

def items (v : Json) (name : String) : List Json := ((get v name).items?).getD []

def members (v : Json) (name : String) : List (String × Json) := ((get v name).members?).getD []

/-- The members of a part that are not null, each as what `read` makes of it. -/
def byKey {α : Type} (v : Json) (name : String) (read : Json → α) : List (String × α) :=
  (members v name).filterMap fun m =>
    match m.2 with
    | .null => none
    | part => some (m.1, read part)

def texts (v : Json) (name : String) : List String := (items v name).filterMap Json.text?

/-- A text, or an empty one. -/
def plain (v : Json) : String := v.text?.getD ""

/-- A list of pairs of texts. -/
def pairs (v : Json) (name : String) : List (String × String) :=
  (items v name).map fun p =>
    match p with
    | .array [a, b] => (plain a, plain b)
    | _ => ("", "")

/-- A duration by its parts. -/
def duration? (v : Json) (name : String) : Option Duration :=
  match get v name with
  | .object ms => some (.ofParts (nat (.object ms) "secs" 0) (nat (.object ms) "nanos" 0))
  | _ => none

/-- The double of a number, or of a text that holds the numeral of one. -/
def double? : Json → Option Binary64
  | .number (.double x) => some x
  | .number (.integer n) => Binary64.ofRatio? (decide (n < 0)) n.natAbs 1
  | .text s => Binary64.ofText? s
  | _ => none

/-- A backoff; parts that are missing are those of the default one. -/
def backoff (v : Json) : Backoff :=
  let base : Backoff := {}
  { maxAttempts := nat v "max_attempts" base.maxAttempts
    initial := (duration? v "initial").getD base.initial
    longest := (duration? v "max").getD base.longest
    multiplier := ((double? (get v "multiplier")).map Binary64.toFloat).getD base.multiplier }

/-- A failure by its kind and its parts. -/
def failure (v : Json) : Failure :=
  match text v "kind" with
  | "validation" =>
    match text? v "cluster", text? v "field" with
    | none, none => .invalid (text v "message")
    | cluster, field => .invalidField (cluster.getD "") (field.getD "") (text v "message")
  | "cloud" => .cloud (text v "operation") (text v "message") (nat? v "status_code")
  | "serialization" => .serialization (text v "message") (text? v "document")
  | "invalid_context" => .invalidContext (text v "resource") (texts v "missing")
  | "exhausted" => .subnetSpaceExhausted (text v "parent") (nat v "prefix_len" 0)
  | "conflict" => .statusConflict (text v "name") (nat v "attempts" 0)
  | "kube_api" =>
    .kubernetes (.answered
      { status := text v "status"
        message := text v "message"
        reason := text v "reason"
        code := nat v "status_code" 0 })
  | "kube_other" => .kubernetes (.unanswered "Error finding newline character")
  | _ => .internal ((text? v "context").getD unknownContext) (text v "message")

/-- A cloud error by its parts, or by the way in which it arises. -/
def cloudFault (v : Json) : CloudFault :=
  match text v "via" with
  | "new" => .ofMessage (text v "message")
  | "with_status" => .withStatus (nat v "status_code" 0) (text v "code") (text v "message")
  | "not_found" => .notFound (text v "code") (text v "message")
  | _ =>
    { statusCode := nat? v "status_code", code := text? v "code", message := text v "message" }

/-- A cloud error, unless the document is null. -/
def optionalFault : Json → Option CloudFault
  | .null => none
  | v => some (cloudFault v)

/-- The answer to a listing of instances. -/
def listing : Json → Except CloudFault (List ScaleSetInstance)
  | .array xs =>
    .ok (xs.map fun x =>
      match x with
      | .array [a, b] => ⟨plain a, .ofText (plain b)⟩
      | _ => ⟨"", .ofText ""⟩)
  | v => .error (cloudFault (get v "error"))

/-- Listings of instances by scale set. -/
def scaleSets (v : Json) (name : String) : List (String × Listings) :=
  (members v name).map fun m => (m.1, (m.2.items?.getD []).map listing)

/-- What looking the deployment up gives. -/
def deploymentScene : Json → DeploymentScene
  | .null => .absent
  | v =>
    match part? v "error" with
    | some e => .failing (cloudFault e)
    | none => .present ⟨.ofText (text v "state"), get v "outputs"⟩

/-- What asking for the container gives. -/
def containerScene : Json → Except CloudFault Bool
  | .bool exists? => .ok exists?
  | .null => .ok true
  | v => .error (cloudFault v)

/-- Changes one setting of the cloud. -/
def amendSetting (c : CloudScene) (name : String) (v : Json) : CloudScene :=
  let whole := Json.object [(name, v)]
  match name with
  | "deployment" => { c with deployment := deploymentScene v }
  | "submit_error" => { c with submitFault := optionalFault v }
  | "submit_state" => { c with submitState := v.text? }
  | "container" => { c with container := containerScene v }
  | "list_error" => { c with listFault := optionalFault v }
  | "listing" => { c with listing := v.items?.map fun xs => xs.filterMap Json.text? }
  | "objects" => { c with objects := (members whole name).map fun m => (m.1, plain m.2) }
  | "read_errors" => { c with readFaults := byKey whole name cloudFault }
  | "put_errors" => { c with writeFaults := byKey whole name cloudFault }
  | "render_errors" => { c with renderFailures := byKey whole name failure }
  | "scale_sets" => c.setScaleSets (scaleSets whole name)
  | _ => c

/-- Changes the settings of the cloud that a document names. -/
def amendCloud (c : CloudScene) (v : Json) : CloudScene :=
  ((v.members?).getD []).foldl (fun c m => amendSetting c m.1 m.2) c

/-- A status; null stands for the first one. -/
def status? : Json → Option Status
  | .null => some {}
  | v => Status.ofJson? v

/-- What happens to a writing of the status. -/
def storeTurn : Json → StoreTurn
  | .null => .normal
  | v =>
    match part? v "error" with
    | some e => .failing (failure e)
    | none => .overtaken (Status.ofJson? (get v "replace"))

/-- What happens to a reading of the status. -/
def loadTurn : Json → Option Failure
  | .null => none
  | v => some (failure v)

/-- How the polls of a scripted job end. -/
def pollEnds (v : Json) (name : String) : List ScriptedEnd :=
  (texts v name).map fun s =>
    match s with
    | "done" => .finished
    | "error" => .failed
    | "panic" => .panicked
    | _ => .pending

/-- A cluster object; it is named after `generate_name` if it has no name. -/
def cluster? (v : Json) : Option Cluster :=
  (ClusterSpec.ofJson? (get v "spec")).map fun spec =>
    { name := (text? v "name").getD (text v "generate_name")
      deleting := flag v "deleting" false
      spec }

end ClusterOperator.Rehearsal.Script
