import ClusterOperator.Cluster.Kind
import ClusterOperator.Cluster.Object
import ClusterOperator.Cluster.Update
import ClusterOperator.Json.Reader

/-!
# The status in the cluster API

The status of a cluster can be read and patched through the cluster API.  A request
has a method, a target and possibly a body; the reply is a status code with a text, or
there is none.  Codes from 400 to 599 are errors, described by the text if it is the
document of an error; any other reply has to be a stored cluster.  A patch that is
refused because the version has moved on is a conflict.

A cluster without a name, or with one that no target can hold, is not asked for at
all.
-/

namespace ClusterOperator

/-- A request to the cluster API. -/
structure ApiRequest where
  method : String
  /-- Path and query. -/
  target : String
  contentType : Option String := none
  body : Option Json := none
  deriving Repr

/-- A reply of the cluster API. -/
structure ApiReply where
  code : Nat
  text : String
  deriving DecidableEq, Repr

namespace ClusterApi

/-- What can be asked for. -/
inductive Request where
  | send (request : ApiRequest)
  /-- The time. -/
  | clock
  /-- A random factor for the next pause. -/
  | draw
  | pause (d : Duration)

/-- The interface of the cluster API; a request that is not replied to has an error
text. -/
@[reducible]
def interface : Interface where
  Request := Request
  Reply
    | .send _ => Except String ApiReply
    | .clock => Instant
    | .draw => Jitter
    | .pause _ => Unit

/-- A single request. -/
def call (q : Request) : Program interface (interface.Reply q) := @Program.call interface q

/-- The phrase that goes with a status code. -/
def phraseOf : Nat → String
  | 400 => "Bad Request"
  | 401 => "Unauthorized"
  | 402 => "Payment Required"
  | 403 => "Forbidden"
  | 404 => "Not Found"
  | 405 => "Method Not Allowed"
  | 406 => "Not Acceptable"
  | 407 => "Proxy Authentication Required"
  | 408 => "Request Timeout"
  | 409 => "Conflict"
  | 410 => "Gone"
  | 411 => "Length Required"
  | 412 => "Precondition Failed"
  | 413 => "Payload Too Large"
  | 414 => "URI Too Long"
  | 415 => "Unsupported Media Type"
  | 416 => "Range Not Satisfiable"
  | 417 => "Expectation Failed"
  | 418 => "I'm a teapot"
  | 421 => "Misdirected Request"
  | 422 => "Unprocessable Entity"
  | 423 => "Locked"
  | 424 => "Failed Dependency"
  | 425 => "Too Early"
  | 426 => "Upgrade Required"
  | 428 => "Precondition Required"
  | 429 => "Too Many Requests"
  | 431 => "Request Header Fields Too Large"
  | 451 => "Unavailable For Legal Reasons"
  | 500 => "Internal Server Error"
  | 501 => "Not Implemented"
  | 502 => "Bad Gateway"
  | 503 => "Service Unavailable"
  | 504 => "Gateway Timeout"
  | 505 => "HTTP Version Not Supported"
  | 506 => "Variant Also Negotiates"
  | 507 => "Insufficient Storage"
  | 508 => "Loop Detected"
  | 510 => "Not Extended"
  | 511 => "Network Authentication Required"
  | _ => "<unknown status code>"

/-- A code of the range that errors have in documents. -/
def codeOfTree? (v : Json.Tree) : Option Nat :=
  v.integer?.bind fun n => if 0 ≤ n ∧ n < Int.pow 2 16 then some n.toNat else none

/-- The error that a value describes. -/
def statusOfTree? (v : Json.Tree) : Option ApiStatus := do
  let fs ← v.fields? ["status", "message", "reason", "code"]
  let status ← fs.require "status" Json.Tree.text?
  let message ← fs.orDefault "message" "" Json.Tree.text?
  let reason ← fs.orDefault "reason" "" Json.Tree.text?
  let code ← fs.require "code" codeOfTree?
  return { status, message, reason, code }

/-- The value that a text writes. -/
def tree? (text : String) : Option Json.Tree :=
  match Json.readTree text with
  | .ok v => some v
  | .error _ => none

/-- The error of an error reply. -/
def errorOf (reply : ApiReply) : ApiStatus :=
  match (tree? reply.text).bind statusOfTree? with
  | some status => status
  | none =>
    { status := s!"{reply.code} {phraseOf reply.code}"
      message := Text.quote reply.text
      reason := "Failed to parse error data"
      code := reply.code }

/-- Whether a code is one of an error. -/
def isErrorCode (code : Nat) : Bool := decide (400 ≤ code) && decide (code < 600)

/-- The stored cluster that a reply holds. -/
def objectOf : Except String ApiReply → Except ApiFault ClusterObject
  | .error text => .error (.unanswered text)
  | .ok reply =>
    if isErrorCode reply.code then .error (.answered (errorOf reply))
    else
      match (tree? reply.text).bind ClusterObject.ofTree? with
      | some object => .ok object
      | none => .error (.unanswered "unreadable reply")

/-- Whether a character may stand in the path of a target as it is. -/
def isPathChar (c : Char) : Bool :=
  let n := c.toNat
  n == 0x21 || n == 0x22 || (0x24 ≤ n && n ≤ 0x3B) || n == 0x3D || (0x40 ≤ n && n ≤ 0x5F) ||
    (0x61 ≤ n && n != 0x7F)

/-- Whether a character may stand in the query of a target as it is. -/
def isQueryChar (c : Char) : Bool :=
  let n := c.toNat
  n == 0x21 || (0x24 ≤ n && n ≤ 0x3B) || n == 0x3D || (0x3F ≤ n && n != 0x7F)

/-- How many bytes the text of a target may have. -/
def longestTarget : Nat := 65534

/-- The target of a text, without what follows a number sign; none if the text is too
long or has a character that no target holds. -/
def target? (text : String) : Option String :=
  let cs := text.toList.takeWhile fun c => c != '#'
  let path := cs.takeWhile fun c => c != '?'
  let query := (cs.drop path.length).drop 1
  if decide (text.utf8ByteSize ≤ longestTarget) && path.all isPathChar && query.all isQueryChar
  then some (String.ofList cs)
  else none

/-- The path of the status of a cluster. -/
def statusPath (ns name : String) : String :=
  s!"/apis/{ClusterKind.group}/{ClusterKind.version}/namespaces/{ns}/{ClusterKind.plural}/{name}/status"

/-- Sends a request about a cluster, if there is a target for it. -/
def send (name : String) (text : String) (request : String → ApiRequest) :
    Program interface (Except ApiFault ClusterObject) :=
  if name = "" then .done (.error (.unanswered "a name that is not empty is required"))
  else
    match target? text with
    | none => .done (.error (.unanswered "invalid target"))
    | some target => (call (.send (request target))).bind fun reply => .done (objectOf reply)

/-- Reads a status. -/
def load (ns name : String) : Program interface (Except Failure Snapshot) :=
  (send name (statusPath ns name) fun target => { method := "GET", target }).bind fun
    | .error fault => .done (.error (.kubernetes fault))
    | .ok object => (call .clock).bind fun now =>
      .done (.ok { status := object.status.getD {}, version := object.version, readAt := now })

/-- Why a patch was not applied. -/
def storeFault (name : String) : ApiFault → StoreFault
  | .answered status =>
    if status.code = 409 then .conflict name else .other (.kubernetes (.answered status))
  | fault => .other (.kubernetes fault)

/-- Replaces a status. -/
def store (ns name : String) (status : Status) (version : Option String) :
    Program interface (Except StoreFault Unit) :=
  (send name s!"{statusPath ns name}?&fieldManager={ClusterKind.fieldManager}" fun target =>
    { method := "PATCH"
      target
      contentType := some "application/merge-patch+json"
      body := some (statusPatch status version) }).bind fun
    | .error fault => .done (.error (storeFault name fault))
    | .ok _ => .done (.ok ())

/-- The status of the clusters of a namespace, behind the API. -/
def statusStore (ns : String) : StatusStore interface where
  load := load ns
  store := store ns
  pause := Retry.stretched (call .draw) fun d => call (.pause d)

end ClusterApi

end ClusterOperator
