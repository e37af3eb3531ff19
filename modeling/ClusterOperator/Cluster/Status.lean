import ClusterOperator.Instant
import ClusterOperator.Json.Record

/-!
# The status of a cluster

The status holds the phase of the cluster, a message, and one entry per named
resource with its conditions.  A condition has a free-form value and the time since
when it has it; that time moves only when the value changes.  Entries and conditions
are found by name, the first of a name counting, and are appended when they are
missing.
-/

namespace ClusterOperator

/-- How far the infrastructure of a cluster is. -/
inductive Phase where
  /-- Nothing reconciled yet. -/
  | pending
  /-- Cloud resources are being created or updated. -/
  | provisioning
  /-- The last pass completed without pending work. -/
  | ready
  /-- The last pass failed for good. -/
  | failed
  deriving DecidableEq, Repr, Inhabited

/-- A named value that was recorded for a resource. -/
structure Condition where
  kind : String
  value : String
  /-- When the value last changed. -/
  since : Instant
  deriving DecidableEq, Repr

/-- What was recorded for one resource. -/
structure ResourceEntry where
  name : String
  conditions : List Condition := []
  deriving DecidableEq, Repr

/-- The status of a cluster. -/
structure Status where
  phase : Phase := .pending
  message : Option String := none
  resources : List ResourceEntry := []
  deriving DecidableEq, Repr

instance : Inhabited Status := ⟨{}⟩

namespace Phase

def toText : Phase → String
  | .pending => "Pending"
  | .provisioning => "Provisioning"
  | .ready => "Ready"
  | .failed => "Failed"

def ofText? : String → Option Phase
  | "Pending" => some .pending
  | "Provisioning" => some .provisioning
  | "Ready" => some .ready
  | "Failed" => some .failed
  | _ => none

/-- The phase that a value names. -/
def ofTree? (v : Json.Tree) : Option Phase := v.alternative?.bind ofText?

/-- The phase that a document names. -/
def ofJson? (v : Json) : Option Phase := ofTree? v.toTree

end Phase

/-- Sets the value of the first condition of a kind, or appends one; says whether
anything changed. -/
def setCondition (now : Instant) (kind value : String) : List Condition → Bool × List Condition
  | [] => (true, [⟨kind, value, now⟩])
  | c :: rest =>
    if c.kind = kind then
      if c.value = value then (false, c :: rest) else (true, ⟨c.kind, value, now⟩ :: rest)
    else
      let (changed, rest) := setCondition now kind value rest
      (changed, c :: rest)

/-- Sets several conditions one after another; says whether any of them changed. -/
def setConditions (now : Instant) :
    List (String × String) → List Condition → Bool × List Condition
  | [], cs => (false, cs)
  | (kind, value) :: rest, cs =>
    let (first, cs) := setCondition now kind value cs
    let (others, cs) := setConditions now rest cs
    (first || others, cs)

namespace ResourceEntry

/-- The value of the first condition of a kind. -/
def condition? (e : ResourceEntry) (kind : String) : Option String :=
  (e.conditions.find? fun c => c.kind = kind).map (·.value)

end ResourceEntry

/-- Applies `f` to the conditions of the first entry of a name, or of a new entry at
the end. -/
def updateEntry {α : Type} (name : String) (f : List Condition → α × List Condition) :
    List ResourceEntry → α × List ResourceEntry
  | [] => let (a, cs) := f []; (a, [⟨name, cs⟩])
  | e :: rest =>
    if e.name = name then let (a, cs) := f e.conditions; (a, { e with conditions := cs } :: rest)
    else let (a, rest) := updateEntry name f rest; (a, e :: rest)

namespace Status

/-- The first entry of a name. -/
def resource? (s : Status) (name : String) : Option ResourceEntry :=
  s.resources.find? fun e => e.name = name

/-- The value of a condition of a resource. -/
def condition? (s : Status) (resource kind : String) : Option String :=
  (s.resource? resource).bind fun e => e.condition? kind

/-- Applies `f` to the conditions of a resource, which gets an entry if it has none. -/
def update {α : Type} (s : Status) (resource : String) (f : List Condition → α × List Condition) :
    α × Status :=
  let (a, entries) := updateEntry resource f s.resources
  (a, { s with resources := entries })

/-- Sets conditions of a resource; says whether any of them changed. -/
def setConditions (s : Status) (now : Instant) (resource : String)
    (conditions : List (String × String)) : Bool × Status :=
  s.update resource (ClusterOperator.setConditions now conditions)

end Status

/-- The time that a text gives. -/
def instantOfTree? (v : Json.Tree) : Option Instant := v.text?.bind Instant.ofText?

namespace Condition

/-- The condition that a value gives. -/
def ofTree? (v : Json.Tree) : Option Condition := do
  let fs ← v.fields? ["type", "status", "lastTransitionTime"]
  let kind ← fs.require "type" Json.Tree.text?
  let value ← fs.require "status" Json.Tree.text?
  let since ← fs.require "lastTransitionTime" instantOfTree?
  return { kind, value, since }

def toJson (c : Condition) : Json :=
  .object [("type", .text c.kind), ("status", .text c.value),
    ("lastTransitionTime", .text c.since.toText)]

end Condition

namespace ResourceEntry

/-- The entry that a value gives. -/
def ofTree? (v : Json.Tree) : Option ResourceEntry := do
  let fs ← v.fields? ["name", "conditions"]
  let name ← fs.require "name" Json.Tree.text?
  let conditions ← fs.orDefault "conditions" [] (Json.Tree.list? Condition.ofTree?)
  return { name, conditions }

/-- The document of an entry; an empty list of conditions is left out. -/
def toJson (e : ResourceEntry) : Json :=
  .object <|
    ("name", .text e.name) ::
    (if e.conditions.isEmpty then []
      else [("conditions", .array (e.conditions.map Condition.toJson))])

end ResourceEntry

namespace Status

/-- The status that a value gives. -/
def ofTree? (v : Json.Tree) : Option Status := do
  let fs ← v.fields? ["phase", "message", "resources"]
  let phase ← fs.orDefault "phase" .pending Phase.ofTree?
  let message ← fs.optional "message" Json.Tree.text?
  let resources ← fs.orDefault "resources" [] (Json.Tree.list? ResourceEntry.ofTree?)
  return { phase, message, resources }

/-- The status that a document holds. -/
def ofJson? (v : Json) : Option Status := ofTree? v.toTree

/-- The document of a status; a missing message and an empty list of entries are left
out. -/
def toJson (s : Status) : Json :=
  .object <|
    [("phase", .text s.phase.toText)] ++
    (match s.message with
      | none => []
      | some m => [("message", .text m)]) ++
    (if s.resources.isEmpty then []
      else [("resources", .array (s.resources.map ResourceEntry.toJson))])

end Status

end ClusterOperator
