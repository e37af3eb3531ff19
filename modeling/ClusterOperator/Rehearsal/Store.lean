import ClusterOperator.Gateway

/-!
# The status store of a rehearsal

The store keeps a status per name with a counted version, and replaces it if the
version is the one that was read.  Ahead of that, the next readings and writings can
be made to fail, or somebody else can be made to write in between.
-/

namespace ClusterOperator.Rehearsal

/-- What happens to a writing. -/
inductive StoreTurn where
  /-- Nothing out of the ordinary. -/
  | normal
  | failing (failure : Failure)
  /-- Somebody else writes first, a status or the same again. -/
  | overtaken (replacement : Option Status)

/-- A stored status and its version. -/
structure StoredStatus where
  status : Status
  version : Nat

/-- What was asked of the store. -/
inductive StoreCall where
  | load (name : String)
  | store (name : String) (version : Option String) (status : Status)

/-- A store, with what is going to happen and what has been asked. -/
structure StoreScene where
  entries : List (String × StoredStatus) := []
  /-- The next readings: what they fail with, if they fail. -/
  loads : List (Option Failure) := []
  /-- The next writings. -/
  stores : List StoreTurn := []
  calls : List StoreCall := []

namespace StoreScene

variable (s : StoreScene)

/-- The version of a name's status as a token. -/
def token? (name : String) : Option String :=
  (Json.findMember name s.entries).map fun e => toString e.version

/-- Stores a status under the next version. -/
def put (name : String) (status : Status) : StoreScene :=
  let version := (Json.findMember name s.entries).elim 1 fun e => e.version + 1
  { s with entries := Json.setMember name ⟨status, version⟩ s.entries }

/-- Somebody else writes. -/
def overtake (name : String) (replacement : Option Status) : StoreScene :=
  match replacement, Json.findMember name s.entries with
  | some status, _ => s.put name status
  | none, some e => s.put name e.status
  | none, none => s

/-- Reads a status at a time. -/
def load (name : String) (now : Instant) : Except Failure Snapshot × StoreScene :=
  let after := { s with calls := s.calls ++ [.load name], loads := s.loads.drop 1 }
  match s.loads.head?.join with
  | some failure => (.error failure, after)
  | none =>
    let status := (Json.findMember name s.entries).elim {} (·.status)
    (.ok { status, version := s.token? name, readAt := now }, after)

/-- Writes a status that was read at a version. -/
def store (name : String) (status : Status) (version : Option String) :
    Except StoreFault Unit × StoreScene :=
  let after :=
    { s with calls := s.calls ++ [.store name version status], stores := s.stores.drop 1 }
  match s.stores.head?.getD .normal with
  | .failing failure => (.error (.other failure), after)
  | .overtaken replacement => (.error (.conflict name), after.overtake name replacement)
  | .normal =>
    if version = s.token? name then (.ok (), after.put name status)
    else (.error (.conflict name), after)

end StoreScene

end ClusterOperator.Rehearsal
