/-!
# Comparing keyed records

A record has a key that says which object it describes.  The difference between the
records that exist and those that should exist is three lists: what has to be
created, what has to be overwritten, and what has to go.  Records keep the order of
the list they come from.  If several existing records have one key, the last of them
is compared.
-/

namespace ClusterOperator

/-- Records with a key. -/
class Keyed (R : Type) where
  key : R → String

/-- The difference between existing and desired records. -/
structure ChangeSet (R : Type) where
  /-- Desired records whose key nothing has. -/
  toCreate : List R := []
  /-- Desired records that differ from the existing one with their key. -/
  toUpdate : List R := []
  /-- Existing records whose key is not desired. -/
  toDelete : List R := []
  deriving DecidableEq, Repr

namespace ChangeSet

variable {R : Type}

instance : Inhabited (ChangeSet R) := ⟨{}⟩

/-- Whether there is nothing to do. -/
def isEmpty (c : ChangeSet R) : Bool :=
  c.toCreate.isEmpty && c.toUpdate.isEmpty && c.toDelete.isEmpty

end ChangeSet

namespace Records

variable {R : Type} [Keyed R]

/-- Whether a list has a record with this key. -/
def hasKey (key : String) (records : List R) : Bool :=
  records.any fun r => decide (Keyed.key r = key)

/-- The last record with this key. -/
def lastWithKey? (key : String) (records : List R) : Option R :=
  records.reverse.find? fun r => decide (Keyed.key r = key)

/-- What has to be done to get from the current records to the desired ones. -/
def diff [DecidableEq R] (current desired : List R) : ChangeSet R where
  toCreate := desired.filter fun r => (lastWithKey? (Keyed.key r) current).isNone
  toUpdate := desired.filter fun r =>
    match lastWithKey? (Keyed.key r) current with
    | none => false
    | some existing => decide (existing ≠ r)
  toDelete := current.filter fun r => !hasKey (Keyed.key r) desired

end Records

end ClusterOperator
