/-!
# The kind of cluster objects

Under which names the cluster API knows cluster objects, and which columns a listing
of them has.
-/

namespace ClusterOperator

/-- A column of a listing: its name, the type of its values, and where they are
found. -/
structure ListingColumn where
  name : String
  type : String
  path : String
  deriving DecidableEq, Repr

namespace ClusterKind

/-- The group of the API. -/
def group : String := "lattice.dev"

/-- The version of the group. -/
def version : String := "v1alpha1"

/-- What one object is called. -/
def kind : String := "AzureCluster"

/-- What several objects are called. -/
def plural : String := "azureclusters"

/-- The name of the definition of the kind. -/
def definitionName : String := s!"{plural}.{group}"

/-- Objects belong to a namespace. -/
def scope : String := "Namespaced"

/-- The status is a resource of its own. -/
def hasStatus : Bool := true

/-- Who writes the status, in the records that the API keeps. -/
def fieldManager : String := "lattice-azure"

/-- The columns of a listing. -/
def columns : List ListingColumn :=
  [⟨"Location", "string", ".spec.location"⟩,
    ⟨"Network", "string", ".spec.networkCidr"⟩,
    ⟨"Phase", "string", ".status.phase"⟩,
    ⟨"Age", "date", ".metadata.creationTimestamp"⟩]

end ClusterKind

end ClusterOperator
