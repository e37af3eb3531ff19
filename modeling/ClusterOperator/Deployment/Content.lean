import ClusterOperator.Json.Canonical
import ClusterOperator.Sha256

/-!
# Deployments and their checksums

A deployment is a template document with named parameters under a name in the cloud.
Its content is identified by two checksums, the SHA-256 digests of the canonical
texts of the template and of the parameters.  A submission wraps every parameter and
adds one that says whether it is the first; that one never takes part in the
checksum, so a follow-up submission is no change of content.
-/

namespace ClusterOperator

/-- The checksum of a document. -/
def checksum (document : Json) : String := Sha256.hexDigest document.canonical

/-- Parameters by name, each name once. -/
structure Parameters where
  entries : List (String × Json) := []
  deriving Repr, Inhabited

namespace Parameters

/-- Sets a parameter. -/
def insert (p : Parameters) (name : String) (value : Json) : Parameters :=
  ⟨Json.setMember name value p.entries⟩

/-- The value of a parameter. -/
def find? (p : Parameters) (name : String) : Option Json := Json.findMember name p.entries

/-- Sets several parameters one after another. -/
def insertAll (p : Parameters) (entries : List (String × Json)) : Parameters :=
  entries.foldl (fun p e => p.insert e.1 e.2) p

/-- The parameters as a document. -/
def toJson (p : Parameters) : Json := .object p.entries

/-- The form in which parameters are submitted: each value in an object of its own. -/
def toWire (p : Parameters) : Json :=
  .object (p.entries.map fun e => (e.1, .object [("value", e.2)]))

end Parameters

/-- The body of a submission. -/
structure DeploymentRequest where
  template : Json
  parameters : Json
  deriving Repr, Inhabited

/-- The document of a submission.  Only incremental deployments are submitted. -/
def DeploymentRequest.toJson (r : DeploymentRequest) : Json :=
  .object [("mode", .text "Incremental"), ("template", r.template), ("parameters", r.parameters)]

/-- The parameter that tells the template whether this is the first submission. -/
def initialProvisioning : String := "initialProvisioning"

/-- A deployment as it should be. -/
structure Deployment where
  name : String
  template : Json
  parameters : Parameters
  deriving Repr, Inhabited

namespace Deployment

/-- The checksum of the template. -/
def templateChecksum (d : Deployment) : String := checksum d.template

/-- The checksum of the parameters. -/
def parametersChecksum (d : Deployment) : String := checksum d.parameters.toJson

/-- The body that is submitted for the first time or again. -/
def request (d : Deployment) (initial : Bool) : DeploymentRequest where
  template := d.template
  parameters :=
    (d.parameters.insert initialProvisioning (.text (if initial then "Yes" else "No"))).toWire

end Deployment

end ClusterOperator
