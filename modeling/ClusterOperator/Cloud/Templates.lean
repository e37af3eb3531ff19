import ClusterOperator.Failure
import ClusterOperator.Json.Reader

/-!
# Deployment templates

Templates are documents under a name.  One can be given as a document or as its text;
a later one replaces an earlier one of the same name.
-/

namespace ClusterOperator

/-- Templates by name. -/
structure Templates where
  documents : List (String × Json) := []
  deriving Repr, Inhabited

namespace Templates

/-- Registers a document. -/
def insert (t : Templates) (name : String) (document : Json) : Templates :=
  ⟨Json.setMember name document t.documents⟩

/-- Registers the document of a text. -/
def insertText (t : Templates) (name text : String) : Except Failure Templates :=
  match Json.read text with
  | .ok document => .ok (t.insert name document)
  | .error fault => .error (.serialization fault.message (some s!"template {name}"))

/-- The document under a name. -/
def find (t : Templates) (name : String) : Except Failure Json :=
  match Json.findMember name t.documents with
  | some document => .ok document
  | none => .error (.internal "templates" s!"no template registered as {name}")

end Templates

end ClusterOperator
