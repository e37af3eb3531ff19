import ClusterOperator.Failure

/-!
# Errors of the cloud

An error of a cloud call carries the status code and the error code of the answer, if
there was one, and a message.  Two kinds of errors are states to be expected while a
cluster is provisioned: something does not exist, and a storage account is not usable
yet.  The latter is recognised wherever its code occurs, also inside a message.
-/

namespace ClusterOperator

/-- An error of a cloud call. -/
structure CloudFault where
  statusCode : Option Nat := none
  code : Option String := none
  message : String
  deriving DecidableEq, Repr

/-- Whether `word` occurs in `text`. -/
def occursIn (word : List Char) : List Char → Bool
  | [] => word.isEmpty
  | c :: text => word.isPrefixOf (c :: text) || occursIn word text

namespace CloudFault

/-- An error without an answer. -/
def ofMessage (message : String) : CloudFault := { message }

/-- An error answer. -/
def withStatus (statusCode : Nat) (code message : String) : CloudFault :=
  { statusCode := some statusCode, code := some code, message }

/-- The answer that something does not exist. -/
def notFound (code message : String) : CloudFault := withStatus 404 code message

/-- The codes that say that something does not exist. -/
def notFoundCodes : List String :=
  ["ResourceNotFound", "ResourceGroupNotFound", "DeploymentNotFound", "ContainerNotFound",
    "BlobNotFound"]

/-- The codes that say that a storage account is not usable yet. -/
def storageNotReadyCodes : List String :=
  ["StorageAccountNotFound", "StorageAccountIsNotProvisioned"]

/-- Whether the addressed object does not exist. -/
def isNotFound (e : CloudFault) : Bool :=
  e.statusCode == some 404 ||
    match e.code with
    | some code => notFoundCodes.contains code
    | none => false

/-- Whether a text has one of the codes of a storage account that is not usable. -/
def namesStorageNotReady (text : String) : Bool :=
  storageNotReadyCodes.any fun code => occursIn code.toList text.toList

/-- Whether the storage account is missing or still being provisioned. -/
def isStorageNotReady (e : CloudFault) : Bool :=
  (match e.code with
    | some code => namesStorageNotReady code
    | none => false) || namesStorageNotReady e.message

/-- The wording of an error: what is known of the answer in brackets, and the
message. -/
def describe (e : CloudFault) : String :=
  match e.statusCode, e.code with
  | some status, some code => s!"[{status} {code}] {e.message}"
  | some status, none => s!"[{status}] {e.message}"
  | none, some code => s!"[{code}] {e.message}"
  | none, none => e.message

/-- The failure of the operation that met the error. -/
def toFailure (e : CloudFault) (operation : String) : Failure :=
  .cloud operation e.describe e.statusCode

end CloudFault

end ClusterOperator
