import ClusterOperator.Failure

/-!
# The context of a pass

The resources of one pass share a context.  Earlier ones put in what later ones
depend on: four identifiers that the deployment publishes, the storage container, and
whether there is a renderer.  Any resource may cancel the rest of the pass; the first
reason stands.

An identifier is never the empty text: setting it to that clears it.
-/

namespace ClusterOperator

/-- What a resource may require of the context. -/
inductive ContextField where
  | apiServerBackendPoolId
  | etcdBackendPoolId
  | masterSubnetId
  | workerSubnetId
  | storageContainer
  | cloudConfig
  deriving DecidableEq, Repr

namespace ContextField

/-- Every field. -/
def all : List ContextField :=
  [.apiServerBackendPoolId, .etcdBackendPoolId, .masterSubnetId, .workerSubnetId,
    .storageContainer, .cloudConfig]

/-- The name of a field in deployment outputs and in failures. -/
def toText : ContextField → String
  | .apiServerBackendPoolId => "apiServerBackendPoolID"
  | .etcdBackendPoolId => "etcdBackendPoolID"
  | .masterSubnetId => "masterSubnetID"
  | .workerSubnetId => "workerSubnetID"
  | .storageContainer => "storageContainer"
  | .cloudConfig => "cloudConfig"

/-- The field of a name. -/
def ofText? (s : String) : Option ContextField := all.find? fun f => f.toText = s

end ContextField

/-- A container in a storage account. -/
structure StorageContainer where
  account : String
  container : String
  deriving DecidableEq, Repr

/-- What the resources of one pass share. -/
structure PassContext where
  apiServerBackendPoolId : Option String := none
  etcdBackendPoolId : Option String := none
  masterSubnetId : Option String := none
  workerSubnetId : Option String := none
  storage : Option StorageContainer := none
  /-- Whether boot configurations can be rendered. -/
  hasRenderer : Bool := false
  cancelReason : Option String := none
  deriving DecidableEq, Repr

instance : Inhabited PassContext := ⟨{}⟩

namespace PassContext

/-- A text that is not empty. -/
def nonEmpty (value : String) : Option String := if value = "" then none else some value

/-- Sets an identifier, or clears it; handles cannot be set from a text, which is
answered by `false`. -/
def setOutput (ctx : PassContext) (field : ContextField) (value : String) : Bool × PassContext :=
  match field with
  | .apiServerBackendPoolId => (true, { ctx with apiServerBackendPoolId := nonEmpty value })
  | .etcdBackendPoolId => (true, { ctx with etcdBackendPoolId := nonEmpty value })
  | .masterSubnetId => (true, { ctx with masterSubnetId := nonEmpty value })
  | .workerSubnetId => (true, { ctx with workerSubnetId := nonEmpty value })
  | .storageContainer => (false, ctx)
  | .cloudConfig => (false, ctx)

/-- Attaches the storage container. -/
def setStorage (ctx : PassContext) (storage : StorageContainer) : PassContext :=
  { ctx with storage := some storage }

/-- Attaches the renderer. -/
def setRenderer (ctx : PassContext) : PassContext := { ctx with hasRenderer := true }

/-- Whether an identifier is there and not the empty text. -/
def isUsable (identifier : Option String) : Bool := identifier.any fun value => value ≠ ""

/-- Whether a field can be used. -/
def isSet (ctx : PassContext) : ContextField → Bool
  | .apiServerBackendPoolId => isUsable ctx.apiServerBackendPoolId
  | .etcdBackendPoolId => isUsable ctx.etcdBackendPoolId
  | .masterSubnetId => isUsable ctx.masterSubnetId
  | .workerSubnetId => isUsable ctx.workerSubnetId
  | .storageContainer => ctx.storage.isSome
  | .cloudConfig => ctx.hasRenderer

/-- Fails with the names of the required fields that are not set. -/
def validate (ctx : PassContext) (resource : String) (required : List ContextField) :
    Except Failure Unit :=
  let missing := (required.filter fun f => !ctx.isSet f).map (·.toText)
  if missing.isEmpty then .ok () else .error (.invalidContext resource missing)

/-- Cancels the rest of the pass, unless it is canceled already. -/
def cancel (ctx : PassContext) (reason : String) : PassContext :=
  match ctx.cancelReason with
  | some _ => ctx
  | none => { ctx with cancelReason := some reason }

def isCanceled (ctx : PassContext) : Bool := ctx.cancelReason.isSome

/-- An optional text in diagnostics. -/
def describeText? : Option String → String
  | none => "None"
  | some s => "Some(" ++ Text.quote s ++ ")"

/-- A container in diagnostics, without its client. -/
def describeStorage? : Option StorageContainer → String
  | none => "None"
  | some s =>
    "Some(StorageContainer \x7b account: " ++ Text.quote s.account ++ ", container: " ++
      Text.quote s.container ++ ", .. \x7d)"

/-- The context in diagnostics. -/
def describe (ctx : PassContext) : String :=
  "ReconciliationContext \x7b api_server_backend_pool_id: " ++
    describeText? ctx.apiServerBackendPoolId ++
    ", etcd_backend_pool_id: " ++ describeText? ctx.etcdBackendPoolId ++
    ", master_subnet_id: " ++ describeText? ctx.masterSubnetId ++
    ", worker_subnet_id: " ++ describeText? ctx.workerSubnetId ++
    ", storage: " ++ describeStorage? ctx.storage ++
    ", cloud_config: " ++ (if ctx.hasRenderer then "true" else "false") ++
    ", cancel_reason: " ++ describeText? ctx.cancelReason ++ " \x7d"

end PassContext

end ClusterOperator
