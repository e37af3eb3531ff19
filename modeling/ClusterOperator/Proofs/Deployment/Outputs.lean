import ClusterOperator.Deployment.Orchestrator
import ClusterOperator.Proofs.Pass.Context

/-!
# What the outputs of a deployment make of a context

The outputs of a deployment are a document of any shape.  What counts is the text under `value` in
the member of a name, and everything else is as good as nothing.  A binding concerns the field that
it is bound to and no other one, so where no field is bound twice, each is what its own output makes
of it, whatever the order of the bindings is (`carried_publish`).

For the main deployment `Published` says it field by field.
-/

namespace ClusterOperator

namespace DeploymentOrchestrator

variable {b : OutputBinding} {bindings : List OutputBinding} {outputs : Json} {ctx : PassContext}
  {field : ContextField} {name v : String} {before after : Option String}

/-! ## Outputs -/

/-- What is under `value` in the output of a name. -/
def outputValue? (outputs : Json) (name : String) : Option Json :=
  (outputs.member? name).bind (Json.member? "value")

theorem outputText?_eq_some_iff :
    outputText? outputs name = some v ↔ outputValue? outputs name = some (.text v) := by
  change (outputValue? outputs name).bind Json.text? = some v ↔ _
  cases hvalue : outputValue? outputs name with
  | none => exact ⟨nofun, nofun⟩
  | some document => cases document <;> simp [Json.text?]

/-- **The identifier that is put out under a name**: a text that is not empty. -/
def given? (outputs : Json) (name : String) : Option String :=
  match outputValue? outputs name with
  | some (.text value) => PassContext.nonEmpty value
  | _ => none

theorem given?_eq_some_iff :
    given? outputs name = some v ↔ outputValue? outputs name = some (.text v) ∧ v ≠ "" := by
  unfold given?
  split
  · rename_i value hvalue
    rw [PassContext.nonEmpty_eq_some_iff, hvalue, Option.some_inj, Json.text.injEq]
  · rename_i hother
    exact ⟨nofun, fun h => absurd h.1 (hother v)⟩

theorem given?_ne_empty : given? outputs name ≠ some "" :=
  fun h => (given?_eq_some_iff.mp h).2 rfl

/-- **What the output of a name makes of an identifier**: a text that is not empty replaces it, the
empty text clears it, and everything else leaves it. -/
structure Carried (outputs : Json) (name : String) (before after : Option String) : Prop where
  set : ∀ v, outputValue? outputs name = some (.text v) → v ≠ "" → after = some v
  cleared : outputValue? outputs name = some (.text "") → after = none
  kept : (∀ v, outputValue? outputs name ≠ some (.text v)) → after = before

/-- Where there was no identifier, there is the one that is put out. -/
theorem Carried.eq_given? (h : Carried outputs name none after) : after = given? outputs name := by
  cases hgiven : given? outputs name with
  | some v =>
    obtain ⟨hvalue, text⟩ := given?_eq_some_iff.mp hgiven
    exact h.set v hvalue text
  | none =>
    by_cases hempty : outputValue? outputs name = some (.text "")
    · exact h.cleared hempty
    refine h.kept fun v hvalue => ?_
    have text : v ≠ "" := fun heq => hempty (heq ▸ hvalue)
    rw [given?_eq_some_iff.mpr ⟨hvalue, text⟩] at hgiven
    cases hgiven

/-! ## Publishing -/

/-- Bindings are gone through one after another. -/
theorem publish_cons :
    publish (b :: bindings) outputs ctx = publish bindings outputs (publish [b] outputs ctx) := rfl

/-- What setting the bound fields leaves as it is, is left by publishing. -/
theorem publish_keeps {α : Type} {f : PassContext → α}
    (keeps : ∀ b ∈ bindings, ∀ ctx value, f (ctx.setOutput b.field value).2 = f ctx) :
    f (publish bindings outputs ctx) = f ctx := by
  induction bindings generalizing ctx with
  | nil => rfl
  | cons b rest ih =>
    obtain ⟨hb, hrest⟩ := List.forall_mem_cons.mp keeps
    rw [publish_cons, ih hrest]
    unfold publish
    rw [List.foldl_cons, List.foldl_nil]
    split
    · exact hb ctx _
    · rfl

/-- Publishing outputs leaves the storage as it is. -/
@[simp] theorem storage_publish : (publish bindings outputs ctx).storage = ctx.storage :=
  publish_keeps fun _ _ _ _ => PassContext.storage_setOutput

/-- Publishing outputs leaves the renderer as it is. -/
@[simp] theorem hasRenderer_publish :
    (publish bindings outputs ctx).hasRenderer = ctx.hasRenderer :=
  publish_keeps fun _ _ _ _ => PassContext.hasRenderer_setOutput

/-- Publishing outputs does not cancel a pass. -/
@[simp] theorem cancelReason_publish :
    (publish bindings outputs ctx).cancelReason = ctx.cancelReason :=
  publish_keeps fun _ _ _ _ => PassContext.cancelReason_setOutput

@[simp] theorem isCanceled_publish :
    (publish bindings outputs ctx).isCanceled = ctx.isCanceled :=
  congrArg Option.isSome cancelReason_publish

/-- A field that is not bound is left as it is. -/
theorem identifier?_publish_of_ne (unbound : ∀ b ∈ bindings, b.field ≠ field) :
    (publish bindings outputs ctx).identifier? field = ctx.identifier? field :=
  publish_keeps (f := fun ctx => ctx.identifier? field) fun b hb _ _ =>
    PassContext.identifier?_setOutput_of_ne (unbound b hb)

/-- The identifier of one binding. -/
theorem carried_publish_singleton
    (identifier : ∀ (ctx : PassContext) value, (ctx.setOutput b.field value).1 = true) :
    Carried outputs b.output (ctx.identifier? b.field)
      ((publish [b] outputs ctx).identifier? b.field) := by
  unfold publish
  rw [List.foldl_cons, List.foldl_nil]
  split
  · rename_i value htext
    have hvalue := outputText?_eq_some_iff.mp htext
    rw [PassContext.identifier?_setOutput_self (identifier ctx value)]
    refine ⟨fun v hv text => ?_, fun hempty => ?_, fun none => absurd hvalue (none value)⟩
    · obtain rfl := Json.text.inj (Option.some.inj (hvalue.symm.trans hv))
      exact PassContext.nonEmpty_eq_some_iff.mpr ⟨rfl, text⟩
    · obtain rfl := Json.text.inj (Option.some.inj (hvalue.symm.trans hempty))
      rfl
  · rename_i htext
    have noText : ∀ v, outputValue? outputs b.output ≠ some (.text v) := fun v hv => by
      rw [outputText?_eq_some_iff.mpr hv] at htext
      cases htext
    exact ⟨fun v hv => absurd hv (noText v), fun hempty => absurd hempty (noText ""),
      fun _ => rfl⟩

/-- **Every field that is bound is what its own output makes of it.** -/
theorem carried_publish (distinct : (bindings.map (·.field)).Nodup) (hb : b ∈ bindings)
    (identifier : ∀ (ctx : PassContext) value, (ctx.setOutput b.field value).1 = true) :
    Carried outputs b.output (ctx.identifier? b.field)
      ((publish bindings outputs ctx).identifier? b.field) := by
  induction bindings generalizing ctx with
  | nil => cases hb
  | cons first rest ih =>
    obtain ⟨hfirst, hrest⟩ := List.nodup_cons.mp distinct
    rw [publish_cons]
    rcases List.mem_cons.mp hb with rfl | hlater
    · rw [identifier?_publish_of_ne fun c hc heq =>
        hfirst (List.mem_map.mpr ⟨c, hc, heq⟩)]
      exact carried_publish_singleton identifier
    · have hne : first.field ≠ b.field := fun heq =>
        hfirst (List.mem_map.mpr ⟨b, hlater, heq.symm⟩)
      have hcarried : Carried outputs b.output
          ((publish [first] outputs ctx).identifier? b.field) _ := ih hrest hlater
      rwa [identifier?_publish_of_ne (List.forall_mem_singleton.mpr hne)] at hcarried

end DeploymentOrchestrator

/-! ## The main deployment -/

namespace MainDeployment

open DeploymentOrchestrator

variable {outputs : Json} {ctx : PassContext}

/-- Its outputs are all bound to identifiers. -/
theorem identifier_of_mem_outputs :
    ∀ b ∈ MainDeployment.outputs, ∀ (ctx : PassContext) value,
      (ctx.setOutput b.field value).1 = true := by
  simp [MainDeployment.outputs, PassContext.setOutput]

/-- **What publishing the outputs of the main deployment makes of a context.** -/
structure Published (outputs : Json) (ctx after : PassContext) : Prop where
  masterSubnet : Carried outputs "masterSubnetID" ctx.masterSubnetId after.masterSubnetId
  workerSubnet : Carried outputs "workerSubnetID" ctx.workerSubnetId after.workerSubnetId
  apiServerBackendPool :
    Carried outputs "apiServerBackendPoolID" ctx.apiServerBackendPoolId after.apiServerBackendPoolId
  etcdBackendPool :
    Carried outputs "etcdBackendPoolID" ctx.etcdBackendPoolId after.etcdBackendPoolId
  storage : after.storage = ctx.storage
  hasRenderer : after.hasRenderer = ctx.hasRenderer
  cancelReason : after.cancelReason = ctx.cancelReason

theorem published_publish : Published outputs ctx (publish MainDeployment.outputs outputs ctx) := by
  have carried : ∀ b ∈ MainDeployment.outputs, Carried outputs b.output (ctx.identifier? b.field)
      ((publish MainDeployment.outputs outputs ctx).identifier? b.field) := fun b hb =>
    carried_publish (by decide) hb (identifier_of_mem_outputs b hb)
  exact {
    masterSubnet := carried ⟨_, .masterSubnetId⟩ (by simp [MainDeployment.outputs])
    workerSubnet := carried ⟨_, .workerSubnetId⟩ (by simp [MainDeployment.outputs])
    apiServerBackendPool := carried ⟨_, .apiServerBackendPoolId⟩ (by simp [MainDeployment.outputs])
    etcdBackendPool := carried ⟨_, .etcdBackendPoolId⟩ (by simp [MainDeployment.outputs])
    storage := storage_publish
    hasRenderer := hasRenderer_publish
    cancelReason := cancelReason_publish }

end MainDeployment

end ClusterOperator
