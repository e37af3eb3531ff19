import ClusterOperator.Proofs.Deployment.Content
import ClusterOperator.Proofs.Deployment.Decisions

/-!
# What a submission carries

Three sources name the parameters of a submission: the definition computes them, the cluster
overrides them, and the submission itself says whether it is the first.  The last one wins over
the second, and the second over the first, whatever their names have in common (`Carries`).

The two submissions of one deployment have the same members in the same places, but for the one
that says which of them it is.  Since an override sets what it has set already, applying the
overrides again makes the same deployment.
-/

namespace ClusterOperator

/-! ## Parameters and overrides -/

namespace Parameters

variable {p : Parameters} {name n : String} {value : Json} {entries : List (String × Json)}

/-- The names of the parameters. -/
def names (p : Parameters) : List String := p.entries.map Prod.fst

theorem mem_names_insert : name ∈ (p.insert n value).names ↔ name = n ∨ name ∈ p.names :=
  Json.mem_names_setMember

theorem nodup_names_insert (h : p.names.Nodup) : (p.insert n value).names.Nodup :=
  Json.nodup_names_setMember h

theorem names_wrapped : p.wrapped.names = p.names := by
  rw [names, wrapped, List.map_map]
  rfl

theorem insert_of_find? (h : p.find? name = some value) : p.insert name value = p :=
  congrArg Parameters.mk (Json.setMember_of_findMember h)

theorem insertAll_cons {e : String × Json} :
    p.insertAll (e :: entries) = (p.insert e.1 e.2).insertAll entries := rfl

theorem mem_names_insertAll :
    name ∈ (p.insertAll entries).names ↔ name ∈ p.names ∨ name ∈ entries.map Prod.fst := by
  induction entries generalizing p with
  | nil => simp [insertAll]
  | cons e entries ih =>
    rw [insertAll_cons, ih, mem_names_insert, List.map_cons, List.mem_cons]
    tauto

theorem nodup_names_insertAll (h : p.names.Nodup) : (p.insertAll entries).names.Nodup := by
  induction entries generalizing p with
  | nil => exact h
  | cons e entries ih => exact ih (nodup_names_insert h)

theorem find?_insertAll_of_notMem (h : name ∉ entries.map Prod.fst) :
    (p.insertAll entries).find? name = p.find? name := by
  induction entries generalizing p with
  | nil => rfl
  | cons e entries ih =>
    rw [List.map_cons, List.mem_cons, not_or] at h
    rw [insertAll_cons, ih h.2, find?_insert, if_neg h.1]

/-- The last one of a name wins; so each of them, if the names are distinct. -/
theorem find?_insertAll_of_mem (distinct : (entries.map Prod.fst).Nodup)
    (h : (name, value) ∈ entries) : (p.insertAll entries).find? name = some value := by
  induction entries generalizing p with
  | nil => cases h
  | cons e entries ih =>
    obtain ⟨he, hrest⟩ := List.nodup_cons.mp distinct
    rw [insertAll_cons]
    rcases List.mem_cons.mp h with rfl | h
    · rw [find?_insertAll_of_notMem he, find?_insert, if_pos rfl]
    · exact ih hrest h

theorem insertAll_of_find? (h : ∀ e ∈ entries, p.find? e.1 = some e.2) :
    p.insertAll entries = p := by
  induction entries with
  | nil => rfl
  | cons e entries ih =>
    rw [List.forall_mem_cons] at h
    rw [insertAll_cons, insert_of_find? h.1, ih h.2]

/-- **Setting the same parameters again changes nothing.** -/
theorem insertAll_insertAll (distinct : (entries.map Prod.fst).Nodup) :
    (p.insertAll entries).insertAll entries = p.insertAll entries :=
  insertAll_of_find? fun _ he => find?_insertAll_of_mem distinct he

end Parameters

/-! ## The body of a submission -/

/-- What a submission says about whether it is the first. -/
def provisioningFlag (initial : Bool) : Json := .text (if initial then "Yes" else "No")

/-- **What the body of a submission carries**: the template, and under each name of a parameter
an object whose only member is the value. -/
structure DeploymentRequest.Carries (template : Json) (computed overrides : List (String × Json))
    (initial : Bool) (ms : List (String × Json)) (r : DeploymentRequest) : Prop where
  template : r.template = template
  parameters : r.parameters = .object ms
  distinct : (ms.map Prod.fst).Nodup
  /-- Every name has one of three sources. -/
  names : ∀ name, name ∈ ms.map Prod.fst ↔
    name ∈ computed.map Prod.fst ∨ name ∈ overrides.map Prod.fst ∨ name = initialProvisioning
  provisioning : (initialProvisioning, .object [("value", provisioningFlag initial)]) ∈ ms
  overridden : ∀ name value, name ≠ initialProvisioning → (name, value) ∈ overrides →
    (name, .object [("value", value)]) ∈ ms
  computed : ∀ name value, name ≠ initialProvisioning → name ∉ overrides.map Prod.fst →
    (name, value) ∈ computed → (name, .object [("value", value)]) ∈ ms

namespace Deployment

variable {d : Deployment} {initial : Bool} {name : String} {value : Json}

/-- The members of the parameters that are submitted. -/
def submittedMembers (d : Deployment) (initial : Bool) : List (String × Json) :=
  (d.parameters.insert initialProvisioning (provisioningFlag initial)).wrapped.entries

theorem mem_names_submittedMembers :
    name ∈ (d.submittedMembers initial).map Prod.fst ↔
      name = initialProvisioning ∨ name ∈ d.parameters.names := by
  change name ∈ Parameters.names _ ↔ _
  rw [Parameters.names_wrapped, Parameters.mem_names_insert]

theorem nodup_submittedMembers (h : d.parameters.names.Nodup) :
    ((d.submittedMembers initial).map Prod.fst).Nodup := by
  change (Parameters.names _).Nodup
  rw [Parameters.names_wrapped]
  exact Parameters.nodup_names_insert h

theorem provisioning_mem_submittedMembers :
    (initialProvisioning, Parameters.wrap (provisioningFlag initial)) ∈
      d.submittedMembers initial := by
  refine Json.mem_of_findMember ?_
  change Parameters.find? _ _ = _
  rw [Parameters.find?_wrapped, Parameters.find?_insert, if_pos rfl, Option.map_some]

/-- Another parameter is submitted with its value. -/
theorem mem_submittedMembers (hne : name ≠ initialProvisioning)
    (h : d.parameters.find? name = some value) :
    (name, Parameters.wrap value) ∈ d.submittedMembers initial := by
  refine Json.mem_of_findMember ?_
  change Parameters.find? _ _ = _
  rw [Parameters.find?_wrapped, Parameters.find?_insert, if_neg hne, h, Option.map_some]

/-- **The submissions of a deployment differ in one member only.** -/
theorem exists_submittedMembers_eq (d : Deployment) : ∃ front behind, ∀ initial,
    d.submittedMembers initial =
      front ++ (initialProvisioning, .object [("value", provisioningFlag initial)]) :: behind := by
  obtain ⟨front, behind, h⟩ := Json.exists_setMember_eq initialProvisioning d.parameters.entries
  refine ⟨front.map fun e => (e.1, Parameters.wrap e.2),
    behind.map fun e => (e.1, Parameters.wrap e.2), fun initial => ?_⟩
  rw [submittedMembers, Parameters.wrapped, Parameters.insert, h, List.map_append, List.map_cons]
  rfl

end Deployment

namespace DeploymentOrchestrator

variable {o : DeploymentOrchestrator} {cluster : Cluster} {template : Json} {p : Parameters}

/-- A submission of the deployment that a template and computed parameters make. -/
theorem carries_assemble (hp : p.names.Nodup)
    (hoverrides : (cluster.spec.parameterOverrides.map Prod.fst).Nodup) (initial : Bool) :
    ((o.assemble cluster template p).request initial).Carries template p.entries
      cluster.spec.parameterOverrides initial
      ((o.assemble cluster template p).submittedMembers initial) where
  template := rfl
  parameters := rfl
  distinct := Deployment.nodup_submittedMembers (Parameters.nodup_names_insertAll hp)
  names name := by
    rw [Deployment.mem_names_submittedMembers, or_comm]
    exact (or_congr Parameters.mem_names_insertAll Iff.rfl).trans or_assoc
  provisioning := Deployment.provisioning_mem_submittedMembers
  overridden name value hne hmem :=
    Deployment.mem_submittedMembers hne (Parameters.find?_insertAll_of_mem hoverrides hmem)
  computed name value hne hnot hmem := by
    refine Deployment.mem_submittedMembers hne ?_
    exact (Parameters.find?_insertAll_of_notMem hnot).trans
      ((Json.findMember_eq_some_iff hp).mpr hmem)

/-- **What a look submits** is made of the template that it read, and of the parameters that the
definition computes for the cluster. -/
theorem submissions_of_look {ctx after : PassContext} {xs : List (Exchange gateway)}
    {r : Except Failure DeploymentOutcome} {q : Gateway.Request}
    (h : (o.ensureCreated cluster).Transcript ctx xs r after) (hq : q ∈ submissions xs) :
    ∃ template d initial, ⟨.template o.definition.templateName, .ok template⟩ ∈ xs ∧
      (o.definition.parameters cluster).map (o.assemble cluster template) = .ok d ∧
      q = submission cluster d initial := by
  -- Of what is asked before the submission nothing is one.
  have idle : ∀ {ys : List (Exchange gateway)} {β : Prop},
      (∀ x ∈ ys, x.request.isQuiet = true) → q ∈ submissions ys → β := by
    intro ys β quiet hq
    rw [submissions_of_quiet quiet] at hq
    cases hq
  have submitted : ∀ (ys : List (Exchange gateway)) {zs template d initial before}
      {r' : Except Failure DeploymentOutcome},
      ⟨.template o.definition.templateName, .ok template⟩ ∈ ys →
      (o.definition.parameters cluster).map (o.assemble cluster template) = .ok d →
      (∀ x ∈ ys, x.request.isQuiet = true) → o.Submits cluster d initial before zs r' after →
      q ∈ submissions (ys ++ zs) →
      ∃ template d initial, ⟨.template o.definition.templateName, .ok template⟩ ∈ ys ++ zs ∧
        (o.definition.parameters cluster).map (o.assemble cluster template) = .ok d ∧
        q = submission cluster d initial := by
    intro ys zs template d initial before r' hread hd quiet hsubmits hq
    rw [submissions_append, submissions_of_quiet quiet, hsubmits.submissions_eq] at hq
    exact ⟨template, d, initial, List.mem_append_left _ hread, hd, List.mem_singleton.mp hq⟩
  obtain ⟨reply, ys, rfl, hrest⟩ := Step.transcript_ask_bind_iff.mp h
  cases reply with
  | error fault =>
    dsimp only at hrest
    split at hrest
    · simp only [create, Step.bind_eq_bind] at hrest
      rcases Step.transcript_tryLift_bind_iff.mp hrest with
        ⟨e, hdesired, -, -⟩ | ⟨d, zs, ws, rfl, hdesired, hsubmit⟩
      · obtain ⟨_, rfl, -⟩ := desired_transcript_iff.mp hdesired
        exact idle (by simp) hq
      · obtain ⟨template, rfl, hd⟩ := desired_ok hdesired
        exact submitted [_, _] (by simp) hd (by simp) (submits_of_transcript hsubmit) hq
    · obtain ⟨rfl, -, -⟩ := Step.transcript_fail_iff.mp hrest
      exact idle (by simp) hq
  | ok observed =>
    dsimp only at hrest
    split at hrest
    · rcases review_cases hrest with
        ⟨e, stuck, -, -⟩ | ⟨d, template, first, second, zs, hd, rfl, hcompared⟩
      · exact idle (List.forall_mem_cons.mpr ⟨rfl, stuck.quiet⟩) hq
      · split at hcompared
        · obtain rfl := settle_asks_nothing hcompared
          exact idle (by simp) hq
        · exact submitted [_, _, _, _] (by simp) hd (by simp)
            (submits_of_transcript hcompared) hq
    · simp only [await, Step.bind_eq_bind, Step.transcript_cancel_bind_iff,
        Step.transcript_pure_iff] at hrest
      obtain ⟨rfl, -, -⟩ := hrest
      exact idle (by simp) hq

/-- **What is submitted for a cluster.**  Whatever names the computed parameters, the overrides
and the submission itself have in common, a submission carries the template and, under every
name, the value of the source that wins; the two submissions of a deployment differ in one
member; applying the overrides again changes neither of them, nor the checksums; and every
submission of a look is one of the deployment of the template that the look read. -/
theorem submissions_carry (hcomputed : o.definition.parameters cluster = .ok p)
    (hp : p.names.Nodup) (hoverrides : (cluster.spec.parameterOverrides.map Prod.fst).Nodup) :
    (∀ (template : Json) (initial : Bool), ∃ ms,
      ((o.assemble cluster template p).request initial).Carries template p.entries
        cluster.spec.parameterOverrides initial ms) ∧
    (∀ template : Json, ∃ front behind,
      ∀ initial, ((o.assemble cluster template p).request initial).template = template ∧
        ((o.assemble cluster template p).request initial).parameters = .object (front ++
          (initialProvisioning, .object [("value", provisioningFlag initial)]) :: behind)) ∧
    (∀ template : Json,
      let d := o.assemble cluster template p
      let again : Deployment :=
        { d with parameters := d.parameters.insertAll cluster.spec.parameterOverrides }
      (∀ initial, again.request initial = d.request initial) ∧ again.checksums = d.checksums) ∧
    ∀ (ctx after : PassContext) (xs : List (Exchange gateway))
      (r : Except Failure DeploymentOutcome) (q : Gateway.Request),
      (o.ensureCreated cluster).Transcript ctx xs r after → q ∈ submissions xs →
        ∃ template initial, ⟨.template o.definition.templateName, .ok template⟩ ∈ xs ∧
          q = submission cluster (o.assemble cluster template p) initial := by
  refine ⟨fun template initial => ⟨_, carries_assemble hp hoverrides initial⟩, ?_, ?_, ?_⟩
  · intro template
    obtain ⟨front, behind, h⟩ := (o.assemble cluster template p).exists_submittedMembers_eq
    exact ⟨front, behind, fun initial => ⟨rfl, congrArg Json.object (h initial)⟩⟩
  · intro template d again
    have same : again = d := congrArg (Deployment.mk d.name template)
      (Parameters.insertAll_insertAll hoverrides)
    exact ⟨fun _ => same ▸ rfl, same ▸ rfl⟩
  · intro ctx after xs r q h hq
    obtain ⟨template, d, initial, hread, hd, rfl⟩ := submissions_of_look h hq
    rw [hcomputed] at hd
    cases hd
    exact ⟨template, initial, hread, rfl⟩

/-! ## Names that collide -/

namespace Collision

/-- Computed parameters, among them the one that every submission sets. -/
def computed : Parameters :=
  ⟨[("location", .text "westeurope"), (initialProvisioning, .text "Maybe")]⟩

def orchestrator : DeploymentOrchestrator where
  definition := { MainDeployment.definition {} with parameters := fun _ => .ok computed }

/-- A cluster that overrides both parameters, and adds a third one. -/
def overridden : Cluster :=
  { production with
    spec := { production.spec with
      parameterOverrides :=
        [("location", .text "northeurope"), (initialProvisioning, .text "Never"),
          ("tier", .null)] } }

/-- What is deployed if the template is `null`. -/
def deployment : Deployment := orchestrator.assemble overridden .null computed

/-- The first submission is accepted, and its checksums are recorded. -/
def exchanges : List (Exchange gateway) :=
  [⟨.lookUp overridden.resourceGroup (orchestrator.deploymentName overridden),
      .error (.notFound "DeploymentNotFound" "no deployment")⟩,
    ⟨.template orchestrator.definition.templateName, .ok .null⟩,
    ⟨.submit overridden.resourceGroup deployment.name (deployment.request true), .ok ()⟩,
    ⟨.loadStatus overridden.name, .ok ⟨{}, none, default⟩⟩,
    ⟨.storeStatus overridden.name (recordOf deployment) none, .ok ()⟩]

theorem transcript : (orchestrator.ensureCreated overridden).Transcript {} exchanges
    (.ok (.submitted true))
    (({} : PassContext).cancel
      s!"deployment {orchestrator.deploymentName overridden} submitted") :=
  ensureCreated_of_missing rfl rfl
    (StatusStore.update_of_written (s := ⟨{}, none, default⟩) rfl)

end Collision

open Collision in
/-- The override of a name that is computed is submitted, and that of the reserved one is not; so
it is with what a look submits. -/
theorem submissions_carry_of_collision :
    (∃ ms, ((orchestrator.assemble overridden .null computed).request true).parameters =
        .object ms ∧
      ("location", .object [("value", .text "northeurope")]) ∈ ms ∧
      (initialProvisioning, .object [("value", provisioningFlag true)]) ∈ ms) ∧
    ∃ r after q, (orchestrator.ensureCreated overridden).Transcript {} exchanges r after ∧
      q ∈ submissions exchanges ∧ ∃ template initial ms,
        ⟨.template orchestrator.definition.templateName, .ok template⟩ ∈ exchanges ∧
        q = submission overridden (orchestrator.assemble overridden template computed) initial ∧
        ((orchestrator.assemble overridden template computed).request initial).Carries template
          computed.entries overridden.spec.parameterOverrides initial ms := by
  have hoverrides : (overridden.spec.parameterOverrides.map Prod.fst).Nodup := by decide
  obtain ⟨carries, -, -, looks⟩ :=
    submissions_carry (o := orchestrator) (p := computed) rfl (by decide) hoverrides
  constructor
  · obtain ⟨ms, h⟩ := carries .null true
    exact ⟨ms, h.parameters, h.overridden _ _ (by decide) List.mem_cons_self, h.provisioning⟩
  · have submitted : submission overridden deployment true ∈ submissions exchanges :=
      List.mem_singleton_self _
    obtain ⟨template, initial, hread, hq⟩ := looks _ _ _ _ _ transcript submitted
    obtain ⟨ms, h⟩ := carries template initial
    exact ⟨_, _, _, transcript, submitted, template, initial, ms, hread, hq, h⟩

end DeploymentOrchestrator

end ClusterOperator
