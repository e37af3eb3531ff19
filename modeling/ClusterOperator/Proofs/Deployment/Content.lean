import ClusterOperator.Proofs.Deployment.Checksum
import ClusterOperator.Proofs.Deployment.Review
import ClusterOperator.Proofs.Deployment.Submissions

/-!
# What is submitted and what is compared

The checksums are taken over the template and the parameters; what is submitted is the
template and the parameters with one more, which says whether the submission is the first.
That one takes the place of a parameter that has its name.  So two deployments that are
submitted alike have the same checksums if, besides, they agree in a parameter of that name
(`checksums_eq_iff_submittedAlike`): nobody sends it, and it is compared all the same.
-/

namespace ClusterOperator

open Json (WellFormed Same)

/-! ## Parameters -/

namespace Parameters

variable {p q : Parameters} {name n : String} {value : Json} {entries : List (String × Json)}

theorem find?_insert :
    (p.insert name value).find? n = if n = name then some value else p.find? n :=
  Json.findMember_setMember

theorem wellFormed_insert (hp : p.toJson.WellFormed) (hvalue : value.WellFormed) :
    (p.insert name value).toJson.WellFormed := by
  refine .object (Json.nodup_names_setMember hp.names) fun m hm => ?_
  rcases Json.mem_setMember hm with rfl | hm
  · exact hvalue
  · exact hp.value m hm

theorem wellFormed_insertAll (hp : p.toJson.WellFormed)
    (hentries : ∀ e ∈ entries, e.2.WellFormed) : (p.insertAll entries).toJson.WellFormed := by
  induction entries generalizing p with
  | nil => exact hp
  | cons e entries ih =>
    rw [List.forall_mem_cons] at hentries
    exact ih (wellFormed_insert hp hentries.1) hentries.2

/-- Parameters are the same documents if they agree under every name. -/
theorem same_iff (hp : p.toJson.WellFormed) (hq : q.toJson.WellFormed) :
    p.toJson.Same q.toJson ↔ ∀ name, Option.Rel Same (p.find? name) (q.find? name) :=
  Json.same_object_iff hp.names hq.names

/-- The form in which a parameter is submitted. -/
def wrap (value : Json) : Json := .object [("value", value)]

/-- The parameters in the form in which they are submitted. -/
def wrapped (p : Parameters) : Parameters := ⟨p.entries.map fun e => (e.1, wrap e.2)⟩

theorem toWire_eq : p.toWire = p.wrapped.toJson := rfl

theorem find?_wrapped : p.wrapped.find? name = (p.find? name).map wrap :=
  Json.findMember_map wrap

theorem wellFormed_wrapped (hp : p.toJson.WellFormed) : p.wrapped.toJson.WellFormed := by
  have hnames : p.wrapped.entries.map Prod.fst = p.entries.map Prod.fst := by
    rw [wrapped, List.map_map]
    rfl
  refine .object (hnames ▸ hp.names) fun m hm => ?_
  obtain ⟨e, he, rfl⟩ := List.mem_map.mp hm
  exact .object (by simp) (List.forall_mem_singleton.mpr (hp.value e he))

theorem same_wrap_iff {v w : Json} : (wrap v).Same (wrap w) ↔ v.Same w := by
  rw [wrap, wrap, Json.same_object_iff (by simp) (by simp)]
  constructor
  · intro h
    have hvalue := h "value"
    rw [Json.findMember_cons, Json.findMember_cons, if_pos rfl, if_pos rfl] at hvalue
    exact Option.rel_some_some.mp hvalue
  · intro h name
    rw [Json.findMember_cons, Json.findMember_cons]
    split
    · exact .some h
    · exact .none

/-- Wrapping every value hides no difference and makes none. -/
theorem same_toWire_iff (hp : p.toJson.WellFormed) (hq : q.toJson.WellFormed) :
    p.toWire.Same q.toWire ↔ p.toJson.Same q.toJson := by
  rw [toWire_eq, toWire_eq, same_iff (wellFormed_wrapped hp) (wellFormed_wrapped hq),
    same_iff hp hq]
  refine forall_congr' fun name => ?_
  rw [find?_wrapped, find?_wrapped]
  cases p.find? name <;> cases q.find? name <;> simp [same_wrap_iff]

end Parameters

/-! ## Submissions -/

/-- Submissions are the same documents if their templates and their parameters are. -/
theorem DeploymentRequest.same_iff {r s : DeploymentRequest} :
    r.toJson.Same s.toJson ↔ r.template.Same s.template ∧ r.parameters.Same s.parameters := by
  rw [toJson, toJson, Json.same_object_iff (by simp) (by simp)]
  constructor
  · intro h
    have htemplate := h "template"
    have hparameters := h "parameters"
    simp only [Json.findMember_cons, String.reduceEq, reduceIte, Option.rel_some_some]
      at htemplate hparameters
    exact ⟨htemplate, hparameters⟩
  · rintro ⟨htemplate, hparameters⟩ name
    simp only [Json.findMember_cons]
    split
    · exact .some (.refl _)
    · split
      · exact .some htemplate
      · split
        · exact .some hparameters
        · exact .none

namespace Deployment

variable {d e : Deployment}

/-- What a submission says about whether it is the first. -/
theorem initialProvisioning_request {initial : Bool} :
    (d.request initial).parameters.member? initialProvisioning =
      some (Parameters.wrap (.text (if initial then "Yes" else "No"))) := by
  change (Parameters.wrapped _).find? initialProvisioning = _
  rw [Parameters.find?_wrapped, Parameters.find?_insert, if_pos rfl]
  rfl

/-- A deployment of well-formed documents. -/
structure WellFormed (d : Deployment) : Prop where
  template : d.template.WellFormed
  parameters : d.parameters.toJson.WellFormed

/-- Both would be submitted again with the same document. -/
def SubmittedAlike (d e : Deployment) : Prop :=
  (d.request false).toJson.Same (e.request false).toJson

/-- They agree in the parameter that a submission replaces. -/
def ReplacedAlike (d e : Deployment) : Prop :=
  Option.Rel Same (d.parameters.find? initialProvisioning) (e.parameters.find? initialProvisioning)

/-- No two of the texts that are compared collide. -/
structure Distinguished (d e : Deployment) : Prop where
  template : Sha256.Separates d.template.canonical e.template.canonical
  parameters : Sha256.Separates d.parameters.toJson.canonical e.parameters.toJson.canonical

theorem checksums_eq_iff (hd : d.WellFormed) (he : e.WellFormed) (h : Distinguished d e) :
    d.checksums = e.checksums ↔
      d.template.Same e.template ∧ d.parameters.toJson.Same e.parameters.toJson := by
  rw [checksums, checksums, Prod.mk.injEq, templateChecksum, templateChecksum,
    parametersChecksum, parametersChecksum,
    checksum_eq_iff hd.template he.template h.template,
    checksum_eq_iff hd.parameters he.parameters h.parameters]

/-- Deployments are submitted alike if they agree in the template and in every parameter but
the one that the submission replaces. -/
theorem submittedAlike_iff (hd : d.WellFormed) (he : e.WellFormed) :
    SubmittedAlike d e ↔ d.template.Same e.template ∧ ∀ name, name ≠ initialProvisioning →
      Option.Rel Same (d.parameters.find? name) (e.parameters.find? name) := by
  have hsent : ∀ {c : Deployment}, c.WellFormed →
      (c.parameters.insert initialProvisioning (.text "No")).toJson.WellFormed := fun hc =>
    Parameters.wellFormed_insert hc.parameters (.text "No")
  have hparameters : (d.request false).parameters.Same (e.request false).parameters ↔
      ∀ name, name ≠ initialProvisioning →
        Option.Rel Same (d.parameters.find? name) (e.parameters.find? name) := by
    refine (Parameters.same_toWire_iff (hsent hd) (hsent he)).trans ?_
    rw [Parameters.same_iff (hsent hd) (hsent he)]
    refine forall_congr' fun name => ?_
    rw [Parameters.find?_insert, Parameters.find?_insert]
    by_cases hname : name = initialProvisioning
    · rw [if_pos hname, if_pos hname]
      exact iff_of_true (.some (.refl _)) fun hne => absurd hname hne
    · rw [if_neg hname, if_neg hname]
      exact ⟨fun h _ => h, fun h => h hname⟩
  exact DeploymentRequest.same_iff.trans (and_congr Iff.rfl hparameters)

/-- Deployments are the same if they are submitted alike, and agree in the parameter that is
replaced then. -/
theorem same_iff (hd : d.WellFormed) (he : e.WellFormed) :
    d.template.Same e.template ∧ d.parameters.toJson.Same e.parameters.toJson ↔
      SubmittedAlike d e ∧ ReplacedAlike d e := by
  rw [submittedAlike_iff hd he, Parameters.same_iff hd.parameters he.parameters]
  constructor
  · rintro ⟨htemplate, hall⟩
    exact ⟨⟨htemplate, fun name _ => hall name⟩, hall initialProvisioning⟩
  · rintro ⟨⟨htemplate, hothers⟩, hreplaced⟩
    refine ⟨htemplate, fun name => ?_⟩
    by_cases hname : name = initialProvisioning
    · exact hname ▸ hreplaced
    · exact hothers name hname

end Deployment

/-! ## What the comparison compares -/

namespace DeploymentOrchestrator

variable {o : DeploymentOrchestrator} {cluster : Cluster} {sent wanted : Deployment}

/-- The deployment of well-formed documents is well-formed, overrides included. -/
theorem wellFormed_assemble {template : Json} {parameters : Parameters}
    (htemplate : template.WellFormed) (hparameters : parameters.toJson.WellFormed)
    (hoverrides : ∀ e ∈ cluster.spec.parameterOverrides, e.2.WellFormed) :
    (o.assemble cluster template parameters).WellFormed :=
  ⟨htemplate, Parameters.wellFormed_insertAll hparameters hoverrides⟩

/-- A review finds its deployment unchanged if the recorded checksums are those of what it
wants. -/
theorem Review.unchanged_iff (v : Review o cluster)
    (hrecorded : v.recorded = (some sent.templateChecksum, some sent.parametersChecksum)) :
    v.Unchanged ↔ sent.checksums = v.wanted.checksums := by
  rw [Unchanged, hrecorded, Deployment.checksums, Deployment.checksums]
  simp only [Prod.mk.injEq, Option.some.injEq]

/-- **The checksums compare** what is submitted, and besides it the parameter that every
submission replaces.  So a review submits its deployment again if and only if what it would
submit differs from what was sent, or the two disagree in that parameter. -/
theorem checksums_eq_iff_submittedAlike (hsent : sent.WellFormed) (hwanted : wanted.WellFormed)
    (h : sent.Distinguished wanted) :
    (sent.checksums = wanted.checksums ↔ sent.SubmittedAlike wanted ∧ sent.ReplacedAlike wanted) ∧
      ∀ (o : DeploymentOrchestrator) (cluster : Cluster) (v : Review o cluster)
        (ctx after : PassContext) (rest : List (Exchange gateway))
        (r : Except Failure DeploymentOutcome),
        v.wanted = wanted →
        v.recorded = (some sent.templateChecksum, some sent.parametersChecksum) →
        (o.ensureCreated cluster).Transcript ctx (v.reads ++ rest) r after →
        ((∃ reply, v.submission reply ∈ rest) ↔
          ¬(sent.SubmittedAlike wanted ∧ sent.ReplacedAlike wanted)) := by
  have compared : sent.checksums = wanted.checksums ↔
      sent.SubmittedAlike wanted ∧ sent.ReplacedAlike wanted :=
    (Deployment.checksums_eq_iff hsent hwanted h).trans (Deployment.same_iff hsent hwanted)
  refine ⟨compared, ?_⟩
  rintro o cluster v ctx after rest r rfl hrecorded htranscript
  rw [Review.submits_iff htranscript, v.unchanged_iff hrecorded, compared]

/-! ## A parameter that is compared and never sent

An override sets the parameter that every submission replaces, to the very value that is
submitted the next time anyway. -/

namespace Override

/-- An orchestrator whose definition computes no parameters. -/
def bare : DeploymentOrchestrator where
  definition := { MainDeployment.definition {} with parameters := fun _ => .ok {} }

/-- The cluster with an override. -/
def overridden : Cluster :=
  { production with
    spec := { production.spec with parameterOverrides := [(initialProvisioning, .text "No")] } }

def without : Deployment := bare.assemble production .null {}

def withOverride : Deployment := bare.assemble overridden .null {}

theorem wellFormed_without : without.WellFormed :=
  wellFormed_assemble .null (.object .nil nofun) nofun

theorem wellFormed_withOverride : withOverride.WellFormed :=
  wellFormed_assemble .null (.object .nil nofun)
    (List.forall_mem_singleton.mpr (.text "No"))

/-- They are submitted with the same document. -/
theorem submittedAlike : without.SubmittedAlike withOverride := .refl _

set_option maxRecDepth 100000 in
theorem parametersChecksum_ne : without.parametersChecksum ≠ withOverride.parametersChecksum := by
  decide +kernel

theorem distinguished : without.Distinguished withOverride where
  template := fun _ => rfl
  parameters := fun h => absurd h parametersChecksum_ne

theorem not_replacedAlike : ¬without.ReplacedAlike withOverride := nofun

/-- A review of the cluster with the override, after the deployment without was recorded. -/
def review : Review bare overridden where
  observed := ⟨.succeeded, .null⟩
  template := .null
  first := ⟨recordOf without, some "1", default⟩
  second := ⟨recordOf without, some "1", default⟩
  wanted := withOverride
  ended := rfl
  made := rfl

theorem recorded_review :
    review.recorded = (some without.templateChecksum, some without.parametersChecksum) :=
  Prod.ext (templateChecksum_recordOf (d := without)) (parametersChecksum_recordOf (d := without))

/-- The cloud may refuse what the review submits. -/
theorem exists_refusal (fault : CloudFault) : ∃ r after,
    (bare.ensureCreated overridden).Transcript {}
      (review.reads ++ [review.submission (.error fault)]) r after := by
  have changed : ¬review.Unchanged := by
    rw [review.unchanged_iff recorded_review]
    exact fun hequal => parametersChecksum_ne (congrArg Prod.snd hequal)
  refine ⟨.error (fault.toFailure "deployments.create_or_update"),
    publish bare.definition.outputs .null {}, (Review.transcript_of_changed changed).mpr ?_⟩
  refine Step.transcript_tryLift_bind_iff.mpr (.inl ⟨_, ?_, rfl, rfl⟩)
  exact submit_transcript_iff.mpr (.inl ⟨fault, rfl, rfl⟩)

end Override

/-- What the checksums of two deployments compare that are submitted alike and are not the
same. -/
theorem checksums_eq_iff_submittedAlike_of_override :
    Override.without.SubmittedAlike Override.withOverride ∧
      Override.without.checksums ≠ Override.withOverride.checksums ∧
      ∃ rest r after, (Override.bare.ensureCreated Override.overridden).Transcript {}
          (Override.review.reads ++ rest) r after ∧
        ∃ reply, Override.review.submission reply ∈ rest := by
  obtain ⟨hcompared, hreviews⟩ := checksums_eq_iff_submittedAlike Override.wellFormed_without
    Override.wellFormed_withOverride Override.distinguished
  have hdiffer : ¬(Override.without.SubmittedAlike Override.withOverride ∧
      Override.without.ReplacedAlike Override.withOverride) :=
    fun h => Override.not_replacedAlike h.2
  obtain ⟨r, after, htranscript⟩ := Override.exists_refusal (.notFound "ParentNotFound" "no group")
  refine ⟨Override.submittedAlike, fun hequal => hdiffer (hcompared.mp hequal),
    _, r, after, htranscript, ?_⟩
  exact (hreviews _ _ _ _ _ _ _ rfl Override.recorded_review htranscript).mpr hdiffer

/-- **What is compared is not always what is submitted.** -/
theorem not_always_compared_as_submitted :
    ¬∀ (o : DeploymentOrchestrator) (c₁ c₂ : Cluster) (t₁ t₂ : Json) (d e : Deployment),
      (o.definition.parameters c₁).map (o.assemble c₁ t₁) = .ok d →
      (o.definition.parameters c₂).map (o.assemble c₂ t₂) = .ok e →
      d.name = e.name → d.WellFormed → e.WellFormed → d.Distinguished e →
      (d.checksums = e.checksums ↔ d.SubmittedAlike e) := by
  intro always
  have hequal := (always Override.bare production Override.overridden .null .null
    Override.without Override.withOverride rfl rfl rfl Override.wellFormed_without
    Override.wellFormed_withOverride Override.distinguished).mpr Override.submittedAlike
  exact Override.parametersChecksum_ne (congrArg Prod.snd hequal)

end DeploymentOrchestrator

end ClusterOperator
