import ClusterOperator.Cloud.Templates
import ClusterOperator.Proofs.Deployment.Checksum
import ClusterOperator.Proofs.Deployment.Course
import ClusterOperator.Proofs.Json.RoundTrip

/-!
# Templates from texts

A template may be registered as a document or as a text.  Registering the canonical text of a
document is as good as registering the document: what is found under the name is the document
up to the order of members, with the same canonical text and the same checksum
(`insertText_canonical`).

The orchestrator does not tell two such templates apart.  A program whose templates come from
a registry (`Program.supply`) makes the same requests with either of them, up to the order of
members in the templates it submits, and goes on in the same way after every reply
(`Program.Parallel`).  The argument goes through the program part by part: only `desired` asks
for a template, and what is built from it is used in its checksums and in a submission.
-/

namespace ClusterOperator

namespace Program

variable {α β : Type}

/-- The program with its templates taken from a registry. -/
def supply (t : Templates) : Program gateway α → Program gateway α
  | .done a => .done a
  | .ask (.template name) next => (next (t.find name)).supply t
  | .ask q next => .ask q fun r => (next r).supply t

/-- **Programs that cannot be told apart** but by the order of members in the templates that
they submit: they make the same requests one after another, whatever is replied, and end with
the same value. -/
inductive Parallel : Program gateway α → Program gateway α → Prop where
  | done (a : α) : Parallel (.done a) (.done a)
  | ask (q : Gateway.Request) {next next' : Gateway.Reply q → Program gateway α} :
      (∀ r, Parallel (next r) (next' r)) → Parallel (.ask q next) (.ask q next')
  | submit (resourceGroup name : String) {body body' : DeploymentRequest}
      {next next' : Except CloudFault Unit → Program gateway α} :
      body.template.Same body'.template → body.parameters = body'.parameters →
      (∀ r, Parallel (next r) (next' r)) →
      Parallel (.ask (.submit resourceGroup name body) next)
        (.ask (.submit resourceGroup name body') next')

variable {p q : Program gateway α} {f g : α → Program gateway β} {t : Templates}

theorem Parallel.refl (p : Program gateway α) : p.Parallel p := by
  induction p with
  | done a => exact .done a
  | ask q next ih => exact .ask q ih

theorem Parallel.bind (h : p.Parallel q) (hf : ∀ a, (f a).Parallel (g a)) :
    (p.bind f).Parallel (q.bind g) := by
  induction h with
  | done a => exact hf a
  | ask q _ ih => exact .ask q ih
  | submit resourceGroup name htemplate hparameters _ ih =>
    exact .submit resourceGroup name htemplate hparameters ih

/-- **Such programs run alike** under every server that does not look at the order of members
in a submitted template. -/
theorem Parallel.run_eq {σ : Type} {serve : (q : Gateway.Request) → σ → Gateway.Reply q × σ}
    (h : p.Parallel q)
    (unordered : ∀ (resourceGroup name : String) (body body' : DeploymentRequest) (s : σ),
      body.template.Same body'.template → body.parameters = body'.parameters →
        serve (.submit resourceGroup name body) s = serve (.submit resourceGroup name body') s)
    (s : σ) : p.run serve s = q.run serve s := by
  induction h generalizing s with
  | done a => rfl
  | ask q _ ih => exact ih _ _
  | submit resourceGroup name htemplate hparameters _ ih =>
    simp only [run, unordered resourceGroup name _ _ s htemplate hparameters]
    exact ih _ _

/-- Supplying templates goes through a program part by part. -/
theorem supply_bind (p : Program gateway α) (f : α → Program gateway β) :
    (p.bind f).supply t = (p.supply t).bind fun a => (f a).supply t := by
  induction p with
  | done a => rfl
  | ask q next ih =>
    cases q with
    | template name => exact ih _
    | _ => exact congrArg (Program.ask _) (funext ih)

/-- A program that asks for no template needs no supply. -/
theorem supply_of_asks (h : p.Asks fun q : Gateway.Request => ∀ name, q ≠ .template name) :
    p.supply t = p := by
  induction p with
  | done a => rfl
  | ask q next ih =>
    have hnext (r : gateway.Reply q) : (next r).supply t = next r := by
      refine ih r fun xs a hxs x hx => ?_
      exact h (⟨q, r⟩ :: xs) a (.ask r hxs) x (List.mem_cons_of_mem _ hx)
    cases q with
    | template name =>
      -- The program can end, so it does make this request.
      obtain ⟨xs, a, hxs⟩ := exists_transcript Gateway.reply_nonempty (next (t.find name))
      exact absurd rfl (h _ a (.ask _ hxs) _ List.mem_cons_self name)
    | _ => exact congrArg (Program.ask _) (funext hnext)

end Program

/-! ## Registries that agree -/

namespace Templates

variable {t t' : Templates} {name other text : String} {document : Json}

/-- **Registries agree** on what is found under each name, up to the order of members. -/
def Agree (t t' : Templates) : Prop :=
  ∀ name, t.find name = t'.find name ∨
    ∃ v w, t.find name = .ok v ∧ t'.find name = .ok w ∧ v.WellFormed ∧ v.Same w

theorem find_insert :
    (t.insert name document).find other = if other = name then .ok document else t.find other := by
  rw [find, insert, Json.findMember_setMember]
  by_cases h : other = name
  · rw [if_pos h, if_pos h]
  · rw [if_neg h, if_neg h, find]

/-- Registering a text is registering the document that it is read as. -/
theorem insertText_of_read (h : Json.read text = .ok document) :
    t.insertText name text = .ok (t.insert name document) := by
  rw [insertText, h]

/-- Registering the same document up to the order of members makes registries that agree. -/
theorem agree_insert {v w : Json} (hv : v.WellFormed) (h : v.Same w) :
    (t.insert name v).Agree (t.insert name w) := by
  intro other
  rw [find_insert, find_insert]
  by_cases hother : other = name
  · rw [if_pos hother, if_pos hother]
    exact .inr ⟨v, w, rfl, rfl, hv, h⟩
  · rw [if_neg hother, if_neg hother]
    exact .inl rfl

end Templates

/-! ## The orchestrator under registries that agree -/

/-- Deployments under one name, of templates that are the same up to the order of members. -/
structure Deployment.Alike (d e : Deployment) : Prop where
  name : d.name = e.name
  template : d.template.Same e.template
  templateChecksum : d.templateChecksum = e.templateChecksum
  parameters : d.parameters = e.parameters

/-- A step that begins with a program is followed in parallel if both parts are. -/
theorem Step.parallel_tryLift_bind {α β : Type} {p p' : Program gateway (Except Failure α)}
    {f f' : α → Step gateway β} {ctx : PassContext} {t t' : Templates}
    (h : (p.supply t).Parallel (p'.supply t'))
    (hf : ∀ a, ((f a ctx).supply t).Parallel ((f' a ctx).supply t')) :
    ((((Step.tryLift p).bind f) ctx).supply t).Parallel
      ((((Step.tryLift p').bind f') ctx).supply t') := by
  simp only [Step.bind, Step.tryLift, Program.bind_assoc, Program.supply_bind]
  refine h.bind fun r => ?_
  cases r with
  | error e => exact .done _
  | ok a => exact hf a

namespace DeploymentOrchestrator

open Program (Parallel)

variable {o : DeploymentOrchestrator} {cluster : Cluster} {ctx : PassContext} {t t' : Templates}
  {d e : Deployment} {initial : Bool}

theorem supply_desired :
    (o.desired cluster).supply t = .done (o.built cluster (t.find o.definition.templateName)) := by
  rw [desired, Program.supply_bind]
  change (Program.done (t.find o.definition.templateName)).bind _ = _
  cases t.find o.definition.templateName <;> rfl

/-- What can be built from registries that agree is alike, or fails for the same reason. -/
theorem built_of_agree (agree : t.Agree t') (name : String) :
    o.built cluster (t.find name) = o.built cluster (t'.find name) ∨
      ∃ d e, o.built cluster (t.find name) = .ok d ∧ o.built cluster (t'.find name) = .ok e ∧
        d.Alike e := by
  rcases agree name with heq | ⟨v, w, hv, hw, hwell, hsame⟩
  · exact .inl (congrArg (o.built cluster) heq)
  · rw [hv, hw]
    cases hp : o.definition.parameters cluster with
    | error fault => exact .inl (by simp only [built, Except.bind, hp, Except.map])
    | ok parameters =>
      refine .inr ⟨o.assemble cluster v parameters, o.assemble cluster w parameters, ?_, ?_, ?_⟩
      · simp only [built, Except.bind, hp, Except.map]
      · simp only [built, Except.bind, hp, Except.map]
      · exact ⟨rfl, hsame, checksum_eq_of_same hwell hsame, rfl⟩

/-- A step that begins with what is wanted goes on with deployments that are alike. -/
theorem parallel_desired_bind (agree : t.Agree t') (ctx : PassContext)
    {f : Deployment → Step gateway DeploymentOutcome}
    (hf : ∀ d e, d.Alike e → ((f d ctx).supply t).Parallel ((f e ctx).supply t')) :
    ((((Step.tryLift (o.desired cluster)).bind f) ctx).supply t).Parallel
      ((((Step.tryLift (o.desired cluster)).bind f) ctx).supply t') := by
  simp only [Step.bind, Step.tryLift, Program.bind_assoc, Program.supply_bind, supply_desired]
  have hbuilt : o.built cluster _ = o.built cluster _ ∨ _ :=
    built_of_agree agree o.definition.templateName
  rcases hbuilt with heq | ⟨d, e, hd, he, halike⟩
  · rw [heq]
    cases o.built cluster (t'.find o.definition.templateName) with
    | error fault => exact .done _
    | ok d => exact hf d d ⟨rfl, .refl _, rfl, rfl⟩
  · rw [hd, he]
    exact hf d e halike

/-- Neither a submission nor what follows it needs a template. -/
theorem supply_submit : (o.submit cluster d initial).supply t = o.submit cluster d initial := by
  refine Program.supply_of_asks fun xs r h x hx name => ?_
  rcases submit_transcript_iff.mp h with ⟨fault, rfl, -⟩ | ⟨ys, written, rfl, hwritten, -⟩
  · obtain rfl := List.mem_singleton.mp hx
    exact nofun
  · rcases List.mem_cons.mp hx with rfl | hy
    · exact nofun
    · have hupdate := StatusStore.update_requests hwritten x hy
      rintro hname
      rw [hname] at hupdate
      cases hupdate

theorem supply_recorded {condition : String} :
    (o.recorded cluster condition).supply t = o.recorded cluster condition := by
  refine Program.supply_of_asks fun xs r h x hx name => ?_
  obtain ⟨reply, rfl, -⟩ := recorded_transcript_iff.mp h
  obtain rfl := List.mem_singleton.mp hx
  exact nofun

/-- Deployments that are alike are submitted in parallel. -/
theorem parallel_submit (h : d.Alike e) :
    ((o.submit cluster d initial).supply t).Parallel ((o.submit cluster e initial).supply t') := by
  have hconditions : conditionsOf d = conditionsOf e := by
    rw [conditionsOf, conditionsOf, h.templateChecksum, Deployment.parametersChecksum, h.parameters,
      ← Deployment.parametersChecksum]
  rw [supply_submit, supply_submit, submit, submit, hconditions, h.name]
  refine .submit _ _ h.template ?_ fun reply => ?_
  · rw [Deployment.request, Deployment.request, h.parameters]
  · cases reply with
    | error fault => exact .refl _
    | ok => exact .refl _

theorem parallel_create (agree : t.Agree t') :
    ((o.create cluster ctx).supply t).Parallel ((o.create cluster ctx).supply t') := by
  refine parallel_desired_bind agree ctx fun d e halike => ?_
  exact Step.parallel_tryLift_bind (parallel_submit halike) fun _ => .done _

theorem parallel_resubmit (h : d.Alike e) :
    ((o.resubmit cluster d ctx).supply t).Parallel ((o.resubmit cluster e ctx).supply t') :=
  Step.parallel_tryLift_bind (parallel_submit h) fun _ => .done _

theorem parallel_settle {state : ProvisioningState} :
    ((o.settle cluster state ctx).supply t).Parallel ((o.settle cluster state ctx).supply t') := by
  unfold settle
  split
  · exact .done _
  · exact .done _

theorem parallel_review (agree : t.Agree t') {observed : DeploymentState} :
    ((o.review cluster observed ctx).supply t).Parallel
      ((o.review cluster observed ctx).supply t') := by
  refine parallel_desired_bind agree (publish o.definition.outputs observed.outputs ctx)
    fun d e halike => ?_
  have hrecorded (condition : String) : ((o.recorded cluster condition).supply t).Parallel
      ((o.recorded cluster condition).supply t') := by
    rw [supply_recorded, supply_recorded]
    exact .refl _
  refine Step.parallel_tryLift_bind (hrecorded _) fun template => ?_
  refine Step.parallel_tryLift_bind (hrecorded _) fun parameters => ?_
  rw [halike.templateChecksum, Deployment.parametersChecksum, halike.parameters,
    ← Deployment.parametersChecksum]
  split
  · exact parallel_settle
  · exact parallel_resubmit halike

/-- **The orchestrator does not tell registries apart** that agree: it makes the same requests,
up to the order of members in the templates it submits, and ends in the same way. -/
theorem parallel_ensureCreated (agree : t.Agree t') :
    ((o.ensureCreated cluster ctx).supply t).Parallel
      ((o.ensureCreated cluster ctx).supply t') := by
  refine .ask _ fun reply => ?_
  cases reply with
  | error fault =>
    change (((if fault.isNotFound then o.create cluster
      else Step.fail (fault.toFailure "deployments.get")) ctx).supply t).Parallel
        (((if fault.isNotFound then o.create cluster
          else Step.fail (fault.toFailure "deployments.get")) ctx).supply t')
    split
    · exact parallel_create agree
    · exact .done _
  | ok observed =>
    change (((if observed.state.isFinal then o.review cluster observed
      else o.await cluster observed.state) ctx).supply t).Parallel
        (((if observed.state.isFinal then o.review cluster observed
          else o.await cluster observed.state) ctx).supply t')
    split
    · exact parallel_review agree
    · exact .done _

end DeploymentOrchestrator

/-! ## Templates from canonical texts -/

/-- **Registering the canonical text of a document is registering the document.**  The text is
read, and what is found under the name is the document up to the order of members, with the same
canonical text and the same checksum.  So canonicalising is idempotent through a reading, and the
orchestrator does not tell which of the two was registered. -/
theorem insertText_canonical {v : Json} (h : v.Plain 127) (t : Templates) (name : String) :
    ∃ document registered, Json.read v.canonical = .ok document ∧ v.Same document ∧
      document.canonical = v.canonical ∧ checksum document = checksum v ∧
      t.insertText name v.canonical = .ok registered ∧ registered.find name = .ok document ∧
      (∀ other, other ≠ name → registered.find other = t.find other) ∧
      ∀ (o : DeploymentOrchestrator) (cluster : Cluster) (ctx : PassContext),
        ((o.ensureCreated cluster ctx).supply (t.insert name v)).Parallel
          ((o.ensureCreated cluster ctx).supply registered) := by
  have hread : Json.read v.canonical = .ok v.ordered := Json.read_canonical h
  have hsame : v.Same v.ordered := Json.same_ordered v
  have hcanonical : v.ordered.canonical = v.canonical := Json.canonical_ordered h.wellFormed
  refine ⟨v.ordered, t.insert name v.ordered, hread, hsame, hcanonical, ?_,
    Templates.insertText_of_read hread, ?_, fun other hother => ?_, fun o cluster ctx => ?_⟩
  · exact (checksum_eq_of_same h.wellFormed hsame).symm
  · rw [Templates.find_insert, if_pos rfl]
  · rw [Templates.find_insert, if_neg hother]
  · exact DeploymentOrchestrator.parallel_ensureCreated
      (Templates.agree_insert h.wellFormed hsame)

namespace Templates.Buried

/-- Marks and control characters in strings and in names, empty containers, and the least and the
greatest integer, in members that are not in order. -/
def document : Json :=
  .object [("z\"\n", .text "\x01\\/\x7f"), ("", .array []), ("a", .object []),
    ("k", .array [.number (.integer (Nat.pow 2 64 - 1)),
      .number (.integer (-(Nat.pow 2 63 : Nat)))])]

/-- A document inside so many arrays. -/
def within (document : Json) : Nat → Json
  | 0 => document
  | n + 1 => .array [within document n]

theorem plain_within {v : Json} {depth : Nat} (h : v.Plain depth) (n : Nat) :
    (within v n).Plain (depth + n) := by
  induction n with
  | zero => exact h
  | succ n ih => exact .array (by simpa using ih)

theorem plain_document : document.Plain 2 := by
  refine .object (by decide) fun m hm => ?_
  simp only [List.mem_cons, List.not_mem_nil, or_false] at hm
  rcases hm with rfl | rfl | rfl | rfl
  · exact .text _
  · exact .array nofun
  · exact .object List.nodup_nil nofun
  · refine .array fun x hx => ?_
    simp only [List.mem_cons, List.not_mem_nil, or_false] at hx
    rcases hx with rfl | rfl
    · exact .integer (by decide) (by decide)
    · exact .integer (by decide) (by decide)

end Templates.Buried

/-- A document as deep as can be read. -/
theorem insertText_canonical_of_buried : ∃ document registered,
    (Templates.Buried.within Templates.Buried.document 125).Same document ∧
      Templates.insertText {} "main"
        (Templates.Buried.within Templates.Buried.document 125).canonical = .ok registered ∧
      registered.find "main" = .ok document ∧
      checksum document = checksum (Templates.Buried.within Templates.Buried.document 125) := by
  obtain ⟨document, registered, -, hsame, -, hchecksum, hregistered, hfound, -⟩ :=
    insertText_canonical (Templates.Buried.plain_within Templates.Buried.plain_document 125) {}
      "main"
  exact ⟨document, registered, hsame, hregistered, hfound, hchecksum⟩

end ClusterOperator
