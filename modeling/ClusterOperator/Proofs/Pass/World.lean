import ClusterOperator.Operator
import ClusterOperator.Proofs.Deployment.Ledger
import ClusterOperator.Proofs.Ensures
import ClusterOperator.Proofs.Status.Concurrent
import Mathlib.Data.List.AList

/-!
# The world of one cluster

A cluster that nobody else looks after, in a world without failures: its status is stored by
nobody else, its container exists and is a map from keys to bodies, the template is registered,
and boot configurations are rendered by a function.  How the cloud answers about the deployment
is left open, and so is everything that makes no difference: the order in which objects are
listed, the times and versions of a status, what the watchdog says.

Every step of a pass is described by what it **ensures** in such a world: its result, the world
it leaves, and its **effects**, which are its requests that change anything.
-/

namespace ClusterOperator

/-! ## Effects -/

/-- The ways in which a request can change anything. -/
inductive Effect where
  | submission
  | objectWrite
  | statusWrite
  | guard
  deriving DecidableEq, Repr

/-- What a request changes, if anything. -/
def Gateway.Request.effect? : Gateway.Request → Option Effect
  | .submit _ _ _ => some .submission
  | .writeObject _ _ _ _ => some .objectWrite
  | .storeStatus _ _ _ => some .statusWrite
  | .guard _ _ _ => some .guard
  | _ => none

/-- **What was changed** in these exchanges, in order. -/
def effects (xs : List (Exchange gateway)) : List Gateway.Request :=
  (xs.map (·.request)).filter (·.effect?.isSome)

/-- The requests that change things in one way, in order. -/
def Effect.among (e : Effect) (xs : List (Exchange gateway)) : List Gateway.Request :=
  (xs.map (·.request)).filter (·.effect? = some e)

@[simp] theorem effects_append {xs ys : List (Exchange gateway)} :
    effects (xs ++ ys) = effects xs ++ effects ys := by
  simp [effects]

theorem effects_cons_of_effect {x : Exchange gateway} {xs : List (Exchange gateway)} {e : Effect}
    (h : x.request.effect? = some e) : effects (x :: xs) = x.request :: effects xs :=
  List.filter_cons_of_pos (by rw [h]; rfl)

theorem effects_cons_of_none {x : Exchange gateway} {xs : List (Exchange gateway)}
    (h : x.request.effect? = none) : effects (x :: xs) = effects xs :=
  List.filter_cons_of_neg (by rw [h]; exact nofun)

namespace Effect

variable {e other : Effect} {xs ys : List (Exchange gateway)}

@[simp] theorem among_append : e.among (xs ++ ys) = e.among xs ++ e.among ys := by
  simp [among]

/-- What changes things in one way is found among the effects. -/
theorem among_eq_filter_effects :
    e.among xs = (effects xs).filter (·.effect? = some e) := by
  rw [among, effects, List.filter_filter]
  refine List.filter_congr fun q _ => ?_
  by_cases h : q.effect? = some e
  · simp [h]
  · simp [h]

theorem among_of_effects_eq_nil (h : effects xs = []) : e.among xs = [] := by
  rw [among_eq_filter_effects, h, List.filter_nil]

theorem among_eq_effects (h : ∀ q ∈ effects xs, q.effect? = some e) : e.among xs = effects xs := by
  rw [among_eq_filter_effects]
  exact List.filter_eq_self.mpr fun q hq => decide_eq_true (h q hq)

/-- What changes things in one way does not change them in another. -/
theorem among_eq_nil (h : ∀ q ∈ effects xs, q.effect? = some other) (hne : e ≠ other) :
    e.among xs = [] := by
  rw [among_eq_filter_effects]
  refine List.filter_eq_nil_iff.mpr fun q hq => ?_
  rw [h q hq, decide_eq_true_eq, Option.some.injEq]
  exact Ne.symm hne

end Effect

/-! ## The world -/

/-- What does not change around a cluster. -/
structure Site where
  template : Json
  render : BootInput → String

/-- **The world of a cluster**: what the cloud has of the deployment, the stored status with the
token of its version, and the objects in the container. -/
structure World (γ : Type) where
  cloud : γ
  status : Status
  version : Option String
  objects : AList fun _ : String => String

namespace World

variable {γ : Type} (site : Site) (cloud : γ → Exchange gateway → γ → Prop)

/-- **How the world answers.** -/
def Answers (w : World γ) : Exchange gateway → World γ → Prop
  | ⟨.lookUp group name, r⟩, w' =>
    ∃ c, cloud w.cloud ⟨.lookUp group name, r⟩ c ∧ w' = { w with cloud := c }
  | ⟨.submit group name body, r⟩, w' =>
    ∃ c, cloud w.cloud ⟨.submit group name body, r⟩ c ∧ w' = { w with cloud := c }
  | ⟨.template _, r⟩, w' => r = .ok site.template ∧ w' = w
  | ⟨.loadStatus _, r⟩, w' => (∃ readAt, r = .ok ⟨w.status, w.version, readAt⟩) ∧ w' = w
  | ⟨.storeStatus name status version, r⟩, w' =>
    if version = w.version then
      r = .ok () ∧ ∃ fresh, w' = { w with status := status, version := fresh }
    else r = .error (.conflict name) ∧ w' = w
  | ⟨.containerExists _ _, r⟩, w' => r = .ok true ∧ w' = w
  | ⟨.listObjects _ _, r⟩, w' => (∃ keys, r = .ok keys ∧ keys.Perm w.objects.keys) ∧ w' = w
  | ⟨.readObject _ _ key, r⟩, w' =>
    (match w.objects.lookup key with
      | some body => r = .ok body
      | none => ∃ e, r = .error e ∧ e.isNotFound = true ∧ e.isStorageNotReady = false) ∧ w' = w
  | ⟨.writeObject _ _ key body, r⟩, w' =>
    r = .ok () ∧ w' = { w with objects := w.objects.insert key body }
  | ⟨.render input, r⟩, w' => r = .ok (site.render input) ∧ w' = w
  | ⟨.guard _ _ _, _⟩, w' => w' = w
  | ⟨.draw, _⟩, w' => w' = w
  | ⟨.pause _, _⟩, w' => w' = w

/-- A cloud that answers whenever it is asked about the deployment. -/
structure Responsive : Prop where
  lookUp : ∀ c group name, ∃ r c', cloud c ⟨.lookUp group name, r⟩ c'
  submit : ∀ c group name body, ∃ r c', cloud c ⟨.submit group name body, r⟩ c'

variable {site cloud} {w : World γ}

/-- The world answers whatever it is asked. -/
theorem exists_answer (responsive : Responsive cloud) (w : World γ) (q : Gateway.Request) :
    ∃ r w', Answers site cloud w ⟨q, r⟩ w' := by
  cases q with
  | lookUp group name =>
    obtain ⟨r, c, h⟩ := responsive.lookUp w.cloud group name
    exact ⟨r, _, c, h, rfl⟩
  | submit group name body =>
    obtain ⟨r, c, h⟩ := responsive.submit w.cloud group name body
    exact ⟨r, _, c, h, rfl⟩
  | template => exact ⟨_, w, rfl, rfl⟩
  | loadStatus => exact ⟨_, w, ⟨default, rfl⟩, rfl⟩
  | storeStatus name status version =>
    by_cases h : version = w.version
    · exact ⟨.ok (), _, (if_pos h).mpr ⟨rfl, w.version, rfl⟩⟩
    · exact ⟨.error (.conflict name), w, (if_neg h).mpr ⟨rfl, rfl⟩⟩
  | containerExists => exact ⟨_, w, rfl, rfl⟩
  | listObjects => exact ⟨_, w, ⟨w.objects.keys, rfl, .refl _⟩, rfl⟩
  | readObject account container key =>
    cases h : w.objects.lookup key with
    | some body => exact ⟨.ok body, w, by simp [Answers, h]⟩
    | none =>
      refine ⟨.error (.notFound "BlobNotFound" ""), w, ?_⟩
      simp only [Answers, h]
      exact ⟨⟨_, rfl, rfl, by decide⟩, trivial⟩
  | writeObject => exact ⟨.ok (), _, rfl, rfl⟩
  | render => exact ⟨_, w, rfl, rfl⟩
  | guard => exact ⟨true, w, rfl⟩
  | draw => exact ⟨default, w, rfl⟩
  | pause => exact ⟨(), w, rfl⟩

/-! ## The status -/

section

variable {name : String} {retry : Backoff} {mutate : Mutation}

/-- **What an update does**: it finds nothing to change, or writes what the mutation makes of
the status. -/
inductive Updated (mutate : Mutation) (w : World γ) :
    List (Exchange gateway) → Except Failure Bool → World γ → Prop where
  | unchanged (now : Instant) (xs : List (Exchange gateway)) :
      (mutate now w.status).1 = false → effects xs = [] → Updated mutate w xs (.ok false) w
  | written (now : Instant) (xs : List (Exchange gateway)) (name : String)
      (fresh : Option String) : (mutate now w.status).1 = true →
      effects xs = [.storeStatus name (mutate now w.status).2 w.version] →
      Updated mutate w xs (.ok true)
        { w with status := (mutate now w.status).2, version := fresh }

/-- The first attempt at an update succeeds. -/
theorem ensures_update :
    (gatewayStore.update name retry mutate).Ensures (Answers site cloud) w
      (Updated mutate w) := by
  obtain ⟨steps, hsteps⟩ := Nat.exists_eq_add_one.mpr (Retry.countable_pos (b := retry))
  have hupdate : gatewayStore.update name retry mutate =
      (Gateway.call (.loadStatus name)).bind (StatusStore.hasRead name retry mutate steps 1) := by
    have hattempting : gatewayStore.update name retry mutate =
        StatusStore.attempting name retry mutate (Retry.countable retry) 1 := rfl
    rw [hattempting, hsteps]
    exact StatusStore.attempting_succ
  rw [hupdate]
  refine Program.ensures_call_bind_iff.mpr ?_
  rintro _ _ ⟨⟨readAt, rfl⟩, rfl⟩
  dsimp only [StatusStore.hasRead]
  split
  · rename_i changed
    refine Program.ensures_call_bind_iff.mpr fun reply w' hstore => ?_
    obtain ⟨rfl, fresh, rfl⟩ := (if_pos rfl).mp hstore
    exact Program.ensures_done_iff.mpr (.written readAt _ name fresh changed rfl)
  · rename_i unchanged
    exact Program.ensures_done_iff.mpr
      (.unchanged readAt _ (Bool.eq_false_iff.mpr unchanged) rfl)

/-- **What setting a phase does**: it is set, and nothing else is touched; one that is set
already is not written again. -/
structure PhaseSet (phase : Phase) (message : Option String) (w : World γ)
    (xs : List (Exchange gateway)) (w' : World γ) : Prop where
  phase_eq : w'.status.phase = phase
  message_eq : w'.status.message = message
  checksums : w'.status.checksums = w.status.checksums
  objects : w'.objects = w.objects
  cloud : w'.cloud = w.cloud
  stores : ∀ q ∈ effects xs, q.effect? = some .statusWrite
  idle : w.status.phase = phase → w.status.message = message → effects xs = []

theorem ensures_setPhase {o : Operator gateway} (gated : o.status = gatewayStore) {phase : Phase}
    {message : Option String} :
    (o.setPhase name phase message).Ensures (Answers site cloud) w
      fun xs r w' => (∃ written, r = .ok written) ∧ PhaseSet phase message w xs w' := by
  rw [Operator.setPhase, gated]
  refine ensures_update.mono fun xs r w' h => ?_
  by_cases hset : w.status.phase = phase ∧ w.status.message = message
  · have hunchanged : ∀ now, Operator.phaseMutation phase message now w.status =
        (false, w.status) := fun _ => if_pos hset
    cases h with
    | unchanged now _ _ heffects =>
      exact ⟨⟨_, rfl⟩, hset.1, hset.2, rfl, rfl, rfl, by simp [heffects], fun _ _ => heffects⟩
    | written now _ name fresh changed =>
      rw [hunchanged] at changed
      cases changed
  · have hchanged : ∀ now, Operator.phaseMutation phase message now w.status =
        (true, { w.status with phase := phase, message := message }) := fun _ => if_neg hset
    cases h with
    | unchanged now _ unchanged =>
      rw [hchanged] at unchanged
      cases unchanged
    | written now _ name fresh _ heffects =>
      rw [hchanged] at heffects ⊢
      refine ⟨⟨_, rfl⟩, rfl, rfl, rfl, rfl, rfl, ?_, fun hphase hmessage => ?_⟩
      · rw [heffects]
        exact List.forall_mem_singleton.mpr rfl
      · exact absurd ⟨hphase, hmessage⟩ hset

end

/-! ## The deployment -/

section

variable {o : DeploymentOrchestrator} {cluster : Cluster} {ctx : PassContext} {d : Deployment}
  {initial : Bool} {state : ProvisioningState} {observed : DeploymentState}

open DeploymentOrchestrator

theorem ensures_desired
    (made : (o.definition.parameters cluster).map (o.assemble cluster site.template) = .ok d) :
    (o.desired cluster).Ensures (Answers site cloud) w fun xs r w' =>
      r = .ok d ∧ effects xs = [] ∧ w' = w := by
  refine Program.ensures_call_bind_iff.mpr ?_
  rintro _ _ ⟨rfl, rfl⟩
  exact Program.ensures_done_iff.mpr ⟨made, rfl, rfl⟩

theorem ensures_recorded {condition : String} :
    (o.recorded cluster condition).Ensures (Answers site cloud) w fun xs r w' =>
      r = .ok (w.status.condition? (o.deploymentName cluster) condition) ∧
        effects xs = [] ∧ w' = w := by
  refine Program.ensures_call_bind_iff.mpr ?_
  rintro _ _ ⟨⟨readAt, rfl⟩, rfl⟩
  exact Program.ensures_done_iff.mpr ⟨rfl, rfl, rfl⟩

/-- A cloud that accepts whatever is submitted. -/
def Accepting (cloud : γ → Exchange gateway → γ → Prop) : Prop :=
  ∀ c group name body r c', cloud c ⟨.submit group name body, r⟩ c' → r = .ok ()

/-- **What a submission does** that is accepted: both checksums are recorded. -/
structure Submitted (cloud : γ → Exchange gateway → γ → Prop) (cluster : Cluster)
    (d : Deployment) (initial : Bool) (w : World γ) (xs : List (Exchange gateway))
    (w' : World γ) : Prop where
  accepted : cloud w.cloud
    ⟨.submit cluster.resourceGroup d.name (d.request initial), .ok ()⟩ w'.cloud
  checksums : w'.status.checksums d.name = (some d.templateChecksum, some d.parametersChecksum)
  objects : w'.objects = w.objects
  only : ∃ stores, effects xs =
      .submit cluster.resourceGroup d.name (d.request initial) :: stores ∧
    ∀ q ∈ stores, q.effect? = some .statusWrite

theorem ensures_submit (accepts : Accepting cloud) :
    (o.submit cluster d initial).Ensures (Answers site cloud) w fun xs r w' =>
      r = .ok () ∧ Submitted cloud cluster d initial w xs w' := by
  refine Program.ensures_call_bind_iff.mpr ?_
  rintro reply _ ⟨c, hcloud, rfl⟩
  obtain rfl := accepts _ _ _ _ _ _ hcloud
  refine Program.ensures_map_iff.mpr (ensures_update.mono fun xs r w' h => ?_)
  cases h with
  | unchanged now _ unchanged heffects =>
    refine ⟨rfl, hcloud, ?_, rfl, effects xs, effects_cons_of_effect rfl, by simp [heffects]⟩
    rw [← Ledger.record_self (l := w.status.checksums)]
    exact congrFun (record_of_unchanged unchanged).symm d.name
  | written now _ name fresh _ heffects =>
    refine ⟨rfl, hcloud, ?_, rfl, effects xs, effects_cons_of_effect rfl, ?_⟩
    · exact (congrFun checksums_setConditions d.name).trans Ledger.record_self
    · rw [heffects]
      exact List.forall_mem_singleton.mpr rfl

/-- A deployment that does not exist is submitted for the first time. -/
theorem ensures_create (accepts : Accepting cloud)
    (made : (o.definition.parameters cluster).map (o.assemble cluster site.template) = .ok d) :
    (o.create cluster).Ensures (Answers site cloud) ctx w fun xs r after w' =>
      r = .ok (.submitted true) ∧ after.isCanceled = true ∧
        Submitted cloud cluster d true w xs w' := by
  simp only [create, Step.bind_eq_bind]
  refine Step.ensures_tryLift_bind_ok (ensures_desired made) ?_
  rintro xs _ ⟨hxs, rfl⟩
  refine Step.ensures_tryLift_bind_ok (ensures_submit accepts) ?_
  rintro ys w' ⟨accepted, checksums, objects, only⟩
  refine Step.ensures_cancel_bind_iff.mpr (Step.ensures_pure_iff.mpr ?_)
  refine ⟨rfl, PassContext.isCanceled_cancel, accepted, checksums, objects, ?_⟩
  simpa [hxs] using only

/-- A deployment that has not ended is waited for. -/
theorem ensures_await :
    (o.await cluster state).Ensures (Answers site cloud) ctx w fun xs r after w' =>
      r = .ok (.inProgress state) ∧ after.isCanceled = true ∧ effects xs = [] ∧ w' = w := by
  simp only [await, Step.bind_eq_bind]
  refine Step.ensures_cancel_bind_iff.mpr (Step.ensures_pure_iff.mpr ?_)
  exact ⟨rfl, PassContext.isCanceled_cancel, rfl, rfl⟩

/-- A deployment that succeeded, and whose checksums are recorded, is left as it is. -/
theorem ensures_review (succeeded : observed.state = .succeeded)
    (made : (o.definition.parameters cluster).map (o.assemble cluster site.template) = .ok d)
    (recorded : w.status.checksums d.name =
      (some d.templateChecksum, some d.parametersChecksum)) :
    (o.review cluster observed).Ensures (Answers site cloud) ctx w fun xs r after w' =>
      r = .ok .upToDate ∧ after = publish o.definition.outputs observed.outputs ctx ∧
        effects xs = [] ∧ w' = w := by
  obtain ⟨htemplate, hparameters⟩ := Prod.mk.inj recorded
  rw [name_of_assemble made] at htemplate hparameters
  simp only [review, Step.bind_eq_bind]
  refine Step.ensures_modify_bind_iff.mpr ?_
  refine Step.ensures_tryLift_bind_ok (ensures_desired made) ?_
  rintro xs _ ⟨hxs, rfl⟩
  refine Step.ensures_tryLift_bind_ok ensures_recorded ?_
  rintro ys _ ⟨hys, rfl⟩
  refine Step.ensures_tryLift_bind_ok ensures_recorded ?_
  rintro zs _ ⟨hzs, rfl⟩
  rw [if_pos ⟨htemplate, hparameters⟩, settle, succeeded]
  exact Step.ensures_pure_iff.mpr ⟨rfl, rfl, by simp [hxs, hys, hzs], rfl⟩

end

/-! ## The guards -/

/-- Guards change nothing but what is guarded. -/
theorem ensures_guardAll {watchdog : Nat} {group : String} {scaleSets : List String} :
    (ClusterResource.guardAll watchdog group scaleSets).Ensures (Answers site cloud) w
      fun xs _ w' => w' = w ∧ ∀ q ∈ effects xs, q.effect? = some .guard := by
  induction scaleSets with
  | nil => exact Program.ensures_done_iff.mpr ⟨rfl, nofun⟩
  | cons scaleSet rest ih =>
    refine Program.ensures_call_bind_iff.mpr ?_
    rintro new _ rfl
    refine ih.mono fun xs _ w' h => ⟨h.1, ?_⟩
    rw [effects_cons_of_effect rfl]
    exact List.forall_mem_cons.mpr ⟨rfl, h.2⟩

end World

end ClusterOperator
