import Mathlib.Data.List.Chain
import ClusterOperator.Operator
import ClusterOperator.Proofs.Deployment.Course
import ClusterOperator.Proofs.Pass.Progress
import ClusterOperator.Proofs.Status.Update

/-!
# What a pass does, and what is recorded of it

A pass pays one **visit** after another.  A visit takes the context where the visit before left
it, and is followed by another only if it completes: it has neither failed nor left the context
canceled.  So the last visit decides how the pass ends, and its failure counts more than its
cancellation (`exists_account`).  Nothing is said of what a resource does with its context,
except that the first of several reasons for canceling stands.

What the operator does afterwards is a function of how the pass ended: it attempts to record one
phase, or nothing (`phaseOf`).  An attempt is an update of the status, so it may conflict and
fail in all the ways in which an update can (`Attempts`).  A status that is read with another
phase or message is written with these and nothing else changed, and one that has them already is
left alone; so whatever is written has the entries of the resources as they were read
(`concludes_of_transcript`).
-/

namespace ClusterOperator

/-- **What a pass did with one resource.** -/
structure Visit (I : Interface) where
  resource : ClusterResource I
  before : PassContext
  exchanges : List (Exchange I)
  result : Except Failure Unit
  after : PassContext

namespace Visit

variable {I : Interface} (v : Visit I)

/-- The visit is one of the ways in which the resource can go. -/
def Genuine (cluster : Cluster) : Prop :=
  (v.resource.ensureCreated cluster).Transcript v.before v.exchanges v.result v.after

/-- The resource has neither failed nor left the context canceled. -/
def Completes : Prop := v.result = .ok () ∧ v.after.cancelReason = none

/-- Whatever the resource called on its context, this is the first reason that it gave. -/
def GivesFirst (reason : String) : Prop :=
  ∀ calls, v.after = v.before.afterCalls calls →
    calls.findSome? ContextCall.reason? = some reason

variable {v}

theorem givesFirst_of_cancelReason {reason : String} (fresh : v.before.cancelReason = none)
    (h : v.after.cancelReason = some reason) : v.GivesFirst reason := by
  intro calls hcalls
  rw [hcalls, PassContext.cancelReason_afterCalls, fresh, Option.none_or] at h
  exact h

end Visit

namespace ResourceSet

variable {I : Interface}

/-- How a pass over resources ends, by its visits. -/
inductive Ends (resources : List (ClusterResource I)) :
    List (Visit I) → Except Failure PassOutcome → Prop where
  /-- The last resource failed, whether or not it canceled the pass too. -/
  | failed (visits : List (Visit I)) {v : Visit I} {e : Failure} : v.result = .error e →
      Ends resources (visits ++ [v]) (.error e)
  /-- The last resource canceled the pass. -/
  | canceled (visits : List (Visit I)) {v : Visit I} {reason : String} : v.result = .ok () →
      v.after.cancelReason = some reason → v.GivesFirst reason →
      Ends resources (visits ++ [v]) (.ok (.canceled v.resource.name reason))
  /-- Every resource was visited, and completed. -/
  | completed {visits : List (Visit I)} : visits.map (·.resource) = resources →
      (∀ v ∈ visits, v.Completes) → Ends resources visits (.ok .completed)

/-- **The visits of a pass** over resources, from a context. -/
structure Account (cluster : Cluster) (start : PassContext) (resources : List (ClusterResource I))
    (xs : List (Exchange I)) (r : Except Failure PassOutcome) (visits : List (Visit I)) :
    Prop where
  genuine : ∀ v ∈ visits, v.Genuine cluster
  inOrder : visits.map (·.resource) <+: resources
  starts : ∀ v ∈ visits.head?, v.before = start
  /-- A resource is visited only after one that completed, from where that one left off. -/
  goesOn : visits.IsChain fun v w => v.Completes ∧ w.before = v.after
  /-- Nothing is asked but by the resources that are visited. -/
  asks : xs = visits.flatMap (·.exchanges)
  ends : Ends resources visits r

variable {set : ResourceSet I} {cluster : Cluster} {start : PassContext}
  {resources rest : List (ClusterResource I)} {xs ys : List (Exchange I)}
  {r : Except Failure PassOutcome} {visits : List (Visit I)} {v : Visit I}

/-! ## A pass goes by its visits -/

theorem Account.nil : Account cluster start [] ([] : List (Exchange I)) (.ok .completed) [] where
  genuine := by simp
  inOrder := List.nil_prefix
  starts := by simp
  goesOn := .nil
  asks := rfl
  ends := .completed rfl (by simp)

/-- A pass that ends with its first visit. -/
theorem Account.single (genuine : v.Genuine cluster) (ends : Ends (v.resource :: rest) [v] r) :
    Account cluster v.before (v.resource :: rest) v.exchanges r [v] where
  genuine := List.forall_mem_singleton.mpr genuine
  inOrder := ⟨rest, rfl⟩
  starts := by simp
  goesOn := .singleton v
  asks := by simp
  ends := ends

/-- A pass that goes on after a first visit that completes. -/
theorem Account.cons (genuine : v.Genuine cluster) (completes : v.Completes)
    (h : Account cluster v.after rest xs r visits) :
    Account cluster v.before (v.resource :: rest) (v.exchanges ++ xs) r (v :: visits) where
  genuine := List.forall_mem_cons.mpr ⟨genuine, h.genuine⟩
  inOrder := List.cons_prefix_cons.mpr ⟨rfl, h.inOrder⟩
  starts := by simp
  goesOn := List.isChain_cons.mpr ⟨fun w hw => ⟨completes, h.starts w hw⟩, h.goesOn⟩
  asks := by rw [List.flatMap_cons, h.asks]
  ends := by
    cases h.ends with
    | failed visits he => exact .failed (v :: visits) he
    | canceled visits hok hreason first => exact .canceled (v :: visits) hok hreason first
    | completed hall hcompletes =>
      exact .completed (congrArg (List.cons _) hall)
        (List.forall_mem_cons.mpr ⟨completes, hcompletes⟩)

/-- The visits of a pass from a context that is not canceled. -/
theorem exists_account {after : PassContext} (fresh : start.cancelReason = none)
    (h : (passOver cluster resources).Transcript start xs r after) :
    ∃ visits, Account cluster start resources xs r visits := by
  induction resources generalizing start xs with
  | nil =>
    obtain ⟨rfl, rfl, -⟩ := Step.transcript_pure_iff.mp h
    exact ⟨[], .nil⟩
  | cons first rest ih =>
    rcases passOver_cons h with
      ⟨e, hfirst, rfl⟩ | ⟨reason, hfirst, hreason, rfl⟩ | ⟨between, ys, zs, rfl, hfirst, hrest⟩
    · let v : Visit I := ⟨first, start, xs, .error e, after⟩
      exact ⟨[v], .single (v := v) hfirst (.failed [] (v := v) rfl)⟩
    · let v : Visit I := ⟨first, start, xs, .ok (), after⟩
      exact ⟨[v], .single (v := v) hfirst (.canceled [] (v := v) rfl hreason
        (Visit.givesFirst_of_cancelReason (v := v) fresh hreason))⟩
    · let v : Visit I := ⟨first, start, ys, .ok (), between⟩
      have live : between.cancelReason = none :=
        PassContext.cancelReason_eq_none_iff.mpr hfirst.2
      obtain ⟨visits, account⟩ := ih live hrest
      exact ⟨v :: visits, .cons (v := v) hfirst.1 ⟨rfl, live⟩ account⟩

/-- **A pass over the resources of a set goes by its visits**, from a fresh context. -/
theorem account_of_reconcile (h : (set.reconcile cluster).Transcript xs r) :
    ∃ visits, Account cluster (set.newContext cluster) set.resources xs r visits := by
  obtain ⟨after, hpass⟩ := reconcile_transcript_iff.mp h
  exact exists_account rfl hpass

end ResourceSet

/-! ## What is recorded of a pass -/

namespace Operator

/-- The phase and the message that are to be recorded of a pass. -/
def phaseOf : Except Failure PassOutcome → Option (Phase × Option String)
  | .ok .completed => some (.ready, none)
  | .ok (.canceled resource reason) => some (.provisioning, some s!"waiting on {resource}: {reason}")
  | .error e => if e.isRetryable then none else some (.failed, some e.message)

variable (o : Operator gateway)

/-- **An attempt to record a phase**, and what comes of it: an update, which reads the status,
and writes it with the phase and the message unless it has them. -/
structure Attempts (name : String) (phase : Phase) (message : Option String)
    (xs : List (Exchange gateway)) (written : Except Failure Bool) : Prop where
  transcript : (o.setPhase name phase message).Transcript xs written
  begins : ∃ reply rest, xs = ⟨.loadStatus name, reply⟩ :: rest
  /-- A status that cannot be read is not recorded. -/
  unread : ∀ before e behind, xs = before ++ ⟨.loadStatus name, .error e⟩ :: behind →
    behind = [] ∧ written = .error e
  /-- Where phase and message are the same already, nothing is written. -/
  unchanged : ∀ before (s : Snapshot) behind,
    xs = before ++ ⟨.loadStatus name, .ok s⟩ :: behind →
    s.status.phase = phase → s.status.message = message → behind = [] ∧ written = .ok false
  /-- Where one of them is another, the status is written at the version at which it was read. -/
  changed : ∀ before (s : Snapshot) behind,
    xs = before ++ ⟨.loadStatus name, .ok s⟩ :: behind →
    ¬(s.status.phase = phase ∧ s.status.message = message) → ∃ reply rest,
      behind = ⟨.storeStatus name { s.status with phase, message } s.version, reply⟩ :: rest ∧
      (reply = .ok () → rest = [] ∧ written = .ok true) ∧
      ∀ e, reply = .error (.other e) → rest = [] ∧ written = .error e

/-- **What follows a pass** that ended like this: what is asked, and what is answered. -/
structure Concludes (name : String) (outcome : Except Failure PassOutcome)
    (xs : List (Exchange gateway)) (r : Except Failure NextStep) : Prop where
  completed : outcome = .ok .completed →
    ∃ written, o.Attempts name .ready none xs written ∧
      r = written.map fun _ => .requeue o.config.readyRequeue
  canceled : ∀ resource reason, outcome = .ok (.canceled resource reason) →
    ∃ written, o.Attempts name .provisioning (some s!"waiting on {resource}: {reason}") xs written ∧
      r = written.map fun _ => .requeue o.config.notReadyRequeue
  failed : ∀ e, outcome = .error e → e.isRetryable = false →
    ∃ written, o.Attempts name .failed (some e.message) xs written
  retryable : ∀ e, outcome = .error e → e.isRetryable = true → xs = []
  /-- A failure is answered, whatever comes of recording it. -/
  failure : ∀ e, outcome = .error e → r = .error e
  /-- What is written is what was read before, with the phase and the message of the outcome. -/
  writes : ∀ before n status version reply behind,
    xs = before ++ ⟨.storeStatus n status version, reply⟩ :: behind →
    phaseOf outcome = some (status.phase, status.message) ∧
      ∃ s : Snapshot, ⟨.loadStatus name, .ok s⟩ ∈ before ∧ n = name ∧ version = s.version ∧
        status.resources = s.status.resources

variable {o} {cluster : Cluster} {name : String} {phase : Phase} {message : Option String}
  {outcome : Except Failure PassOutcome} {xs : List (Exchange gateway)}
  {written : Except Failure Bool} {r : Except Failure NextStep}

/-- A failure that time does not heal is to be recorded. -/
theorem phaseOf_of_final {e : Failure} (final : ¬e.isRetryable = true) :
    phaseOf (.error e) = some (.failed, some e.message) :=
  if_neg final

/-- A change of phase leaves phase and message as they are to be. -/
theorem phase_message_phaseMutation {now : Instant} {s : Status} :
    (phaseMutation phase message now s).2 = { s with phase, message } := by
  unfold phaseMutation
  split
  · rename_i h
    obtain ⟨rfl, rfl⟩ := h
    rfl
  · rfl

/-- A change of phase changes nothing exactly if phase and message are as they are to be. -/
theorem phaseMutation_eq_false_iff {now : Instant} {s : Status} :
    (phaseMutation phase message now s).1 = false ↔ s.phase = phase ∧ s.message = message := by
  unfold phaseMutation
  split
  · rename_i h
    exact ⟨fun _ => h, fun _ => rfl⟩
  · rename_i h
    exact ⟨nofun, fun h' => absurd h' h⟩

theorem attempts_of_setPhase (store : o.status = gatewayStore)
    (h : (o.setPhase name phase message).Transcript xs written) :
    o.Attempts name phase message xs written := by
  have hset := h
  rw [setPhase, store] at hset
  refine ⟨h, StatusStore.update_begins hset, ?_, ?_, ?_⟩
  · rintro before e behind rfl
    rcases StatusStore.update_of_load hset with
      ⟨_, ⟨⟩, hbehind, hwritten⟩ | ⟨_, ⟨⟩, -⟩ | ⟨_, _, _, ⟨⟩, -⟩
    exact ⟨hbehind, hwritten⟩
  · rintro before s behind rfl hphase hmessage
    have same : (phaseMutation phase message s.readAt s.status).1 = false :=
      phaseMutation_eq_false_iff.mpr ⟨hphase, hmessage⟩
    rcases StatusStore.update_of_load hset with
      ⟨_, ⟨⟩, -⟩ | ⟨_, ⟨⟩, -, hbehind, hwritten⟩ | ⟨_, _, _, ⟨⟩, changed, -⟩
    · exact ⟨hbehind, hwritten⟩
    · rw [same] at changed
      cases changed
  · rintro before s behind rfl other
    rcases StatusStore.update_of_load hset with
      ⟨_, ⟨⟩, -⟩ | ⟨_, ⟨⟩, unchanged, -⟩ | ⟨_, reply, rest, ⟨⟩, -, hbehind, haccepted, hfails⟩
    · exact absurd (phaseMutation_eq_false_iff.mp unchanged) other
    · rw [phase_message_phaseMutation] at hbehind
      exact ⟨reply, rest, hbehind, haccepted, hfails⟩

/-- An attempt writes what was read before, with its phase and its message. -/
theorem Attempts.writes (h : o.Attempts name phase message xs written)
    (store : o.status = gatewayStore) {before behind : List (Exchange gateway)} {n : String}
    {status : Status} {version : Option String} {reply : Except StoreFault Unit}
    (hxs : xs = before ++ ⟨.storeStatus n status version, reply⟩ :: behind) :
    (status.phase = phase ∧ status.message = message) ∧
      ∃ s : Snapshot, ⟨.loadStatus name, .ok s⟩ ∈ before ∧ n = name ∧ version = s.version ∧
        status.resources = s.status.resources := by
  have hset := h.transcript
  rw [setPhase, store, hxs] at hset
  obtain ⟨s, hload, hname, hversion, -, hstatus⟩ := StatusStore.update_writes_after hset
  rw [phase_message_phaseMutation] at hstatus
  subst hstatus
  exact ⟨⟨rfl, rfl⟩, s, hload, hname, hversion, rfl⟩

/-- A conclusion is an attempt at the phase of the outcome, or nothing. -/
theorem concludes_of_attempt (store : o.status = gatewayStore)
    (hphase : phaseOf outcome = some (phase, message))
    (h : o.Attempts name phase message xs written) {before behind : List (Exchange gateway)}
    {n : String} {status : Status} {version : Option String} {reply : Except StoreFault Unit}
    (hxs : xs = before ++ ⟨.storeStatus n status version, reply⟩ :: behind) :
    phaseOf outcome = some (status.phase, status.message) ∧
      ∃ s : Snapshot, ⟨.loadStatus name, .ok s⟩ ∈ before ∧ n = name ∧ version = s.version ∧
        status.resources = s.status.resources := by
  obtain ⟨⟨rfl, rfl⟩, hread⟩ := h.writes store hxs
  exact ⟨hphase, hread⟩

/-- **What is recorded of a pass is the phase of its outcome.** -/
theorem concludes_of_transcript (store : o.status = gatewayStore)
    (h : (o.conclude name outcome).Transcript xs r) : o.Concludes name outcome xs r := by
  cases outcome with
  | error e =>
    simp only [conclude, recordFailure] at h
    split at h
    · rename_i retryable
      obtain ⟨rfl, rfl⟩ := Program.transcript_done_iff.mp h
      refine ⟨nofun, nofun, ?_, fun _ _ _ => rfl, ?_, ?_⟩
      · rintro _ ⟨⟩ final
        rw [retryable] at final
        cases final
      · rintro _ ⟨⟩
        rfl
      · intro before n status version reply behind hnil
        simp at hnil
    · rename_i final
      obtain ⟨written, hset, rfl⟩ := Program.transcript_map_iff.mp h
      have attempt := attempts_of_setPhase store hset
      refine ⟨nofun, nofun, ?_, ?_, ?_, fun _ _ _ _ _ _ => ?_⟩
      · rintro _ ⟨⟩ -
        exact ⟨written, attempt⟩
      · rintro _ ⟨⟩ retryable
        exact absurd retryable final
      · rintro _ ⟨⟩
        rfl
      · exact concludes_of_attempt store (phaseOf_of_final final) attempt
  | ok outcome =>
    cases outcome with
    | completed =>
      obtain ⟨written, hset, rfl⟩ := Program.transcript_map_iff.mp h
      have attempt := attempts_of_setPhase store hset
      refine ⟨fun _ => ⟨written, attempt, rfl⟩, nofun, nofun, nofun, nofun, fun _ _ _ _ _ _ => ?_⟩
      exact concludes_of_attempt store rfl attempt
    | canceled resource reason =>
      obtain ⟨written, hset, rfl⟩ := Program.transcript_map_iff.mp h
      have attempt := attempts_of_setPhase store hset
      refine ⟨nofun, ?_, nofun, nofun, nofun, fun _ _ _ _ _ _ => ?_⟩
      · rintro _ _ ⟨⟩
        exact ⟨written, attempt, rfl⟩
      · exact concludes_of_attempt store rfl attempt

/-- **What reconciling a cluster does**: its pass goes by its visits, and what follows is decided
by how the pass ended. -/
theorem reconcile_goes_by_visits (store : o.status = gatewayStore)
    (present : cluster.deleting = false) :
    (∀ xs outcome, (o.resources.reconcile cluster).Transcript xs outcome →
      ∃ visits, ResourceSet.Account cluster (o.resources.newContext cluster) o.resources.resources
        xs outcome visits) ∧
    ∀ xs r, (o.reconcile cluster).Transcript xs r →
      ∃ outcome ys zs, xs = ys ++ zs ∧ (o.resources.reconcile cluster).Transcript ys outcome ∧
        o.Concludes cluster.name outcome zs r := by
  refine ⟨fun _ _ => ResourceSet.account_of_reconcile, fun xs r h => ?_⟩
  rw [reconcile, if_neg (by simp [present])] at h
  obtain ⟨outcome, ys, zs, rfl, hpass, hconclude⟩ := Program.transcript_bind_iff.mp h
  exact ⟨outcome, ys, zs, rfl, hpass, concludes_of_transcript store hconclude⟩

/-! ## A pass that is canceled and fails -/

namespace BrokenPass

/-- Why the pass fails, and why recording that fails. -/
def broken : Failure := .invalid "broken"

def unreachable : Failure := .internal "status" "store unreachable"

/-- A resource that gives two reasons for canceling, and fails then. -/
def resource : ClusterResource gateway where
  name := "broken"
  ensureCreated _ := fun ctx => .done (.error broken, (ctx.cancel "not yet").cancel "not at all")

def operator : Operator gateway where
  resources := { resources := [resource] }
  status := gatewayStore
  config := {}

/-- A cluster that nothing has been recorded of, at the seventh version. -/
def fresh : Snapshot where
  status := {}
  version := some "7"
  readAt := default

/-- The failure is to be recorded: the status is read, and the write is replied to like this. -/
def exchanges (reply : Except StoreFault Unit) : List (Exchange gateway) :=
  [⟨.loadStatus DeploymentOrchestrator.production.name, .ok fresh⟩,
    ⟨.storeStatus DeploymentOrchestrator.production.name
      { phase := .failed, message := some broken.message } (some "7"), reply⟩]

/-- Once the failure is attempted to be recorded, it is the answer. -/
theorem transcript {reply : Except StoreFault Unit} {written : Except Failure Bool}
    (h : (operator.setPhase DeploymentOrchestrator.production.name .failed
      (some broken.message)).Transcript (exchanges reply) written) :
    (operator.reconcile DeploymentOrchestrator.production).Transcript (exchanges reply)
      (.error broken) :=
  Program.transcript_bind_iff.mpr ⟨.error broken, [], exchanges reply, rfl, .done _,
    Program.transcript_map_iff.mpr ⟨written, h, rfl⟩⟩

/-- The pass ends somehow, and what follows is concluded from how it ends. -/
def Concluded (reply : Except StoreFault Unit) : Prop :=
  ∃ outcome ys zs, exchanges reply = ys ++ zs ∧
    (operator.resources.reconcile DeploymentOrchestrator.production).Transcript ys outcome ∧
    operator.Concludes DeploymentOrchestrator.production.name outcome zs (.error broken)

end BrokenPass

open BrokenPass in
/-- What is answered and recorded where a resource cancels the pass and fails, whether the failure
can be written or not. -/
theorem reconcile_goes_by_visits_of_broken :
    operator.status = gatewayStore ∧ DeploymentOrchestrator.production.deleting = false ∧
      Concluded (.ok ()) ∧ Concluded (.error (.other unreachable)) := by
  have goes := (@reconcile_goes_by_visits operator DeploymentOrchestrator.production rfl rfl).2
  exact ⟨rfl, rfl, goes _ _ (transcript (StatusStore.update_of_written (s := fresh) rfl)),
    goes _ _ (transcript (StatusStore.update_of_storeFails (s := fresh) rfl))⟩

end Operator

end ClusterOperator
