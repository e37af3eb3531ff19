import ClusterOperator.Pass.ResourceSet
import ClusterOperator.Proofs.Pass.Completion

/-!
# How far a pass goes

A pass goes from one resource to the next only if the first completes.  So a pass that goes
through is made of resources that have all completed, one after the other
(`passOver_completed_cons_iff`), and whatever is asked in a pass is asked by one of its resources
(`mem_passOver`).
-/

namespace ClusterOperator

namespace ClusterResource

variable {I : Interface} {α : Type} {m : Step I α} {ctx after : PassContext}
  {xs : List (Exchange I)}

theorem discard_completes_iff {u : Unit} :
    (discard m).Completes ctx xs u after ↔ ∃ a, m.Completes ctx xs a after :=
  Step.completes_bind_pure_iff

/-- The exchanges of a step whose value nobody needs are those of the step. -/
theorem discard_transcript_iff {r : Except Failure Unit} :
    (discard m).Transcript ctx xs r after ↔
      ∃ s, m.Transcript ctx xs s after ∧ r = s.map fun _ => () := by
  unfold discard
  rw [Step.transcript_bind_iff]
  constructor
  · rintro (⟨e, hm, rfl⟩ | ⟨a, between, ys, zs, rfl, hm, hpure⟩)
    · exact ⟨.error e, hm, rfl⟩
    · obtain ⟨rfl, rfl, rfl⟩ := Step.transcript_pure_iff.mp hpure
      rw [List.append_nil]
      exact ⟨.ok a, hm, rfl⟩
  · rintro ⟨s, hm, rfl⟩
    cases s with
    | error e => exact .inl ⟨e, hm, rfl⟩
    | ok a =>
      exact .inr ⟨a, after, xs, [], (List.append_nil xs).symm, hm,
        Step.transcript_pure_iff.mpr ⟨rfl, rfl, rfl⟩⟩

end ClusterResource

namespace ResourceSet

variable {I : Interface} {set : ResourceSet I} {cluster : Cluster} {ctx after : PassContext}
  {xs : List (Exchange I)} {first : ClusterResource I} {rest : List (ClusterResource I)}

/-- A pass goes on after a resource only if the resource completes. -/
theorem passOver_cons {r : Except Failure PassOutcome}
    (h : (passOver cluster (first :: rest)).Transcript ctx xs r after) :
    (∃ e, (first.ensureCreated cluster).Transcript ctx xs (.error e) after ∧ r = .error e) ∨
      (∃ reason, (first.ensureCreated cluster).Transcript ctx xs (.ok ()) after ∧
        after.cancelReason = some reason ∧ r = .ok (.canceled first.name reason)) ∨
      ∃ between ys zs, xs = ys ++ zs ∧
        (first.ensureCreated cluster).Completes ctx ys () between ∧
        (passOver cluster rest).Transcript between zs r after := by
  rcases Step.transcript_bind_iff.mp h with
    ⟨e, hfirst, rfl⟩ | ⟨⟨⟩, between, ys, zs, rfl, hfirst, hrest⟩
  · exact .inl ⟨e, hfirst, rfl⟩
  rw [Step.transcript_context_bind_iff] at hrest
  split at hrest
  · rename_i reason hreason
    obtain ⟨rfl, rfl, rfl⟩ := Step.transcript_pure_iff.mp hrest
    rw [List.append_nil]
    exact .inr (.inl ⟨reason, hfirst, hreason, rfl⟩)
  · rename_i hnone
    have live : between.isCanceled = false := by rw [PassContext.isCanceled, hnone]; rfl
    exact .inr (.inr ⟨between, ys, zs, rfl, ⟨hfirst, live⟩, hrest⟩)

/-- After a resource that has completed, a pass is what it is from there. -/
theorem passOver_append_iff {r : Except Failure PassOutcome} {between : PassContext}
    {ys : List (Exchange I)}
    (completes : (first.ensureCreated cluster).Completes ctx xs () between) :
    (passOver cluster (first :: rest)).Transcript ctx (xs ++ ys) r after ↔
      (passOver cluster rest).Transcript between ys r after := by
  obtain ⟨hfirst, live⟩ := completes
  have hnone := PassContext.cancelReason_eq_none_iff.mpr live
  constructor
  · intro h
    rcases passOver_cons h with
      ⟨e, hother, -⟩ | ⟨reason, hother, hreason, -⟩ | ⟨between', vs, zs, heq, hother, hrest⟩
    · cases (hother.unique hfirst (List.append_nil _)).2
    · cases (hother.unique hfirst (List.append_nil _)).2
      cases hnone.symm.trans hreason
    · obtain ⟨rfl, hresult⟩ := hother.1.unique hfirst heq.symm
      cases hresult
      obtain rfl := List.append_cancel_left heq
      exact hrest
  · intro hrest
    refine Step.transcript_bind_iff.mpr (.inr ⟨(), between, xs, ys, rfl, hfirst, ?_⟩)
    rw [Step.transcript_context_bind_iff, hnone]
    exact hrest

/-- **A pass goes through if its first resource completes** and it goes through from
there. -/
theorem passOver_completed_cons_iff :
    (passOver cluster (first :: rest)).Transcript ctx xs (.ok .completed) after ↔
      ∃ between ys zs, xs = ys ++ zs ∧
        (first.ensureCreated cluster).Completes ctx ys () between ∧
        (passOver cluster rest).Transcript between zs (.ok .completed) after := by
  constructor
  · intro h
    rcases passOver_cons h with ⟨_, _, hr⟩ | ⟨_, _, _, hr⟩ | hgoes
    · cases hr
    · cases hr
    · exact hgoes
  · rintro ⟨between, ys, zs, rfl, completes, hrest⟩
    exact (passOver_append_iff completes).mpr hrest

/-- A pass that goes through is not canceled in the end, unless it was from the start. -/
theorem passOver_live {resources : List (ClusterResource I)} (start : ctx.isCanceled = false)
    (h : (passOver cluster resources).Transcript ctx xs (.ok .completed) after) :
    after.isCanceled = false := by
  induction resources generalizing ctx xs with
  | nil =>
    obtain ⟨-, -, rfl⟩ := Step.transcript_pure_iff.mp h
    exact start
  | cons first rest ih =>
    obtain ⟨between, ys, zs, -, hfirst, hrest⟩ := passOver_completed_cons_iff.mp h
    exact ih hfirst.2 hrest

/-- What is asked in a pass is asked by one of its resources. -/
theorem mem_passOver {resources : List (ClusterResource I)} {r : Except Failure PassOutcome}
    {x : Exchange I} (h : (passOver cluster resources).Transcript ctx xs r after) (hx : x ∈ xs) :
    ∃ resource ∈ resources, ∃ before ys s between,
      (resource.ensureCreated cluster).Transcript before ys s between ∧ x ∈ ys ∧ ys ⊆ xs := by
  induction resources generalizing ctx xs with
  | nil =>
    obtain ⟨rfl, -, -⟩ := Step.transcript_pure_iff.mp h
    cases hx
  | cons first rest ih =>
    rcases passOver_cons h with
      ⟨e, hfirst, -⟩ | ⟨_, hfirst, -, -⟩ | ⟨between, ys, zs, rfl, hfirst, hrest⟩
    · exact ⟨first, List.mem_cons_self, ctx, xs, _, after, hfirst, hx, fun _ => id⟩
    · exact ⟨first, List.mem_cons_self, ctx, xs, _, after, hfirst, hx, fun _ => id⟩
    rcases List.mem_append.mp hx with hx | hx
    · exact ⟨first, List.mem_cons_self, ctx, ys, _, between, hfirst.1, hx,
        List.subset_append_left ys zs⟩
    · obtain ⟨resource, hmem, before, vs, s, end', hresource, hxs, hsub⟩ := ih hrest hx
      exact ⟨resource, List.mem_cons_of_mem _ hmem, before, vs, s, end', hresource, hxs,
        fun y hy => List.mem_append_right ys (hsub hy)⟩

/-- A pass begins in a context that is not canceled. -/
theorem isCanceled_newContext : (set.newContext cluster).isCanceled = false := rfl

/-- The pass over the resources of a set, with the context that it leaves. -/
theorem reconcile_transcript_iff {r : Except Failure PassOutcome} :
    (set.reconcile cluster).Transcript xs r ↔
      ∃ after, (passOver cluster set.resources).Transcript (set.newContext cluster) xs r after := by
  constructor
  · intro h
    obtain ⟨⟨s, after⟩, hpass, rfl⟩ := Program.transcript_map_iff.mp h
    exact ⟨after, hpass⟩
  · rintro ⟨after, hpass⟩
    exact Program.transcript_map_iff.mpr ⟨(r, after), hpass, rfl⟩

end ResourceSet

end ClusterOperator
