import ClusterOperator.Proofs.Ensures
import ClusterOperator.Proofs.Pass.Completion
import ClusterOperator.Proofs.Records.Store
import ClusterOperator.Records.Reconcile

/-!
# Convergences that complete

A convergence that completes has made all of its calls, each of which completed in turn:
what exists was read, what should exist was made up, and the records that were missing or
different were written.  So every desired record was either among those that were read or
among those that were written (`mem_diff`).
-/

namespace ClusterOperator

namespace RecordResource

variable {I : Interface} {R α : Type} {r : RecordResource I R} {cluster : Cluster}
  {ctx after : PassContext} {xs : List (Exchange I)}

/-- Nothing happens if the pass is canceled. -/
theorem transcript_unlessCanceled_of_canceled {value : α} {next : Step I α}
    {result : Except Failure α} (canceled : ctx.isCanceled = true) :
    (unlessCanceled value next).Transcript ctx xs result after ↔
      xs = [] ∧ result = .ok value ∧ after = ctx := by
  have hiff : (unlessCanceled value next).Transcript ctx xs result after ↔
      (if ctx.isCanceled then pure value else next).Transcript ctx xs result after := Iff.rfl
  rw [hiff, if_pos canceled, Step.transcript_pure_iff]

/-- It goes on if the pass is not canceled. -/
theorem transcript_unlessCanceled_of_live {value : α} {next : Step I α}
    {result : Except Failure α} (live : ctx.isCanceled = false) :
    (unlessCanceled value next).Transcript ctx xs result after ↔
      next.Transcript ctx xs result after := by
  have hiff : (unlessCanceled value next).Transcript ctx xs result after ↔
      (if ctx.isCanceled then pure value else next).Transcript ctx xs result after := Iff.rfl
  rw [hiff, if_neg (by simp [live])]

/-- What completes under the condition that the pass is not canceled was not skipped. -/
theorem completes_unlessCanceled_iff {value a : α} {next : Step I α} :
    (unlessCanceled value next).Completes ctx xs a after ↔
      ctx.isCanceled = false ∧ next.Completes ctx xs a after := by
  have hiff : (unlessCanceled value next).Completes ctx xs a after ↔
      (if ctx.isCanceled then pure value else next).Completes ctx xs a after := Iff.rfl
  rw [hiff]
  cases hcanceled : ctx.isCanceled with
  | false => simp
  | true =>
    constructor
    · intro h
      obtain ⟨-, -, -, live⟩ := Step.completes_pure_iff.mp h
      rw [hcanceled] at live
      cases live
    · rintro ⟨live, -⟩
      cases live

/-- A step that is taken unless the pass is canceled. -/
theorem ensures_unlessCanceled {σ : Type} {answers : σ → Exchange I → σ → Prop} {s : σ}
    {value : α} {next : Step I α}
    {post : List (Exchange I) → Except Failure α → PassContext → σ → Prop}
    (canceled : ctx.isCanceled = true → post [] (.ok value) ctx s)
    (live : ctx.isCanceled = false → next.Ensures answers ctx s post) :
    (unlessCanceled value next).Ensures answers ctx s post := by
  have hiff : (unlessCanceled value next).Ensures answers ctx s post ↔
      (if ctx.isCanceled then pure value else next).Ensures answers ctx s post := Iff.rfl
  rw [hiff]
  cases hcanceled : ctx.isCanceled with
  | true => exact Step.ensures_pure_iff.mpr (canceled hcanceled)
  | false => exact live hcanceled

/-- A step whose value is `()` and after which the pass is looked at has completed. -/
theorem completes_thenUnless_iff {value a : α} {m : Step I Unit} {next : Step I α} :
    (m.bind fun _ => unlessCanceled value next).Completes ctx xs a after ↔
      ∃ between ys zs, xs = ys ++ zs ∧ m.Completes ctx ys () between ∧
        next.Completes between zs a after := by
  rw [Step.completes_bind_iff]
  constructor
  · rintro ⟨⟨⟩, between, ys, zs, rfl, hm, hnext⟩
    obtain ⟨live, hnext⟩ := completes_unlessCanceled_iff.mp hnext
    exact ⟨between, ys, zs, rfl, ⟨hm, live⟩, hnext⟩
  · rintro ⟨between, ys, zs, rfl, ⟨hm, live⟩, hnext⟩
    exact ⟨(), between, ys, zs, rfl, hm, completes_unlessCanceled_iff.mpr ⟨live, hnext⟩⟩

variable [Keyed R] [DecidableEq R] {found : ChangeSet R}

/-- **A convergence that completes, with nothing to be removed, has read, made up and
written**, and every one of these calls has completed. -/
theorem reconcile_completes (cascade : r.policy = .cascade)
    (h : (r.reconcile cluster).Completes ctx xs found after) :
    ∃ current desired read made created as bs cs ds, xs = as ++ bs ++ cs ++ ds ∧
      (r.current cluster).Completes ctx as current read ∧
      (r.desired cluster).Completes read bs desired made ∧
      found = Records.diff current desired ∧
      (applyTo (r.create cluster) found.toCreate).Completes made cs () created ∧
      (applyTo (r.overwrite cluster) found.toUpdate).Completes created ds () after := by
  obtain ⟨-, hstart⟩ := completes_unlessCanceled_iff.mp h
  obtain ⟨current, read, as, _, rfl, hcurrent, hread⟩ := Step.completes_bind_iff.mp hstart
  obtain ⟨liveRead, hmake⟩ := completes_unlessCanceled_iff.mp hread
  obtain ⟨desired, made, bs, _, rfl, hdesired, hmade⟩ := Step.completes_bind_iff.mp hmake
  obtain ⟨liveMade, hwrite⟩ := completes_unlessCanceled_iff.mp hmade
  obtain ⟨created, cs, _, rfl, hcreate, hcreated⟩ := completes_thenUnless_iff.mp hwrite
  obtain ⟨updated, ds, _, rfl, hupdate, hremove⟩ := completes_thenUnless_iff.mp hcreated
  rw [cascade] at hremove
  obtain ⟨rfl, rfl, rfl, -⟩ := Step.completes_pure_iff.mp hremove
  refine ⟨current, desired, read, made, created, as, bs, cs, ds, by simp, ⟨hcurrent, liveRead⟩,
    ⟨hdesired, liveMade⟩, rfl, hcreate, hupdate⟩

end RecordResource

end ClusterOperator
