import ClusterOperator.Proofs.Pass.Context
import ClusterOperator.Proofs.Transcript

/-!
# Steps that complete

A step **completes** if it succeeds and leaves a pass that is not canceled.  This is all
that is looked at before a pass goes on, so the steps of a pass that went through have all
completed, and what such a pass has done is read off the ways in which a step can complete.
-/

namespace ClusterOperator

namespace Step

variable {I : Interface} {α β : Type}

/-- The step succeeds with this value and leaves a pass that is not canceled. -/
def Completes (m : Step I α) (ctx : PassContext) (xs : List (Exchange I)) (a : α)
    (after : PassContext) : Prop :=
  m.Transcript ctx xs (.ok a) after ∧ after.isCanceled = false

variable {m : Step I α} {f : α → Step I β} {ctx after : PassContext} {xs : List (Exchange I)}
  {a a' : α} {b : β}

theorem completes_pure_iff :
    (pure a : Step I α).Completes ctx xs a' after ↔
      xs = [] ∧ a' = a ∧ after = ctx ∧ ctx.isCanceled = false := by
  unfold Completes
  rw [transcript_pure_iff]
  constructor
  · rintro ⟨⟨rfl, hvalue, rfl⟩, live⟩
    exact ⟨rfl, Except.ok.inj hvalue, rfl, live⟩
  · rintro ⟨rfl, rfl, rfl, live⟩
    exact ⟨⟨rfl, rfl, rfl⟩, live⟩

/-- The last step of one that completes has completed. -/
theorem completes_bind_iff :
    (m.bind f).Completes ctx xs b after ↔
      ∃ a between ys zs, xs = ys ++ zs ∧ m.Transcript ctx ys (.ok a) between ∧
        (f a).Completes between zs b after := by
  unfold Completes
  rw [transcript_bind_ok_iff]
  constructor
  · rintro ⟨⟨a, between, ys, zs, rfl, hm, hf⟩, live⟩
    exact ⟨a, between, ys, zs, rfl, hm, hf, live⟩
  · rintro ⟨a, between, ys, zs, rfl, hm, hf, live⟩
    exact ⟨⟨a, between, ys, zs, rfl, hm, hf⟩, live⟩

/-- What is put after a step that leaves its value and its context alone does not matter. -/
theorem completes_bind_pure_iff :
    (m.bind fun _ => pure b).Completes ctx xs b after ↔ ∃ a, m.Completes ctx xs a after := by
  rw [completes_bind_iff]
  constructor
  · rintro ⟨a, between, ys, zs, rfl, hm, hpure⟩
    obtain ⟨rfl, -, rfl, live⟩ := completes_pure_iff.mp hpure
    rw [List.append_nil]
    exact ⟨a, hm, live⟩
  · rintro ⟨a, hm, live⟩
    exact ⟨a, after, xs, [], (List.append_nil xs).symm, hm,
      completes_pure_iff.mpr ⟨rfl, rfl, rfl, live⟩⟩

theorem completes_context_bind_iff {f : PassContext → Step I β} :
    ((Step.context : Step I PassContext).bind f).Completes ctx xs b after ↔
      (f ctx).Completes ctx xs b after :=
  Iff.rfl

/-- A step that begins with a request completes if the rest does, on the reply. -/
theorem completes_ask_bind_iff {q : I.Request} {g : I.Reply q → Step I β} :
    ((Step.lift (Program.call q)).bind g).Completes ctx xs b after ↔
      ∃ reply ys, xs = ⟨q, reply⟩ :: ys ∧ (g reply).Completes ctx ys b after := by
  unfold Completes
  rw [transcript_ask_bind_iff]
  constructor
  · rintro ⟨⟨reply, ys, rfl, hrest⟩, live⟩
    exact ⟨reply, ys, rfl, hrest, live⟩
  · rintro ⟨reply, ys, rfl, hrest, live⟩
    exact ⟨⟨reply, ys, rfl, hrest⟩, live⟩

theorem completes_tryLift_bind_iff {p : Program I (Except Failure α)} :
    ((Step.tryLift p).bind f).Completes ctx xs b after ↔
      ∃ a ys zs, xs = ys ++ zs ∧ p.Transcript ys (.ok a) ∧ (f a).Completes ctx zs b after := by
  rw [completes_bind_iff]
  constructor
  · rintro ⟨a, between, ys, zs, rfl, hlift, hf⟩
    obtain ⟨hp, rfl⟩ := transcript_tryLift_iff.mp hlift
    exact ⟨a, ys, zs, rfl, hp, hf⟩
  · rintro ⟨a, ys, zs, rfl, hp, hf⟩
    exact ⟨a, ctx, ys, zs, rfl, transcript_tryLift_iff.mpr ⟨hp, rfl⟩, hf⟩

/-- A step that begins with a requirement completes if the requirement is met. -/
theorem completes_require_bind_iff {name : String} {fields : List ContextField}
    {f : Unit → Step I β} :
    ((Step.require name fields : Step I Unit).bind f).Completes ctx xs b after ↔
      ctx.validate name fields = .ok () ∧ (f ()).Completes ctx xs b after := by
  unfold Completes
  rw [transcript_require_bind_ok_iff, and_assoc]

end Step

end ClusterOperator
