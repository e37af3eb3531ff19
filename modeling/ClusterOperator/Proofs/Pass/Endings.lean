import ClusterOperator.Proofs.Pass.Accounts
import ClusterOperator.Proofs.Pass.Container

/-!
# Where a run of the boot objects ends

Every exchange of a run of the boot objects either lets it go on or ends it there, with a failure
or with the pass canceled (`ending`).  So of a plan, which is a list of requests, a run makes all
(`Goes`), or a first part up to an exchange that ends it (`Halts`); and after a part of a run that
has ended it nothing else happens (`stage_cases`).
-/

namespace ClusterOperator

namespace BootObjects

variable {α β : Type} {cluster : Cluster} {ctx after : PassContext} {s : StorageContainer}
  {xs ys before : List (Exchange gateway)} {x : Exchange gateway} {result : Except Failure α}

/-! ## How a run ends -/

/-- What a run fails with, if it does. -/
def failureOf : Except Failure α → Option Failure
  | .ok _ => none
  | .error e => some e

theorem failureOf_eq_none_iff :
    failureOf result = none ↔ ∃ a, result = .ok a := by
  cases result <;> simp [failureOf]

theorem failureOf_eq_some_iff {failure : Failure} :
    failureOf result = some failure ↔ result = .error failure := by
  cases result <;> simp [failureOf]

/-- What an error of the storage makes of a run. -/
def unusable (ctx : PassContext) (e : CloudFault) (operation : String) :
    Option Failure × PassContext :=
  if e.isStorageNotReady then (none, ctx.cancel "storage account not ready")
  else (some (e.toFailure operation), ctx)

/-- **What a run ends with** at an exchange, if it does not go on from there. -/
def ending (ctx : PassContext) : Exchange gateway → Option (Option Failure × PassContext)
  | ⟨.containerExists _ container, reply⟩ =>
    match reply with
    | .ok true => none
    | .ok false => some (none, ctx.cancel s!"container {container} not ready")
    | .error e => some (unusable ctx e "storage.container_exists")
  | ⟨.listObjects _ _, reply⟩ =>
    match reply with
    | .ok _ => none
    | .error e => some (unusable ctx e "storage.list_objects")
  | ⟨.readObject _ _ _, reply⟩ =>
    match reply with
    | .ok _ => none
    | .error e =>
      if e.isNotFound && !e.isStorageNotReady then none
      else some (unusable ctx e "storage.get_object")
  | ⟨.render _, reply⟩ =>
    match reply with
    | .ok _ => none
    | .error e => some (some e, ctx)
  | ⟨.writeObject _ _ _ _, reply⟩ =>
    match reply with
    | .ok _ => none
    | .error e => some (unusable ctx e "storage.put_object")
  | _ => none

theorem notReadyOrFail_transcript_iff {e : CloudFault} {operation : String}
    {result : Except Failure Unit} :
    (notReadyOrFail e operation).Transcript ctx xs result after ↔
      xs = [] ∧ unusable ctx e operation = (failureOf result, after) := by
  unfold notReadyOrFail unusable
  split
  · rw [Step.transcript_cancel_iff, Prod.mk.injEq]
    cases result <;> simp [failureOf, eq_comm]
  · rw [Step.transcript_fail_iff, Prod.mk.injEq]
    cases result <;> simp [failureOf, eq_comm]

/-- What goes on after an error of the storage with a value. -/
theorem notReadyOrFail_bind_pure {e : CloudFault} {operation : String} {a : α}
    (h : ((notReadyOrFail e operation).bind fun _ => pure a).Transcript ctx xs result after) :
    xs = [] ∧ unusable ctx e operation = (failureOf result, after) := by
  rcases Step.transcript_bind_iff.mp h with
    ⟨failure, hfault, rfl⟩ | ⟨u, between, ys, zs, rfl, hfault, hpure⟩
  · exact notReadyOrFail_transcript_iff.mp hfault
  · obtain ⟨rfl, hend⟩ := notReadyOrFail_transcript_iff.mp hfault
    obtain ⟨rfl, rfl, rfl⟩ := Step.transcript_pure_iff.mp hpure
    exact ⟨rfl, hend⟩

section

variable {account container key body : String} {e : CloudFault}

theorem ending_containerExists :
    ending ctx ⟨.containerExists account container, .error e⟩ =
      some (unusable ctx e "storage.container_exists") := rfl

theorem ending_listObjects :
    ending ctx ⟨.listObjects account container, .error e⟩ =
      some (unusable ctx e "storage.list_objects") := rfl

theorem ending_writeObject :
    ending ctx ⟨.writeObject account container key body, .error e⟩ =
      some (unusable ctx e "storage.put_object") := rfl

/-- An object that is not there any more when it is read does not end a run. -/
theorem ending_readObject_of_gone (gone : (e.isNotFound && !e.isStorageNotReady) = true) :
    ending ctx ⟨.readObject account container key, .error e⟩ = none := if_pos gone

theorem ending_readObject (there : ¬ (e.isNotFound && !e.isStorageNotReady) = true) :
    ending ctx ⟨.readObject account container key, .error e⟩ =
      some (unusable ctx e "storage.get_object") := if_neg there

end

/-- A run that ends early without a failure leaves the pass canceled. -/
theorem isCanceled_of_ending (h : ending ctx x = some (none, after)) :
    after.isCanceled = true := by
  have hunusable : ∀ e operation, some (unusable ctx e operation) = some (none, after) →
      after.isCanceled = true := by
    intro e operation h
    unfold unusable at h
    split at h
    · cases h
      exact PassContext.isCanceled_cancel
    · cases h
  obtain ⟨request, reply⟩ := x
  cases request with
  | containerExists =>
    match reply, h with
    | .ok false, h =>
      cases h
      exact PassContext.isCanceled_cancel
    | .error e, h => exact hunusable e _ (ending_containerExists.symm.trans h)
  | listObjects =>
    match reply, h with
    | .error e, h => exact hunusable e _ (ending_listObjects.symm.trans h)
  | readObject =>
    match reply, h with
    | .error e, h =>
      by_cases gone : (e.isNotFound && !e.isStorageNotReady) = true
      · rw [ending_readObject_of_gone gone] at h
        cases h
      · exact hunusable e _ ((ending_readObject gone).symm.trans h)
  | render =>
    match reply, h with
    | .error e, h => cases h
  | writeObject =>
    match reply, h with
    | .error e, h => exact hunusable e _ (ending_writeObject.symm.trans h)
  | _ => cases h

/-! ## Plans -/

/-- The requests of a plan were made, and none of them ended the run. -/
def Goes (ctx : PassContext) (plan : List Gateway.Request) (xs : List (Exchange gateway)) : Prop :=
  xs.map (·.request) = plan ∧ ∀ x ∈ xs, ending ctx x = none

/-- The requests of a plan were made up to this one, and none of those before it ended the run. -/
def Underway (ctx : PassContext) (plan : List Gateway.Request) (before : List (Exchange gateway))
    (x : Exchange gateway) : Prop :=
  (before ++ [x]).map (·.request) <+: plan ∧ ∀ y ∈ before, ending ctx y = none

/-- The last exchange has ended the run, with this result. -/
def Halts (ctx : PassContext) (made : List (Exchange gateway) → Exchange gateway → Prop)
    (xs : List (Exchange gateway)) (result : Except Failure α) (after : PassContext) : Prop :=
  ∃ before x, xs = before ++ [x] ∧ made before x ∧
    ending ctx x = some (failureOf result, after)

variable {plan : List Gateway.Request} {made : List (Exchange gateway) → Exchange gateway → Prop}

theorem goes_nil : Goes ctx [] [] := ⟨rfl, List.forall_mem_nil _⟩

theorem Goes.cons (hx : ending ctx x = none) (h : Goes ctx plan xs) :
    Goes ctx (x.request :: plan) (x :: xs) :=
  ⟨congrArg (List.cons _) h.1, List.forall_mem_cons.mpr ⟨hx, h.2⟩⟩

/-- The first request of a plan has ended the run. -/
theorem halts_first (hx : ending ctx x = some (failureOf result, after)) :
    Halts ctx (Underway ctx (x.request :: plan)) [x] result after :=
  ⟨[], x, rfl, ⟨⟨plan, rfl⟩, List.forall_mem_nil _⟩, hx⟩

theorem Halts.cons (hx : ending ctx x = none) (h : Halts ctx (Underway ctx plan) xs result after) :
    Halts ctx (Underway ctx (x.request :: plan)) (x :: xs) result after := by
  obtain ⟨before, y, rfl, ⟨hplan, hbefore⟩, hy⟩ := h
  exact ⟨x :: before, y, rfl, ⟨List.cons_prefix_cons.mpr ⟨rfl, hplan⟩,
    List.forall_mem_cons.mpr ⟨hx, hbefore⟩⟩, hy⟩

theorem Halts.mono {made' : List (Exchange gateway) → Exchange gateway → Prop}
    (h : Halts ctx made xs result after) (weaker : ∀ before x, made before x → made' before x) :
    Halts ctx made' xs result after := by
  obtain ⟨before, x, rfl, hmade, hx⟩ := h
  exact ⟨before, x, rfl, weaker before x hmade, hx⟩

theorem Halts.planned {result : Except Failure α}
    (h : Halts ctx (Underway ctx plan) xs result after) : xs.map (·.request) <+: plan := by
  obtain ⟨before, x, rfl, underway, -⟩ := h
  exact underway.1

/-- A run whose first part has ended early ends so itself. -/
theorem Halts.of_failureOf {other : Except Failure β} (h : Halts ctx made xs result after)
    (same : failureOf other = failureOf result) : Halts ctx made xs other after := by
  obtain ⟨before, x, rfl, hmade, hx⟩ := h
  exact ⟨before, x, rfl, hmade, same ▸ hx⟩

theorem Goes.append {more : List Gateway.Request} (h : Goes ctx plan xs) (h' : Goes ctx more ys) :
    Goes ctx (plan ++ more) (xs ++ ys) :=
  ⟨by rw [List.map_append, h.1, h'.1], List.forall_mem_append.mpr ⟨h.2, h'.2⟩⟩

theorem Goes.planned (h : Goes ctx plan xs) : xs.map (·.request) <+: plan :=
  h.1 ▸ List.prefix_rfl

/-- What is planned after the last request does not matter. -/
theorem Underway.append_right (h : Underway ctx plan before x) (more : List Gateway.Request) :
    Underway ctx (plan ++ more) before x :=
  ⟨h.1.trans (List.prefix_append plan more), h.2⟩

theorem Goes.underway {more : List Gateway.Request} (h : Goes ctx plan xs)
    (h' : Underway ctx more before x) : Underway ctx (plan ++ more) (xs ++ before) x := by
  refine ⟨?_, List.forall_mem_append.mpr ⟨h.2, h'.2⟩⟩
  rw [List.append_assoc, List.map_append, h.1]
  exact (List.prefix_append_right_inj plan).mpr h'.1

/-- A run that has ended early has not completed. -/
theorem Halts.not_completes {a : α} (h : Halts ctx made xs (.ok a) after) :
    after.isCanceled ≠ false := by
  obtain ⟨before, x, -, -, hend⟩ := h
  rw [isCanceled_of_ending hend]
  exact Bool.noConfusion

/-- What begins with a part that fails goes no further. -/
theorem fails_of_bind {m : Step gateway α} {f : α → Step gateway β} {e : Failure}
    {result : Except Failure β}
    (fails : ∀ {ys r between}, m.Transcript ctx ys r between →
      ys = [] ∧ r = .error e ∧ between = ctx)
    (h : (m.bind f).Transcript ctx xs result after) :
    xs = [] ∧ result = .error e ∧ after = ctx := by
  rcases Step.transcript_bind_iff.mp h with ⟨e', hm, rfl⟩ | ⟨a, between, ys, zs, -, hm, -⟩
  · obtain ⟨rfl, heq, rfl⟩ := fails hm
    cases heq
    exact ⟨rfl, rfl, rfl⟩
  · obtain ⟨-, heq, -⟩ := fails hm
    cases heq

/-- **A part of a run after which the pass is looked at** ends the run, or the run goes on after
it. -/
theorem stage_cases {m : Step gateway α} {value : β} {next : α → Step gateway β}
    {good : List (Exchange gateway) → α → Prop} {result : Except Failure β}
    (live : ctx.isCanceled = false)
    (spec : ∀ {ys r between}, m.Transcript ctx ys r between → Halts ctx made ys r between ∨
      ∃ a, r = .ok a ∧ between = ctx ∧ good ys a)
    (h : (m.bind fun a => RecordResource.unlessCanceled value (next a)).Transcript ctx xs result
      after) :
    Halts ctx made xs result after ∨
      ∃ a ys zs, xs = ys ++ zs ∧ good ys a ∧ (next a).Transcript ctx zs result after := by
  rcases Step.transcript_bind_iff.mp h with
    ⟨e, hm, rfl⟩ | ⟨a, between, ys, zs, rfl, hm, hnext⟩
  · rcases spec hm with halts | ⟨a, heq, -⟩
    · exact .inl (halts.of_failureOf rfl)
    · cases heq
  · rcases spec hm with halts | ⟨a', heq, rfl, hgood⟩
    · obtain ⟨before, x, rfl, hmade, hx⟩ := halts
      obtain ⟨rfl, rfl, rfl⟩ := (RecordResource.transcript_unlessCanceled_of_canceled
        (isCanceled_of_ending hx)).mp hnext
      exact .inl ⟨before, x, by rw [List.append_nil], hmade, hx⟩
    · cases heq
      exact .inr ⟨a, ys, zs, rfl, hgood,
        (RecordResource.transcript_unlessCanceled_of_live live).mp hnext⟩

end BootObjects

end ClusterOperator
