import Mathlib.Data.List.Chain
import ClusterOperator.Proofs.Records.Reconcile
import ClusterOperator.Rehearsal.Records

/-!
# The calls of a convergence

A resource may do anything in its methods: ask what it likes, return any records, fail, and cancel
the pass, also both at once.  What a convergence makes of it is said by its **calls**, each with
the context in which it was made, and what came of it.

The calls follow a **plan**, which is known as soon as both lists of records are: they are read,
and then each list of their difference is applied that is not empty.  A call is followed by
another only if it completes, and then by the next one of the plan (`Follows`).  So the calls are
a first part of the plan, and all of it if nothing fails or is canceled; the failure of a call is
the failure of the convergence, and its value is the difference, unless it was canceled before
there was one (`Converges`).  A deletion follows a plan of its own (`Deletes`).

Calls are not seen from outside, only what they ask is.  Where every method is a request, the
requests of a run are its calls (`requests_of_follows`).
-/

namespace ClusterOperator

namespace RecordResource

variable {I : Interface} {R : Type}

/-- A call of a method, with the records that it is given. -/
inductive Call (R : Type) where
  | current
  | desired
  | create (records : List R)
  | overwrite (records : List R)
  | delete (records : List R)
  deriving DecidableEq, Repr

namespace Call

/-- Whether the call is made to know which records there are, or should be. -/
def reads : Call R → Bool
  | .current => true
  | .desired => true
  | _ => false

end Call

/-- What a call runs; a method that applies records returns none. -/
def perform (r : RecordResource I R) (cluster : Cluster) : Call R → Step I (List R)
  | .current => r.current cluster
  | .desired => r.desired cluster
  | .create records => (r.create cluster records).bind fun _ => pure []
  | .overwrite records => (r.overwrite cluster records).bind fun _ => pure []
  | .delete records => (r.delete cluster records).bind fun _ => pure []

/-- **A call that was made**, and what came of it. -/
structure Called (I : Interface) (R : Type) where
  call : Call R
  before : PassContext
  exchanges : List (Exchange I)
  result : Except Failure (List R)
  after : PassContext

namespace Called

variable (c : Called I R)

/-- The call is one of the ways in which the method can go. -/
def Genuine (r : RecordResource I R) (cluster : Cluster) : Prop :=
  (r.perform cluster c.call).Transcript c.before c.exchanges c.result c.after

def Succeeds : Prop := ∃ records, c.result = .ok records

/-- The method has neither failed nor left the context canceled. -/
def Completes : Prop := c.Succeeds ∧ c.after.isCanceled = false

end Called

/-! ## Plans -/

/-- A call is left out if it has no records. -/
def unlessEmpty (call : List R → Call R) (records : List R) : List (Call R) :=
  if records.isEmpty then [] else [call records]

/-- The calls that apply a difference. -/
def applyPlan (policy : DeletePolicy) (changes : ChangeSet R) : List (Call R) :=
  unlessEmpty .create changes.toCreate ++ (unlessEmpty .overwrite changes.toUpdate ++
    match policy with
    | .apply => unlessEmpty .delete changes.toDelete
    | .cascade => [])

/-- The calls of a convergence, if these are the records that exist and that should exist. -/
def plan [Keyed R] [DecidableEq R] (policy : DeletePolicy) (ctx : PassContext)
    (current desired : List R) : List (Call R) :=
  if ctx.isCanceled then []
  else .current :: .desired :: applyPlan policy (Records.diff current desired)

/-- The calls of a deletion, if these are the records that exist. -/
def deletionPlan (policy : DeletePolicy) (current : List R) : List (Call R) :=
  match policy with
  | .apply => .current :: unlessEmpty .delete current
  | .cascade => []

/-- **The calls follow a plan** from a context: each completes before the next one is made, where
it left off, and there is a next one until the plan is carried out. -/
structure Follows (r : RecordResource I R) (cluster : Cluster) (plan : List (Call R))
    (ctx : PassContext) (calls : List (Called I R)) (xs : List (Exchange I))
    (after : PassContext) : Prop where
  genuine : ∀ c ∈ calls, c.Genuine r cluster
  starts : ∀ c ∈ calls.head?, c.before = ctx
  /-- Nothing is called after a call that failed or left the context canceled. -/
  goesOn : calls.IsChain fun c d => c.Completes ∧ d.before = c.after
  leaves : after = (calls.getLast?.map (·.after)).getD ctx
  /-- Nothing is asked but by the calls. -/
  asks : xs = calls.flatMap (·.exchanges)
  inOrder : calls.map (·.call) <+: plan
  exhausts : (∀ c ∈ calls, c.Completes) → calls.map (·.call) = plan

/-- A reading call has left the pass canceled. -/
def CanceledInReading (calls : List (Called I R)) : Prop :=
  ∃ c ∈ calls, c.call.reads = true ∧ c.after.isCanceled = true

/-- The pass was canceled before both lists of records were known. -/
def CanceledEarly (ctx : PassContext) (calls : List (Called I R)) : Prop :=
  ctx.isCanceled = true ∨ CanceledInReading calls

/-- What the reading calls return, if they do, are these records. -/
def Returned (current desired : List R) (calls : List (Called I R)) : Prop :=
  ∀ c ∈ calls, ∀ records, c.result = .ok records →
    (c.call = .current → records = current) ∧ (c.call = .desired → records = desired)

/-- **What a convergence calls and reports.** -/
structure Converges [Keyed R] [DecidableEq R] (r : RecordResource I R) (cluster : Cluster)
    (ctx : PassContext) (current desired : List R) (calls : List (Called I R))
    (xs : List (Exchange I)) (result : Except Failure (ChangeSet R)) (after : PassContext) :
    Prop where
  follows : r.Follows cluster (plan r.policy ctx current desired) ctx calls xs after
  returned : Returned current desired calls
  failure : ∀ c ∈ calls, ∀ e, c.result = .error e → result = .error e
  canceled : (∀ c ∈ calls, c.Succeeds) → CanceledEarly ctx calls → result = .ok {}
  found : (∀ c ∈ calls, c.Succeeds) → ¬ CanceledEarly ctx calls →
    result = .ok (Records.diff current desired)

/-- **What a deletion calls and reports.** -/
structure Deletes (r : RecordResource I R) (cluster : Cluster) (ctx : PassContext)
    (current : List R) (calls : List (Called I R)) (xs : List (Exchange I))
    (result : Except Failure Unit) (after : PassContext) : Prop where
  follows : r.Follows cluster (deletionPlan r.policy current) ctx calls xs after
  returned : Returned current [] calls
  /-- The records are deleted if and only if they were read, there are some, and the pass is not
  canceled. -/
  deletes : Call.delete current ∈ calls.map (·.call) ↔
    (∃ c ∈ calls, c.call = .current ∧ c.Completes) ∧ current ≠ []
  failure : ∀ c ∈ calls, ∀ e, c.result = .error e → result = .error e
  success : (∀ c ∈ calls, c.Succeeds) → result = .ok ()

/-! ## One call after another -/

section

variable {α : Type} {r : RecordResource I R} {cluster : Cluster} {rest : List (Call R)}
  {ctx after : PassContext} {xs ys : List (Exchange I)} {calls : List (Called I R)}
  {c : Called I R}

theorem follows_nil : r.Follows cluster [] ctx [] [] ctx where
  genuine := List.forall_mem_nil _
  starts := by simp
  goesOn := .nil
  leaves := rfl
  asks := rfl
  inOrder := List.nil_prefix
  exhausts _ := rfl

/-- A call that does not complete is the last one. -/
theorem follows_single (genuine : c.Genuine r cluster) (incomplete : ¬ c.Completes) :
    r.Follows cluster (c.call :: rest) c.before [c] c.exchanges c.after where
  genuine := List.forall_mem_singleton.mpr genuine
  starts := by simp
  goesOn := .singleton c
  leaves := rfl
  asks := by simp
  inOrder := ⟨rest, rfl⟩
  exhausts h := absurd (h c List.mem_cons_self) incomplete

/-- After a call that completes the rest of the plan is followed. -/
theorem Follows.cons (genuine : c.Genuine r cluster) (completes : c.Completes)
    (h : r.Follows cluster rest c.after calls ys after) :
    r.Follows cluster (c.call :: rest) c.before (c :: calls) (c.exchanges ++ ys) after where
  genuine := List.forall_mem_cons.mpr ⟨genuine, h.genuine⟩
  starts := by simp
  goesOn := List.isChain_cons.mpr ⟨fun d hd => ⟨completes, h.starts d hd⟩, h.goesOn⟩
  leaves := by
    rw [h.leaves, List.getLast?_cons]
    cases calls.getLast? <;> rfl
  asks := by rw [List.flatMap_cons, h.asks]
  inOrder := List.cons_prefix_cons.mpr ⟨rfl, h.inOrder⟩
  exhausts hall := congrArg (List.cons _) (h.exhausts (List.forall_mem_cons.mp hall).2)

/-- It makes no difference whether a pass is canceled if the value is the same. -/
theorem unlessCanceled_pure {a : α} : unlessCanceled a (pure a) = (pure a : Step I α) := by
  funext ctx
  have hif : unlessCanceled a (pure a) ctx =
      (if ctx.isCanceled then pure a else pure a : Step I α) ctx := rfl
  rw [hif, ite_self]

/-- A step whose value is exchanged for another one is the same run. -/
theorem transcript_of_bind_pure {β : Type} {m : Step I α} {b : β} {result : Except Failure β}
    (h : (m.bind fun _ => pure b).Transcript ctx xs result after) :
    ∃ own, m.Transcript ctx xs own after := by
  rcases Step.transcript_bind_iff.mp h with ⟨e, hm, -⟩ | ⟨a, between, ys, zs, rfl, hm, hpure⟩
  · exact ⟨.error e, hm⟩
  · obtain ⟨rfl, -, rfl⟩ := Step.transcript_pure_iff.mp hpure
    rw [List.append_nil]
    exact ⟨.ok a, hm⟩

/-- What goes on after a method that applies records goes on after the call. -/
theorem bind_pure_bind {m : Step I Unit} {records : List R} (next : List R → Step I α) :
    ((m.bind fun _ => pure records).bind next) = m.bind fun _ => next records := by
  funext ctx
  refine (Program.bind_assoc (m ctx) _ _).trans (congrArg ((m ctx).bind ·) ?_)
  funext ⟨result, between⟩
  cases result <;> rfl

/-- A call that does not complete decides what is reported: its failure, or the value that is
left of a pass that was canceled. -/
inductive Breaks (value : α) (c : Called I R) : Except Failure α → Prop where
  | failed (e : Failure) : c.result = .error e → Breaks value c (.error e)
  | canceled : c.Succeeds → c.after.isCanceled = true → Breaks value c (.ok value)

theorem Breaks.incomplete {value : α} {result : Except Failure α} (h : Breaks value c result) :
    ¬ c.Completes := by
  rintro ⟨⟨_, hok⟩, live⟩
  cases h with
  | failed e he =>
    rw [he] at hok
    cases hok
  | canceled _ hcanceled =>
    rw [hcanceled] at live
    cases live

/-- **A call after which the pass is looked at** breaks it off, or completes. -/
theorem call_cases (call : Call R) {value : α} {next : List R → Step I α}
    {result : Except Failure α}
    (h : ((r.perform cluster call).bind fun records =>
      unlessCanceled value (next records)).Transcript ctx xs result after) :
    (∃ own, Called.Genuine ⟨call, ctx, xs, own, after⟩ r cluster ∧
      Breaks value (⟨call, ctx, xs, own, after⟩ : Called I R) result) ∨
    ∃ records between ys zs, xs = ys ++ zs ∧
      Called.Genuine ⟨call, ctx, ys, .ok records, between⟩ r cluster ∧
      between.isCanceled = false ∧ (next records).Transcript between zs result after := by
  rcases Step.transcript_bind_iff.mp h with
    ⟨e, hm, rfl⟩ | ⟨records, between, ys, zs, rfl, hm, hnext⟩
  · exact .inl ⟨.error e, hm, .failed e rfl⟩
  cases hcanceled : between.isCanceled with
  | true =>
    obtain ⟨rfl, rfl, rfl⟩ := (transcript_unlessCanceled_of_canceled hcanceled).mp hnext
    rw [List.append_nil]
    exact .inl ⟨.ok records, hm, .canceled ⟨records, rfl⟩ hcanceled⟩
  | false =>
    exact .inr ⟨records, between, ys, zs, rfl, hm, hcanceled,
      (transcript_unlessCanceled_of_live hcanceled).mp hnext⟩

/-! ## What is reported -/

/-- What is reported of calls that have one value if the pass was canceled in reading, and another
if it was not. -/
structure Reports (early value : α) (calls : List (Called I R)) (result : Except Failure α) :
    Prop where
  failure : ∀ c ∈ calls, ∀ e, c.result = .error e → result = .error e
  canceled : (∀ c ∈ calls, c.Succeeds) → CanceledInReading calls → result = .ok early
  found : (∀ c ∈ calls, c.Succeeds) → ¬ CanceledInReading calls → result = .ok value

variable {early value : α} {result : Except Failure α}

theorem reports_nil : Reports early value ([] : List (Called I R)) (.ok value) where
  failure := List.forall_mem_nil _
  canceled := by
    rintro - ⟨c, hc, -⟩
    cases hc
  found _ _ := rfl

/-- What a call that breaks the pass off reports. -/
theorem Breaks.reports {left : α} (h : Breaks left c result)
    (reading : c.call.reads = true → left = early)
    (applying : c.call.reads = false → left = value) : Reports early value [c] result := by
  cases h with
  | failed e he =>
    have fails : ¬ ∀ d ∈ [c], d.Succeeds := by
      intro hall
      obtain ⟨_, hok⟩ := hall c List.mem_cons_self
      rw [he] at hok
      cases hok
    refine ⟨List.forall_mem_singleton.mpr fun e' he' => ?_, fun hall => absurd hall fails,
      fun hall => absurd hall fails⟩
    rw [he] at he'
    cases he'
    rfl
  | canceled succeeds hcanceled =>
    obtain ⟨records, hok⟩ := succeeds
    refine ⟨List.forall_mem_singleton.mpr fun e he => ?_, fun _ hreading => ?_,
      fun _ hreading => ?_⟩
    · rw [hok] at he
      cases he
    · obtain ⟨d, hd, hreads, -⟩ := hreading
      rw [List.mem_singleton.mp hd] at hreads
      rw [reading hreads]
    · refine congrArg Except.ok (applying (Bool.eq_false_iff.mpr fun hreads => hreading ?_))
      exact ⟨c, List.mem_cons_self, hreads, hcanceled⟩

theorem Reports.cons (succeeds : c.Succeeds)
    (live : c.call.reads = true → c.after.isCanceled = false)
    (h : Reports early value calls result) : Reports early value (c :: calls) result := by
  have hreading : CanceledInReading (c :: calls) ↔ CanceledInReading calls := by
    constructor
    · rintro ⟨d, hd, hreads, hcanceled⟩
      rcases List.mem_cons.mp hd with rfl | hd
      · rw [live hreads] at hcanceled
        cases hcanceled
      · exact ⟨d, hd, hreads, hcanceled⟩
    · rintro ⟨d, hd, hreads, hcanceled⟩
      exact ⟨d, List.mem_cons_of_mem c hd, hreads, hcanceled⟩
  refine ⟨List.forall_mem_cons.mpr ⟨fun e he => ?_, h.failure⟩, ?_, ?_⟩
  · obtain ⟨records, hok⟩ := succeeds
    rw [hok] at he
    cases he
  · rw [hreading]
    exact fun hall => h.canceled (List.forall_mem_cons.mp hall).2
  · rw [hreading]
    exact fun hall => h.found (List.forall_mem_cons.mp hall).2

/-! ## Applying a difference -/

/-- **One list of a difference** is left out if it is empty, and otherwise applied by one call;
if the call completes, the rest of the plan is followed. -/
theorem follows_apply {method : List R → Step I Unit} {call : List R → Call R} {records : List R}
    {next : Step I α} (hcall : r.perform cluster (call records) =
      (method records).bind fun _ => pure []) (writes : (call records).reads = false)
    (live : ctx.isCanceled = false)
    (h : ((applyTo method records).bind fun _ => unlessCanceled value next).Transcript ctx xs
      result after)
    (goes : ∀ between zs, between.isCanceled = false →
      next.Transcript between zs result after →
      ∃ calls, r.Follows cluster rest between calls zs after ∧ Reports early value calls result) :
    ∃ calls, r.Follows cluster (unlessEmpty call records ++ rest) ctx calls xs after ∧
      Reports early value calls result := by
  unfold applyTo at h
  unfold unlessEmpty
  split at h
  · rename_i hempty
    rw [if_pos hempty]
    exact goes ctx xs live ((transcript_unlessCanceled_of_live live).mp h)
  · rename_i hempty
    rw [if_neg hempty]
    have hperform : (method records).bind (fun _ => unlessCanceled value next) =
        (r.perform cluster (call records)).bind fun _ => unlessCanceled value next := by
      rw [hcall]
      exact (bind_pure_bind fun _ => unlessCanceled value next).symm
    rw [hperform] at h
    rcases call_cases _ h with
      ⟨own, genuine, breaks⟩ | ⟨nothing, between, ys, zs, rfl, genuine, live, hnext⟩
    · refine ⟨[_], follows_single genuine breaks.incomplete, breaks.reports ?_ fun _ => rfl⟩
      intro hreads
      rw [writes] at hreads
      cases hreads
    · obtain ⟨calls, follows, reports⟩ := goes between zs live hnext
      have succeeds : Called.Succeeds
          (⟨call records, ctx, ys, .ok nothing, between⟩ : Called I R) := ⟨nothing, rfl⟩
      exact ⟨_ :: calls, follows.cons genuine ⟨succeeds, live⟩,
        reports.cons succeeds fun _ => live⟩

/-- **Applying a difference follows its plan.** -/
theorem follows_applyChanges {changes : ChangeSet R} (early : ChangeSet R)
    {result : Except Failure (ChangeSet R)} (live : ctx.isCanceled = false)
    (h : (r.applyChanges cluster changes).Transcript ctx xs result after) :
    ∃ calls, r.Follows cluster (applyPlan r.policy changes) ctx calls xs after ∧
      Reports early changes calls result := by
  refine follows_apply rfl rfl live h fun created ys live hupdate => ?_
  refine follows_apply rfl rfl live hupdate fun updated zs live hdelete => ?_
  cases hpolicy : r.policy with
  | cascade =>
    rw [hpolicy] at hdelete
    obtain ⟨rfl, rfl, rfl⟩ := Step.transcript_pure_iff.mp hdelete
    exact ⟨[], follows_nil, reports_nil⟩
  | apply =>
    rw [hpolicy] at hdelete
    dsimp only at hdelete ⊢
    rw [← unlessCanceled_pure] at hdelete
    rw [← List.append_nil (unlessEmpty .delete changes.toDelete)]
    refine follows_apply rfl rfl live hdelete fun removed ws live hend => ?_
    obtain ⟨rfl, rfl, rfl⟩ := Step.transcript_pure_iff.mp hend
    exact ⟨[], follows_nil, reports_nil⟩

end

/-! ## The whole convergence -/

section

variable {r : RecordResource I R} {cluster : Cluster} {ctx after : PassContext}
  {xs : List (Exchange I)} {current desired : List R} {calls : List (Called I R)}

/-- Calls that apply records return nothing that was read. -/
theorem returned_of_applying (current desired : List R)
    (h : ∀ call ∈ calls.map (·.call), call.reads = false) :
    Returned current desired calls := by
  intro c hc records _
  have hreads : c.call.reads = false := h c.call (List.mem_map_of_mem hc)
  constructor
  · intro hcurrent
    rw [hcurrent] at hreads
    cases hreads
  · intro hdesired
    rw [hdesired] at hreads
    cases hreads

theorem reads_of_mem_unlessEmpty {call : List R → Call R} {records : List R} {made : Call R}
    (writes : (call records).reads = false) (h : made ∈ unlessEmpty call records) :
    made.reads = false := by
  unfold unlessEmpty at h
  split at h
  · cases h
  · rw [List.mem_singleton.mp h]
    exact writes

theorem reads_of_mem_applyPlan {policy : DeletePolicy} {changes : ChangeSet R} {made : Call R}
    (h : made ∈ applyPlan policy changes) : made.reads = false := by
  rcases List.mem_append.mp h with hcreate | h
  · exact reads_of_mem_unlessEmpty rfl hcreate
  rcases List.mem_append.mp h with hupdate | hdelete
  · exact reads_of_mem_unlessEmpty rfl hupdate
  cases policy with
  | apply => exact reads_of_mem_unlessEmpty rfl hdelete
  | cascade => cases hdelete

/-- What was returned by the first call, and by the calls after it. -/
theorem Returned.cons {c : Called I R} (h : Returned current desired calls)
    (first : ∀ records, c.result = .ok records →
      (c.call = .current → records = current) ∧ (c.call = .desired → records = desired)) :
    Returned current desired (c :: calls) :=
  List.forall_mem_cons.mpr ⟨first, h⟩

theorem returned_nil : Returned current desired ([] : List (Called I R)) :=
  List.forall_mem_nil _

/-- The records that a call has returned, if it has returned any. -/
def recordsOf (own : Except Failure (List R)) : List R := own.toOption.getD []

theorem eq_recordsOf {own : Except Failure (List R)} {records : List R} (h : own = .ok records) :
    records = recordsOf own := by
  rw [h]
  rfl

variable [Keyed R] [DecidableEq R] {result : Except Failure (ChangeSet R)}

omit [Keyed R] [DecidableEq R] in
theorem canceledEarly_iff_of_live (live : ctx.isCanceled = false) :
    CanceledEarly ctx calls ↔ CanceledInReading calls := by
  refine ⟨fun h => h.resolve_left ?_, .inr⟩
  rw [live]
  exact Bool.false_ne_true

/-- Calls that follow the plan of a pass that was not canceled. -/
theorem converges_of_live (live : ctx.isCanceled = false)
    (follows : r.Follows cluster
      (.current :: .desired :: applyPlan r.policy (Records.diff current desired)) ctx calls xs
      after)
    (returned : Returned current desired calls)
    (reports : Reports {} (Records.diff current desired) calls result) :
    Converges r cluster ctx current desired calls xs result after where
  follows := by
    unfold plan
    rwa [if_neg (by simp [live])]
  returned := returned
  failure := reports.failure
  canceled hall hearly := reports.canceled hall ((canceledEarly_iff_of_live live).mp hearly)
  found hall hnot := reports.found hall (mt (canceledEarly_iff_of_live live).mpr hnot)

/-- **Once the current records are known**, the desired ones are read and the difference is
applied. -/
theorem follows_made
    (h : ((r.desired cluster).bind fun desired => unlessCanceled {}
      (r.applyChanges cluster (Records.diff current desired))).Transcript ctx xs result after) :
    ∃ desired calls,
      r.Follows cluster (.desired :: applyPlan r.policy (Records.diff current desired)) ctx calls xs
        after ∧
      Returned current desired calls ∧ Reports {} (Records.diff current desired) calls result := by
  rcases call_cases .desired h with
    ⟨own, genuine, breaks⟩ | ⟨desired, made, ys, zs, rfl, genuine, live, happly⟩
  · refine ⟨recordsOf own, [_], follows_single genuine breaks.incomplete, ?_,
      breaks.reports (fun _ => rfl) nofun⟩
    exact returned_nil.cons fun records hown => ⟨nofun, fun _ => eq_recordsOf hown⟩
  have succeeds : Called.Succeeds
      (⟨.desired, ctx, ys, .ok desired, made⟩ : Called I R) := ⟨desired, rfl⟩
  obtain ⟨calls, follows, reports⟩ := follows_applyChanges {} live happly
  refine ⟨desired, _ :: calls, follows.cons genuine ⟨succeeds, live⟩, ?_,
    reports.cons succeeds fun _ => live⟩
  have applying := returned_of_applying current desired fun call hcall =>
    reads_of_mem_applyPlan (follows.inOrder.subset hcall)
  exact applying.cons fun records hok => ⟨nofun, fun _ => (Except.ok.inj hok).symm⟩

theorem converges_of_reconcile (h : (r.reconcile cluster).Transcript ctx xs result after) :
    ∃ current desired calls, Converges r cluster ctx current desired calls xs result after := by
  cases hcanceled : ctx.isCanceled with
  | true =>
    obtain ⟨rfl, rfl, rfl⟩ := (transcript_unlessCanceled_of_canceled hcanceled).mp h
    have hplan : plan r.policy after ([] : List R) [] = [] := if_pos hcanceled
    exact ⟨[], [], [], ⟨hplan ▸ follows_nil, returned_nil, List.forall_mem_nil _, fun _ _ => rfl,
      fun _ hnot => absurd (.inl hcanceled) hnot⟩⟩
  | false =>
    rcases call_cases .current ((transcript_unlessCanceled_of_live hcanceled).mp h) with
      ⟨own, genuine, breaks⟩ | ⟨current, read, ys, zs, rfl, genuine, live, hmake⟩
    · refine ⟨recordsOf own, [], [_], converges_of_live hcanceled
        (follows_single genuine breaks.incomplete) ?_ (breaks.reports (fun _ => rfl) nofun)⟩
      exact returned_nil.cons fun records hown => ⟨fun _ => eq_recordsOf hown, nofun⟩
    have succeeds : Called.Succeeds
        (⟨.current, ctx, ys, .ok current, read⟩ : Called I R) := ⟨current, rfl⟩
    obtain ⟨desired, calls, follows, returned, reports⟩ := follows_made hmake
    refine ⟨current, desired, _ :: calls, converges_of_live hcanceled
      (follows.cons genuine ⟨succeeds, live⟩) ?_ (reports.cons succeeds fun _ => live)⟩
    exact returned.cons fun records hok => ⟨fun _ => (Except.ok.inj hok).symm, nofun⟩

end

/-! ## The whole deletion -/

section

variable {r : RecordResource I R} {cluster : Cluster} {ctx after : PassContext}
  {xs : List (Exchange I)} {calls : List (Called I R)} {call : Call R} {rest : List (Call R)}

/-- The first call of a plan is made. -/
theorem Follows.makes_first (h : r.Follows cluster (call :: rest) ctx calls xs after) :
    call ∈ calls.map (·.call) := by
  cases calls with
  | nil => exact absurd (h.exhausts (List.forall_mem_nil _)) (List.cons_ne_nil _ _).symm
  | cons c calls =>
    obtain ⟨rfl, -⟩ := List.cons_prefix_cons.mp h.inOrder
    exact List.mem_cons_self

/-- A list is applied if it has records. -/
theorem Follows.mem_unlessEmpty_iff {make : List R → Call R} {records : List R}
    (h : r.Follows cluster (unlessEmpty make records ++ rest) ctx calls xs after)
    (others : make records ∉ rest) :
    make records ∈ calls.map (·.call) ↔ records ≠ [] := by
  unfold unlessEmpty at h
  split at h
  · rename_i hempty
    have hnil : records = [] := List.isEmpty_iff.mp hempty
    exact iff_of_false (fun hmem => others (h.inOrder.subset hmem)) (not_not_intro hnil)
  · rename_i hempty
    exact iff_of_true h.makes_first (mt List.isEmpty_iff.mpr hempty)

theorem bind_pure_unit {m : Step I Unit} : (m.bind fun _ => pure ()) = m := by
  funext ctx
  refine Eq.trans (congrArg ((m ctx).bind ·) ?_) (Program.bind_done (m ctx))
  funext ⟨result, between⟩
  cases result <;> rfl

variable {result : Except Failure Unit}

/-- The value of a deletion is `()` also if the pass was canceled. -/
theorem Reports.success (h : Reports () () calls result) (hall : ∀ c ∈ calls, c.Succeeds) :
    result = .ok () := by
  by_cases hreading : CanceledInReading calls
  · exact h.canceled hall hreading
  · exact h.found hall hreading

theorem deletes_of_reconcileDeletion
    (h : (r.reconcileDeletion cluster).Transcript ctx xs result after) :
    ∃ current calls, Deletes r cluster ctx current calls xs result after := by
  unfold reconcileDeletion at h
  cases hpolicy : r.policy with
  | cascade =>
    rw [hpolicy] at h
    obtain ⟨rfl, rfl, rfl⟩ := Step.transcript_pure_iff.mp h
    refine ⟨[], [], ⟨hpolicy ▸ follows_nil, returned_nil, ?_, List.forall_mem_nil _, fun _ => rfl⟩⟩
    exact iff_of_false nofun fun h => h.2 rfl
  | apply =>
    rw [hpolicy] at h
    rcases call_cases .current h with
      ⟨own, genuine, breaks⟩ | ⟨current, read, ys, zs, rfl, genuine, liveRead, happly⟩
    · have reports : Reports () () [_] result := breaks.reports (fun _ => rfl) nofun
      have returned : Returned (recordsOf own) [] [⟨.current, ctx, xs, own, after⟩] :=
        returned_nil.cons fun records hown => ⟨fun _ => eq_recordsOf hown, nofun⟩
      refine ⟨recordsOf own, [_], hpolicy ▸ follows_single genuine breaks.incomplete, returned, ?_,
        reports.failure, reports.success⟩
      refine iff_of_false (fun hmem => ?_) fun h => ?_
      · cases List.mem_singleton.mp hmem
      · obtain ⟨⟨c, hc, -, completes⟩, -⟩ := h
        rw [List.mem_singleton.mp hc] at completes
        exact breaks.incomplete completes
    have completes : Called.Completes
        (⟨.current, ctx, ys, .ok current, read⟩ : Called I R) := ⟨⟨current, rfl⟩, liveRead⟩
    rw [← bind_pure_unit (m := applyTo _ current), ← unlessCanceled_pure] at happly
    have hdeletion : ∃ calls, r.Follows cluster (unlessEmpty .delete current ++ []) read calls zs
        after ∧ Reports () () calls result := by
      refine follows_apply rfl rfl liveRead happly fun between ws live hend => ?_
      obtain ⟨rfl, rfl, rfl⟩ := Step.transcript_pure_iff.mp hend
      exact ⟨[], follows_nil, reports_nil⟩
    obtain ⟨calls, follows, reports⟩ := hdeletion
    have hdelete := follows.mem_unlessEmpty_iff List.not_mem_nil
    rw [List.append_nil] at follows
    have applying := returned_of_applying current [] fun call hcall =>
      reads_of_mem_unlessEmpty rfl (follows.inOrder.subset hcall)
    have returned : Returned current [] (⟨.current, ctx, ys, .ok current, read⟩ :: calls) :=
      applying.cons fun records hok => ⟨fun _ => (Except.ok.inj hok).symm, nofun⟩
    replace reports := reports.cons completes.1 fun _ => liveRead
    refine ⟨current, _ :: calls, hpolicy ▸ follows.cons genuine completes, returned, ?_,
      reports.failure, reports.success⟩
    rw [List.map_cons, List.mem_cons, hdelete, or_iff_right nofun]
    exact (and_iff_right ⟨_, List.mem_cons_self, rfl, completes⟩).symm

end

/-! ## Both -/

/-- **What is called, and what is reported**, by every convergence and every deletion of a
resource, whatever its methods do. -/
theorem calls_follow_plan [Keyed R] [DecidableEq R] (r : RecordResource I R) (cluster : Cluster)
    (ctx : PassContext) (xs : List (Exchange I)) (after : PassContext) :
    (∀ result, (r.reconcile cluster).Transcript ctx xs result after →
      ∃ current desired calls, r.Converges cluster ctx current desired calls xs result after) ∧
    ∀ result, (r.reconcileDeletion cluster).Transcript ctx xs result after →
      ∃ current calls, r.Deletes cluster ctx current calls xs result after :=
  ⟨fun _ => converges_of_reconcile, fun _ => deletes_of_reconcileDeletion⟩

end RecordResource

/-! ## Calls that are seen -/

namespace Rehearsal

open RecordResource

variable {name : String} {policy : DeletePolicy} {cluster : Cluster} {ctx after : PassContext}
  {xs : List (Exchange recordInterface)} {calls : List (Called recordInterface PlainRecord)}
  {c : Called recordInterface PlainRecord} {plan : List (Call PlainRecord)}

/-- The request that a call is, where every method is a request. -/
def requestOf : Call PlainRecord → Method × List PlainRecord
  | .current => (.current, [])
  | .desired => (.desired, [])
  | .create records => (.create, records)
  | .overwrite records => (.overwrite, records)
  | .delete records => (.delete, records)

theorem requests_callMethod {method : Method} {records : List PlainRecord}
    {result : Except Failure (List PlainRecord)}
    (h : (callMethod method records).Transcript ctx xs result after) :
    xs.map (·.request) = [(method, records)] := by
  obtain ⟨⟨reason, own⟩, ys, rfl, hown⟩ := Step.transcript_ask_bind_iff.mp h
  cases reason <;> cases hown <;> rfl

theorem requests_callApply (cluster : Cluster) {method : Method} {records : List PlainRecord}
    {result : Except Failure (List PlainRecord)}
    (h : ((callApply method cluster records).bind fun _ => pure []).Transcript ctx xs result
      after) :
    xs.map (·.request) = [(method, records)] := by
  obtain ⟨_, happly⟩ := transcript_of_bind_pure h
  obtain ⟨_, hcall⟩ := transcript_of_bind_pure happly
  exact requests_callMethod hcall

/-- A call of a method that is a request makes this request and no other. -/
theorem requests_of_genuine (h : c.Genuine (scriptedResource name policy) cluster) :
    c.exchanges.map (·.request) = [requestOf c.call] := by
  obtain ⟨call, before, exchanges, own, after⟩ := c
  cases call with
  | current => exact requests_callMethod h
  | desired => exact requests_callMethod h
  | create records => exact requests_callApply cluster h
  | overwrite records => exact requests_callApply cluster h
  | delete records => exact requests_callApply cluster h

/-- **Where every method is a request**, the requests of a run are its calls. -/
theorem requests_of_follows
    (h : (scriptedResource name policy).Follows cluster plan ctx calls xs after) :
    xs.map (·.request) = calls.map fun c => requestOf c.call := by
  rw [h.asks, List.map_flatMap, List.flatMap_congr fun c hc => requests_of_genuine (h.genuine c hc),
    ← List.map_eq_flatMap]

namespace BrokenOff

/-! A convergence whose second apply method fails and cancels the pass as well, and a deletion. -/

def broken : Failure := .internal "records" "broken"

/-- What happens: of three things that are to be done, the second one is the last. -/
def convergence : List (Exchange recordInterface) :=
  [⟨(.current, []), ⟨none, .ok [⟨"a", "1"⟩, ⟨"b", "1"⟩]⟩⟩,
    ⟨(.desired, []), ⟨none, .ok [⟨"b", "2"⟩, ⟨"c", "1"⟩]⟩⟩,
    ⟨(.create, [⟨"c", "1"⟩]), ⟨none, .ok []⟩⟩,
    ⟨(.overwrite, [⟨"b", "2"⟩]), ⟨some "stop", .error broken⟩⟩]

def deletion : List (Exchange recordInterface) :=
  [⟨(.current, []), ⟨none, .ok [⟨"a", "1"⟩, ⟨"b", "1"⟩]⟩⟩,
    ⟨(.delete, [⟨"a", "1"⟩, ⟨"b", "1"⟩]), ⟨none, .ok []⟩⟩]

variable (cluster)

theorem transcript_convergence :
    ((scriptedResource "records" .apply).reconcile cluster).Transcript {} convergence
      (.error broken) { cancelReason := some "stop" } :=
  .ask _ (.ask _ (.ask _ (.ask _ (.done _))))

theorem transcript_deletion :
    ((scriptedResource "records" .apply).reconcileDeletion cluster).Transcript {} deletion
      (.ok ()) {} :=
  .ask _ (.ask _ (.done _))

/-- Both runs follow their plans. -/
theorem calls_follow_plan_of_broken :
    (∃ current desired calls, (scriptedResource "records" .apply).Converges default {} current
      desired calls convergence (.error broken) { cancelReason := some "stop" }) ∧
    ∃ current calls,
      (scriptedResource "records" .apply).Deletes default {} current calls deletion (.ok ()) {} :=
  ⟨(calls_follow_plan _ default {} _ _).1 _ (transcript_convergence default),
    (calls_follow_plan _ default {} _ _).2 _ (transcript_deletion default)⟩

end BrokenOff

end Rehearsal

end ClusterOperator
