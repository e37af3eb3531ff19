import ClusterOperator.Proofs.Ensures
import ClusterOperator.Proofs.Records.Reconcile
import ClusterOperator.Rehearsal.Records

/-!
# Convergence to the desired records

A record resource is over a store if its methods do to the store what they are for: the
current records are a listing of it, and the apply methods write or remove the records they
are given.  A method may fail or cancel the pass at any point; an apply method has then done
some first part of its records.

Whatever becomes of a run, it moves the store **toward** the desired records: every key holds
what it held, or what it is to hold in the end (`ensures_reconcile`).  A run that completes has
got there.  What a key is to hold in the end does not change on the way, so it does not matter
how many runs were cut short before; and once a store is there, a run finds nothing to do.
-/

namespace ClusterOperator

open Records

namespace RecordStore

variable {R : Type} [Keyed R] {policy : DeletePolicy} {wanted records current : List R}
  {s t u : RecordStore R} {r : R} {key : String}

/-! ## The store that is converged to -/

/-- What may stay in a store although nothing is desired. -/
def untouched (policy : DeletePolicy) (s : RecordStore R) : RecordStore R :=
  match policy with
  | .apply => ∅
  | .cascade => s

/-- **The store that is converged to**: the desired records, and what may stay beside them. -/
def converged (policy : DeletePolicy) (wanted : List R) (s : RecordStore R) : RecordStore R :=
  (untouched policy s).writeAll wanted

theorem find?_converged :
    (converged policy wanted s).find? key =
      (lastWithKey? key wanted).or ((untouched policy s).find? key) :=
  find?_writeAll

theorem mem_untouched_iff : r ∈ untouched policy s ↔ policy = .cascade ∧ r ∈ s := by
  cases policy with
  | apply => exact ⟨nofun, fun h => nomatch h.1⟩
  | cascade => exact ⟨fun h => ⟨rfl, h⟩, And.right⟩

/-- The records of the store that is converged to. -/
theorem mem_converged_iff (distinct : DistinctKeys wanted) :
    r ∈ converged policy wanted s ↔
      r ∈ wanted ∨ policy = .cascade ∧ r ∈ s ∧ hasKey (Keyed.key r) wanted = false := by
  rw [mem_iff, find?_converged, Option.or_eq_some_iff, distinct.lastWithKey?_eq_some_iff,
    ← hasKey_eq_false_iff, ← mem_iff, mem_untouched_iff]
  simp only [and_true]
  refine or_congr_right ?_
  constructor
  · rintro ⟨h, hpolicy, hr⟩
    exact ⟨hpolicy, hr, h⟩
  · rintro ⟨hpolicy, hr, h⟩
    exact ⟨h, hpolicy, hr⟩

/-! ## Moving toward it -/

/-- **The second store is on the way** from the first to the one that is converged to: under
every key it has what the one or the other has. -/
def Toward (policy : DeletePolicy) (wanted : List R) (s t : RecordStore R) : Prop :=
  ∀ key, t.find? key = s.find? key ∨ t.find? key = (converged policy wanted s).find? key

theorem Toward.refl : Toward policy wanted s s := fun _ => .inl rfl

/-- What is converged to does not change on the way. -/
theorem Toward.converged_eq (h : Toward policy wanted s t) :
    converged policy wanted t = converged policy wanted s := by
  refine ext fun key => ?_
  rw [find?_converged, find?_converged]
  cases hwanted : lastWithKey? key wanted with
  | some r => rfl
  | none =>
    cases policy with
    | apply => rfl
    | cascade =>
      refine (h key).elim id fun hkey => hkey.trans ?_
      rw [find?_converged, hwanted]

theorem Toward.trans (h : Toward policy wanted s t) (h' : Toward policy wanted t u) :
    Toward policy wanted s u := by
  intro key
  rcases h' key with hkey | hkey
  · rw [hkey]
    exact h key
  · rw [hkey, h.converged_eq]
    exact .inr rfl

/-- There is no way on from the store that is converged to. -/
theorem Toward.eq_of_converged (h : Toward policy wanted s t)
    (hs : s = converged policy wanted s) : t = s := by
  refine ext fun key => (h key).elim id fun hkey => ?_
  rwa [← hs] at hkey

/-- Writing desired records is a way on. -/
theorem Toward.writeAll (h : Toward policy wanted s t) (distinct : DistinctKeys wanted)
    (sub : ∀ r ∈ records, r ∈ wanted) : Toward policy wanted s (t.writeAll records) := by
  refine h.trans fun key => ?_
  rw [find?_writeAll, find?_converged]
  rcases distinct.lastWithKey?_of_sub sub key with hlast | hlast
  · rw [hlast]
    exact .inl rfl
  · rw [hlast]
    cases lastWithKey? key wanted with
    | none => exact .inl rfl
    | some r => exact .inr rfl

/-- Removing what is not desired is a way on, if it may not stay. -/
theorem Toward.removeAll (h : Toward .apply wanted s t)
    (unwanted : ∀ r ∈ records, hasKey (Keyed.key r) wanted = false) :
    Toward .apply wanted s (t.removeAll records) := by
  refine h.trans fun key => ?_
  rw [find?_removeAll, find?_converged]
  split
  · rename_i hkey
    obtain ⟨r, hr, rfl⟩ := hasKey_iff.mp hkey
    rw [hasKey_eq_false_iff.mp (unwanted r hr)]
    exact .inr rfl
  · exact .inl rfl

variable [DecidableEq R]

/-- Where the desired records have been reached there is nothing to do. -/
theorem diff_of_converged (distinct : DistinctKeys wanted) (h : Lists current s)
    (reached : s = converged policy wanted s) :
    (diff current wanted).toCreate = [] ∧ (diff current wanted).toUpdate = [] ∧
      (policy = .apply → (diff current wanted).toDelete = []) := by
  have hin : ∀ r ∈ wanted, r ∈ s := by
    intro r hr
    have hmem : r ∈ converged policy wanted s := (mem_converged_iff distinct).mpr (.inl hr)
    rwa [← reached] at hmem
  refine ⟨toCreate_eq_nil h hin, toUpdate_eq_nil h hin, ?_⟩
  rintro rfl
  refine List.eq_nil_iff_forall_not_mem.mpr fun r hr => ?_
  obtain ⟨hmem, hunwanted⟩ := (mem_toDelete_iff h).mp hr
  rw [reached, mem_converged_iff distinct] at hmem
  obtain hwanted | ⟨hcascade, -⟩ := hmem
  · exact Bool.eq_false_iff.mp hunwanted (hasKey_iff.mpr ⟨r, hwanted, rfl⟩)
  · cases hcascade

end RecordStore

/-! ## Resources over a store -/

namespace RecordResource

variable {I : Interface} {R σ : Type} [Keyed R]

/-- **The method applies records to a store**: it has its effect for some first part of them,
and if it completes, for all of them. -/
def Applies (answers : σ → Exchange I → σ → Prop) (view : σ → RecordStore R)
    (effect : RecordStore R → List R → RecordStore R) (method : List R → Step I Unit) : Prop :=
  ∀ records ctx s, (method records).Ensures answers ctx s fun _ result after t =>
    ∃ done, done <+: records ∧ view t = effect (view s) done ∧
      (result = .ok () → after.isCanceled = false → done = records)

/-- **A record resource over a store**, with the desired records of a cluster. -/
structure OverStore (r : RecordResource I R) (cluster : Cluster)
    (answers : σ → Exchange I → σ → Prop) (view : σ → RecordStore R) (wanted : List R) :
    Prop where
  /-- The current records, if the method completes, are a listing of the store. -/
  current : ∀ ctx s, (r.current cluster).Ensures answers ctx s fun _ result after t =>
    view t = view s ∧
      ∀ listed, result = .ok listed → after.isCanceled = false → RecordStore.Lists listed (view s)
  desired : ∀ ctx s, (r.desired cluster).Ensures answers ctx s fun _ result after t =>
    view t = view s ∧
      ∀ listed, result = .ok listed → after.isCanceled = false → listed = wanted
  create : Applies answers view RecordStore.writeAll (r.create cluster)
  overwrite : Applies answers view RecordStore.writeAll (r.overwrite cluster)
  delete : r.policy = .apply → Applies answers view RecordStore.removeAll (r.delete cluster)

/-- Runs one after another, however each of them ended. -/
inductive Runs [DecidableEq R] (r : RecordResource I R) (cluster : Cluster)
    (answers : σ → Exchange I → σ → Prop) : σ → σ → Prop where
  | none (s : σ) : Runs r cluster answers s s
  | next {s t u : σ} {ctx after : PassContext} {xs : List (Exchange I)}
      {result : Except Failure (ChangeSet R)} :
      Runs r cluster answers s t → (r.reconcile cluster).Transcript ctx xs result after →
      Served answers t xs u → Runs r cluster answers s u

/-- **The run calls no apply method**: it is a run whatever these methods may be. -/
def CallsNoApply [DecidableEq R] (r : RecordResource I R) (cluster : Cluster)
    (ctx : PassContext) (xs : List (Exchange I)) (result : Except Failure (ChangeSet R))
    (after : PassContext) : Prop :=
  ∀ create overwrite delete : Cluster → List R → Step I Unit,
    ({ r with create, overwrite, delete }.reconcile cluster).Transcript ctx xs result after

/-! ## One run -/

section

variable {α : Type} {r : RecordResource I R} {cluster : Cluster}
  {answers : σ → Exchange I → σ → Prop} {view : σ → RecordStore R} {wanted current : List R}
  {ctx after : PassContext} {s t : σ} {xs : List (Exchange I)}

/-- A method that applies records is not called without any, which makes no difference. -/
theorem Applies.applyTo {effect : RecordStore R → List R → RecordStore R}
    {method : List R → Step I Unit} (h : Applies answers view effect method)
    (nothing : ∀ v, effect v [] = v) : Applies answers view effect (applyTo method) := by
  intro records ctx s
  cases records with
  | nil =>
    refine Step.ensures_pure_iff.mpr ⟨[], List.prefix_refl _, (nothing _).symm, ?_⟩
    exact fun _ _ => rfl
  | cons record records => exact h (record :: records) ctx s

/-- Writing desired records moves the store on. -/
theorem Applies.writes {method : List R → Step I Unit} {records : List R}
    (h : Applies answers view RecordStore.writeAll method) (distinct : DistinctKeys wanted)
    (sub : ∀ record ∈ records, record ∈ wanted) (policy : DeletePolicy) (ctx : PassContext)
    (s : σ) :
    (RecordResource.applyTo method records).Ensures answers ctx s fun _ result after t =>
      RecordStore.Toward policy wanted (view s) (view t) ∧
        (result = .ok () → after.isCanceled = false → view t = (view s).writeAll records) := by
  refine (h.applyTo (fun _ => rfl) records ctx s).mono ?_
  rintro xs result after t ⟨done, hdone, hview, hall⟩
  constructor
  · rw [hview]
    exact RecordStore.Toward.refl.writeAll distinct fun record hr => sub record (hdone.subset hr)
  · intro hresult live
    rw [hview, hall hresult live]

/-- Removing what is not desired moves the store on. -/
theorem Applies.removes {method : List R → Step I Unit} {records : List R}
    (h : Applies answers view RecordStore.removeAll method)
    (unwanted : ∀ record ∈ records, hasKey (Keyed.key record) wanted = false)
    (ctx : PassContext) (s : σ) :
    (RecordResource.applyTo method records).Ensures answers ctx s fun _ result after t =>
      RecordStore.Toward .apply wanted (view s) (view t) ∧
        (result = .ok () → after.isCanceled = false → view t = (view s).removeAll records) := by
  refine (h.applyTo (fun _ => rfl) records ctx s).mono ?_
  rintro xs result after t ⟨done, hdone, hview, hall⟩
  constructor
  · rw [hview]
    exact RecordStore.Toward.refl.removeAll fun record hr => unwanted record (hdone.subset hr)
  · intro hresult live
    rw [hview, hall hresult live]

/-- What a run has done to the store: it is on its way, and there if the run completed. -/
def Advances (policy : DeletePolicy) (wanted : List R) (before now : RecordStore R)
    (result : Except Failure (ChangeSet R)) (after : PassContext) : Prop :=
  RecordStore.Toward policy wanted before now ∧
    ∀ found, result = .ok found → after.isCanceled = false →
      now = RecordStore.converged policy wanted before

theorem Advances.of_canceled {policy : DeletePolicy} {before now : RecordStore R}
    {result : Except Failure (ChangeSet R)}
    (h : RecordStore.Toward policy wanted before now) (hcanceled : after.isCanceled = true) :
    Advances policy wanted before now result after := by
  refine ⟨h, fun _ _ live => ?_⟩
  rw [hcanceled] at live
  cases live

variable [DecidableEq R]

open RecordStore in
theorem OverStore.ensures_applyChanges (o : OverStore r cluster answers view wanted)
    (distinct : DistinctKeys wanted) (listed : Lists current (view s)) :
    (r.applyChanges cluster (diff current wanted)).Ensures answers ctx s
      fun _ result after t => Advances r.policy wanted (view s) (view t) result after := by
  have hcreate : ∀ record ∈ (diff current wanted).toCreate, record ∈ wanted :=
    fun record h => ((mem_toCreate_iff listed).mp h).1
  have hupdate : ∀ record ∈ (diff current wanted).toUpdate, record ∈ wanted :=
    fun record h => ((mem_toUpdate_iff listed).mp h).1
  have hdelete : ∀ record ∈ (diff current wanted).toDelete,
      hasKey (Keyed.key record) wanted = false :=
    fun record h => ((mem_toDelete_iff listed).mp h).2
  unfold applyChanges
  refine (o.create.writes distinct hcreate r.policy ctx s).bind (fun _ e _ _ h => ⟨h.1, nofun⟩) ?_
  rintro - ⟨⟩ created t ⟨htoward, hcreated⟩
  refine ensures_unlessCanceled (.of_canceled htoward) fun live => ?_
  replace hcreated := hcreated rfl live
  refine (o.overwrite.writes distinct hupdate r.policy created t).bind
    (fun _ e _ _ h => ⟨htoward.trans h.1, nofun⟩) ?_
  rintro - ⟨⟩ updated u ⟨htoward', hupdated⟩
  replace htoward := htoward.trans htoward'
  refine ensures_unlessCanceled (.of_canceled htoward) fun live => ?_
  have hwritten : ∀ key, (view u).find? key =
      (lastWithKey? key wanted).or ((view s).find? key) := by
    intro key
    rw [hupdated rfl live, hcreated, find?_writeAll_diff listed distinct]
  cases hpolicy : r.policy with
  | cascade =>
    refine Step.ensures_pure_iff.mpr ⟨hpolicy ▸ htoward, fun _ _ _ => ext fun key => ?_⟩
    rw [hwritten, find?_converged]
    rfl
  | apply =>
    rw [hpolicy] at htoward
    refine ((o.delete hpolicy).removes hdelete updated u).bind
      (fun _ e _ _ h => ⟨htoward.trans h.1, nofun⟩) ?_
    rintro - ⟨⟩ removed v ⟨htoward', hremoved⟩
    refine Step.ensures_pure_iff.mpr ⟨htoward.trans htoward', fun _ _ live => ?_⟩
    refine ext fun key => ?_
    rw [hremoved rfl live, find?_removeAll_diff listed (hwritten key), find?_converged]
    exact (Option.or_none).symm

/-- **A run moves the store toward the desired records**, whatever becomes of it, and gets
there if it completes. -/
theorem OverStore.ensures_reconcile (o : OverStore r cluster answers view wanted)
    (distinct : DistinctKeys wanted) (ctx : PassContext) (s : σ) :
    (r.reconcile cluster).Ensures answers ctx s
      fun _ result after t => Advances r.policy wanted (view s) (view t) result after := by
  -- Until the difference is applied, the store is as it was.
  have hsame : ∀ {t : σ}, view t = view s →
      RecordStore.Toward r.policy wanted (view s) (view t) :=
    fun hview => hview ▸ .refl
  refine ensures_unlessCanceled (.of_canceled .refl) fun _ => ?_
  refine (o.current ctx s).bind (fun _ e _ _ h => ⟨hsame h.1, nofun⟩) ?_
  rintro - current between t ⟨hview, hlisted⟩
  refine ensures_unlessCanceled (.of_canceled (hsame hview)) fun live => ?_
  have listed := hlisted current rfl live
  refine (o.desired between t).bind (fun _ e _ _ h => ⟨hsame (h.1.trans hview), nofun⟩) ?_
  rintro - desired made u ⟨hview', hwanted⟩
  replace hview' := hview'.trans hview
  refine ensures_unlessCanceled (.of_canceled (hsame hview')) fun live => ?_
  obtain rfl := hwanted desired rfl live
  rw [← hview'] at listed ⊢
  exact o.ensures_applyChanges distinct listed

/-- Runs one after another move the store toward the desired records. -/
theorem OverStore.toward_of_runs (o : OverStore r cluster answers view wanted)
    (distinct : DistinctKeys wanted) (h : Runs r cluster answers s t) :
    RecordStore.Toward r.policy wanted (view s) (view t) := by
  induction h with
  | none => exact .refl
  | next _ hrun hserved ih =>
    exact ih.trans (o.ensures_reconcile distinct _ _ _ _ _ _ hrun hserved).1

/-! ## A run that finds nothing to do -/

theorem unlessCanceled_congr {value : α} {next next' : Step I α} {result : Except Failure α}
    (h : (unlessCanceled value next).Transcript ctx xs result after)
    (same : ctx.isCanceled = false → next.Transcript ctx xs result after →
      next'.Transcript ctx xs result after) :
    (unlessCanceled value next').Transcript ctx xs result after := by
  have hiff : ∀ m : Step I α, (unlessCanceled value m).Transcript ctx xs result after ↔
      (if ctx.isCanceled then pure value else m).Transcript ctx xs result after :=
    fun _ => Iff.rfl
  rw [hiff] at h ⊢
  cases hcanceled : ctx.isCanceled with
  | true =>
    rw [hcanceled] at h
    exact h
  | false =>
    rw [hcanceled] at h
    exact same hcanceled h

omit [Keyed R] [DecidableEq R] in
/-- A difference in which there is nothing to do is applied whatever the methods are. -/
theorem applyChanges_eq {changes : ChangeSet R} (hcreate : changes.toCreate = [])
    (hupdate : changes.toUpdate = []) (hdelete : r.policy = .apply → changes.toDelete = [])
    (create overwrite delete : Cluster → List R → Step I Unit) :
    r.applyChanges cluster changes =
      { r with create, overwrite, delete }.applyChanges cluster changes := by
  obtain ⟨name, policy, current, desired, _, _, _⟩ := r
  cases policy with
  | cascade => simp only [applyChanges, applyTo, hcreate, hupdate, List.isEmpty_nil, if_true]
  | apply =>
    simp only [applyChanges, applyTo, hcreate, hupdate, hdelete rfl, List.isEmpty_nil, if_true]

/-- **A run that starts where the desired records have been reached** calls no apply method,
whatever becomes of it. -/
theorem OverStore.callsNoApply (o : OverStore r cluster answers view wanted)
    (distinct : DistinctKeys wanted)
    (reached : view s = RecordStore.converged r.policy wanted (view s))
    {result : Except Failure (ChangeSet R)}
    (h : (r.reconcile cluster).Transcript ctx xs result after) (hs : Served answers s xs t) :
    CallsNoApply r cluster ctx xs result after := by
  intro create overwrite delete
  refine unlessCanceled_congr h fun _ h => h.bind_congr hs fun ys current between t hread hys => ?_
  intro zs h hzs
  obtain ⟨hview, hlisted⟩ := o.current ctx s ys _ between t hread hys
  refine unlessCanceled_congr h fun live h => h.bind_congr hzs fun ys desired made u hmade hys => ?_
  intro zs h _
  obtain ⟨-, hwanted⟩ := o.desired between t ys _ made u hmade hys
  have listed := hlisted current rfl live
  refine unlessCanceled_congr h fun live h => ?_
  obtain rfl := hwanted desired rfl live
  obtain ⟨hcreate, hupdate, hdelete⟩ := RecordStore.diff_of_converged distinct listed reached
  rwa [applyChanges_eq hcreate hupdate hdelete create overwrite delete] at h

/-! ## Runs that complete -/

variable {found : ChangeSet R} {u : σ}

/-- **A run that completes leaves the desired records**, with the untouched ones beside them
under `cascade`, whatever runs went before it and however they were cut short; and from then on
no run calls an apply method or changes the store. -/
theorem OverStore.converges (o : OverStore r cluster answers view wanted)
    (distinct : DistinctKeys wanted) (earlier : Runs r cluster answers s t)
    (run : (r.reconcile cluster).Completes ctx xs found after) (served : Served answers t xs u) :
    (∀ record, record ∈ view u ↔ record ∈ wanted ∨
        r.policy = .cascade ∧ record ∈ view s ∧ hasKey (Keyed.key record) wanted = false) ∧
      ∀ ctx ys result after v, (r.reconcile cluster).Transcript ctx ys result after →
        Served answers u ys v → view v = view u ∧ CallsNoApply r cluster ctx ys result after := by
  have hearlier := o.toward_of_runs distinct earlier
  obtain ⟨htoward, hreached⟩ := o.ensures_reconcile distinct ctx t xs _ after u run.1 served
  have hview : view u = RecordStore.converged r.policy wanted (view s) := by
    rw [← hearlier.converged_eq]
    exact hreached found rfl run.2
  have reached : view u = RecordStore.converged r.policy wanted (view u) := by
    rw [(hearlier.trans htoward).converged_eq]
    exact hview
  constructor
  · intro record
    rw [hview]
    exact RecordStore.mem_converged_iff distinct
  · intro ctx ys result after v h hs
    obtain ⟨htoward, -⟩ := o.ensures_reconcile distinct ctx u ys result after v h hs
    exact ⟨htoward.eq_of_converged reached, o.callsNoApply distinct reached h hs⟩

end

end RecordResource

/-! ## A resource whose methods are requests -/

namespace Rehearsal

variable {wanted : List PlainRecord} {cluster : Cluster} {name : String} {policy : DeletePolicy}

/-- What a method does to a store. -/
def Method.effect (s : RecordStore PlainRecord) (records : List PlainRecord) :
    Method → RecordStore PlainRecord
  | .current => s
  | .desired => s
  | .create => s.writeAll records
  | .overwrite => s.writeAll records
  | .delete => s.removeAll records

/-- **A store that answers the methods of a resource.**  A method that is answered by a failure
or cancels the pass has done some first part of what it is for. -/
def StoreAnswers (wanted : List PlainRecord) (s : RecordStore PlainRecord)
    (x : Exchange recordInterface) (t : RecordStore PlainRecord) : Prop :=
  ∃ done, done <+: x.request.2 ∧ t = x.request.1.effect s done ∧
    ∀ listed, x.reply.cancelReason = none → x.reply.result = .ok listed →
      done = x.request.2 ∧ (x.request.1 = .current → RecordStore.Lists listed s) ∧
        (x.request.1 = .desired → listed = wanted)

theorem ensures_callMethod (method : Method) (records : List PlainRecord) (ctx : PassContext)
    (s : RecordStore PlainRecord) :
    (callMethod method records).Ensures (StoreAnswers wanted) ctx s fun _ result after t =>
      ∃ done, done <+: records ∧ t = method.effect s done ∧
        ∀ listed, result = .ok listed → after.isCanceled = false →
          done = records ∧ (method = .current → RecordStore.Lists listed s) ∧
            (method = .desired → listed = wanted) := by
  refine Step.ensures_ask_bind_iff.mpr ?_
  rintro ⟨reason, result⟩ t ⟨done, hdone, rfl, hall⟩
  cases reason with
  | none =>
    refine Step.ensures_iff.mpr (Program.ensures_done_iff.mpr ⟨done, hdone, rfl, ?_⟩)
    exact fun listed hlisted _ => hall listed rfl hlisted
  | some reason =>
    refine Step.ensures_iff.mpr (Program.ensures_done_iff.mpr ⟨done, hdone, rfl, ?_⟩)
    intro listed _ live
    rw [show (ctx.cancel reason).isCanceled = true from PassContext.isCanceled_cancel] at live
    cases live

theorem applies_callApply (cluster : Cluster) (method : Method) :
    RecordResource.Applies (StoreAnswers wanted) id
      (fun s records => method.effect s records) (callApply method cluster) := by
  intro records ctx s
  refine (ensures_callMethod method records ctx s).bind ?_ ?_
  · rintro - e after t ⟨done, hdone, rfl, -⟩
    exact ⟨done, hdone, rfl, nofun⟩
  · rintro - listed between t ⟨done, hdone, rfl, hall⟩
    refine Step.ensures_pure_iff.mpr ⟨done, hdone, rfl, ?_⟩
    exact fun _ live => (hall listed rfl live).1

/-- The resource whose methods are requests to a store is over that store. -/
theorem overStore_scriptedResource :
    (scriptedResource name policy).OverStore cluster (StoreAnswers wanted) id wanted where
  current ctx s := by
    refine (ensures_callMethod .current [] ctx s).mono ?_
    rintro xs result after t ⟨done, -, rfl, hall⟩
    exact ⟨rfl, fun listed hresult live => (hall listed hresult live).2.1 rfl⟩
  desired ctx s := by
    refine (ensures_callMethod .desired [] ctx s).mono ?_
    rintro xs result after t ⟨done, -, rfl, hall⟩
    exact ⟨rfl, fun listed hresult live => (hall listed hresult live).2.2 rfl⟩
  create := applies_callApply cluster .create
  overwrite := applies_callApply cluster .overwrite
  delete _ := applies_callApply cluster .delete

namespace CutShort

/-! A run that creates the first of two records and is then canceled, and a run after it. -/

/-- The records that exist, in the order in which they are listed. -/
def existing : List PlainRecord := [⟨"c", "1"⟩, ⟨"a", "1"⟩, ⟨"b", "1"⟩]

/-- The records that should exist. -/
def desired : List PlainRecord := [⟨"b", "2"⟩, ⟨"c", "1"⟩, ⟨"d", "1"⟩, ⟨"e", "1"⟩]

def before : RecordStore PlainRecord := (∅ : RecordStore PlainRecord).writeAll existing

/-- What the run that was cut short leaves. -/
def halfway : RecordStore PlainRecord := before.writeAll [⟨"d", "1"⟩]

/-- What the run after it leaves. -/
def settled : RecordStore PlainRecord :=
  ((halfway.writeAll [⟨"e", "1"⟩]).writeAll [⟨"b", "2"⟩]).removeAll [⟨"a", "1"⟩]

/-- A method that is answered as it should be. -/
def answered (method : Method) (records result : List PlainRecord) : Exchange recordInterface :=
  ⟨(method, records), ⟨none, .ok result⟩⟩

/-- The run that is cut short. -/
def cut : List (Exchange recordInterface) :=
  [answered .current [] existing, answered .desired [] desired,
    ⟨(.create, [⟨"d", "1"⟩, ⟨"e", "1"⟩]), ⟨some "stop", .ok []⟩⟩]

/-- The run after it. -/
def rest : List (Exchange recordInterface) :=
  [answered .current [] (existing ++ [⟨"d", "1"⟩]), answered .desired [] desired,
    answered .create [⟨"e", "1"⟩] [], answered .overwrite [⟨"b", "2"⟩] [],
    answered .delete [⟨"a", "1"⟩] []]

theorem answers_current {records : List PlainRecord} (distinct : DistinctKeys records) :
    StoreAnswers desired ((∅ : RecordStore PlainRecord).writeAll records)
      (answered .current [] records) ((∅ : RecordStore PlainRecord).writeAll records) :=
  ⟨[], List.prefix_refl _, rfl, fun _ _ h =>
    ⟨rfl, fun _ => Except.ok.inj h ▸ RecordStore.lists_writeAll distinct, nofun⟩⟩

theorem answers_desired {s : RecordStore PlainRecord} :
    StoreAnswers desired s (answered .desired [] desired) s :=
  ⟨[], List.prefix_refl _, rfl, fun _ _ h => ⟨rfl, nofun, fun _ => (Except.ok.inj h).symm⟩⟩

theorem served_cut : Served (StoreAnswers desired) before cut halfway := by
  refine .cons (answers_current (by decide)) (.cons answers_desired (.cons ?_ (.nil _)))
  exact ⟨[⟨"d", "1"⟩], by decide, rfl, nofun⟩

theorem served_rest : Served (StoreAnswers desired) halfway rest settled := by
  refine .cons (answers_current (by decide)) (.cons answers_desired ?_)
  refine .cons ⟨_, List.prefix_refl _, rfl, fun _ _ _ => ⟨rfl, nofun, nofun⟩⟩ ?_
  refine .cons ⟨_, List.prefix_refl _, rfl, fun _ _ _ => ⟨rfl, nofun, nofun⟩⟩ ?_
  exact .cons ⟨_, List.prefix_refl _, rfl, fun _ _ _ => ⟨rfl, nofun, nofun⟩⟩ (.nil _)

variable (cluster)

theorem transcript_cut :
    ((scriptedResource "records" .apply).reconcile cluster).Transcript {} cut
      (.ok (diff existing desired)) { cancelReason := some "stop" } :=
  .ask _ (.ask _ (.ask _ (.done _)))

theorem completes_rest :
    ((scriptedResource "records" .apply).reconcile cluster).Completes {} rest
      (diff (existing ++ [⟨"d", "1"⟩]) desired) {} :=
  ⟨.ask _ (.ask _ (.ask _ (.ask _ (.ask _ (.done _))))), rfl⟩

/-- The run after the one that was cut short leaves exactly the desired records, and no run
after that one has anything to do. -/
theorem settled_of_rest :
    (scriptedResource "records" .apply).Runs default (StoreAnswers desired) before halfway ∧
      Served (StoreAnswers desired) halfway rest settled ∧
      (∀ record, record ∈ settled ↔ record ∈ desired) ∧
      ∀ ctx ys result after v,
        ((scriptedResource "records" .apply).reconcile default).Transcript ctx ys result after →
        Served (StoreAnswers desired) settled ys v →
        v = settled ∧ (scriptedResource "records" .apply).CallsNoApply default ctx ys result after
    := by
  have earlier : (scriptedResource "records" .apply).Runs default (StoreAnswers desired)
      before halfway := .next (.none before) (transcript_cut default) served_cut
  obtain ⟨hrecords, hlater⟩ := RecordResource.OverStore.converges overStore_scriptedResource
    (by decide) earlier (completes_rest default) served_rest
  refine ⟨earlier, served_rest, fun record => (hrecords record).trans ?_, hlater⟩
  exact or_iff_left fun hcascade => nomatch hcascade.1

end CutShort

end Rehearsal

end ClusterOperator
