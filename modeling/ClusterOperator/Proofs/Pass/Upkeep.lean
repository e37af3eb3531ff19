import ClusterOperator.Proofs.Pass.Endings

/-!
# What becomes of a run of the boot objects

A run of the boot objects follows a plan: the container is looked for and listed, the managed
objects are read, the objects of the roles are rendered, and what is missing or different is
written.  A run has made a first part of its plan, and nothing but its last exchange can have
ended it.

`Upkeep` lists the ways in which a run can go, from what was replied to the result, and
`upkeep_of_reconcile` says that there are no others.  All else is read off it: what is asked
(`Upkeep.planned`), that an exchange that ends a run is the last one (`Upkeep.of_ending`), and
that nothing is written before everything was read and rendered (`Upkeep.writes`).
-/

namespace ClusterOperator

namespace BootObjects

variable {α β : Type} {cluster : Cluster} {ctx after : PassContext} {s : StorageContainer}
  {xs ys before : List (Exchange gateway)} {x : Exchange gateway} {result : Except Failure α}

/-! ## Reading -/

/-- The request for the object at a place. -/
def readAt (place : ObjectAddress) : Gateway.Request :=
  .readObject place.account place.container place.key

/-- The request for an object in a container. -/
def readOf (s : StorageContainer) (key : String) : Gateway.Request :=
  readAt ⟨s.account, s.container, key⟩

theorem readAt_inj {place other : ObjectAddress} (h : readAt place = readAt other) :
    place = other := by
  obtain ⟨account, container, key⟩ := place
  obtain ⟨rfl, rfl, rfl⟩ := Gateway.Request.readObject.inj h
  rfl

theorem readOf_inj {key other : String} (h : readOf s key = readOf s other) : key = other :=
  congrArg ObjectAddress.key (readAt_inj h)

/-- The objects that were read. -/
def readBack (xs : List (Exchange gateway)) : List BootObject :=
  xs.filterMap fun
    | ⟨.readObject account container key, .ok body⟩ => some ⟨account, container, key, body⟩
    | _ => none

/-- The container was found, and these keys in it. -/
def opened (s : StorageContainer) (keys : List String) : List (Exchange gateway) :=
  [⟨.containerExists s.account s.container, .ok true⟩,
    ⟨.listObjects s.account s.container, .ok keys⟩]

/-- The managed objects among those that were found are read. -/
def readPlan (s : StorageContainer) (keys : List String) : List Gateway.Request :=
  (keys.filter isManagedKey).map (readOf s)

theorem readObjects_cases {found : List BootObject} {keys : List String}
    {result : Except Failure (List BootObject)}
    (h : (readObjects s found keys).Transcript ctx xs result after) :
    Halts ctx (Underway ctx (keys.map (readOf s))) xs result after ∨
      result = .ok (found ++ readBack xs) ∧ after = ctx ∧ Goes ctx (keys.map (readOf s)) xs := by
  induction keys generalizing found xs with
  | nil =>
    obtain ⟨rfl, rfl, rfl⟩ := Step.transcript_pure_iff.mp h
    exact .inr ⟨by simp [readBack], rfl, goes_nil⟩
  | cons key keys ih =>
    obtain ⟨reply, ys, rfl, hreply⟩ := Step.transcript_ask_bind_iff.mp h
    split at hreply
    · rename_i body
      have hx : ending ctx ⟨readOf s key, .ok body⟩ = none := rfl
      rcases ih hreply with halts | ⟨rfl, rfl, goes⟩
      · exact .inl (halts.cons hx)
      · refine .inr ⟨?_, rfl, goes.cons hx⟩
        rw [List.append_assoc]
        rfl
    · rename_i e
      split at hreply
      · rename_i skipped
        have hx : ending ctx ⟨readOf s key, .error e⟩ = none := ending_readObject_of_gone skipped
        rcases ih hreply with halts | ⟨rfl, rfl, goes⟩
        · exact .inl (halts.cons hx)
        · exact .inr ⟨rfl, rfl, goes.cons hx⟩
      · rename_i unskipped
        obtain ⟨rfl, hend⟩ := notReadyOrFail_bind_pure hreply
        have hx : ending ctx ⟨readOf s key, .error e⟩ = some (failureOf result, after) := by
          rw [← hend]
          exact ending_readObject unskipped
        exact .inl (halts_first hx)

/-- The container is looked for, and found or not. -/
theorem readyStorage_cases {result : Except Failure (Option StorageContainer)}
    (storage : ctx.storage = some s)
    (h : readyStorage.Transcript ctx xs result after) :
    (∃ reply, xs = [⟨.containerExists s.account s.container, reply⟩] ∧
      ending ctx ⟨.containerExists s.account s.container, reply⟩ =
        some (failureOf result, after) ∧ ∀ ready, result = .ok ready → ready = none) ∨
    xs = [⟨.containerExists s.account s.container, .ok true⟩] ∧ result = .ok (some s) ∧
      after = ctx := by
  have valid : ctx.validate resourceName [.storageContainer] = .ok () := by
    simp [PassContext.validate, PassContext.isSet, storage]
  simp only [readyStorage, Step.bind_eq_bind] at h
  rw [Step.transcript_require_bind_of_ok valid, Step.transcript_context_bind_iff, storage] at h
  obtain ⟨reply, ys, rfl, hreply⟩ := Step.transcript_ask_bind_iff.mp h
  split at hreply
  · obtain ⟨rfl, rfl, rfl⟩ := Step.transcript_pure_iff.mp hreply
    exact .inr ⟨rfl, rfl, rfl⟩
  · rw [Step.transcript_cancel_bind_iff, Step.transcript_pure_iff] at hreply
    obtain ⟨rfl, rfl, rfl⟩ := hreply
    exact .inl ⟨_, rfl, rfl, fun ready hready => (Except.ok.inj hready).symm⟩
  · obtain ⟨rfl, hend⟩ := notReadyOrFail_bind_pure hreply
    refine .inl ⟨_, rfl, ending_containerExists.trans (congrArg some hend), ?_⟩
    rintro ready rfl
    exact (notReadyOrFail_bind_ok hreply).1

/-- What ends a run while the objects are read: the container was not found or could not be
listed, or an object could not be read. -/
def Unread (ctx : PassContext) (s : StorageContainer) (before : List (Exchange gateway))
    (x : Exchange gateway) : Prop :=
  Underway ctx [.containerExists s.account s.container, .listObjects s.account s.container]
      before x ∨
    ∃ keys others, before = opened s keys ++ others ∧ Underway ctx (readPlan s keys) others x

theorem current_cases {result : Except Failure (List BootObject)} (storage : ctx.storage = some s)
    (h : current.Transcript ctx xs result after) :
    Halts ctx (Unread ctx s) xs result after ∨
      ∃ listed, result = .ok listed ∧ after = ctx ∧
        ∃ keys gets, xs = opened s keys ++ gets ∧ listed = readBack gets ∧
          Goes ctx (readPlan s keys) gets := by
  simp only [current, Step.bind_eq_bind] at h
  have hfound : ending ctx ⟨.containerExists s.account s.container, .ok true⟩ = none := rfl
  rcases Step.transcript_bind_iff.mp h with
    ⟨e, hready, rfl⟩ | ⟨ready, between, ys, zs, rfl, hready, hlist⟩
  · rcases readyStorage_cases storage hready with ⟨reply, rfl, hend, -⟩ | ⟨-, heq, -⟩
    · exact .inl ((halts_first hend).mono fun _ _ => .inl)
    · cases heq
  · rcases readyStorage_cases storage hready with ⟨reply, rfl, hend, hnone⟩ | ⟨rfl, heq, rfl⟩
    · obtain rfl := hnone ready rfl
      obtain ⟨rfl, rfl, rfl⟩ := Step.transcript_pure_iff.mp hlist
      exact .inl ((halts_first hend).mono fun _ _ => .inl)
    cases heq
    obtain ⟨reply, ws, rfl, hreply⟩ := Step.transcript_ask_bind_iff.mp hlist
    split at hreply
    · rename_i keys
      rcases readObjects_cases hreply with halts | ⟨rfl, rfl, goes⟩
      · obtain ⟨others, x, rfl, underway, hx⟩ := halts
        exact .inl ⟨opened s keys ++ others, x, rfl, .inr ⟨keys, others, rfl, underway⟩, hx⟩
      · exact .inr ⟨_, rfl, rfl, keys, ws, rfl, rfl, goes⟩
    · rename_i e
      obtain ⟨rfl, hend⟩ := notReadyOrFail_bind_pure hreply
      have hlisting : ending between ⟨.listObjects s.account s.container, .error e⟩ =
        some (failureOf result, after) := ending_listObjects.trans (congrArg some hend)
      exact .inl (((halts_first hlisting).cons hfound).mono fun _ _ => .inl)

theorem current_of_no_storage {result : Except Failure (List BootObject)}
    (storage : ctx.storage = none) (h : current.Transcript ctx xs result after) :
    xs = [] ∧ result = .error (.invalidContext resourceName
      [ContextField.storageContainer.toText]) ∧ after = ctx := by
  have invalid : ctx.validate resourceName [.storageContainer] =
      .error (.invalidContext resourceName [ContextField.storageContainer.toText]) := by
    simp [PassContext.validate, PassContext.isSet, storage]
  simp only [current, readyStorage, Step.bind_eq_bind] at h
  exact fails_of_bind (Step.transcript_require_bind_of_error invalid).mp h

/-! ## Rendering -/

/-- The objects that were rendered. -/
def renderedIn (cluster : Cluster) (s : StorageContainer) (xs : List (Exchange gateway)) :
    List BootObject :=
  xs.filterMap fun
    | ⟨.render input, .ok body⟩ =>
      some ⟨s.account, s.container, objectKey input.role cluster.spec.releaseVersion, body⟩
    | _ => none

/-- The objects of the roles are rendered, in their order. -/
def renderPlan (cluster : Cluster) (ctx : PassContext) (roles : List NodeRole) :
    List Gateway.Request :=
  roles.map fun role => .render (inputOf cluster ctx role)

theorem renderObjects_cases {given : PassContext} {roles : List NodeRole}
    {result : Except Failure (List BootObject)}
    (h : (renderObjects cluster given s roles).Transcript ctx xs result after) :
    Halts ctx (Underway ctx (renderPlan cluster given roles)) xs result after ∨
      ∃ records, result = .ok records ∧ after = ctx ∧ records = renderedIn cluster s xs ∧
        Goes ctx (renderPlan cluster given roles) xs := by
  induction roles generalizing xs result with
  | nil =>
    obtain ⟨rfl, rfl, rfl⟩ := Step.transcript_pure_iff.mp h
    exact .inr ⟨[], rfl, rfl, rfl, goes_nil⟩
  | cons role roles ih =>
    simp only [renderObjects, Step.bind_eq_bind] at h
    rcases Step.transcript_tryLift_bind_iff.mp h with
      ⟨e, hrender, rfl, rfl⟩ | ⟨body, ys, zs, rfl, hrender, hrest⟩
    · obtain rfl := Program.transcript_call_iff.mp hrender
      exact .inl (halts_first rfl)
    obtain rfl := Program.transcript_call_iff.mp hrender
    have hx : ending ctx ⟨.render (inputOf cluster given role), .ok body⟩ = none := rfl
    rcases Step.transcript_bind_iff.mp hrest with
      ⟨e, hlater, rfl⟩ | ⟨rest, between, vs, ws, rfl, hlater, hpure⟩
    · rcases ih hlater with halts | ⟨records, heq, -⟩
      · exact .inl ((halts.cons hx).of_failureOf rfl)
      · cases heq
    · obtain ⟨rfl, rfl, rfl⟩ := Step.transcript_pure_iff.mp hpure
      rw [List.append_nil]
      rcases ih hlater with halts | ⟨records, heq, rfl, rfl, goes⟩
      · exact .inl ((halts.cons hx).of_failureOf rfl)
      · cases heq
        exact .inr ⟨_, rfl, rfl, rfl, goes.cons hx⟩

theorem desired_of_invalid {e : Failure} {result : Except Failure (List BootObject)}
    (invalid : ctx.validate resourceName requirements = .error e)
    (h : (desired cluster).Transcript ctx xs result after) :
    xs = [] ∧ result = .error e ∧ after = ctx := by
  simp only [desired, Step.bind_eq_bind] at h
  exact (Step.transcript_require_bind_of_error invalid).mp h

theorem desired_cases {result : Except Failure (List BootObject)} (storage : ctx.storage = some s)
    (valid : ctx.validate resourceName requirements = .ok ())
    (h : (desired cluster).Transcript ctx xs result after) :
    Halts ctx (Underway ctx (renderPlan cluster ctx NodeRole.all)) xs result after ∨
      ∃ records, result = .ok records ∧ after = ctx ∧ records = renderedIn cluster s xs ∧
        Goes ctx (renderPlan cluster ctx NodeRole.all) xs := by
  simp only [desired, Step.bind_eq_bind] at h
  rw [Step.transcript_require_bind_of_ok valid, Step.transcript_context_bind_iff, storage] at h
  exact renderObjects_cases h

/-! ## Writing -/

theorem writeObjects_cases {records : List BootObject} {result : Except Failure Unit}
    (h : (writeObjects records).Transcript ctx xs result after) :
    Halts ctx (Underway ctx (records.map writeOf)) xs result after ∨
      ∃ u, result = .ok u ∧ after = ctx ∧ Goes ctx (records.map writeOf) xs := by
  induction records generalizing xs with
  | nil =>
    obtain ⟨rfl, rfl, rfl⟩ := Step.transcript_pure_iff.mp h
    exact .inr ⟨(), rfl, rfl, goes_nil⟩
  | cons record records ih =>
    obtain ⟨reply, ys, rfl, hreply⟩ := Step.transcript_ask_bind_iff.mp h
    split at hreply
    · have hx : ending ctx ⟨writeOf record, .ok ()⟩ = none := rfl
      rcases ih hreply with halts | ⟨u, rfl, rfl, goes⟩
      · exact .inl (halts.cons hx)
      · exact .inr ⟨u, rfl, rfl, goes.cons hx⟩
    · rename_i e
      obtain ⟨rfl, hend⟩ := notReadyOrFail_transcript_iff.mp hreply
      have hx : ending ctx ⟨writeOf record, .error e⟩ = some (failureOf result, after) :=
        ending_writeObject.trans (congrArg some hend)
      exact .inl (halts_first hx)

theorem applyTo_write_cases {records : List BootObject} {result : Except Failure Unit}
    (storage : ctx.storage = some s)
    (h : (RecordResource.applyTo write records).Transcript ctx xs result after) :
    Halts ctx (Underway ctx (records.map writeOf)) xs result after ∨
      ∃ u, result = .ok u ∧ after = ctx ∧ Goes ctx (records.map writeOf) xs := by
  have valid : ctx.validate resourceName [.storageContainer] = .ok () := by
    simp [PassContext.validate, PassContext.isSet, storage]
  unfold RecordResource.applyTo at h
  split at h
  · rename_i hempty
    obtain ⟨rfl, rfl, rfl⟩ := Step.transcript_pure_iff.mp h
    rw [List.isEmpty_iff.mp hempty]
    exact .inr ⟨(), rfl, rfl, goes_nil⟩
  · simp only [write, Step.bind_eq_bind] at h
    exact writeObjects_cases ((Step.transcript_require_bind_of_ok valid).mp h)

/-! ## The whole run -/

/-- What is found to be different by comparing what was read with what was rendered. -/
def compared (cluster : Cluster) (s : StorageContainer) (gets renders : List (Exchange gateway)) :
    ChangeSet BootObject :=
  Records.diff (readBack gets) (renderedIn cluster s renders)

/-- What is missing is written, and then what is different. -/
def writePlan (changes : ChangeSet BootObject) : List Gateway.Request :=
  (changes.toCreate ++ changes.toUpdate).map writeOf

/-- **What becomes of a run** that has read what exists. -/
inductive Finish (cluster : Cluster) (ctx : PassContext) (s : StorageContainer)
    (gets : List (Exchange gateway)) :
    List (Exchange gateway) → Except Failure (ChangeSet BootObject) → PassContext → Prop where
  /-- Something that is required was not there. -/
  | invalid (e : Failure) : ctx.validate resourceName requirements = .error e →
      Finish cluster ctx s gets [] (.error e) ctx
  /-- What should exist could not be rendered. -/
  | unrendered {xs : List (Exchange gateway)} {result : Except Failure (ChangeSet BootObject)}
      {after : PassContext} : ctx.validate resourceName requirements = .ok () →
      Halts ctx (Underway ctx (renderPlan cluster ctx NodeRole.all)) xs result after →
      Finish cluster ctx s gets xs result after
  /-- Something that is missing or different could not be written. -/
  | unwritten (renders : List (Exchange gateway)) {xs : List (Exchange gateway)}
      {result : Except Failure (ChangeSet BootObject)} {after : PassContext} :
      ctx.validate resourceName requirements = .ok () →
      Goes ctx (renderPlan cluster ctx NodeRole.all) renders →
      Halts ctx (Underway ctx (writePlan (compared cluster s gets renders))) xs result after →
      Finish cluster ctx s gets (renders ++ xs) result after
  | complete (renders writes : List (Exchange gateway)) :
      ctx.validate resourceName requirements = .ok () →
      Goes ctx (renderPlan cluster ctx NodeRole.all) renders →
      Goes ctx (writePlan (compared cluster s gets renders)) writes →
      Finish cluster ctx s gets (renders ++ writes) (.ok (compared cluster s gets renders)) ctx

/-- **What becomes of a run of the boot objects.** -/
inductive Upkeep (cluster : Cluster) (ctx : PassContext) :
    List (Exchange gateway) → Except Failure (ChangeSet BootObject) → PassContext → Prop where
  | canceled : ctx.isCanceled = true → Upkeep cluster ctx [] (.ok {}) ctx
  | noStorage : ctx.storage = none →
      Upkeep cluster ctx [] (.error (.invalidContext resourceName
        [ContextField.storageContainer.toText])) ctx
  /-- What exists could not be read. -/
  | unread (s : StorageContainer) {xs : List (Exchange gateway)}
      {result : Except Failure (ChangeSet BootObject)} {after : PassContext} :
      ctx.storage = some s → Halts ctx (Unread ctx s) xs result after →
      Upkeep cluster ctx xs result after
  | read (s : StorageContainer) (keys : List String) (gets : List (Exchange gateway))
      {rest : List (Exchange gateway)} {result : Except Failure (ChangeSet BootObject)}
      {after : PassContext} : ctx.storage = some s → Goes ctx (readPlan s keys) gets →
      Finish cluster ctx s gets rest result after →
      Upkeep cluster ctx (opened s keys ++ gets ++ rest) result after

/-- Writing what is missing and what is different. -/
theorem applyChanges_cases {changes : ChangeSet BootObject}
    {result : Except Failure (ChangeSet BootObject)} (live : ctx.isCanceled = false)
    (storage : ctx.storage = some s)
    (h : (resource.applyChanges cluster changes).Transcript ctx xs result after) :
    Halts ctx (Underway ctx (writePlan changes)) xs result after ∨
      result = .ok changes ∧ after = ctx ∧ Goes ctx (writePlan changes) xs := by
  rw [writePlan, List.map_append]
  rcases stage_cases live (applyTo_write_cases storage) h with
    halts | ⟨-, ys, zs, rfl, created, hupdate⟩
  · exact .inl (halts.mono fun before x h => h.append_right _)
  rcases stage_cases live (applyTo_write_cases storage) hupdate with
    halts | ⟨-, vs, ws, rfl, updated, hend⟩
  · obtain ⟨before, x, rfl, underway, hx⟩ := halts
    exact .inl ⟨ys ++ before, x, (List.append_assoc ..).symm, created.underway underway, hx⟩
  · obtain ⟨rfl, rfl, rfl⟩ := Step.transcript_pure_iff.mp hend
    rw [List.append_nil]
    exact .inr ⟨rfl, rfl, created.append updated⟩

/-- What should exist is rendered and compared with what exists. -/
theorem finish_of_desired {gets : List (Exchange gateway)}
    {result : Except Failure (ChangeSet BootObject)} (live : ctx.isCanceled = false)
    (storage : ctx.storage = some s)
    (h : ((resource.desired cluster).bind fun desired => RecordResource.unlessCanceled {}
      (resource.applyChanges cluster (Records.diff (readBack gets) desired))).Transcript ctx xs
        result after) :
    Finish cluster ctx s gets xs result after := by
  cases valid : ctx.validate resourceName requirements with
  | error e =>
    obtain ⟨rfl, rfl, rfl⟩ := fails_of_bind (desired_of_invalid valid) h
    exact .invalid e valid
  | ok u =>
    rcases stage_cases live (desired_cases storage valid) h with
      halts | ⟨_, renders, ys, rfl, ⟨rfl, rendered⟩, happly⟩
    · exact .unrendered valid halts
    rcases applyChanges_cases live storage happly with halts | ⟨rfl, rfl, written⟩
    · exact .unwritten renders valid rendered halts
    · exact .complete renders ys valid rendered written

/-- **Every run goes in one of these ways.** -/
theorem upkeep_of_reconcile {result : Except Failure (ChangeSet BootObject)}
    (h : (resource.reconcile cluster).Transcript ctx xs result after) :
    Upkeep cluster ctx xs result after := by
  cases hcanceled : ctx.isCanceled with
  | true =>
    obtain ⟨rfl, rfl, rfl⟩ :=
      (RecordResource.transcript_unlessCanceled_of_canceled hcanceled).mp h
    exact .canceled hcanceled
  | false =>
    replace h := (RecordResource.transcript_unlessCanceled_of_live hcanceled).mp h
    cases storage : ctx.storage with
    | none =>
      obtain ⟨rfl, rfl, rfl⟩ := fails_of_bind (current_of_no_storage storage) h
      exact .noStorage storage
    | some s =>
      rcases stage_cases hcanceled (current_cases storage) h with
        halts | ⟨_, _, rest, rfl, ⟨keys, gets, rfl, rfl, goes⟩, hmake⟩
      · exact .unread s storage halts
      · exact .read s keys gets storage goes (finish_of_desired hcanceled storage hmake)

/-! ## The end of a run -/

/-- No exchange of the run has ended it. -/
def Smooth (ctx : PassContext) (xs : List (Exchange gateway)) : Prop :=
  ∀ x ∈ xs, ending ctx x = none

/-- **A run is smooth, or its last exchange has ended it.** -/
def EndsWell (ctx : PassContext) (xs : List (Exchange gateway)) (result : Except Failure α)
    (after : PassContext) : Prop :=
  Smooth ctx xs ∨ Halts ctx (fun before _ => Smooth ctx before) xs result after

theorem smooth_opened {keys : List String} : Smooth ctx (opened s keys) :=
  List.forall_mem_cons.mpr ⟨rfl, List.forall_mem_singleton.mpr rfl⟩

theorem EndsWell.prepend (h : EndsWell ctx xs result after) (smooth : Smooth ctx ys) :
    EndsWell ctx (ys ++ xs) result after := by
  rcases h with hxs | ⟨before, x, rfl, hbefore, hx⟩
  · exact .inl (List.forall_mem_append.mpr ⟨smooth, hxs⟩)
  · exact .inr ⟨ys ++ before, x, (List.append_assoc ..).symm,
      List.forall_mem_append.mpr ⟨smooth, hbefore⟩, hx⟩

theorem Halts.endsWell (h : Halts ctx (Underway ctx plan) xs result after) :
    EndsWell ctx xs result after :=
  .inr (h.mono fun _ _ underway => underway.2)

theorem Unread.smooth (h : Unread ctx s before x) : Smooth ctx before := by
  rcases h with underway | ⟨keys, others, rfl, underway⟩
  · exact underway.2
  · exact List.forall_mem_append.mpr ⟨smooth_opened, underway.2⟩

section

variable {result : Except Failure (ChangeSet BootObject)} {gets : List (Exchange gateway)}

theorem Finish.endsWell (h : Finish cluster ctx s gets xs result after) :
    EndsWell ctx xs result after := by
  cases h with
  | invalid => exact .inl (List.forall_mem_nil _)
  | unrendered valid halts => exact halts.endsWell
  | unwritten renders valid rendered halts => exact halts.endsWell.prepend rendered.2
  | complete renders writes valid rendered written =>
    exact .inl (List.forall_mem_append.mpr ⟨rendered.2, written.2⟩)

theorem Upkeep.endsWell (h : Upkeep cluster ctx xs result after) :
    EndsWell ctx xs result after := by
  cases h with
  | canceled => exact .inl (List.forall_mem_nil _)
  | noStorage => exact .inl (List.forall_mem_nil _)
  | unread s storage halts => exact .inr (halts.mono fun _ _ unread => unread.smooth)
  | read s keys gets storage goes finish =>
    exact finish.endsWell.prepend (List.forall_mem_append.mpr ⟨smooth_opened, goes.2⟩)

/-- **An exchange that ends a run is the last one**, and decides the result. -/
theorem Upkeep.of_ending {behind : List (Exchange gateway)} {failure : Option Failure}
    {ended : PassContext} (h : Upkeep cluster ctx (before ++ x :: behind) result after)
    (hx : ending ctx x = some (failure, ended)) :
    behind = [] ∧ failureOf result = failure ∧ after = ended := by
  rcases h.endsWell with smooth | ⟨others, last, heq, smooth, hlast⟩
  · rw [smooth x (List.mem_append_right _ List.mem_cons_self)] at hx
    cases hx
  · rcases append_cons_eq_append heq with ⟨ws, rfl, -⟩ | ⟨ws, rfl, hlist⟩
    · rw [smooth x (List.mem_append_right _ List.mem_cons_self)] at hx
      cases hx
    · obtain ⟨rfl, hnil⟩ | ⟨-, hnil⟩ := List.append_eq_singleton_iff.mp hlist.symm
      · cases hnil
        rw [hlast] at hx
        cases hx
        exact ⟨rfl, rfl, rfl⟩
      · cases hnil

/-! ## The requests of a run -/

/-- After reading, objects are rendered and then written, and none is written before all are
rendered. -/
theorem Finish.parts (h : Finish cluster ctx s gets xs result after) :
    ∃ renders writes, xs = renders ++ writes ∧
      renders.map (·.request) <+: renderPlan cluster ctx NodeRole.all ∧
      writes.map (·.request) <+: writePlan (compared cluster s gets renders) ∧
      (writes ≠ [] → Goes ctx (renderPlan cluster ctx NodeRole.all) renders) := by
  cases h with
  | invalid => exact ⟨[], [], rfl, List.nil_prefix, List.nil_prefix, (absurd rfl ·)⟩
  | unrendered valid halts =>
    exact ⟨xs, [], (List.append_nil xs).symm, halts.planned, List.nil_prefix, (absurd rfl ·)⟩
  | unwritten renders valid rendered halts =>
    exact ⟨renders, _, rfl, rendered.planned, halts.planned, fun _ => rendered⟩
  | complete renders writes valid rendered written =>
    exact ⟨renders, writes, rfl, rendered.planned, written.planned,
      fun _ => rendered⟩

/-- **What a run asks, in order**, if these keys are found and these changes are to be made. -/
def runPlan (cluster : Cluster) (ctx : PassContext) (s : StorageContainer) (keys : List String)
    (changes : ChangeSet BootObject) : List Gateway.Request :=
  .containerExists s.account s.container :: .listObjects s.account s.container ::
    (readPlan s keys ++ (renderPlan cluster ctx NodeRole.all ++ writePlan changes))

theorem Upkeep.planned (h : Upkeep cluster ctx xs result after) :
    xs = [] ∨ ∃ s keys changes, ctx.storage = some s ∧
      xs.map (·.request) <+: runPlan cluster ctx s keys changes := by
  cases h with
  | canceled => exact .inl rfl
  | noStorage => exact .inl rfl
  | unread s storage halts =>
    obtain ⟨before, x, rfl, underway | ⟨keys, others, rfl, underway⟩, -⟩ := halts
    · exact .inr ⟨s, [], {}, storage, underway.1.trans (List.prefix_append _ _)⟩
    · refine .inr ⟨s, keys, {}, storage, ?_⟩
      have hplanned := underway.1.trans (List.prefix_append _
        (renderPlan cluster ctx NodeRole.all ++ writePlan {}))
      exact List.cons_prefix_cons.mpr ⟨rfl, List.cons_prefix_cons.mpr ⟨rfl, hplanned⟩⟩
  | read s keys gets storage goes finish =>
    obtain ⟨renders, writes, rfl, rendered, written, all⟩ := finish.parts
    refine .inr ⟨s, keys, compared cluster s gets renders, storage, ?_⟩
    refine List.cons_prefix_cons.mpr ⟨rfl, List.cons_prefix_cons.mpr ⟨rfl, ?_⟩⟩
    change (gets ++ (renders ++ writes)).map _ <+: _
    rw [List.map_append, goes.1, List.map_append]
    refine (List.prefix_append_right_inj _).mpr ?_
    by_cases hwrites : writes = []
    · rw [hwrites, List.map_nil, List.append_nil]
      exact rendered.trans (List.prefix_append _ _)
    · rw [(all hwrites).1]
      exact (List.prefix_append_right_inj _).mpr written

/-- Nothing else is asked. -/
theorem Upkeep.asks (h : Upkeep cluster ctx xs result after) (hx : x ∈ xs) :
    ∃ s, ctx.storage = some s ∧
      (x.request = .containerExists s.account s.container ∨
        x.request = .listObjects s.account s.container ∨
        (∃ key, isManagedKey key = true ∧ x.request = readOf s key) ∨
        (∃ role, x.request = .render (inputOf cluster ctx role)) ∨
        ∃ record, x.request = writeOf record) := by
  rcases h.planned with rfl | ⟨s, keys, changes, storage, hplanned⟩
  · cases hx
  refine ⟨s, storage, ?_⟩
  have hmem : x.request ∈ runPlan cluster ctx s keys changes :=
    hplanned.subset (List.mem_map_of_mem hx)
  simp only [runPlan, List.mem_cons, List.mem_append] at hmem
  rcases hmem with hmem | hmem | hmem | hmem | hmem
  · exact .inl hmem
  · exact .inr (.inl hmem)
  · obtain ⟨key, hkey, heq⟩ := List.mem_map.mp hmem
    exact .inr (.inr (.inl ⟨key, (List.mem_filter.mp hkey).2, heq.symm⟩))
  · obtain ⟨role, -, heq⟩ := List.mem_map.mp hmem
    exact .inr (.inr (.inr (.inl ⟨role, heq.symm⟩)))
  · obtain ⟨record, -, heq⟩ := List.mem_map.mp hmem
    exact .inr (.inr (.inr (.inr ⟨record, heq.symm⟩)))

theorem Upkeep.topic (h : Upkeep cluster ctx xs result after) (hx : x ∈ xs) :
    x.request.topic = .bootObjects := by
  obtain ⟨s, -, heq | heq | ⟨key, -, heq⟩ | ⟨role, heq⟩ | ⟨record, heq⟩⟩ := h.asks hx <;>
    rw [heq] <;> rfl

/-- The container is looked for once, and before anything else. -/
theorem Upkeep.first (h : Upkeep cluster ctx (before ++ x :: ys) result after)
    {account container : String} (hx : x.request = .containerExists account container) :
    before = [] := by
  rcases h.planned with hnil | ⟨s, keys, changes, -, hplanned⟩
  · exact absurd hnil (by simp)
  cases before with
  | nil => rfl
  | cons y before =>
    -- The requests behind the first one are all of other sorts.
    have hmem : x.request ∈ .listObjects s.account s.container ::
        (readPlan s keys ++ (renderPlan cluster ctx NodeRole.all ++ writePlan changes)) :=
      (List.cons_prefix_cons.mp hplanned).2.subset (List.mem_map_of_mem (by simp))
    rw [hx] at hmem
    simp [readPlan, readOf, readAt, renderPlan, writePlan, writeOf] at hmem

theorem written_eq_nil (hplanned : xs.map (·.request) <+: plan)
    (hplan : ∀ q ∈ plan, q.written? = none) : written xs = [] :=
  List.filterMap_eq_nil_iff.mpr fun _ hx => hplan _ (hplanned.subset (List.mem_map_of_mem hx))

theorem written?_of_mem_readPlan {keys : List String} :
    ∀ q ∈ readPlan s keys, q.written? = none := by
  intro q hq
  obtain ⟨key, -, rfl⟩ := List.mem_map.mp hq
  rfl

theorem written?_of_mem_renderPlan {roles : List NodeRole} :
    ∀ q ∈ renderPlan cluster ctx roles, q.written? = none := by
  intro q hq
  obtain ⟨role, -, rfl⟩ := List.mem_map.mp hq
  rfl

theorem Unread.written_eq_nil (h : Unread ctx s before x) : written (before ++ [x]) = [] := by
  rcases h with underway | ⟨keys, others, rfl, underway⟩
  · exact BootObjects.written_eq_nil underway.1 (by simp [Gateway.Request.written?])
  · rw [List.append_assoc, written_append, BootObjects.written_eq_nil underway.1
      written?_of_mem_readPlan]
    rfl

/-- **Before an object is written** everything was read and rendered, and what is written is what
was found to be missing or different. -/
theorem Upkeep.writes (h : Upkeep cluster ctx xs result after) (hwritten : written xs ≠ []) :
    ∃ s keys gets renders writes, ctx.storage = some s ∧
      xs = opened s keys ++ gets ++ (renders ++ writes) ∧ Goes ctx (readPlan s keys) gets ∧
      Goes ctx (renderPlan cluster ctx NodeRole.all) renders ∧
      writes.map (·.request) <+: writePlan (compared cluster s gets renders) := by
  cases h with
  | canceled => exact absurd rfl hwritten
  | noStorage => exact absurd rfl hwritten
  | unread s storage halts =>
    obtain ⟨before, x, rfl, unread, -⟩ := halts
    exact absurd unread.written_eq_nil hwritten
  | read s keys gets storage goes finish =>
    obtain ⟨renders, writes, rfl, rendered, written, all⟩ := finish.parts
    refine ⟨s, keys, gets, renders, writes, storage, rfl, goes, all ?_, written⟩
    rintro rfl
    refine hwritten ?_
    rw [written_append, written_append, List.append_nil,
      written_eq_nil goes.planned written?_of_mem_readPlan,
      written_eq_nil rendered written?_of_mem_renderPlan]
    rfl

end

end BootObjects

end ClusterOperator
