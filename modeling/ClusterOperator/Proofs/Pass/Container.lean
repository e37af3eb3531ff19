import ClusterOperator.Proofs.Pass.BootObjects
import ClusterOperator.Proofs.Pass.World
import ClusterOperator.Proofs.Records.Store

/-!
# Boot objects in a container that works

The managed objects of a container are a store of records: the listing is filtered by the form
of the keys, and the keys of the roles are of that form.  So what is listed, read and rendered
is compared as it should be, and what is written is what is missing or different
(`ensures_reconcile`): everything in an empty container, and nothing where the objects of the
roles are as they are rendered, whatever else is there.
-/

namespace ClusterOperator

open Records

namespace BootObjects

variable {γ : Type} {site : Site} {cloud : γ → Exchange gateway → γ → Prop} {w : World γ}
  {cluster : Cluster} {ctx : PassContext} {s : StorageContainer} {role : NodeRole}
  {objects : AList fun _ : String => String} {record : BootObject} {release : String}

/-! ## Keys -/

theorem toList_objectKey :
    (objectKey role release).toList = (role.toText ++ "-").toList ++ release.toList := by
  have happend : objectKey role release = role.toText ++ "-" ++ release := rfl
  rw [happend, String.toList_append]

/-- The object of a role is among those that are listed. -/
theorem isManagedKey_objectKey : isManagedKey (objectKey role release) = true := by
  refine List.any_eq_true.mpr ⟨role, by cases role <;> simp [NodeRole.all], ?_⟩
  rw [toList_objectKey]
  exact List.isPrefixOf_iff_prefix.mpr (List.prefix_append _ _)

/-- The objects of the roles are under different keys. -/
theorem objectKey_inj {other : NodeRole} (h : objectKey role release = objectKey other release) :
    role = other := by
  have hlist := congrArg String.toList h
  rw [toList_objectKey, toList_objectKey, List.append_cancel_right_eq] at hlist
  cases role <;> cases other
  · rfl
  · exact absurd hlist (by decide)
  · exact absurd hlist (by decide)
  · rfl

/-! ## The managed objects of a container -/

/-- **The managed objects of a container**, as records under their keys. -/
def managed (s : StorageContainer) (objects : AList fun _ : String => String) :
    RecordStore BootObject where
  find? key :=
    if isManagedKey key then
      (objects.lookup key).map fun body => ⟨s.account, s.container, key, body⟩
    else none
  key_of_find? := by
    intro key r h
    split at h
    · obtain ⟨body, -, rfl⟩ := Option.map_eq_some_iff.mp h
      rfl
    · cases h

theorem find?_managed {key : String} (h : isManagedKey key = true) :
    (managed s objects).find? key =
      (objects.lookup key).map fun body => ⟨s.account, s.container, key, body⟩ :=
  if_pos h

theorem mem_managed_iff :
    record ∈ managed s objects ↔ record.account = s.account ∧ record.container = s.container ∧
      isManagedKey record.key = true ∧ objects.lookup record.key = some record.body := by
  obtain ⟨account, container, key, body⟩ := record
  rw [RecordStore.mem_iff]
  change (if isManagedKey key = true then _ else none) = _ ↔ _
  by_cases h : isManagedKey key = true
  · rw [if_pos h, Option.map_eq_some_iff]
    constructor
    · rintro ⟨body', hlookup, heq⟩
      cases heq
      exact ⟨rfl, rfl, h, hlookup⟩
    · rintro ⟨rfl, rfl, -, hlookup⟩
      exact ⟨body, hlookup, rfl⟩
  · rw [if_neg h]
    exact ⟨nofun, fun hmem => absurd hmem.2.2.1 h⟩

/-- Writing a managed object writes its record. -/
theorem managed_insert {key body : String} (h : isManagedKey key = true) :
    managed s (objects.insert key body) =
      (managed s objects).write ⟨s.account, s.container, key, body⟩ := by
  refine RecordStore.ext fun other => ?_
  change _ = if key = other then _ else (managed s objects).find? other
  by_cases hkey : key = other
  · subst hkey
    rw [find?_managed h, AList.lookup_insert, if_pos rfl]
    rfl
  · rw [if_neg hkey]
    change (if isManagedKey other then _ else none) = if isManagedKey other then _ else none
    rw [AList.lookup_insert_ne (Ne.symm hkey)]

/-- The objects after some were written, one after another. -/
def putAll (objects : AList fun _ : String => String) (records : List BootObject) :
    AList fun _ : String => String :=
  records.foldl (fun objects r => objects.insert r.key r.body) objects

/-- Writing managed objects one after another writes their records. -/
theorem managed_putAll {records : List BootObject}
    (h : ∀ r ∈ records, r.account = s.account ∧ r.container = s.container ∧
      isManagedKey r.key = true) :
    managed s (putAll objects records) = (managed s objects).writeAll records := by
  induction records generalizing objects with
  | nil => rfl
  | cons r records ih =>
    obtain ⟨⟨haccount, hcontainer, hkey⟩, hlater⟩ := List.forall_mem_cons.mp h
    have hrest : managed s (putAll objects (r :: records)) =
        (managed s (objects.insert r.key r.body)).writeAll records := ih hlater
    rw [hrest, managed_insert hkey, ← haccount, ← hcontainer]
    rfl

/-! ## Reading -/

/-- Every object that is there is read as it is. -/
theorem ensures_readObjects {found : List BootObject} {keys : List String}
    (there : ∀ key ∈ keys, key ∈ w.objects) :
    (readObjects s found keys).Ensures (World.Answers site cloud) ctx w fun xs r after w' =>
      (∃ read, r = .ok (found ++ read) ∧ read.map (·.key) = keys ∧
        ∀ record ∈ read, record.account = s.account ∧ record.container = s.container ∧
          w.objects.lookup record.key = some record.body) ∧
      after = ctx ∧ effects xs = [] ∧ w' = w := by
  induction keys generalizing found with
  | nil =>
    refine Step.ensures_pure_iff.mpr ⟨⟨[], ?_, rfl, nofun⟩, rfl, rfl, rfl⟩
    rw [List.append_nil]
  | cons key keys ih =>
    obtain ⟨hkey, hkeys⟩ := List.forall_mem_cons.mp there
    obtain ⟨body, hbody⟩ := Option.isSome_iff_exists.mp (AList.lookup_isSome.mpr hkey)
    refine Step.ensures_ask_bind_iff.mpr fun reply _ hreply => ?_
    simp only [World.Answers, hbody] at hreply
    obtain ⟨rfl, rfl⟩ := hreply
    refine (ih hkeys).mono fun xs r after w' h => ?_
    obtain ⟨⟨read, hr, hmap, hread⟩, hafter, hxs, hw⟩ := h
    refine ⟨⟨⟨s.account, s.container, key, body⟩ :: read, ?_, ?_, ?_⟩, hafter, hxs, hw⟩
    · rw [hr, List.append_assoc, List.singleton_append]
    · rw [List.map_cons, hmap]
    · exact List.forall_mem_cons.mpr ⟨⟨rfl, rfl, hbody⟩, hread⟩

/-- **What is read is a listing of the managed objects.** -/
theorem ensures_current (storage : ctx.storage = some s) :
    current.Ensures (World.Answers site cloud) ctx w fun xs r after w' =>
      (∃ listed, r = .ok listed ∧ RecordStore.Lists listed (managed s w.objects)) ∧
      after = ctx ∧ effects xs = [] ∧ w' = w := by
  have ready : readyStorage.Ensures (World.Answers site cloud) ctx w fun xs r after w' =>
      r = .ok (some s) ∧ after = ctx ∧ effects xs = [] ∧ w' = w := by
    have valid : ctx.validate resourceName [.storageContainer] = .ok () := by
      simp [PassContext.validate, PassContext.isSet, storage]
    simp only [readyStorage, Step.bind_eq_bind]
    refine (Step.ensures_require_bind_iff valid).mpr (Step.ensures_context_bind_iff.mpr ?_)
    simp only [storage]
    refine Step.ensures_ask_bind_iff.mpr ?_
    rintro _ _ ⟨rfl, rfl⟩
    exact Step.ensures_pure_iff.mpr ⟨rfl, rfl, rfl, rfl⟩
  simp only [current, Step.bind_eq_bind]
  refine ready.bind_ok ?_
  rintro xs ctx w ⟨rfl, hxs, rfl⟩
  refine Step.ensures_ask_bind_iff.mpr ?_
  rintro _ w ⟨⟨keys, rfl, hkeys⟩, rfl⟩
  have there : ∀ key ∈ keys.filter isManagedKey, key ∈ w.objects := fun key hkey =>
    AList.mem_keys.mpr (hkeys.mem_iff.mp (List.mem_filter.mp hkey).1)
  refine (ensures_readObjects there).mono fun ys r after w' h => ?_
  obtain ⟨⟨read, hr, hmap, hread⟩, hafter, hys, hw⟩ := h
  refine ⟨⟨read, hr, ?_, fun record => ?_⟩, hafter, ?_, hw⟩
  · rw [DistinctKeys]
    have hkey : read.map Keyed.key = keys.filter isManagedKey := hmap
    rw [hkey]
    exact (hkeys.nodup_iff.mpr (AList.keys_nodup _)).filter _
  · rw [mem_managed_iff]
    constructor
    · intro hrecord
      obtain ⟨haccount, hcontainer, hbody⟩ := hread record hrecord
      have hkey : record.key ∈ keys.filter isManagedKey := hmap ▸ List.mem_map_of_mem hrecord
      exact ⟨haccount, hcontainer, (List.mem_filter.mp hkey).2, hbody⟩
    · rintro ⟨haccount, hcontainer, hmanaged, hbody⟩
      have hkey : record.key ∈ keys.filter isManagedKey := by
        refine List.mem_filter.mpr ⟨hkeys.mem_iff.mpr (AList.mem_keys.mp ?_), hmanaged⟩
        exact AList.lookup_isSome.mp (Option.isSome_iff_exists.mpr ⟨_, hbody⟩)
      rw [← hmap] at hkey
      obtain ⟨other, hother, hsame⟩ := List.mem_map.mp hkey
      obtain ⟨haccount', hcontainer', hbody'⟩ := hread other hother
      rw [hsame, hbody] at hbody'
      have heq : other = record := by
        cases other
        cases record
        simp_all
      exact heq ▸ hother
  · rw [effects_append, hxs, effects_cons_of_none rfl, hys]
    rfl

/-! ## Rendering -/

/-- The objects that the cluster should have, rendered from a context. -/
def rendered (site : Site) (cluster : Cluster) (ctx : PassContext) (s : StorageContainer) :
    List BootObject :=
  NodeRole.all.map fun role => ⟨s.account, s.container,
    objectKey role cluster.spec.releaseVersion, site.render (inputOf cluster ctx role)⟩

theorem mem_rendered (role : NodeRole) :
    (⟨s.account, s.container, objectKey role cluster.spec.releaseVersion,
      site.render (inputOf cluster ctx role)⟩ : BootObject) ∈ rendered site cluster ctx s :=
  List.mem_map.mpr ⟨role, by cases role <;> simp [NodeRole.all], rfl⟩

theorem distinctKeys_rendered : DistinctKeys (rendered site cluster ctx s) := by
  rw [DistinctKeys, rendered, List.map_map]
  refine List.Nodup.map_on ?_ (by decide)
  intro role _ other _ h
  exact objectKey_inj h

theorem managed_of_rendered (h : record ∈ rendered site cluster ctx s) :
    record.account = s.account ∧ record.container = s.container ∧
      isManagedKey record.key = true := by
  obtain ⟨role, -, rfl⟩ := List.mem_map.mp h
  exact ⟨rfl, rfl, isManagedKey_objectKey⟩

theorem ensures_renderObjects {before : PassContext} {roles : List NodeRole} :
    (renderObjects cluster ctx s roles).Ensures (World.Answers site cloud) before w
      fun xs r after w' =>
        r = .ok (roles.map fun role => ⟨s.account, s.container,
          objectKey role cluster.spec.releaseVersion, site.render (inputOf cluster ctx role)⟩) ∧
        after = before ∧ effects xs = [] ∧ w' = w := by
  induction roles with
  | nil => exact Step.ensures_pure_iff.mpr ⟨rfl, rfl, rfl, rfl⟩
  | cons role roles ih =>
    simp only [renderObjects, Step.bind_eq_bind]
    have hrender : (Gateway.call (.render (inputOf cluster ctx role))).Ensures
        (World.Answers site cloud) w fun xs r w' =>
          r = .ok (site.render (inputOf cluster ctx role)) ∧ effects xs = [] ∧ w' = w := by
      refine Program.ensures_call_iff.mpr ?_
      rintro _ _ ⟨rfl, rfl⟩
      exact ⟨rfl, rfl, rfl⟩
    refine Step.ensures_tryLift_bind_ok hrender ?_
    rintro xs w ⟨hxs, rfl⟩
    refine ih.bind_ok ?_
    rintro ys before w ⟨rfl, hys, rfl⟩
    exact Step.ensures_pure_iff.mpr ⟨rfl, rfl, by simp [hxs, hys], rfl⟩

/-- What is desired is what is rendered. -/
theorem ensures_desired (storage : ctx.storage = some s)
    (valid : ctx.validate resourceName requirements = .ok ()) :
    (desired cluster).Ensures (World.Answers site cloud) ctx w fun xs r after w' =>
      r = .ok (rendered site cluster ctx s) ∧ after = ctx ∧ effects xs = [] ∧ w' = w := by
  simp only [desired, Step.bind_eq_bind]
  refine (Step.ensures_require_bind_iff valid).mpr (Step.ensures_context_bind_iff.mpr ?_)
  simp only [storage]
  exact ensures_renderObjects

/-! ## Writing -/

/-- The request that writes an object. -/
def writeOf (record : BootObject) : Gateway.Request :=
  .writeObject record.account record.container record.key record.body

theorem ensures_writeObjects {records : List BootObject} :
    (writeObjects records).Ensures (World.Answers site cloud) ctx w fun xs r after w' =>
      r = .ok () ∧ after = ctx ∧ effects xs = records.map writeOf ∧
        w' = { w with objects := putAll w.objects records } := by
  induction records generalizing w with
  | nil => exact Step.ensures_pure_iff.mpr ⟨rfl, rfl, rfl, rfl⟩
  | cons record records ih =>
    refine Step.ensures_ask_bind_iff.mpr ?_
    rintro _ _ ⟨rfl, rfl⟩
    refine ih.mono fun xs r after w' h => ?_
    obtain ⟨hr, hafter, hxs, hw⟩ := h
    refine ⟨hr, hafter, ?_, hw⟩
    rw [effects_cons_of_effect rfl, hxs]
    rfl

theorem ensures_applyTo_write {records : List BootObject} (storage : ctx.storage = some s) :
    (RecordResource.applyTo write records).Ensures (World.Answers site cloud) ctx w
      fun xs r after w' =>
        r = .ok () ∧ after = ctx ∧ effects xs = records.map writeOf ∧
          w' = { w with objects := putAll w.objects records } := by
  have valid : ctx.validate resourceName [.storageContainer] = .ok () := by
    simp [PassContext.validate, PassContext.isSet, storage]
  cases records with
  | nil => exact Step.ensures_pure_iff.mpr ⟨rfl, rfl, rfl, rfl⟩
  | cons record records =>
    have hwrite : (write (record :: records)).Ensures (World.Answers site cloud) ctx w
        fun xs r after w' =>
          r = .ok () ∧ after = ctx ∧ effects xs = (record :: records).map writeOf ∧
            w' = { w with objects := putAll w.objects (record :: records) } := by
      simp only [write, Step.bind_eq_bind]
      exact (Step.ensures_require_bind_iff valid).mpr ensures_writeObjects
    exact hwrite

/-! ## The whole resource -/

/-- **What the boot objects do in such a container**: what is missing or different is written,
and afterwards the object of every role is as it is rendered. -/
structure Converged (site : Site) (cluster : Cluster) (ctx : PassContext) (s : StorageContainer)
    (w : World γ) (xs : List (Exchange gateway)) (w' : World γ) : Prop where
  effects_eq : ∃ listed, RecordStore.Lists listed (managed s w.objects) ∧
    effects xs = ((diff listed (rendered site cluster ctx s)).toCreate ++
      (diff listed (rendered site cluster ctx s)).toUpdate).map writeOf
  stored : ∀ record ∈ rendered site cluster ctx s, record ∈ managed s w'.objects
  status : w'.status = w.status
  version : w'.version = w.version
  cloud : w'.cloud = w.cloud

theorem ensures_reconcile (storage : ctx.storage = some s) (live : ctx.isCanceled = false)
    (valid : ctx.validate resourceName requirements = .ok ()) :
    (resource.reconcile cluster).Ensures (World.Answers site cloud) ctx w fun xs r after w' =>
      (∃ found, r = .ok found) ∧ after = ctx ∧ Converged site cluster ctx s w xs w' := by
  have notCanceled : ∀ {xs : List (Exchange gateway)} {r : Except Failure (ChangeSet BootObject)}
      {after : PassContext} {w' : World γ}, ctx.isCanceled = true →
      (∃ found, r = .ok found) ∧ after = ctx ∧ Converged site cluster ctx s w xs w' := by
    intro xs r after w' canceled
    rw [live] at canceled
    cases canceled
  refine RecordResource.ensures_unlessCanceled notCanceled fun _ => ?_
  refine (ensures_current storage).bind ?_ ?_
  · rintro as e _ _ ⟨⟨_, he, -⟩, -⟩
    cases he
  rintro as listed ctx w ⟨⟨_, heq, lists⟩, rfl, has, rfl⟩
  obtain rfl := Except.ok.inj heq
  refine RecordResource.ensures_unlessCanceled (by simp [live]) fun _ => ?_
  refine (ensures_desired storage valid).bind_ok ?_
  rintro bs ctx w ⟨rfl, hbs, rfl⟩
  refine RecordResource.ensures_unlessCanceled (by simp [live]) fun _ => ?_
  refine (ensures_applyTo_write storage).bind_ok ?_
  rintro cs ctx _ ⟨rfl, hcs, rfl⟩
  refine RecordResource.ensures_unlessCanceled (by simp [live]) fun _ => ?_
  refine (ensures_applyTo_write storage).bind_ok ?_
  rintro ds ctx _ ⟨rfl, hds, rfl⟩
  refine RecordResource.ensures_unlessCanceled (by simp [live]) fun _ => ?_
  refine Step.ensures_pure_iff.mpr ⟨⟨_, rfl⟩, rfl, ⟨_, lists, ?_⟩, fun record hrecord => ?_,
    rfl, rfl, rfl⟩
  · simp [has, hbs, hcs, hds]
  · have hcreate : ∀ r ∈ (diff listed (rendered site cluster ctx s)).toCreate,
        r ∈ rendered site cluster ctx s := fun r hr => (List.mem_filter.mp hr).1
    have hupdate : ∀ r ∈ (diff listed (rendered site cluster ctx s)).toUpdate,
        r ∈ rendered site cluster ctx s := fun r hr => (List.mem_filter.mp hr).1
    rw [RecordStore.mem_iff, managed_putAll fun r hr => managed_of_rendered (hupdate r hr),
      managed_putAll fun r hr => managed_of_rendered (hcreate r hr),
      RecordStore.find?_writeAll_diff lists distinctKeys_rendered,
      distinctKeys_rendered.lastWithKey?_eq_some_iff.mpr ⟨hrecord, rfl⟩]
    rfl

variable {xs : List (Exchange gateway)} {w' : World γ}

/-- The object of a role is in the container as it is rendered. -/
theorem mem_managed_rendered_iff :
    (∀ record ∈ rendered site cluster ctx s, record ∈ managed s objects) ↔
      ∀ role, objects.lookup (objectKey role cluster.spec.releaseVersion) =
        some (site.render (inputOf cluster ctx role)) := by
  constructor
  · intro h role
    exact (mem_managed_iff.mp (h _ (mem_rendered role))).2.2.2
  · intro h record hrecord
    obtain ⟨role, -, rfl⟩ := List.mem_map.mp hrecord
    exact mem_managed_iff.mpr ⟨rfl, rfl, isManagedKey_objectKey, h role⟩

/-- Nothing else is changed. -/
theorem Converged.effect?_eq (h : Converged site cluster ctx s w xs w') :
    ∀ q ∈ effects xs, q.effect? = some .objectWrite := by
  obtain ⟨listed, -, hxs⟩ := h.effects_eq
  rw [hxs]
  intro q hq
  obtain ⟨record, -, rfl⟩ := List.mem_map.mp hq
  rfl

/-- Nothing is written where every object is as it is rendered, whatever else is there. -/
theorem Converged.effects_eq_nil (h : Converged site cluster ctx s w xs w')
    (stored : ∀ record ∈ rendered site cluster ctx s, record ∈ managed s w.objects) :
    effects xs = [] := by
  obtain ⟨listed, lists, hxs⟩ := h.effects_eq
  rw [hxs, RecordStore.toCreate_eq_nil lists stored, RecordStore.toUpdate_eq_nil lists stored]
  rfl

/-- Every object is written to an empty container. -/
theorem Converged.effects_of_empty (h : Converged site cluster ctx s w xs w')
    (empty : w.objects = ∅) : effects xs = (rendered site cluster ctx s).map writeOf := by
  obtain ⟨listed, lists, hxs⟩ := h.effects_eq
  have hlisted : listed = [] := by
    refine List.eq_nil_iff_forall_not_mem.mpr fun record hrecord => ?_
    have hmem := (mem_managed_iff.mp ((lists.2 record).mp hrecord)).2.2.2
    rw [empty] at hmem
    cases hmem
  rw [hxs, hlisted]
  simp [diff, lastWithKey?]

end BootObjects

end ClusterOperator
