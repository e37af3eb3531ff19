import ClusterOperator.Proofs.Pass.Upkeep
import ClusterOperator.Proofs.Records.Difference

/-!
# What the boot objects do to blob storage

Blob storage holds bodies at addresses, in any account and container.  A call may fail in any way:
a failing write may have been made or not, and an object that cannot be read may have vanished
since it was listed.  A listing or a body that is replied is what there is.
-/

namespace ClusterOperator

/-- **What is in blob storage**, in all accounts and containers. -/
def Blobs : Type := ObjectAddress → Option String

namespace Blobs

/-- The object has this body from now on. -/
def put (w : Blobs) (place : ObjectAddress) (body : String) : Blobs :=
  Function.update w place (some body)

/-- The object is gone. -/
def drop (w : Blobs) (place : ObjectAddress) : Blobs := Function.update w place none

/-- **How blob storage answers.** -/
def Answers (w : Blobs) : Exchange gateway → Blobs → Prop
  | ⟨.listObjects account container, reply⟩, w' =>
    (∀ keys, reply = .ok keys →
      keys.Nodup ∧ ∀ key, key ∈ keys ↔ (w ⟨account, container, key⟩).isSome) ∧ w' = w
  | ⟨.readObject account container key, reply⟩, w' =>
    match reply with
    | .ok body => w ⟨account, container, key⟩ = some body ∧ w' = w
    | .error _ => w' = w ∨ w' = w.drop ⟨account, container, key⟩
  | ⟨.writeObject account container key body, reply⟩, w' =>
    w' = w.put ⟨account, container, key⟩ body ∨ (∃ e, reply = .error e) ∧ w' = w
  | _, w' => w' = w

variable {w w' : Blobs} {x : Exchange gateway} {xs : List (Exchange gateway)}
  {place : ObjectAddress} {body : String}

open BootObjects (readAt)

/-- What is not written stays, or is gone when it is read. -/
theorem Answers.kept (h : Answers w x w') (unwritten : x.request.written? ≠ some place) :
    w' place = w place ∨ w' place = none ∧ ∃ e, x = ⟨readAt place, .error e⟩ := by
  obtain ⟨request, reply⟩ := x
  cases request with
  | listObjects =>
    obtain ⟨-, rfl⟩ := h
    exact .inl rfl
  | readObject account container key =>
    match reply, h with
    | .ok body, h =>
      obtain ⟨-, rfl⟩ := h
      exact .inl rfl
    | .error e, h =>
      rcases h with rfl | rfl
      · exact .inl rfl
      · by_cases hplace : place = ⟨account, container, key⟩
        · subst hplace
          exact .inr ⟨Function.update_self .., e, rfl⟩
        · exact .inl (Function.update_of_ne hplace ..)
  | writeObject account container key body =>
    rcases h with rfl | ⟨-, rfl⟩
    · refine .inl (Function.update_of_ne ?_ ..)
      rintro rfl
      exact unwritten rfl
    · exact .inl rfl
  | _ =>
    obtain rfl := h
    exact .inl rfl

/-- **What is not written stays**, or is gone when it is read. -/
theorem kept_of_served (h : Served Answers w xs w') (unwritten : place ∉ written xs) :
    w' place = w place ∨ w' place = none ∧ ∃ e, ⟨readAt place, .error e⟩ ∈ xs := by
  refine h.invariant (P := fun u => u place = w place ∨
    u place = none ∧ ∃ e, (⟨readAt place, .error e⟩ : Exchange gateway) ∈ xs) ?_ (.inl rfl)
  rintro t x u hx hanswer ht
  have hrequest : x.request.written? ≠ some place := fun heq =>
    unwritten (List.mem_filterMap.mpr ⟨x, hx, heq⟩)
  rcases hanswer.kept hrequest with heq | ⟨hnone, e, rfl⟩
  · rwa [heq]
  · exact .inr ⟨hnone, e, hx⟩

/-- An object that was written is there, unless it is written again or gone when it is read. -/
theorem holds_of_served (h : Served Answers w xs w') (hw : w place = some body)
    (unwritten : place ∉ written xs) (unread : ∀ x ∈ xs, x.request ≠ readAt place) :
    w' place = some body := by
  rcases kept_of_served h unwritten with heq | ⟨-, e, hx⟩
  · rw [heq, hw]
  · exact absurd rfl (unread _ hx)

end Blobs

/-! ## What is read, rendered and written -/

namespace BootObjects

open Blobs Records

variable {cluster : Cluster} {ctx after : PassContext} {s : StorageContainer} {w w' : Blobs}
  {xs gets renders writes : List (Exchange gateway)} {keys : List String} {roles : List NodeRole}
  {record : BootObject} {place : ObjectAddress} {body : String}

/-- The object of a role at the release of a cluster. -/
def target (cluster : Cluster) (s : StorageContainer) (role : NodeRole) : ObjectAddress :=
  ⟨s.account, s.container, role.toText ++ "-" ++ cluster.spec.releaseVersion⟩

/-- What is listed is what there is. -/
theorem served_opened (h : Served Blobs.Answers w (opened s keys ++ xs) w') :
    keys.Nodup ∧ (∀ key, key ∈ keys ↔ (w ⟨s.account, s.container, key⟩).isSome) ∧
      Served Blobs.Answers w xs w' := by
  have hcons : Served Blobs.Answers w (⟨.containerExists s.account s.container, .ok true⟩ ::
      ⟨.listObjects s.account s.container, .ok keys⟩ :: xs) w' := h
  obtain ⟨_, rfl, hlist⟩ := Served.cons_iff.mp hcons
  obtain ⟨_, ⟨hlisting, rfl⟩, hrest⟩ := Served.cons_iff.mp hlist
  obtain ⟨hnodup, hkeys⟩ := hlisting keys rfl
  exact ⟨hnodup, hkeys, hrest⟩

theorem mem_readBack_iff :
    record ∈ readBack xs ↔ ⟨readAt record.address, .ok record.body⟩ ∈ xs := by
  rw [readBack, List.mem_filterMap]
  constructor
  · rintro ⟨⟨request, reply⟩, hx, heq⟩
    split at heq
    · rename_i hshape
      cases heq
      cases hshape
      exact hx
    · cases heq
  · exact fun hx => ⟨_, hx, rfl⟩

/-- What was read is where it was listed. -/
theorem address_of_mem_readBack (goes : Goes ctx (readPlan s keys) gets)
    (hr : record ∈ readBack gets) : record.address = ⟨s.account, s.container, record.key⟩ := by
  have hmem : readAt record.address ∈ readPlan s keys :=
    goes.1 ▸ List.mem_map_of_mem (mem_readBack_iff.mp hr)
  obtain ⟨key, -, heq⟩ := List.mem_map.mp hmem
  have hplace : ⟨s.account, s.container, key⟩ = record.address := readAt_inj heq
  have hkey : key = record.key := congrArg ObjectAddress.key hplace
  rw [← hkey, hplace]

/-- An object that was listed was read, or was gone. -/
theorem read_or_gone (goes : Goes ctx (readPlan s keys) gets) {key : String} (hkey : key ∈ keys)
    (managed : isManagedKey key = true) :
    (∃ body, (⟨s.account, s.container, key, body⟩ : BootObject) ∈ readBack gets) ∨
      ∃ e : CloudFault, e.isNotFound = true ∧
        ⟨.readObject s.account s.container key, .error e⟩ ∈ gets := by
  have hmem : readOf s key ∈ gets.map (·.request) :=
    goes.1 ▸ List.mem_map_of_mem (List.mem_filter.mpr ⟨hkey, managed⟩)
  obtain ⟨⟨request, reply⟩, hx, rfl⟩ := List.mem_map.mp hmem
  match reply, hx with
  | .ok body, hx => exact .inl ⟨body, mem_readBack_iff.mpr hx⟩
  | .error e, hx =>
    refine .inr ⟨e, ?_, hx⟩
    by_contra there
    have hend : ending ctx ⟨.readObject s.account s.container key, .error e⟩ = none :=
      goes.2 _ hx
    rw [ending_readObject (by simp [there])] at hend
    cases hend

/-- What was rendered goes to the places of the roles. -/
theorem of_mem_renderedIn (goes : Goes ctx (renderPlan cluster ctx roles) xs)
    (hr : record ∈ renderedIn cluster s xs) :
    ∃ role ∈ roles, ⟨.render (inputOf cluster ctx role), .ok record.body⟩ ∈ xs ∧
      record.address = target cluster s role := by
  obtain ⟨⟨request, reply⟩, hx, heq⟩ := List.mem_filterMap.mp hr
  split at heq
  · rename_i input body hshape
    cases heq
    cases hshape
    have hmem : .render input ∈ renderPlan cluster ctx roles := goes.1 ▸ List.mem_map_of_mem hx
    obtain ⟨role, hrole, heq⟩ := List.mem_map.mp hmem
    cases heq
    exact ⟨role, hrole, hx, rfl⟩
  · cases heq

/-- Every role was rendered. -/
theorem exists_renderedIn (goes : Goes ctx (renderPlan cluster ctx roles) xs) {role : NodeRole}
    (hrole : role ∈ roles) :
    ∃ body, ⟨.render (inputOf cluster ctx role), .ok body⟩ ∈ xs ∧
      (⟨s.account, s.container, objectKey role cluster.spec.releaseVersion, body⟩ : BootObject) ∈
        renderedIn cluster s xs := by
  have hmem : .render (inputOf cluster ctx role) ∈ xs.map (·.request) :=
    goes.1 ▸ List.mem_map_of_mem hrole
  obtain ⟨⟨request, reply⟩, hx, rfl⟩ := List.mem_map.mp hmem
  match reply, hx with
  | .ok body, hx => exact ⟨body, hx, List.mem_filterMap.mpr ⟨_, hx, rfl⟩⟩
  | .error e, hx => cases goes.2 _ hx

/-- What was rendered, role by role. -/
theorem keys_renderedIn (goes : Goes ctx (renderPlan cluster ctx roles) xs) :
    (renderedIn cluster s xs).map Keyed.key =
      roles.map fun role => objectKey role cluster.spec.releaseVersion := by
  obtain ⟨hplan, smooth⟩ := goes
  induction roles generalizing xs with
  | nil =>
    rw [List.map_eq_nil_iff.mp hplan]
    rfl
  | cons role roles ih =>
    obtain ⟨⟨request, reply⟩, ys, rfl, rfl, hys⟩ := List.map_eq_cons_iff.mp hplan
    obtain ⟨hx, hsmooth⟩ := List.forall_mem_cons.mp smooth
    match reply, hx with
    | .ok body, _ => exact congrArg (List.cons _) (ih hys hsmooth)
    | .error e, hx => cases hx

theorem distinctKeys_renderedIn (goes : Goes ctx (renderPlan cluster ctx NodeRole.all) xs) :
    DistinctKeys (renderedIn cluster s xs) := by
  rw [DistinctKeys, keys_renderedIn goes]
  exact List.Nodup.map_on (fun _ _ _ _ h => objectKey_inj h) (by decide)

/-! ## What is compared -/

theorem eq_of_address {other : BootObject} (haddress : record.address = other.address)
    (hbody : record.body = other.body) : record = other := by
  obtain ⟨account, container, key, body⟩ := record
  obtain ⟨rfl, rfl, rfl⟩ := ObjectAddress.mk.inj haddress
  obtain rfl := hbody
  rfl

/-- What is to be written was rendered. -/
theorem mem_renderedIn_of_compared
    (hr : record ∈ (compared cluster s gets renders).toCreate ++
      (compared cluster s gets renders).toUpdate) : record ∈ renderedIn cluster s renders := by
  rcases List.mem_append.mp hr with hcreate | hupdate
  · exact toCreate_sublist.subset hcreate
  · exact toUpdate_sublist.subset hupdate

/-- No two objects of one key are written. -/
theorem distinctKeys_compared (goes : Goes ctx (renderPlan cluster ctx NodeRole.all) renders) :
    DistinctKeys ((compared cluster s gets renders).toCreate ++
      (compared cluster s gets renders).toUpdate) := by
  have distinct : DistinctKeys (renderedIn cluster s renders) := distinctKeys_renderedIn goes
  rw [DistinctKeys, List.map_append]
  exact List.Nodup.append (distinct.sublist toCreate_sublist) (distinct.sublist toUpdate_sublist)
    splits_diff.create_update

/-- What was written is a first part of what is to be written. -/
theorem written_writes {changes : ChangeSet BootObject}
    (h : writes.map (·.request) <+: writePlan changes) :
    written writes <+: (changes.toCreate ++ changes.toUpdate).map BootObject.address := by
  have hmap := h.filterMap Gateway.Request.written?
  rw [List.filterMap_map, writePlan, List.filterMap_map] at hmap
  rw [← List.filterMap_eq_map]
  exact hmap

/-- What is written goes to different places. -/
theorem nodup_written {changes : ChangeSet BootObject}
    (distinct : DistinctKeys (changes.toCreate ++ changes.toUpdate))
    (planned : writes.map (·.request) <+: writePlan changes) : (written writes).Nodup := by
  refine List.Nodup.sublist (written_writes planned).sublist (List.Nodup.of_map (·.key) ?_)
  rw [List.map_map]
  exact distinct

/-- **What is written was missing, or there with another body.** -/
def Outdated (w : Blobs) (xs : List (Exchange gateway)) (place : ObjectAddress) (body : String) :
    Prop :=
  w place = none ∨
    (∃ e : CloudFault, e.isNotFound = true ∧ ⟨readAt place, .error e⟩ ∈ xs) ∨
    ∃ old, old ≠ body ∧ w place = some old ∧ ⟨readAt place, .ok old⟩ ∈ xs

theorem Outdated.mono {ys : List (Exchange gateway)} (h : Outdated w xs place body)
    (sub : xs ⊆ ys) : Outdated w ys place body := by
  rcases h with hnone | ⟨e, gone, hx⟩ | ⟨old, hne, hold, hx⟩
  · exact .inl hnone
  · exact .inr (.inl ⟨e, gone, sub hx⟩)
  · exact .inr (.inr ⟨old, hne, hold, sub hx⟩)

/-- What is read was there from the beginning, if it was not written in between. -/
theorem body_of_read (h : Served Blobs.Answers w xs w')
    (hx : ⟨readAt place, .ok body⟩ ∈ xs) (unwritten : place ∉ written xs) :
    w place = some body := by
  obtain ⟨before, behind, rfl⟩ := List.append_of_mem hx
  obtain ⟨t, hbefore, hrest⟩ := Served.append_iff.mp h
  obtain ⟨u, ⟨hbody, rfl⟩, -⟩ := Served.cons_iff.mp hrest
  have hkept := kept_of_served hbefore fun hmem => unwritten
    (written_append ▸ List.mem_append_left _ hmem)
  have hthere : u place = some body := hbody
  rcases hkept with heq | ⟨hnone, -⟩
  · rw [← heq, hthere]
  · rw [hthere] at hnone
    cases hnone

theorem written_gets (goes : Goes ctx (readPlan s keys) gets) : written gets = [] :=
  written_eq_nil goes.planned written?_of_mem_readPlan

theorem outdated_of_compared (read : Goes ctx (readPlan s keys) gets)
    (rendered : Goes ctx (renderPlan cluster ctx NodeRole.all) renders)
    (listed : ∀ key, key ∈ keys ↔ (w ⟨s.account, s.container, key⟩).isSome)
    (served : Served Blobs.Answers w gets w')
    (hr : record ∈ (compared cluster s gets renders).toCreate ++
      (compared cluster s gets renders).toUpdate) :
    Outdated w gets record.address record.body := by
  obtain ⟨role, -, -, haddress⟩ := of_mem_renderedIn rendered (mem_renderedIn_of_compared hr)
  have hkey : record.key = objectKey role cluster.spec.releaseVersion :=
    congrArg ObjectAddress.key haddress
  replace haddress : record.address = ⟨s.account, s.container, record.key⟩ := by
    rw [hkey]
    exact haddress
  rcases List.mem_append.mp hr with hcreate | hupdate
  · cases hw : w record.address with
    | none => exact .inl hw
    | some old =>
      -- The object was there when it was listed, and nothing was read under its key.
      have hlisted : record.key ∈ keys := by
        rw [listed, ← haddress, hw]
        rfl
      rcases read_or_gone read hlisted (hkey ▸ isManagedKey_objectKey) with
        ⟨body, hread⟩ | ⟨e, gone, hx⟩
      · exact (lastWithKey?_eq_none_iff.mp (mem_toCreate.mp hcreate).2 _ hread rfl).elim
      · refine .inr (.inl ⟨e, gone, ?_⟩)
        rw [haddress]
        exact hx
  · obtain ⟨-, existing, hexisting, hne⟩ := mem_toUpdate.mp hupdate
    obtain ⟨hread, hsame⟩ := lastWithKey?_some hexisting
    have hplace : existing.address = record.address := by
      have hsame : existing.key = record.key := hsame
      rw [address_of_mem_readBack read hread, haddress, hsame]
    have hx := mem_readBack_iff.mp hread
    rw [hplace] at hx
    refine .inr (.inr ⟨existing.body, fun hbody => hne (eq_of_address hplace hbody), ?_, hx⟩)
    exact body_of_read served hx (by simp [written_gets read])

/-! ## What stays -/

section

variable {x : Exchange gateway}

/-- Nothing is written while objects are read or rendered. -/
theorem mem_writes (read : Goes ctx (readPlan s keys) gets)
    (rendered : Goes ctx (renderPlan cluster ctx roles) renders)
    (hx : x ∈ opened s keys ++ gets ++ (renders ++ writes))
    (hplace : x.request.written? = some place) : x ∈ writes := by
  rcases List.mem_append.mp hx with hx | hx
  · rcases List.mem_append.mp hx with hx | hx
    · rcases List.mem_cons.mp hx with rfl | hx
      · cases hplace
      · rw [List.mem_singleton.mp hx] at hplace
        cases hplace
    · have hmem : x.request ∈ readPlan s keys := read.1 ▸ List.mem_map_of_mem hx
      rw [written?_of_mem_readPlan _ hmem] at hplace
      cases hplace
  · refine (List.mem_append.mp hx).resolve_left fun hx => ?_
    have hmem : x.request ∈ renderPlan cluster ctx roles := rendered.1 ▸ List.mem_map_of_mem hx
    rw [written?_of_mem_renderPlan _ hmem] at hplace
    cases hplace

/-- What has been read stays, if it is not written. -/
theorem holds_of_read (distinct : keys.Nodup) (read : Goes ctx (readPlan s keys) gets)
    (served : Served Blobs.Answers w (gets ++ xs) w') (hr : record ∈ readBack gets)
    (unread : ∀ x ∈ xs, x.request ≠ readAt record.address)
    (unwritten : record.address ∉ written xs) : w' record.address = some record.body := by
  obtain ⟨before, behind, rfl⟩ := List.append_of_mem (mem_readBack_iff.mp hr)
  rw [List.append_assoc, List.cons_append] at served
  obtain ⟨t, -, hrest⟩ := Served.append_iff.mp served
  obtain ⟨u, ⟨hbody, rfl⟩, hbehind⟩ := Served.cons_iff.mp hrest
  have hnodup : ((before ++ ⟨readAt record.address, .ok record.body⟩ :: behind).map
      fun x : Exchange gateway => x.request).Nodup := by
    rw [read.1]
    exact (distinct.filter _).map fun _ _ heq => readOf_inj heq
  rw [List.map_append, List.map_cons] at hnodup
  have hother := (List.nodup_cons.mp (List.nodup_append.mp hnodup).2.1).1
  have hreads : ∀ x ∈ behind, x.request ∈ readPlan s keys := fun x hx =>
    read.1 ▸ List.mem_map_of_mem (List.mem_append_right before (List.mem_cons_of_mem _ hx))
  have hnothing : written behind = [] := List.filterMap_eq_nil_iff.mpr fun x hx =>
    written?_of_mem_readPlan _ (hreads x hx)
  refine holds_of_served hbehind hbody ?_ fun x hx heq => ?_
  · rw [written_append, hnothing]
    exact unwritten
  · rcases List.mem_append.mp hx with hx | hx
    · have hmem : x.request ∈ behind.map (·.request) := List.mem_map_of_mem hx
      rw [heq] at hmem
      exact hother hmem
    · exact unread x hx heq

/-- What has been written stays. -/
theorem holds_of_write {changes : ChangeSet BootObject}
    (distinct : DistinctKeys (changes.toCreate ++ changes.toUpdate))
    (goes : Goes ctx (writePlan changes) writes) (served : Served Blobs.Answers w writes w')
    (hr : record ∈ changes.toCreate ++ changes.toUpdate) :
    w' record.address = some record.body := by
  have hmem : writeOf record ∈ writes.map (·.request) := goes.1 ▸ List.mem_map_of_mem hr
  obtain ⟨⟨request, reply⟩, hx, rfl⟩ := List.mem_map.mp hmem
  have hend := goes.2 _ hx
  have hwrites : ∀ x ∈ writes, x.request ∈ writePlan changes :=
    fun x hx => goes.1 ▸ List.mem_map_of_mem hx
  have hnodup := nodup_written distinct goes.planned
  obtain ⟨before, behind, rfl⟩ := List.append_of_mem hx
  obtain ⟨t, -, hrest⟩ := Served.append_iff.mp served
  obtain ⟨u, hput, hbehind⟩ := Served.cons_iff.mp hrest
  have hthere : u record.address = some record.body := by
    rcases hput with rfl | ⟨⟨e, rfl⟩, -⟩
    · exact Function.update_self ..
    · cases hend
  refine holds_of_served hbehind hthere ?_ fun x hx heq => ?_
  · rw [written_append] at hnodup
    exact (List.nodup_cons.mp (List.nodup_append.mp hnodup).2.1).1
  · have hmem := hwrites x (List.mem_append_right before (List.mem_cons_of_mem _ hx))
    obtain ⟨other, -, hwrite⟩ := List.mem_map.mp hmem
    cases hwrite.trans heq

/-- **A run that is complete leaves every object as it was rendered.** -/
theorem stored_of_complete (distinct : keys.Nodup) (read : Goes ctx (readPlan s keys) gets)
    (rendered : Goes ctx (renderPlan cluster ctx NodeRole.all) renders)
    (goes : Goes ctx (writePlan (compared cluster s gets renders)) writes)
    (served : Served Blobs.Answers w (gets ++ (renders ++ writes)) w') (role : NodeRole) :
    ∃ body, ⟨.render (inputOf cluster ctx role), .ok body⟩ ∈ renders ∧
      w' (target cluster s role) = some body := by
  obtain ⟨body, hrender, hr⟩ := exists_renderedIn (s := s) rendered
    (show role ∈ NodeRole.all by cases role <;> simp [NodeRole.all])
  refine ⟨body, hrender, ?_⟩
  by_cases hwrite : (⟨s.account, s.container, objectKey role cluster.spec.releaseVersion, body⟩ :
      BootObject) ∈ (compared cluster s gets renders).toCreate ++
        (compared cluster s gets renders).toUpdate
  · obtain ⟨t, -, hrest⟩ := Served.append_iff.mp served
    obtain ⟨u, -, hwrites⟩ := Served.append_iff.mp hrest
    exact holds_of_write (distinctKeys_compared rendered) goes hwrites hwrite
  · have hcases : _ ∈ readBack gets ∨ _ := mem_diff hr
    have hread := hcases.resolve_right fun h => hwrite (List.mem_append.mpr h)
    refine holds_of_read distinct read served hread (fun x hx heq => ?_) fun hmem => ?_
    · rcases List.mem_append.mp hx with hx | hx
      · have hmem : x.request ∈ renderPlan cluster ctx NodeRole.all :=
          rendered.1 ▸ List.mem_map_of_mem hx
        obtain ⟨other, -, hrequest⟩ := List.mem_map.mp hmem
        cases hrequest.trans heq
      · have hmem : x.request ∈ writePlan (compared cluster s gets renders) :=
          goes.1 ▸ List.mem_map_of_mem hx
        obtain ⟨other, -, hrequest⟩ := List.mem_map.mp hmem
        cases hrequest.trans heq
    · -- What is written under this key would be the same object.
      rw [written_append, written_eq_nil rendered.planned written?_of_mem_renderPlan] at hmem
      obtain ⟨other, hother, haddress⟩ :=
        List.mem_map.mp ((written_writes goes.planned).subset hmem)
      obtain rfl := (distinctKeys_renderedIn rendered).eq (mem_renderedIn_of_compared hother) hr
        (congrArg ObjectAddress.key haddress)
      exact hwrite hother

end

end BootObjects

end ClusterOperator
