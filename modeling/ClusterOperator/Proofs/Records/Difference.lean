import ClusterOperator.Proofs.Records.Store
import ClusterOperator.Rehearsal.Records
import Mathlib.Data.List.Nodup

/-!
# What a difference says of each key

A difference sorts records by their keys: what is created, overwritten and removed never shares a
key, and keeps the order of the list that it comes from, whatever the two lists are
(`splits_diff`).

If neither list has a key twice, more can be said, since what becomes of a key is then decided by
the record that each list has under it (`befalls_iff`).  So every key has one fate, the order of
the lists makes no difference, and to carry the difference out is to get to the desired records,
after which there is nothing to do (`settles_diff`).
-/

namespace ClusterOperator

namespace Records

variable {R : Type} [Keyed R] {records current desired current' desired' : List R} {r existing : R}
  {key : String}

theorem mem_keys_iff : key ∈ records.map Keyed.key ↔ ∃ r ∈ records, Keyed.key r = key :=
  List.mem_map

/-- A key that some record of the list has is the key of its last record with it. -/
theorem exists_lastWithKey? (hr : r ∈ records) :
    ∃ last, lastWithKey? (Keyed.key r) records = some last :=
  Option.ne_none_iff_exists'.mp fun h => lastWithKey?_eq_none_iff.mp h r hr rfl

theorem DistinctKeys.sublist (h : DistinctKeys records) {part : List R}
    (sub : part.Sublist records) : DistinctKeys part :=
  List.Nodup.sublist (sub.map Keyed.key) h

theorem DistinctKeys.perm (h : DistinctKeys current) (perm : current'.Perm current) :
    DistinctKeys current' :=
  (perm.map Keyed.key).nodup_iff.mpr h

/-- What such a list has under a key does not depend on its order. -/
theorem DistinctKeys.lastWithKey?_perm (h : DistinctKeys current) (perm : current'.Perm current) :
    lastWithKey? key current' = lastWithKey? key current := by
  ext r
  rw [(h.perm perm).lastWithKey?_eq_some_iff, h.lastWithKey?_eq_some_iff, perm.mem_iff]

theorem hasKey_perm (perm : desired'.Perm desired) : hasKey key desired' = hasKey key desired := by
  rw [Bool.eq_iff_iff, hasKey_iff, hasKey_iff]
  simp only [perm.mem_iff]

/-! ## The three lists -/

variable [DecidableEq R]

theorem mem_toCreate :
    r ∈ (diff current desired).toCreate ↔
      r ∈ desired ∧ lastWithKey? (Keyed.key r) current = none := by
  simp [diff]

theorem mem_toUpdate :
    r ∈ (diff current desired).toUpdate ↔
      r ∈ desired ∧ ∃ existing, lastWithKey? (Keyed.key r) current = some existing ∧
        existing ≠ r := by
  simp only [diff, List.mem_filter]
  cases lastWithKey? (Keyed.key r) current <;> simp

theorem mem_toDelete :
    r ∈ (diff current desired).toDelete ↔
      r ∈ current ∧ lastWithKey? (Keyed.key r) desired = none := by
  simp [diff, hasKey_eq_false_iff]

theorem toCreate_sublist : (diff current desired).toCreate.Sublist desired :=
  List.filter_sublist

theorem toUpdate_sublist : (diff current desired).toUpdate.Sublist desired :=
  List.filter_sublist

theorem toDelete_sublist : (diff current desired).toDelete.Sublist current :=
  List.filter_sublist

/-- **The three lists of a difference lie apart**, each in one of the lists that are compared. -/
structure Splits (current desired : List R) (c : ChangeSet R) : Prop where
  create_update : List.Disjoint (c.toCreate.map Keyed.key) (c.toUpdate.map Keyed.key)
  create_delete : List.Disjoint (c.toCreate.map Keyed.key) (c.toDelete.map Keyed.key)
  update_delete : List.Disjoint (c.toUpdate.map Keyed.key) (c.toDelete.map Keyed.key)
  create_sublist : c.toCreate.Sublist desired
  update_sublist : c.toUpdate.Sublist desired
  delete_sublist : c.toDelete.Sublist current

theorem splits_diff : Splits current desired (diff current desired) where
  create_sublist := toCreate_sublist
  update_sublist := toUpdate_sublist
  delete_sublist := toDelete_sublist
  create_update := by
    intro key hcreate hupdate
    obtain ⟨r, hr, rfl⟩ := mem_keys_iff.mp hcreate
    obtain ⟨u, hu, hkey⟩ := mem_keys_iff.mp hupdate
    obtain ⟨-, existing, hexisting, -⟩ := mem_toUpdate.mp hu
    rw [hkey, (mem_toCreate.mp hr).2] at hexisting
    cases hexisting
  create_delete := by
    intro key hcreate hdelete
    obtain ⟨r, hr, rfl⟩ := mem_keys_iff.mp hcreate
    obtain ⟨d, hd, hkey⟩ := mem_keys_iff.mp hdelete
    exact lastWithKey?_eq_none_iff.mp (mem_toCreate.mp hr).2 d (mem_toDelete.mp hd).1 hkey
  update_delete := by
    intro key hupdate hdelete
    obtain ⟨u, hu, rfl⟩ := mem_keys_iff.mp hupdate
    obtain ⟨d, hd, hkey⟩ := mem_keys_iff.mp hdelete
    exact lastWithKey?_eq_none_iff.mp (mem_toDelete.mp hd).2 u (mem_toUpdate.mp hu).1 hkey.symm

/-! ## The fate of a key -/

/-- What can become of a key. -/
inductive Fate where
  | created
  | updated
  | deleted
  | unchanged
  deriving DecidableEq, Repr

namespace Fate

/-- What becomes of a key under which the lists have these records, if one of them has any. -/
def decided : Option R → Option R → Option Fate
  | none, none => none
  | none, some _ => some created
  | some _, none => some deleted
  | some existing, some wanted => some (if existing = wanted then unchanged else updated)

/-- **What becomes of a key** by the difference of two lists: it is among the keys of one of the
three lists, or the same record is on both sides. -/
def Befalls (current desired : List R) (key : String) : Fate → Prop
  | created => key ∈ (diff current desired).toCreate.map Keyed.key
  | updated => key ∈ (diff current desired).toUpdate.map Keyed.key
  | deleted => key ∈ (diff current desired).toDelete.map Keyed.key
  | unchanged => ∃ r ∈ current, r ∈ desired ∧ Keyed.key r = key

end Fate

theorem created_iff (hd : DistinctKeys desired) :
    key ∈ (diff current desired).toCreate.map Keyed.key ↔
      lastWithKey? key current = none ∧ ∃ r, lastWithKey? key desired = some r := by
  rw [mem_keys_iff]
  constructor
  · rintro ⟨r, hr, rfl⟩
    obtain ⟨hdesired, hnone⟩ := mem_toCreate.mp hr
    exact ⟨hnone, exists_lastWithKey? hdesired⟩
  · rintro ⟨hnone, r, hlast⟩
    obtain ⟨hr, rfl⟩ := hd.lastWithKey?_eq_some_iff.mp hlast
    exact ⟨r, mem_toCreate.mpr ⟨hr, hnone⟩, rfl⟩

theorem updated_iff (hd : DistinctKeys desired) :
    key ∈ (diff current desired).toUpdate.map Keyed.key ↔
      ∃ existing r, lastWithKey? key current = some existing ∧
        lastWithKey? key desired = some r ∧ existing ≠ r := by
  rw [mem_keys_iff]
  constructor
  · rintro ⟨r, hr, rfl⟩
    obtain ⟨hdesired, existing, hexisting, hne⟩ := mem_toUpdate.mp hr
    exact ⟨existing, r, hexisting, hd.lastWithKey?_eq_some_iff.mpr ⟨hdesired, rfl⟩, hne⟩
  · rintro ⟨existing, r, hexisting, hlast, hne⟩
    obtain ⟨hr, rfl⟩ := hd.lastWithKey?_eq_some_iff.mp hlast
    exact ⟨r, mem_toUpdate.mpr ⟨hr, existing, hexisting, hne⟩, rfl⟩

theorem deleted_iff :
    key ∈ (diff current desired).toDelete.map Keyed.key ↔
      (∃ r, lastWithKey? key current = some r) ∧ lastWithKey? key desired = none := by
  rw [mem_keys_iff]
  constructor
  · rintro ⟨r, hr, rfl⟩
    obtain ⟨hcurrent, hnone⟩ := mem_toDelete.mp hr
    exact ⟨exists_lastWithKey? hcurrent, hnone⟩
  · rintro ⟨⟨r, hlast⟩, hnone⟩
    obtain ⟨hr, rfl⟩ := lastWithKey?_some hlast
    exact ⟨r, mem_toDelete.mpr ⟨hr, hnone⟩, rfl⟩

omit [DecidableEq R] in
theorem unchanged_iff (hc : DistinctKeys current) (hd : DistinctKeys desired) :
    (∃ r ∈ current, r ∈ desired ∧ Keyed.key r = key) ↔
      ∃ r, lastWithKey? key current = some r ∧ lastWithKey? key desired = some r := by
  simp only [hc.lastWithKey?_eq_some_iff, hd.lastWithKey?_eq_some_iff]
  constructor
  · rintro ⟨r, hcurrent, hdesired, hkey⟩
    exact ⟨r, ⟨hcurrent, hkey⟩, hdesired, hkey⟩
  · rintro ⟨r, ⟨hcurrent, hkey⟩, hdesired, -⟩
    exact ⟨r, hcurrent, hdesired, hkey⟩

/-- **What becomes of a key is decided by what the lists have under it.** -/
theorem befalls_iff (hc : DistinctKeys current) (hd : DistinctKeys desired) {fate : Fate} :
    fate.Befalls current desired key ↔
      Fate.decided (lastWithKey? key current) (lastWithKey? key desired) = some fate := by
  have hunder : fate.Befalls current desired key ↔
      match fate with
      | .created => lastWithKey? key current = none ∧ ∃ r, lastWithKey? key desired = some r
      | .updated => ∃ existing r, lastWithKey? key current = some existing ∧
          lastWithKey? key desired = some r ∧ existing ≠ r
      | .deleted => (∃ r, lastWithKey? key current = some r) ∧ lastWithKey? key desired = none
      | .unchanged => ∃ r, lastWithKey? key current = some r ∧ lastWithKey? key desired = some r :=
    match fate with
    | .created => created_iff hd
    | .updated => updated_iff hd
    | .deleted => deleted_iff
    | .unchanged => unchanged_iff hc hd
  rw [hunder]
  cases lastWithKey? key current with
  | none => cases lastWithKey? key desired <;> cases fate <;> simp [Fate.decided]
  | some existing =>
    cases lastWithKey? key desired with
    | none => cases fate <;> simp [Fate.decided]
    | some wanted =>
      by_cases hsame : existing = wanted <;> cases fate <;> simp [Fate.decided, hsame, eq_comm]

/-- Every key of one of the lists has one fate. -/
theorem existsUnique_fate (hc : DistinctKeys current) (hd : DistinctKeys desired)
    (hkey : key ∈ (current ++ desired).map Keyed.key) :
    ∃! fate : Fate, fate.Befalls current desired key := by
  simp only [befalls_iff hc hd]
  have hsome : ∃ fate, Fate.decided (lastWithKey? key current) (lastWithKey? key desired) =
      some fate := by
    obtain ⟨r, hr, rfl⟩ := mem_keys_iff.mp hkey
    rcases List.mem_append.mp hr with hcurrent | hdesired
    · obtain ⟨last, hlast⟩ := exists_lastWithKey? hcurrent
      rw [hlast]
      cases lastWithKey? (Keyed.key r) desired <;> exact ⟨_, rfl⟩
    · obtain ⟨last, hlast⟩ := exists_lastWithKey? hdesired
      rw [hlast]
      cases lastWithKey? (Keyed.key r) current <;> exact ⟨_, rfl⟩
  obtain ⟨fate, hfate⟩ := hsome
  exact ⟨fate, hfate, fun other hother => Option.some.inj (hother.symm.trans hfate)⟩

/-! ## The order of the lists -/

/-- The lists of one difference are those of another in some order. -/
structure Rearranges (c c' : ChangeSet R) : Prop where
  toCreate : c.toCreate.Perm c'.toCreate
  toUpdate : c.toUpdate.Perm c'.toUpdate
  toDelete : c.toDelete.Perm c'.toDelete

/-- Rearranging what is compared rearranges the difference. -/
theorem rearranges_diff (hc : DistinctKeys current) (permCurrent : current'.Perm current)
    (permDesired : desired'.Perm desired) :
    Rearranges (diff current' desired') (diff current desired) := by
  have hlast : ∀ key, lastWithKey? key current' = lastWithKey? key current :=
    fun _ => hc.lastWithKey?_perm permCurrent
  have hhas : ∀ key, hasKey key desired' = hasKey key desired := fun _ => hasKey_perm permDesired
  constructor
  · simp only [diff, hlast]
    exact permDesired.filter _
  · simp only [diff, hlast]
    exact permDesired.filter _
  · simp only [diff, hhas]
    exact permCurrent.filter _

/-! ## Carrying a difference out -/

/-- The records after a difference was carried out: those that were overwritten are replaced in
their places, those that were removed are gone, and those that were created come last. -/
def carriedOut (c : ChangeSet R) (records : List R) : List R :=
  ((records.map fun r => (lastWithKey? (Keyed.key r) c.toUpdate).getD r).filter
    fun r => !hasKey (Keyed.key r) c.toDelete) ++ c.toCreate

omit [DecidableEq R] in
/-- What replaces a record has its key. -/
theorem key_getD_lastWithKey? :
    Keyed.key ((lastWithKey? (Keyed.key r) records).getD r) = Keyed.key r := by
  cases hlast : lastWithKey? (Keyed.key r) records with
  | none => rfl
  | some last => exact (lastWithKey?_some hlast).2

omit [DecidableEq R] in
theorem mem_carriedOut {c : ChangeSet R} :
    r ∈ carriedOut c records ↔
      (∃ x ∈ records, (lastWithKey? (Keyed.key x) c.toUpdate).getD x = r ∧
        lastWithKey? (Keyed.key x) c.toDelete = none) ∨ r ∈ c.toCreate := by
  rw [carriedOut, List.mem_append, List.mem_filter, List.mem_map, Bool.not_eq_true',
    hasKey_eq_false_iff]
  refine or_congr_left ?_
  constructor
  · rintro ⟨⟨x, hx, rfl⟩, hdelete⟩
    rw [key_getD_lastWithKey?] at hdelete
    exact ⟨x, hx, rfl, hdelete⟩
  · rintro ⟨x, hx, rfl, hdelete⟩
    rw [key_getD_lastWithKey?]
    exact ⟨⟨x, hx, rfl⟩, hdelete⟩

/-- Carrying out the difference leaves the desired records. -/
theorem mem_carriedOut_diff (hc : DistinctKeys current) (hd : DistinctKeys desired) :
    r ∈ carriedOut (diff current desired) current ↔ r ∈ desired := by
  rw [mem_carriedOut]
  constructor
  · rintro (⟨x, hx, rfl, hkept⟩ | hcreated)
    · cases hlast : lastWithKey? (Keyed.key x) (diff current desired).toUpdate with
      | some u => exact toUpdate_sublist.subset (lastWithKey?_some hlast).1
      | none =>
        -- The record was neither removed nor replaced, so it is the desired one already.
        have hwanted : lastWithKey? (Keyed.key x) desired ≠ none := fun hnone =>
          lastWithKey?_eq_none_iff.mp hkept x (mem_toDelete.mpr ⟨hx, hnone⟩) rfl
        obtain ⟨w, hw⟩ := Option.ne_none_iff_exists'.mp hwanted
        obtain ⟨hmem, hkey⟩ := lastWithKey?_some hw
        have hcases : w ∈ current ∨ _ := mem_diff hmem
        rcases hcases with hcurrent | hcreate | hupdate
        · exact hc.eq hcurrent hx hkey ▸ hmem
        · exact absurd hkey.symm (lastWithKey?_eq_none_iff.mp (mem_toCreate.mp hcreate).2 x hx)
        · exact absurd hkey (lastWithKey?_eq_none_iff.mp hlast w hupdate)
    · exact toCreate_sublist.subset hcreated
  · intro hr
    have hkept : lastWithKey? (Keyed.key r) (diff current desired).toDelete = none :=
      lastWithKey?_eq_none_iff.mpr fun d hdelete hkey =>
        lastWithKey?_eq_none_iff.mp (mem_toDelete.mp hdelete).2 r hr hkey.symm
    have hcases : r ∈ current ∨ _ := mem_diff hr
    rcases hcases with hcurrent | hcreate | hupdate
    · refine .inl ⟨r, hcurrent, ?_, hkept⟩
      cases hlast : lastWithKey? (Keyed.key r) (diff current desired).toUpdate with
      | none => rfl
      | some u =>
        obtain ⟨hu, hkey⟩ := lastWithKey?_some hlast
        exact hd.eq (toUpdate_sublist.subset hu) hr hkey
    · exact .inr hcreate
    · obtain ⟨-, existing, hexisting, -⟩ := mem_toUpdate.mp hupdate
      obtain ⟨hmem, hkey⟩ := lastWithKey?_some hexisting
      refine .inl ⟨existing, hmem, ?_, hkey ▸ hkept⟩
      rw [hkey, (hd.sublist toUpdate_sublist).lastWithKey?_eq_some_iff.mpr ⟨hupdate, rfl⟩]
      rfl

/-- Carrying out the difference gives no key twice. -/
theorem distinctKeys_carriedOut_diff (hc : DistinctKeys current) (hd : DistinctKeys desired) :
    DistinctKeys (carriedOut (diff current desired) current) := by
  have hkeys : (current.map fun r =>
      (lastWithKey? (Keyed.key r) (diff current desired).toUpdate).getD r).map Keyed.key =
        current.map Keyed.key := by
    rw [List.map_map]
    exact List.map_congr_left fun r _ => key_getD_lastWithKey?
  rw [DistinctKeys, carriedOut, List.map_append]
  refine List.Nodup.append ?_ (hd.sublist toCreate_sublist) ?_
  · exact List.Nodup.sublist (List.filter_sublist.map Keyed.key) (hkeys ▸ hc)
  · intro key hfirst hcreate
    have hcurrent : key ∈ current.map Keyed.key :=
      hkeys ▸ (List.filter_sublist.map Keyed.key).subset hfirst
    obtain ⟨x, hx, rfl⟩ := mem_keys_iff.mp hcurrent
    exact lastWithKey?_eq_none_iff.mp ((created_iff hd).mp hcreate).1 x hx rfl

theorem carriedOut_diff_perm (hc : DistinctKeys current) (hd : DistinctKeys desired) :
    (carriedOut (diff current desired) current).Perm desired :=
  (List.perm_ext_iff_of_nodup (distinctKeys_carriedOut_diff hc hd).of_map hd.of_map).mpr
    fun _ => mem_carriedOut_diff hc hd

/-- There is nothing to do where the desired records are. -/
theorem diff_self (hd : DistinctKeys desired) : diff desired desired = {} := by
  have hlast : ∀ r ∈ desired, lastWithKey? (Keyed.key r) desired = some r :=
    fun r hr => hd.lastWithKey?_eq_some_iff.mpr ⟨hr, rfl⟩
  rw [ChangeSet.mk.injEq]
  refine ⟨?_, ?_, ?_⟩
  · refine List.eq_nil_iff_forall_not_mem.mpr fun r hr => ?_
    obtain ⟨hmem, hnone⟩ := mem_toCreate.mp hr
    rw [hlast r hmem] at hnone
    cases hnone
  · refine List.eq_nil_iff_forall_not_mem.mpr fun r hr => ?_
    obtain ⟨hmem, existing, hexisting, hne⟩ := mem_toUpdate.mp hr
    rw [hlast r hmem] at hexisting
    exact hne (Option.some.inj hexisting).symm
  · refine List.eq_nil_iff_forall_not_mem.mpr fun r hr => ?_
    obtain ⟨hmem, hnone⟩ := mem_toDelete.mp hr
    rw [hlast r hmem] at hnone
    cases hnone

theorem diff_eq_of_perm (hd : DistinctKeys desired) (perm : current.Perm desired) :
    diff current desired = {} := by
  obtain ⟨hcreate, hupdate, hdelete⟩ := rearranges_diff hd perm (.refl desired)
  rw [diff_self hd] at hcreate hupdate hdelete
  rw [ChangeSet.mk.injEq]
  exact ⟨hcreate.eq_nil, hupdate.eq_nil, hdelete.eq_nil⟩

/-- **What a difference settles** if neither list has a key twice. -/
structure Settles (current desired : List R) : Prop where
  fate : ∀ key ∈ (current ++ desired).map Keyed.key,
    ∃! fate : Fate, fate.Befalls current desired key
  rearranges : ∀ current' desired', current'.Perm current → desired'.Perm desired →
    Rearranges (diff current' desired') (diff current desired)
  reached : (carriedOut (diff current desired) current).Perm desired
  idle : diff (carriedOut (diff current desired) current) desired = {}

theorem settles_diff (hc : DistinctKeys current) (hd : DistinctKeys desired) :
    Settles current desired where
  fate _ hkey := existsUnique_fate hc hd hkey
  rearranges _ _ permCurrent permDesired := rearranges_diff hc permCurrent permDesired
  reached := carriedOut_diff_perm hc hd
  idle := diff_eq_of_perm hd (carriedOut_diff_perm hc hd)

/-- **The difference of two lists** lies apart, and settles what becomes of every key if no key
occurs twice. -/
theorem diff_sorts_keys (current desired : List R) :
    Splits current desired (diff current desired) ∧
      (DistinctKeys current → DistinctKeys desired → Settles current desired) :=
  ⟨splits_diff, settles_diff⟩

/-! ## A difference with every fate -/

namespace EveryFate

open Rehearsal (PlainRecord)

/-- One record is to stay, one to be overwritten, and one to be removed. -/
def before : List PlainRecord := [⟨"stays", "1"⟩, ⟨"goes", "1"⟩, ⟨"changes", "1"⟩]

def wanted : List PlainRecord := [⟨"changes", "2"⟩, ⟨"comes", "1"⟩, ⟨"stays", "1"⟩]

end EveryFate

open EveryFate in
/-- The difference of lists between which a key has every fate. -/
theorem diff_sorts_keys_of_every_fate :
    diff before wanted = ⟨[⟨"comes", "1"⟩], [⟨"changes", "2"⟩], [⟨"goes", "1"⟩]⟩ ∧
      DistinctKeys before ∧ DistinctKeys wanted ∧
      Splits before wanted (diff before wanted) ∧ Settles before wanted :=
  have distinctBefore : DistinctKeys before := by decide
  have distinctWanted : DistinctKeys wanted := by decide
  ⟨by decide, distinctBefore, distinctWanted, (diff_sorts_keys before wanted).1,
    (diff_sorts_keys before wanted).2 distinctBefore distinctWanted⟩

end Records

end ClusterOperator
