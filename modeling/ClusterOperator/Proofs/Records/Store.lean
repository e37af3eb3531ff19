import ClusterOperator.Records.Diff
import Mathlib.Data.List.Nodup

/-!
# Stores of keyed records

A store holds records, each under its own key, and so at most one per key.  A listing gives
all of them in some order.  Writing puts a record under its key, whatever was there; removing
takes away whatever is there.

What the difference between a listing and the desired records does to a store is said key by
key: where it writes, the desired record gets in; where it removes, nothing is desired; and
what it leaves alone is as it should be already.
-/

namespace ClusterOperator

/-- **Records under their keys.** -/
structure RecordStore (R : Type) [Keyed R] where
  /-- The record under a key. -/
  find? : String → Option R
  key_of_find? : ∀ {key : String} {r : R}, find? key = some r → Keyed.key r = key

/-! ## Lists with distinct keys -/

namespace Records

variable {R : Type} [Keyed R] {records : List R} {r : R} {key : String}

/-- No two records of the list have one key. -/
def DistinctKeys (records : List R) : Prop := (records.map Keyed.key).Nodup

instance : Decidable (DistinctKeys records) := inferInstanceAs (Decidable (List.Nodup _))

theorem hasKey_iff : hasKey key records = true ↔ ∃ r ∈ records, Keyed.key r = key := by
  simp [hasKey]

theorem lastWithKey?_some (h : lastWithKey? key records = some r) :
    r ∈ records ∧ Keyed.key r = key := by
  refine ⟨List.mem_reverse.mp (List.mem_of_find?_eq_some h), ?_⟩
  simpa using List.find?_some h

theorem lastWithKey?_eq_none_iff :
    lastWithKey? key records = none ↔ ∀ r ∈ records, Keyed.key r ≠ key := by
  simp [lastWithKey?]

theorem hasKey_eq_false_iff : hasKey key records = false ↔ lastWithKey? key records = none := by
  simp [hasKey, lastWithKey?]

theorem lastWithKey?_cons :
    lastWithKey? key (r :: records) =
      (lastWithKey? key records).or (if Keyed.key r = key then some r else none) := by
  unfold lastWithKey?
  rw [List.reverse_cons, List.find?_append]
  by_cases h : Keyed.key r = key <;> simp [h]

/-- Two records of such a list with one key are the same record. -/
theorem DistinctKeys.eq (h : DistinctKeys records) {r' : R} (hr : r ∈ records)
    (hr' : r' ∈ records) (hkey : Keyed.key r = Keyed.key r') : r = r' :=
  List.inj_on_of_nodup_map h hr hr' hkey

/-- In such a list the last record with a key is the only one. -/
theorem DistinctKeys.lastWithKey?_eq_some_iff (h : DistinctKeys records) :
    lastWithKey? key records = some r ↔ r ∈ records ∧ Keyed.key r = key := by
  constructor
  · exact lastWithKey?_some
  · rintro ⟨hr, rfl⟩
    cases hlast : lastWithKey? (Keyed.key r) records with
    | none => exact absurd rfl (lastWithKey?_eq_none_iff.mp hlast r hr)
    | some r' =>
      obtain ⟨hr', hkey⟩ := lastWithKey?_some hlast
      exact congrArg some (h.eq hr' hr hkey)

/-- Under a key, records of such a list say nothing or what the list says. -/
theorem DistinctKeys.lastWithKey?_of_sub (h : DistinctKeys records) {part : List R}
    (sub : ∀ r ∈ part, r ∈ records) (key : String) :
    lastWithKey? key part = none ∨ lastWithKey? key part = lastWithKey? key records := by
  cases hlast : lastWithKey? key part with
  | none => exact .inl rfl
  | some r =>
    obtain ⟨hr, hkey⟩ := lastWithKey?_some hlast
    exact .inr (h.lastWithKey?_eq_some_iff.mpr ⟨sub r hr, hkey⟩).symm

variable {current desired : List R}

/-- A desired record exists as it is, or is created, or overwrites what has its key. -/
theorem mem_diff [DecidableEq R] (h : r ∈ desired) :
    r ∈ current ∨ r ∈ (diff current desired).toCreate ∨ r ∈ (diff current desired).toUpdate := by
  cases hlast : lastWithKey? (Keyed.key r) current with
  | none => exact .inr (.inl (List.mem_filter.mpr ⟨h, by simp [hlast]⟩))
  | some existing =>
    by_cases hsame : existing = r
    · exact .inl (hsame ▸ (lastWithKey?_some hlast).1)
    · exact .inr (.inr (List.mem_filter.mpr ⟨h, by simp [hlast, hsame]⟩))

end Records

open Records

namespace RecordStore

variable {R : Type} [Keyed R] {s t : RecordStore R} {records current desired written : List R}
  {r : R} {key : String}

/-- The store holds the record. -/
instance : Membership R (RecordStore R) := ⟨fun s r => s.find? (Keyed.key r) = some r⟩

theorem mem_iff : r ∈ s ↔ s.find? (Keyed.key r) = some r := Iff.rfl

theorem find?_eq_some_iff : s.find? key = some r ↔ r ∈ s ∧ Keyed.key r = key := by
  constructor
  · intro h
    obtain rfl := s.key_of_find? h
    exact ⟨h, rfl⟩
  · rintro ⟨h, rfl⟩
    exact h

/-- A store without records. -/
instance : EmptyCollection (RecordStore R) := ⟨⟨fun _ => none, nofun⟩⟩

/-- A store is given by what is under each key. -/
theorem ext (h : ∀ key, s.find? key = t.find? key) : s = t := by
  obtain ⟨find, _⟩ := s
  obtain ⟨find', _⟩ := t
  obtain rfl : find = find' := funext h
  rfl

/-- The list gives every record of the store once, in whatever order. -/
def Lists (records : List R) (s : RecordStore R) : Prop :=
  DistinctKeys records ∧ ∀ r, r ∈ records ↔ r ∈ s

/-- What a listing says about a key is what the store holds there. -/
theorem Lists.lastWithKey?_eq (h : Lists records s) : lastWithKey? key records = s.find? key := by
  ext r
  rw [h.1.lastWithKey?_eq_some_iff, find?_eq_some_iff, h.2]

/-! ## Writing and removing -/

/-- Puts a record under its key. -/
def write (s : RecordStore R) (r : R) : RecordStore R where
  find? key := if Keyed.key r = key then some r else s.find? key
  key_of_find? := by
    intro key r' h
    split at h
    · cases h; assumption
    · exact s.key_of_find? h

/-- Puts records under their keys, one after another. -/
def writeAll (s : RecordStore R) (records : List R) : RecordStore R := records.foldl write s

theorem find?_writeAll :
    (s.writeAll records).find? key = (lastWithKey? key records).or (s.find? key) := by
  induction records generalizing s with
  | nil => rfl
  | cons r records ih =>
    refine (ih (s := s.write r)).trans ?_
    rw [lastWithKey?_cons, Option.or_assoc]
    refine congrArg (Option.or _) ?_
    by_cases h : Keyed.key r = key <;> simp [write, h]

/-- Records that are put into a store without records are a listing of it. -/
theorem lists_writeAll (h : DistinctKeys records) :
    Lists records ((∅ : RecordStore R).writeAll records) := by
  refine ⟨h, fun r => ?_⟩
  rw [mem_iff, find?_writeAll, Option.or_eq_some_iff, h.lastWithKey?_eq_some_iff]
  constructor
  · exact fun hr => .inl ⟨hr, rfl⟩
  · rintro (⟨hr, -⟩ | ⟨-, hnone⟩)
    · exact hr
    · cases hnone

/-- Takes away what is under a key. -/
def remove (s : RecordStore R) (key : String) : RecordStore R where
  find? k := if k = key then none else s.find? k
  key_of_find? := by
    intro k r h
    split at h
    · cases h
    · exact s.key_of_find? h

/-- Takes away what is under the keys of records, one after another. -/
def removeAll (s : RecordStore R) (records : List R) : RecordStore R :=
  records.foldl (fun s r => s.remove (Keyed.key r)) s

theorem find?_removeAll :
    (s.removeAll records).find? key = if hasKey key records then none else s.find? key := by
  induction records generalizing s with
  | nil => rfl
  | cons r records ih =>
    refine (ih (s := s.remove (Keyed.key r))).trans ?_
    by_cases hlater : hasKey key records = true
    · have hkey : hasKey key (r :: records) = true := by
        obtain ⟨r', hr', hkey⟩ := hasKey_iff.mp hlater
        exact hasKey_iff.mpr ⟨r', List.mem_cons_of_mem _ hr', hkey⟩
      rw [if_pos hlater, if_pos hkey]
    · rw [if_neg hlater]
      by_cases h : Keyed.key r = key
      · simp [hasKey, remove, h]
      · have hkey : hasKey key (r :: records) = hasKey key records := by simp [hasKey, h]
        rw [hkey, if_neg hlater]
        exact if_neg (Ne.symm h)

/-! ## The difference of a listing and the desired records -/

variable [DecidableEq R]

theorem mem_toCreate_iff (h : Lists current s) :
    r ∈ (diff current desired).toCreate ↔ r ∈ desired ∧ s.find? (Keyed.key r) = none := by
  simp [diff, h.lastWithKey?_eq]

theorem mem_toUpdate_iff (h : Lists current s) :
    r ∈ (diff current desired).toUpdate ↔
      r ∈ desired ∧ ∃ existing, s.find? (Keyed.key r) = some existing ∧ existing ≠ r := by
  simp only [diff, List.mem_filter, h.lastWithKey?_eq]
  cases s.find? (Keyed.key r) <;> simp

theorem mem_toDelete_iff (h : Lists current s) :
    r ∈ (diff current desired).toDelete ↔ r ∈ s ∧ hasKey (Keyed.key r) desired = false := by
  simp [diff, h.2]

/-- A record that is there need not be created. -/
theorem toCreate_eq_nil (h : Lists current s) (there : ∀ r ∈ desired, r ∈ s) :
    (diff current desired).toCreate = [] := by
  refine List.eq_nil_iff_forall_not_mem.mpr fun r hr => ?_
  obtain ⟨hdesired, hnone⟩ := (mem_toCreate_iff h).mp hr
  rw [mem_iff.mp (there r hdesired)] at hnone
  cases hnone

/-- A record that is there need not be overwritten. -/
theorem toUpdate_eq_nil (h : Lists current s) (there : ∀ r ∈ desired, r ∈ s) :
    (diff current desired).toUpdate = [] := by
  refine List.eq_nil_iff_forall_not_mem.mpr fun r hr => ?_
  obtain ⟨hdesired, existing, hfind, hne⟩ := (mem_toUpdate_iff h).mp hr
  rw [mem_iff.mp (there r hdesired)] at hfind
  exact hne (Option.some.inj hfind).symm

/-- Creating and overwriting everything of a difference puts in every desired record. -/
theorem find?_writeAll_diff (h : Lists current s) (distinct : DistinctKeys desired) :
    ((s.writeAll (diff current desired).toCreate).writeAll (diff current desired).toUpdate).find?
        key = (lastWithKey? key desired).or (s.find? key) := by
  have hcreate :=
    distinct.lastWithKey?_of_sub (fun r hr => ((mem_toCreate_iff h).mp hr).1) key
  have hupdate :=
    distinct.lastWithKey?_of_sub (fun r hr => ((mem_toUpdate_iff h).mp hr).1) key
  rw [find?_writeAll, find?_writeAll]
  cases hwanted : lastWithKey? key desired with
  | none =>
    rw [hwanted, or_self] at hcreate hupdate
    rw [hcreate, hupdate]
    rfl
  | some w =>
    obtain ⟨hw, hkey⟩ := lastWithKey?_some hwanted
    rw [hwanted] at hcreate hupdate
    rcases hupdate with hupdate | hupdate
    · rcases hcreate with hcreate | hcreate
      · -- Nothing is written under the key, so the record that is there is the desired one.
        have hdiff : w ∈ current ∨ _ := mem_diff hw
        rcases hdiff with hcurrent | hmissing | hdifferent
        · have hfind : s.find? key = some w := find?_eq_some_iff.mpr ⟨(h.2 w).mp hcurrent, hkey⟩
          rw [hcreate, hupdate, hfind]
          rfl
        · exact absurd hkey (lastWithKey?_eq_none_iff.mp hcreate w hmissing)
        · exact absurd hkey (lastWithKey?_eq_none_iff.mp hupdate w hdifferent)
      · rw [hcreate, hupdate]
        rfl
    · rw [hupdate]
      rfl

/-- Removing everything of a difference leaves nothing that is not desired. -/
theorem find?_removeAll_diff (h : Lists current s) (hs : t.find? key =
      (lastWithKey? key desired).or (s.find? key)) :
    (t.removeAll (diff current desired).toDelete).find? key = lastWithKey? key desired := by
  rw [find?_removeAll, hs]
  split
  · rename_i hkey
    obtain ⟨r, hr, rfl⟩ := hasKey_iff.mp hkey
    exact (hasKey_eq_false_iff.mp ((mem_toDelete_iff h).mp hr).2).symm
  · rename_i hkey
    cases hwanted : lastWithKey? key desired with
    | some w => rfl
    | none =>
      cases hfind : s.find? key with
      | none => rfl
      | some r =>
        obtain ⟨hr, rfl⟩ := find?_eq_some_iff.mp hfind
        refine absurd (hasKey_iff.mpr ⟨r, (mem_toDelete_iff h).mpr ⟨hr, ?_⟩, rfl⟩) hkey
        exact hasKey_eq_false_iff.mpr hwanted

end RecordStore

end ClusterOperator
