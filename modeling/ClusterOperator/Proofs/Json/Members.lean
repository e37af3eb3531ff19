import ClusterOperator.Json.Basic

/-!
# Members of an object

Setting a member changes what is found under its name and nothing else, and keeps the names
distinct.  In a list with distinct names every member is found, so the order of the members
makes no difference to what is found.
-/

namespace ClusterOperator.Json

variable {α β : Type} {name n : String} {value v : α} {ms ns : List (String × α)}

@[simp] theorem findMember_nil : findMember name ([] : List (String × α)) = none := rfl

theorem findMember_cons :
    findMember name ((n, v) :: ms) = if n = name then some v else findMember name ms := rfl

theorem findMember_setMember :
    findMember name (setMember n value ms) =
      if name = n then some value else findMember name ms := by
  induction ms with
  | nil => rw [setMember, findMember_cons, findMember_nil]; simp only [eq_comm]
  | cons m ms ih =>
    obtain ⟨k, w⟩ := m
    rw [setMember]
    by_cases hk : k = n
    · subst hk
      rw [if_pos rfl, findMember_cons, findMember_cons]
      by_cases hname : k = name
      · rw [if_pos hname, if_pos hname.symm]
      · rw [if_neg hname, if_neg hname, if_neg (Ne.symm hname)]
    · rw [if_neg hk, findMember_cons, findMember_cons, ih]
      by_cases hname : k = name
      · rw [if_pos hname, if_pos hname, if_neg (hname ▸ hk)]
      · rw [if_neg hname, if_neg hname]

theorem mem_setMember {m : String × α} (h : m ∈ setMember n value ms) :
    m = (n, value) ∨ m ∈ ms := by
  induction ms with
  | nil => exact .inl (List.mem_singleton.mp h)
  | cons k ms ih =>
    rw [setMember] at h
    split at h
    · rcases List.mem_cons.mp h with rfl | h
      · exact .inl rfl
      · exact .inr (List.mem_cons_of_mem _ h)
    · rcases List.mem_cons.mp h with rfl | h
      · exact .inr List.mem_cons_self
      · exact (ih h).imp id (List.mem_cons_of_mem _)

theorem nodup_names_setMember (h : (ms.map Prod.fst).Nodup) :
    ((setMember n value ms).map Prod.fst).Nodup := by
  induction ms with
  | nil => simp [setMember]
  | cons k ms ih =>
    rw [List.map_cons, List.nodup_cons] at h
    rw [setMember]
    split
    · rename_i hk
      rw [List.map_cons, List.nodup_cons]
      exact ⟨hk ▸ h.1, h.2⟩
    · rename_i hk
      rw [List.map_cons, List.nodup_cons]
      refine ⟨fun hmem => ?_, ih h.2⟩
      obtain ⟨m, hm, hname⟩ := List.mem_map.mp hmem
      rcases mem_setMember hm with rfl | hm
      · exact hk hname.symm
      · exact h.1 (hname ▸ List.mem_map_of_mem hm)

theorem mem_names_setMember :
    name ∈ (setMember n value ms).map Prod.fst ↔ name = n ∨ name ∈ ms.map Prod.fst := by
  induction ms with
  | nil => simp [setMember]
  | cons k ms ih =>
    rw [setMember]
    split
    · rename_i hk
      simp [← hk]
    · rw [List.map_cons, List.mem_cons, ih, List.map_cons, List.mem_cons, or_left_comm]

/-- The place of a member does not depend on its value. -/
theorem exists_setMember_eq (n : String) (ms : List (String × α)) :
    ∃ front behind, ∀ value, setMember n value ms = front ++ (n, value) :: behind := by
  induction ms with
  | nil => exact ⟨[], [], fun _ => rfl⟩
  | cons k ms ih =>
    by_cases hk : k.1 = n
    · exact ⟨[], ms, fun value => by rw [setMember, if_pos hk]; rfl⟩
    · obtain ⟨front, behind, h⟩ := ih
      exact ⟨k :: front, behind, fun value => by rw [setMember, if_neg hk, h]; rfl⟩

/-- Setting a member to what it is changes nothing. -/
theorem setMember_of_findMember (h : findMember n ms = some value) : setMember n value ms = ms := by
  induction ms with
  | nil => cases h
  | cons k ms ih =>
    rw [findMember_cons] at h
    rw [setMember]
    split at h
    · rename_i hk
      cases h
      rw [if_pos hk, ← hk]
    · rename_i hk
      rw [if_neg hk, ih h]

theorem findMember_map (f : α → β) :
    findMember name (ms.map fun m => (m.1, f m.2)) = (findMember name ms).map f := by
  induction ms with
  | nil => rfl
  | cons m ms ih =>
    rw [List.map_cons, findMember_cons, ih, findMember_cons]
    split <;> rfl

/-- What is found is a member. -/
theorem mem_of_findMember (h : findMember name ms = some v) : (name, v) ∈ ms := by
  induction ms with
  | nil => cases h
  | cons m ms ih =>
    rw [findMember_cons] at h
    split at h
    · rename_i hname
      cases h
      exact hname ▸ List.mem_cons_self
    · exact List.mem_cons_of_mem _ (ih h)

theorem findMember_eq_none_iff : findMember name ms = none ↔ name ∉ ms.map Prod.fst := by
  induction ms with
  | nil => simp
  | cons m ms ih =>
    rw [findMember_cons, List.map_cons, List.mem_cons, not_or, ← ih]
    by_cases hname : m.1 = name
    · simp [hname]
    · simp [hname, Ne.symm hname]

/-- **Every member is found**, if the names are distinct. -/
theorem findMember_eq_some_iff (distinct : (ms.map Prod.fst).Nodup) :
    findMember name ms = some v ↔ (name, v) ∈ ms := by
  refine ⟨mem_of_findMember, fun hmem => ?_⟩
  induction ms with
  | nil => cases hmem
  | cons m ms ih =>
    rw [List.map_cons, List.nodup_cons] at distinct
    rw [findMember_cons]
    rcases List.mem_cons.mp hmem with rfl | hmem
    · exact if_pos rfl
    · rw [if_neg ?_]
      · exact ih distinct.2 hmem
      · intro hname
        exact distinct.1 (List.mem_map.mpr ⟨(name, v), hmem, hname.symm⟩)

/-- The order of the members makes no difference to what is found. -/
theorem findMember_eq_of_perm (distinct : (ms.map Prod.fst).Nodup) (h : ms.Perm ns) :
    findMember name ms = findMember name ns := by
  have distinct' : (ns.map Prod.fst).Nodup := (h.map Prod.fst).nodup distinct
  refine Option.ext fun v => ?_
  rw [findMember_eq_some_iff distinct, findMember_eq_some_iff distinct', h.mem_iff]

end ClusterOperator.Json
