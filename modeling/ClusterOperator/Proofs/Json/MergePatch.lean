import ClusterOperator.Proofs.Json.Sameness

/-!
# Merge patches

A merge patch is a document that is laid over another one, as the standard of JSON merge
patches has it.  An object goes member by member: what it gives as null is taken out, every
other member is laid over what stands under its name, and what it does not name is left
alone; whatever is no object and gets an object laid over it counts as an empty one.  Any
other document replaces what was there, arrays included.

What stands under a name afterwards depends on nothing but what stood there and what the
patch gives under that name (`findMember_mergeMembers`).
-/

namespace ClusterOperator.Json

/-- Puts a value under a name, or takes out what stands there. -/
def putMember {α : Type} (name : String) : Option α → List (String × α) → List (String × α)
  | none, ms => ms.filter fun m => m.1 ≠ name
  | some v, ms => setMember name v ms

/-- Whether a document is null. -/
def isNull : Json → Bool
  | .null => true
  | _ => false

mutual

/-- Lays a patch over a document. -/
def mergePatch : Json → Json → Json
  | .object ps, target => .object (mergeMembers ps (target.members?.getD []))
  | patch, _ => patch

/-- Lays the members of a patch over those of an object, one after another. -/
def mergeMembers : List (String × Json) → List (String × Json) → List (String × Json)
  | [], ms => ms
  | (name, p) :: ps, ms =>
    mergeMembers ps <| putMember name
      (if p.isNull then none else some (mergePatch p ((findMember name ms).getD .null))) ms

end

/-- What one member of a patch makes of what stands under its name. -/
def patched (p : Json) (old : Option Json) : Option Json :=
  if p.isNull then none else some (mergePatch p (old.getD .null))

variable {α : Type} {name n : String} {patch target p : Json} {ps ms : List (String × Json)}

/-! ## Putting a member -/

section Put

variable {value : Option α} {ms : List (String × α)}

theorem findMember_putMember :
    findMember name (putMember n value ms) = if name = n then value else findMember name ms := by
  cases value with
  | some v => exact findMember_setMember
  | none =>
    induction ms with
    | nil => simp [putMember]
    | cons m ms ih =>
      rw [putMember] at ih ⊢
      by_cases hm : m.1 = n
      · rw [List.filter_cons_of_neg (by simpa using hm), ih, findMember_cons]
        by_cases hname : name = n
        · rw [if_pos hname, if_pos hname]
        · rw [if_neg hname, if_neg hname, if_neg (hm ▸ Ne.symm hname)]
      · rw [List.filter_cons_of_pos (by simpa using hm), findMember_cons, ih, findMember_cons]
        by_cases hname : m.1 = name
        · rw [if_pos hname, if_pos hname, if_neg (hname ▸ hm)]
        · rw [if_neg hname, if_neg hname]

theorem mem_putMember {m : String × α} (h : m ∈ putMember n value ms) :
    value = some m.2 ∨ m ∈ ms := by
  cases value with
  | none => exact .inr (List.mem_of_mem_filter h)
  | some v =>
    rcases mem_setMember h with rfl | h
    · exact .inl rfl
    · exact .inr h

theorem nodup_names_putMember (h : (ms.map Prod.fst).Nodup) :
    ((putMember n value ms).map Prod.fst).Nodup := by
  cases value with
  | none => exact h.sublist (List.filter_sublist.map Prod.fst)
  | some v => exact nodup_names_setMember h

end Put

/-! ## What stands under a name -/

@[simp] theorem mergePatch_object :
    mergePatch (.object ps) target = .object (mergeMembers ps (target.members?.getD [])) := by
  rw [mergePatch]

@[simp] theorem mergePatch_object_object :
    mergePatch (.object ps) (.object ms) = .object (mergeMembers ps ms) := rfl

@[simp] theorem mergeMembers_nil : mergeMembers [] ms = ms := rfl

theorem mergeMembers_cons :
    mergeMembers ((n, p) :: ps) ms =
      mergeMembers ps (putMember n (patched p (findMember n ms)) ms) := by
  rw [mergeMembers, patched]

/-- **What stands under a name** after a patch with distinct names: what the patch makes of
what stood there, or just that if the patch does not name it. -/
theorem findMember_mergeMembers (hps : (ps.map Prod.fst).Nodup) :
    findMember name (mergeMembers ps ms) =
      (findMember name ps).elim (findMember name ms) fun p => patched p (findMember name ms) := by
  induction ps generalizing ms with
  | nil => rw [mergeMembers_nil, findMember_nil, Option.elim_none]
  | cons m ps ih =>
    obtain ⟨n, p⟩ := m
    rw [List.map_cons, List.nodup_cons] at hps
    rw [mergeMembers_cons, ih hps.2, findMember_putMember, findMember_cons]
    by_cases hname : n = name
    · -- No later member of the patch has this name.
      subst hname
      rw [findMember_eq_none_iff.mpr hps.1, if_pos rfl, if_pos rfl, Option.elim_none,
        Option.elim_some]
    · rw [if_neg (Ne.symm hname), if_neg hname]

/-! ## Well-formed documents -/

theorem wellFormed_mergeMembers
    (hps : ∀ m ∈ ps, ∀ t : Json, t.WellFormed → (mergePatch m.2 t).WellFormed)
    (hms : WellFormed (.object ms)) : WellFormed (.object (mergeMembers ps ms)) := by
  induction ps generalizing ms with
  | nil => rwa [mergeMembers_nil]
  | cons m ps ih =>
    obtain ⟨n, p⟩ := m
    obtain ⟨hfirst, hrest⟩ := List.forall_mem_cons.mp hps
    have hold : ((findMember n ms).getD .null).WellFormed := by
      cases hfind : findMember n ms with
      | none => exact .null
      | some v => exact hms.value _ (mem_of_findMember hfind)
    rw [mergeMembers_cons]
    refine ih hrest (.object (nodup_names_putMember hms.names) fun m hm => ?_)
    rcases mem_putMember hm with hm | hm
    · rw [patched] at hm
      split at hm
      · cases hm
      · exact Option.some.inj hm ▸ hfirst _ hold
    · exact hms.value m hm

/-- **A well-formed patch keeps a document well-formed.** -/
theorem WellFormed.mergePatch (hpatch : patch.WellFormed) (htarget : target.WellFormed) :
    (patch.mergePatch target).WellFormed := by
  induction patch using Json.induct generalizing target with
  | object ps ih =>
    rw [mergePatch_object]
    refine wellFormed_mergeMembers (fun m hm t ht => ih m hm (hpatch.value m hm) ht) ?_
    cases target with
    | object ms => exact htarget
    | _ => exact .object .nil nofun
  | _ => simpa only [Json.mergePatch] using hpatch

theorem WellFormed.mergeMembers (hps : WellFormed (.object ps)) (hms : WellFormed (.object ms)) :
    WellFormed (.object (mergeMembers ps ms)) :=
  hps.mergePatch hms

end ClusterOperator.Json
