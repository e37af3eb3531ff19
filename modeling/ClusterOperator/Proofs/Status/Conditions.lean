import ClusterOperator.Cluster.Status

/-!
# What recording conditions leaves recorded

A status is looked at as a table: the conditions of a resource are those of its first
entry, none if it has no entry, and the value of a kind is that of the first condition of
the kind.  Recording conditions of a resource sets the values of the kinds it names, and no
other value of the table; if it reports no change, the table is what it was.
-/

namespace ClusterOperator

variable {now : Instant} {kind other value name resource : String} {cs : List Condition}
  {entries : List ResourceEntry} {s : Status}

/-- The value of the first condition of a kind. -/
def valueOf (kind : String) (cs : List Condition) : Option String :=
  (cs.find? fun c => c.kind = kind).map (·.value)

@[simp] theorem valueOf_nil : valueOf kind [] = none := rfl

theorem valueOf_cons {c : Condition} :
    valueOf kind (c :: cs) = if c.kind = kind then some c.value else valueOf kind cs := by
  unfold valueOf
  by_cases h : c.kind = kind <;> simp [h]

/-! ## One condition -/

theorem valueOf_setCondition :
    valueOf other (setCondition now kind value cs).2 =
      if other = kind then some value else valueOf other cs := by
  induction cs with
  | nil =>
    simp only [setCondition, valueOf_cons, valueOf_nil, eq_comm (a := kind)]
  | cons c cs ih =>
    unfold setCondition
    by_cases hc : c.kind = kind
    · by_cases hv : c.value = value
      · rw [if_pos hc, if_pos hv, valueOf_cons, hc, hv]
        by_cases ho : other = kind <;> simp [ho, eq_comm (a := kind)]
      · rw [if_pos hc, if_neg hv, valueOf_cons, valueOf_cons, hc]
        by_cases ho : other = kind <;> simp [ho, eq_comm (a := kind)]
    · rw [if_neg hc]
      simp only [valueOf_cons, ih]
      by_cases hco : c.kind = other
      · have ho : other ≠ kind := hco ▸ hc
        simp [hco, ho]
      · simp [hco]

theorem setCondition_unchanged (h : (setCondition now kind value cs).1 = false) :
    (setCondition now kind value cs).2 = cs := by
  induction cs with
  | nil => cases h
  | cons c cs ih =>
    unfold setCondition at h ⊢
    by_cases hc : c.kind = kind
    · by_cases hv : c.value = value
      · rw [if_pos hc, if_pos hv]
      · rw [if_pos hc, if_neg hv] at h
        cases h
    · rw [if_neg hc] at h ⊢
      exact congrArg (c :: ·) (ih h)

theorem setCondition_of_valueOf (h : valueOf kind cs = some value) :
    (setCondition now kind value cs).1 = false := by
  induction cs with
  | nil => cases h
  | cons c cs ih =>
    rw [valueOf_cons] at h
    unfold setCondition
    by_cases hc : c.kind = kind
    · rw [if_pos hc] at h
      rw [if_pos hc, if_pos (Option.some.inj h)]
    · rw [if_neg hc] at h ⊢
      exact ih h

/-! ## Several conditions -/

variable {conditions : List (String × String)}

theorem valueOf_setConditions_of_notMem (h : kind ∉ conditions.map (·.1)) :
    valueOf kind (setConditions now conditions cs).2 = valueOf kind cs := by
  induction conditions generalizing cs with
  | nil => rfl
  | cons p rest ih =>
    simp only [List.map_cons, List.mem_cons, not_or] at h
    rw [setConditions, ih h.2, valueOf_setCondition, if_neg h.1]

/-- The values that are set are those of the last conditions of their kinds; so all of
them, if the kinds are distinct. -/
theorem valueOf_setConditions_of_mem (distinct : (conditions.map (·.1)).Nodup)
    (h : (kind, value) ∈ conditions) :
    valueOf kind (setConditions now conditions cs).2 = some value := by
  induction conditions generalizing cs with
  | nil => cases h
  | cons p rest ih =>
    rw [List.map_cons, List.nodup_cons] at distinct
    rw [setConditions]
    rcases List.mem_cons.mp h with rfl | hrest
    · rw [valueOf_setConditions_of_notMem distinct.1, valueOf_setCondition, if_pos rfl]
    · exact ih distinct.2 hrest

theorem setConditions_unchanged (h : (setConditions now conditions cs).1 = false) :
    (setConditions now conditions cs).2 = cs := by
  induction conditions generalizing cs with
  | nil => rfl
  | cons p rest ih =>
    simp only [setConditions, Bool.or_eq_false_iff] at h
    obtain ⟨hfirst, hrest⟩ := h
    rw [setConditions, ih hrest, setCondition_unchanged hfirst]

/-- Setting what is set already is no change. -/
theorem setConditions_of_valueOf (h : ∀ p ∈ conditions, valueOf p.1 cs = some p.2) :
    (setConditions now conditions cs).1 = false := by
  induction conditions with
  | nil => rfl
  | cons p rest ih =>
    rw [List.forall_mem_cons] at h
    have hfirst : (setCondition now p.1 p.2 cs).1 = false := setCondition_of_valueOf h.1
    simp only [setConditions, hfirst, setCondition_unchanged hfirst, Bool.false_or]
    exact ih h.2

/-! ## Entries -/

/-- The conditions of the first entry of a name. -/
def conditionsIn (entries : List ResourceEntry) (name : String) : List Condition :=
  ((entries.find? fun e => e.name = name).map (·.conditions)).getD []

theorem conditionsIn_cons {e : ResourceEntry} :
    conditionsIn (e :: entries) name =
      if e.name = name then e.conditions else conditionsIn entries name := by
  unfold conditionsIn
  by_cases h : e.name = name <;> simp [h]

section

variable {α : Type} {f : List Condition → α × List Condition}

theorem updateEntry_fst :
    (updateEntry name f entries).1 = (f (conditionsIn entries name)).1 := by
  induction entries with
  | nil => rfl
  | cons e rest ih =>
    rw [conditionsIn_cons, updateEntry]
    by_cases h : e.name = name
    · rw [if_pos h, if_pos h]
    · rw [if_neg h, if_neg h, ih]

theorem conditionsIn_updateEntry :
    conditionsIn (updateEntry name f entries).2 other =
      if other = name then (f (conditionsIn entries name)).2 else conditionsIn entries other := by
  induction entries with
  | nil => simp only [updateEntry, conditionsIn_cons, eq_comm (a := name)]; rfl
  | cons e rest ih =>
    rw [updateEntry]
    by_cases h : e.name = name
    · simp only [if_pos h, conditionsIn_cons]
      by_cases ho : other = name
      · simp [ho, h]
      · simp [ho, h ▸ Ne.symm ho]
    · simp only [if_neg h, conditionsIn_cons, ih]
      by_cases heo : e.name = other
      · have ho : other ≠ name := heo ▸ h
        simp [heo, ho]
      · simp [heo]

end

/-! ## The status as a table -/

namespace Status

theorem condition?_eq :
    s.condition? resource kind = valueOf kind (conditionsIn s.resources resource) := by
  unfold condition? resource? conditionsIn
  cases s.resources.find? fun e => e.name = resource <;> rfl

/-- Conditions of a resource are no concern of any other. -/
theorem condition?_setConditions_of_ne (h : other ≠ resource) :
    (s.setConditions now resource conditions).2.condition? other kind =
      s.condition? other kind := by
  rw [condition?_eq, condition?_eq]
  exact congrArg (valueOf kind) (conditionsIn_updateEntry.trans (if_neg h))

theorem conditionsIn_setConditions :
    conditionsIn (s.setConditions now resource conditions).2.resources resource =
      (ClusterOperator.setConditions now conditions (conditionsIn s.resources resource)).2 :=
  conditionsIn_updateEntry.trans (if_pos rfl)

/-- **The conditions that were set are recorded**, if their kinds are distinct. -/
theorem condition?_setConditions_of_mem (distinct : (conditions.map (·.1)).Nodup)
    (h : (kind, value) ∈ conditions) :
    (s.setConditions now resource conditions).2.condition? resource kind = some value := by
  rw [condition?_eq, conditionsIn_setConditions]
  exact valueOf_setConditions_of_mem distinct h

/-- Setting conditions changes nothing that is recorded if it reports no change. -/
theorem condition?_setConditions_unchanged
    (h : (s.setConditions now resource conditions).1 = false) :
    (s.setConditions now resource conditions).2.condition? other kind =
      s.condition? other kind := by
  by_cases ho : other = resource
  · subst ho
    have hf : (ClusterOperator.setConditions now conditions
        (conditionsIn s.resources other)).1 = false := updateEntry_fst.symm.trans h
    rw [condition?_eq, condition?_eq, conditionsIn_setConditions, setConditions_unchanged hf]
  · exact condition?_setConditions_of_ne ho

/-- **Recording what is recorded already is no change.** -/
theorem setConditions_of_recorded
    (h : ∀ p ∈ conditions, s.condition? resource p.1 = some p.2) :
    (s.setConditions now resource conditions).1 = false := by
  refine updateEntry_fst.trans (setConditions_of_valueOf fun p hp => ?_)
  rw [← condition?_eq]
  exact h p hp

@[simp] theorem phase_setConditions :
    (s.setConditions now resource conditions).2.phase = s.phase := rfl

end Status

end ClusterOperator
