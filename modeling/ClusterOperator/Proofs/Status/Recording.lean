import ClusterOperator.Proofs.Json.Members
import ClusterOperator.Proofs.Status.Conditions
import ClusterOperator.Proofs.Status.Contention

/-!
# What recording conditions leaves of a stored status

Recording conditions of a resource touches one entry of the status: the first one of the
resource, or a new one behind all others (`Entered`).  In this entry the first condition of
each kind that is recorded gets the value, and the time if the value is another one; the kinds
that it does not have yet are appended in the order in which they are given; everything else
stays where and as it was (`Revised`).

On a store that compares versions and that others may write to at any time, the entry is made
in the status that the store holds at the moment of the write, and nothing is written if all
the values are there already (`setConditions_records`).
-/

namespace ClusterOperator

variable {now : Instant} {kind other value name resource : String} {cs cs' : List Condition}
  {c : Condition} {p : String × String} {pairs : List (String × String)}

/-! ## The values that are recorded -/

/-- The values that are given for other kinds. -/
def apart (kind : String) (pairs : List (String × String)) : List (String × String) :=
  pairs.filter fun p => p.1 ≠ kind

theorem apart_cons :
    apart kind (p :: pairs) = if p.1 = kind then apart kind pairs else p :: apart kind pairs := by
  unfold apart
  by_cases h : p.1 = kind <;> simp [h]

theorem apart_of_notMem (h : kind ∉ pairs.map (·.1)) : apart kind pairs = pairs :=
  List.filter_eq_self.mpr fun p hp => by
    simpa using fun heq : p.1 = kind => h (heq ▸ List.mem_map_of_mem hp)

theorem nodup_apart (distinct : (pairs.map (·.1)).Nodup) : ((apart kind pairs).map (·.1)).Nodup :=
  distinct.sublist (List.filter_sublist.map _)

theorem notMem_apart : kind ∉ (apart kind pairs).map (·.1) := by
  simp [apart]

theorem findMember_apart (h : kind ≠ other) :
    Json.findMember kind (apart other pairs) = Json.findMember kind pairs := by
  induction pairs with
  | nil => rfl
  | cons p pairs ih =>
    rw [apart_cons]
    by_cases hp : p.1 = other
    · rw [if_pos hp, ih, Json.findMember_cons, if_neg (hp ▸ h.symm)]
    · rw [if_neg hp, Json.findMember_cons, Json.findMember_cons, ih]

namespace Condition

/-- A condition that is recorded for the first time. -/
def fresh (now : Instant) (p : String × String) : Condition := ⟨p.1, p.2, now⟩

/-- A condition after values are recorded: the time moves with the value. -/
def revise (now : Instant) (pairs : List (String × String)) (c : Condition) : Condition :=
  match Json.findMember c.kind pairs with
  | none => c
  | some value => if c.value = value then c else { c with value, since := now }

@[simp] theorem kind_revise : (c.revise now pairs).kind = c.kind := by
  unfold revise
  split
  · rfl
  · split <;> rfl

theorem revise_of_notMem (h : c.kind ∉ pairs.map (·.1)) : c.revise now pairs = c := by
  rw [revise, Json.findMember_eq_none_iff.mpr h]

theorem revise_apart (h : c.kind ≠ other) :
    c.revise now (apart other pairs) = c.revise now pairs := by
  rw [revise, findMember_apart h, ← revise]

end Condition

/-! ## The conditions of an entry -/

/-- Recording values revises the first condition of an entry, and records the values of the
other kinds behind it. -/
theorem setConditions_cons (distinct : (pairs.map (·.1)).Nodup) :
    (setConditions now pairs (c :: cs)).2 =
      c.revise now pairs :: (setConditions now (apart c.kind pairs) cs).2 := by
  induction pairs generalizing c cs with
  | nil => rfl
  | cons p pairs ih =>
    obtain ⟨hp, hrest⟩ := List.nodup_cons.mp distinct
    simp only [setConditions, setCondition]
    by_cases hk : c.kind = p.1
    · -- No other value of the kind follows, so this one is what the condition is left with.
      have hnot : c.kind ∉ pairs.map (·.1) := hk ▸ hp
      rw [if_pos hk, apart_cons, if_pos hk.symm, Condition.revise, Json.findMember_cons,
        if_pos hk.symm]
      by_cases hv : c.value = p.2
      · rw [if_pos hv, ih hrest, Condition.revise_of_notMem hnot]
        simp only [if_pos hv]
      · rw [if_neg hv, ih hrest]
        simp only [if_neg hv]
        exact congrArg (· :: _) (Condition.revise_of_notMem hnot)
    · rw [if_neg hk, ih hrest, apart_cons, if_neg (Ne.symm hk), setConditions, Condition.revise,
        Condition.revise, Json.findMember_cons, if_neg (Ne.symm hk)]

/-- All values are new to an entry without conditions. -/
theorem setConditions_nil (distinct : (pairs.map (·.1)).Nodup) :
    (setConditions now pairs []).2 = pairs.map (Condition.fresh now) := by
  induction pairs with
  | nil => rfl
  | cons p pairs ih =>
    obtain ⟨hp, hrest⟩ := List.nodup_cons.mp distinct
    rw [setConditions, setCondition, setConditions_cons hrest, Condition.revise_of_notMem hp,
      apart_of_notMem hp, ih hrest]
    rfl

/-- **The conditions of an entry after values are recorded**: those that were there, each where
it was, the first of its kind revised; and behind them the values of the kinds that were not
there. -/
structure Revised (now : Instant) (pairs : List (String × String)) (cs cs' : List Condition) :
    Prop where
  kept : ∀ i c, cs[i]? = some c → cs'[i]? =
    some (if c.kind ∈ (cs.take i).map (·.kind) then c else c.revise now pairs)
  added : cs'.drop cs.length =
    (pairs.filter fun p => p.1 ∉ cs.map (·.kind)).map (Condition.fresh now)

theorem setConditions_revised (distinct : (pairs.map (·.1)).Nodup) :
    Revised now pairs cs (setConditions now pairs cs).2 := by
  induction cs generalizing pairs with
  | nil =>
    rw [setConditions_nil distinct]
    exact ⟨nofun, by simp [List.filter_eq_self.mpr]⟩
  | cons c cs ih =>
    rw [setConditions_cons distinct]
    obtain ⟨kept, added⟩ := ih (nodup_apart distinct)
    constructor
    · intro i d hd
      cases i with
      | zero =>
        obtain rfl := Option.some.inj hd
        rfl
      | succ i =>
        rw [List.getElem?_cons_succ, kept i d hd]
        simp only [List.take_succ_cons, List.map_cons, List.mem_cons]
        by_cases hk : d.kind = c.kind
        · -- It is not the first one of its kind.
          have hnot : d.kind ∉ (apart c.kind pairs).map (·.1) := hk ▸ notMem_apart
          rw [Condition.revise_of_notMem hnot, ite_self, if_pos (Or.inl hk)]
        · simp only [hk, false_or, Condition.revise_apart hk]
    · rw [List.length_cons, List.drop_succ_cons, added, apart, List.filter_filter]
      congr 1
      refine List.filter_congr fun p _ => ?_
      simp only [List.map_cons, List.mem_cons, not_or, Bool.decide_and, Bool.and_comm, ne_eq]

namespace Revised

/-- The kinds of an entry stay in their order, and new ones come behind them. -/
theorem kinds (h : Revised now pairs cs cs') :
    cs'.map (·.kind) = cs.map (·.kind) ++
      (pairs.filter fun p => p.1 ∉ cs.map (·.kind)).map (·.1) := by
  have hfront : (cs'.take cs.length).map (·.kind) = cs.map (·.kind) := by
    refine List.ext_getElem? fun i => ?_
    rw [List.getElem?_map, List.getElem?_map, List.getElem?_take]
    cases hi : cs[i]? with
    | none => rw [if_neg (Nat.not_lt.mpr (List.getElem?_eq_none_iff.mp hi))]
    | some c =>
      rw [if_pos (List.getElem?_eq_some_iff.mp hi).1, h.kept i c hi]
      split
      · rfl
      · exact congrArg some Condition.kind_revise
  rw [← List.take_append_drop cs.length cs', List.map_append, hfront, h.added, List.map_map]
  rfl

/-- Kinds that were distinct stay so. -/
theorem nodup_kinds (h : Revised now pairs cs cs') (distinct : (pairs.map (·.1)).Nodup)
    (hcs : (cs.map (·.kind)).Nodup) : (cs'.map (·.kind)).Nodup := by
  rw [h.kinds]
  refine List.nodup_append.mpr ⟨hcs, distinct.sublist (List.filter_sublist.map _), ?_⟩
  rintro k hk _ hnew rfl
  obtain ⟨p, hp, rfl⟩ := List.mem_map.mp hnew
  simpa [hk] using (List.mem_filter.mp hp).2

end Revised

theorem find?_map_fresh :
    ((pairs.map (Condition.fresh now)).find? fun c => c.kind = kind) =
      (Json.findMember kind pairs).map fun value => ⟨kind, value, now⟩ := by
  induction pairs with
  | nil => rfl
  | cons p pairs ih =>
    rw [List.map_cons, List.find?_cons, ih, Json.findMember_cons]
    by_cases hk : p.1 = kind
    · subst hk
      simp [Condition.fresh]
    · simp [Condition.fresh, hk]

/-- **What is found after values are recorded**: the first condition of a kind, revised, or the
value that was given for the kind. -/
theorem find?_setConditions (distinct : (pairs.map (·.1)).Nodup) :
    ((setConditions now pairs cs).2.find? fun c => c.kind = kind) =
      match cs.find? fun c => c.kind = kind with
      | some c => some (c.revise now pairs)
      | none => (Json.findMember kind pairs).map fun value => ⟨kind, value, now⟩ := by
  induction cs generalizing pairs with
  | nil =>
    rw [setConditions_nil distinct, List.find?_nil]
    exact find?_map_fresh
  | cons c cs ih =>
    rw [setConditions_cons distinct]
    by_cases hk : c.kind = kind
    · simp [hk]
    · rw [List.find?_cons_of_neg (by simp [hk]), List.find?_cons_of_neg (by simp [hk]),
        ih (nodup_apart distinct), findMember_apart (Ne.symm hk)]
      split
      · rename_i d hd
        have hkind : d.kind = kind := by simpa using List.find?_some hd
        rw [Condition.revise_apart (hkind ▸ Ne.symm hk)]
      · rfl

/-- Since when the first condition of a kind has its value. -/
def sinceOf (kind : String) (cs : List Condition) : Option Instant :=
  (cs.find? fun c => c.kind = kind).map (·.since)

/-- **The time moves exactly where a value was absent or different.** -/
theorem sinceOf_setConditions (distinct : (pairs.map (·.1)).Nodup) :
    sinceOf kind (setConditions now pairs cs).2 =
      if ∃ p ∈ pairs, p.1 = kind ∧ valueOf kind cs ≠ some p.2 then some now
      else sinceOf kind cs := by
  -- At most one value is given for the kind.
  have hgiven : (∃ p ∈ pairs, p.1 = kind ∧ valueOf kind cs ≠ some p.2) ↔
      ∃ value, Json.findMember kind pairs = some value ∧ valueOf kind cs ≠ some value := by
    constructor
    · rintro ⟨⟨k, v⟩, hp, rfl, hvalue⟩
      exact ⟨v, (Json.findMember_eq_some_iff distinct).mpr hp, hvalue⟩
    · rintro ⟨v, hv, hvalue⟩
      exact ⟨_, (Json.findMember_eq_some_iff distinct).mp hv, rfl, hvalue⟩
  by_cases h : ∃ value, Json.findMember kind pairs = some value ∧ valueOf kind cs ≠ some value
  · obtain ⟨v, hv, hvalue⟩ := h
    rw [if_pos (hgiven.mpr ⟨v, hv, hvalue⟩), sinceOf, find?_setConditions distinct]
    cases hfound : cs.find? fun c => c.kind = kind with
    | none => simp [hv]
    | some c =>
      have hkind : c.kind = kind := by simpa using List.find?_some hfound
      have hdiffers : c.value ≠ v := by simpa [valueOf, hfound] using hvalue
      simp [Condition.revise, hkind, hv, hdiffers]
  · rw [if_neg (hgiven.not.mpr h), sinceOf, find?_setConditions distinct, sinceOf]
    cases hfound : cs.find? fun c => c.kind = kind with
    | none =>
      have hnone : Json.findMember kind pairs = none := by
        refine Option.eq_none_iff_forall_ne_some.mpr fun v hv => h ⟨v, hv, ?_⟩
        simp [valueOf, hfound]
      simp [hnone]
    | some c =>
      have hkind : c.kind = kind := by simpa using List.find?_some hfound
      cases hv : Json.findMember kind pairs with
      | none => simp [Condition.revise, hkind, hv]
      | some v =>
        have hsame : c.value = v := by
          refine Decidable.byContradiction fun hdiffers => h ⟨v, hv, ?_⟩
          simpa [valueOf, hfound] using hdiffers
        simp [Condition.revise, hkind, hv, hsame]

/-- Nothing changes exactly if all the values are there. -/
theorem setConditions_unchanged_iff (distinct : (pairs.map (·.1)).Nodup) :
    (setConditions now pairs cs).1 = false ↔ ∀ p ∈ pairs, valueOf p.1 cs = some p.2 := by
  constructor
  · intro h p hp
    have hset : valueOf p.1 (setConditions now pairs cs).2 = some p.2 :=
      valueOf_setConditions_of_mem distinct hp
    rwa [setConditions_unchanged h] at hset
  · exact setConditions_of_valueOf

/-! ## The entries of a status -/

/-- **The entries of a status after values are recorded for a resource**: one entry is another
one, the first one of the resource or a new one behind all others. -/
inductive Entered (now : Instant) (resource : String) (pairs : List (String × String)) :
    List ResourceEntry → List ResourceEntry → Prop where
  | first {front behind : List ResourceEntry} {e : ResourceEntry} {cs : List Condition} :
      (∀ f ∈ front, f.name ≠ resource) → e.name = resource → Revised now pairs e.conditions cs →
      Entered now resource pairs (front ++ e :: behind)
        (front ++ { e with conditions := cs } :: behind)
  | appended {entries : List ResourceEntry} {cs : List Condition} :
      (∀ f ∈ entries, f.name ≠ resource) → Revised now pairs [] cs →
      Entered now resource pairs entries (entries ++ [⟨resource, cs⟩])

variable {entries entries' : List ResourceEntry}

theorem updateEntry_entered (distinct : (pairs.map (·.1)).Nodup) :
    Entered now resource pairs entries
      (updateEntry resource (setConditions now pairs) entries).2 := by
  induction entries with
  | nil => exact .appended nofun (setConditions_revised distinct)
  | cons e rest ih =>
    rw [updateEntry]
    by_cases h : e.name = resource
    · rw [if_pos h]
      show Entered now resource pairs ([] ++ e :: rest) ([] ++ _ :: rest)
      exact .first nofun h (setConditions_revised distinct)
    · rw [if_neg h]
      dsimp only
      generalize (updateEntry resource (setConditions now pairs) rest).2 = rest' at ih
      cases ih with
      | first hfront he hcs =>
        rw [← List.cons_append, ← List.cons_append]
        exact .first (List.forall_mem_cons.mpr ⟨h, hfront⟩) he hcs
      | appended hrest hcs => exact .appended (List.forall_mem_cons.mpr ⟨h, hrest⟩) hcs

namespace Entered

/-- Names that were distinct stay so. -/
theorem nodup_names (h : Entered now resource pairs entries entries')
    (hnames : (entries.map (·.name)).Nodup) : (entries'.map (·.name)).Nodup := by
  cases h with
  | first => simpa using hnames
  | appended hnew =>
    rw [List.map_append, List.nodup_append]
    refine ⟨hnames, by simp, ?_⟩
    intro n hn m hm
    obtain ⟨e, he, rfl⟩ := List.mem_map.mp hn
    obtain rfl := List.mem_singleton.mp hm
    exact hnew e he

/-- Kinds that were distinct in the entry at a place stay so, and those of a new entry are. -/
theorem nodup_kinds (h : Entered now resource pairs entries entries')
    (distinct : (pairs.map (·.1)).Nodup) {i : Nat} {e' : ResourceEntry}
    (he' : entries'[i]? = some e')
    (hkinds : ∀ e, entries[i]? = some e → (e.conditions.map (·.kind)).Nodup) :
    (e'.conditions.map (·.kind)).Nodup := by
  cases h with
  | @first front behind e cs _ _ hcs =>
    rw [List.getElem?_append] at he' hkinds
    by_cases hi : i < front.length
    · rw [if_pos hi] at he' hkinds
      exact hkinds e' he'
    · rw [if_neg hi] at he' hkinds
      cases hj : i - front.length with
      | zero =>
        rw [hj] at he' hkinds
        obtain rfl := Option.some.inj he'
        exact hcs.nodup_kinds distinct (hkinds e rfl)
      | succ j =>
        rw [hj] at he' hkinds
        exact hkinds e' he'
  | @appended _ cs _ hcs =>
    rw [List.getElem?_append] at he'
    split at he'
    · exact hkinds e' he'
    · obtain rfl : e' = ⟨resource, cs⟩ := List.mem_singleton.mp (List.mem_of_getElem? he')
      exact hcs.nodup_kinds distinct List.nodup_nil

end Entered

namespace Status

/-- Since when a condition of a resource has its value. -/
def since? (s : Status) (resource kind : String) : Option Instant :=
  sinceOf kind (conditionsIn s.resources resource)

/-- **What recording conditions makes of a status**, and whether it writes it. -/
structure Recorded (now : Instant) (resource : String) (pairs : List (String × String))
    (before after : Status) (written : Bool) : Prop where
  /-- The status is written if a value was absent or different. -/
  written_iff : written = true ↔ ∃ p ∈ pairs, before.condition? resource p.1 ≠ some p.2
  /-- Otherwise it is what it was: there is not even a new entry. -/
  unwritten : written = false → after = before
  entered : written = true → Entered now resource pairs before.resources after.resources
  phase : after.phase = before.phase
  message : after.message = before.message
  /-- What was recorded is answered. -/
  answered : ∀ p ∈ pairs, after.condition? resource p.1 = some p.2
  /-- Whatever else is asked is answered as before. -/
  others : ∀ other kind, (other = resource → kind ∉ pairs.map (·.1)) →
    after.condition? other kind = before.condition? other kind
  /-- The time moves exactly where a value was absent or different. -/
  moved : ∀ other kind, after.since? other kind =
    if other = resource ∧ ∃ p ∈ pairs, p.1 = kind ∧ before.condition? resource kind ≠ some p.2
    then some now else before.since? other kind
  names : (before.resources.map (·.name)).Nodup → (after.resources.map (·.name)).Nodup
  /-- The kinds in an entry stay distinct, and are distinct in a new one. -/
  kinds : ∀ (i : Nat) (e' : ResourceEntry), after.resources[i]? = some e' →
    (∀ e, before.resources[i]? = some e → (e.conditions.map (·.kind)).Nodup) →
    (e'.conditions.map (·.kind)).Nodup

variable {s t : Status} {written : Bool}

theorem setConditions_unchanged_iff (distinct : (pairs.map (·.1)).Nodup) :
    (s.setConditions now resource pairs).1 = false ↔
      ∀ p ∈ pairs, s.condition? resource p.1 = some p.2 := by
  simp only [condition?_eq]
  exact (Eq.congr_left updateEntry_fst).trans
    (ClusterOperator.setConditions_unchanged_iff distinct)

theorem conditionsIn_recorded {other : String}
    (hwritten : (s.setConditions now resource pairs).1 = written) :
    conditionsIn (if written then (s.setConditions now resource pairs).2 else s).resources other =
      if other = resource then
        (ClusterOperator.setConditions now pairs (conditionsIn s.resources resource)).2
      else conditionsIn s.resources other := by
  cases written with
  | true => exact conditionsIn_updateEntry
  | false =>
    have hsame : (ClusterOperator.setConditions now pairs
        (conditionsIn s.resources resource)).2 = conditionsIn s.resources resource :=
      ClusterOperator.setConditions_unchanged (updateEntry_fst.symm.trans hwritten)
    rw [hsame, if_neg Bool.false_ne_true]
    by_cases h : other = resource
    · rw [if_pos h, h]
    · rw [if_neg h]

/-- **Recording conditions**, unless there is nothing to record. -/
theorem setConditions_recorded (distinct : (pairs.map (·.1)).Nodup)
    (hwritten : (s.setConditions now resource pairs).1 = written) :
    Recorded now resource pairs s
      (if written then (s.setConditions now resource pairs).2 else s) written where
  written_iff := by
    subst hwritten
    rw [← Bool.not_eq_false, setConditions_unchanged_iff distinct]
    simp
  unwritten h := by rw [h]; rfl
  entered h := by
    rw [h]
    exact updateEntry_entered distinct
  phase := by cases written <;> rfl
  message := by cases written <;> rfl
  answered p hp := by
    rw [condition?_eq, conditionsIn_recorded hwritten, if_pos rfl]
    exact valueOf_setConditions_of_mem distinct hp
  others other kind h := by
    rw [condition?_eq, condition?_eq, conditionsIn_recorded hwritten]
    split
    · rename_i hother
      rw [valueOf_setConditions_of_notMem (h hother), hother]
    · rfl
  moved other kind := by
    rw [since?, conditionsIn_recorded hwritten]
    by_cases hother : other = resource
    · subst hother
      simp only [if_pos, condition?_eq, true_and, sinceOf_setConditions distinct, since?]
    · rw [if_neg hother, if_neg fun h => hother h.1, since?]
  names hnames := by
    cases written with
    | true => exact (updateEntry_entered distinct).nodup_names hnames
    | false => exact hnames
  kinds i e' he' hkinds := by
    cases written with
    | true => exact (updateEntry_entered distinct).nodup_kinds distinct he' hkinds
    | false => exact hkinds e' he'

end Status

/-! ## The stored status -/

namespace StatusCell

variable {b d : StatusCell}

theorem Taken.recorded {now : Instant} {written : Bool}
    (h : Taken (fun now s => s.setConditions now resource pairs) b now written d)
    (distinct : (pairs.map (·.1)).Nodup) :
    Status.Recorded now resource pairs b.status d.status written :=
  h.status ▸ Status.setConditions_recorded distinct h.changed

end StatusCell

namespace StatusStore

variable {retry : Backoff}

theorem condition_served {ys : List (Exchange gateway)} {value : Option String} {c d : StatusCell}
    (h : (gatewayStore.condition name resource kind).Transcript ys (.ok value))
    (hs : Served (StatusCell.Answers name) c ys d) :
    value = c.status.condition? resource kind := by
  obtain ⟨reply, zs, rfl, hrest⟩ := Program.transcript_call_bind_iff.mp h
  obtain ⟨_, hload, -⟩ := Served.cons_iff.mp hs
  obtain ⟨-, hread⟩ := StatusCell.answers_load_iff.mp hload
  cases reply with
  | error e => cases (Program.transcript_done_iff.mp hrest).2
  | ok s =>
    cases (Program.transcript_done_iff.mp hrest).2
    rw [(hread s rfl).1]

/-- **Recording conditions records them.**  If it succeeds, however often it was repeated while
others wrote to the store, they are recorded in the status that the store held at the end: what
is answered from then on are the given values, one write was accepted if one of them was absent
or different, and none otherwise.  On a store that works and that nobody else writes to, it
succeeds. -/
theorem setConditions_records {conditions : List (String × String)}
    (distinct : (conditions.map (·.1)).Nodup) :
    (∀ (c d : StatusCell) (xs : List (Exchange gateway)) (written : Bool),
      (gatewayStore.setConditions name retry resource conditions).Transcript xs (.ok written) →
      Served (StatusCell.Contended name) c xs d →
        ∃ b s, StatusCell.Overwritten c b ∧ ⟨.loadStatus name, .ok s⟩ ∈ xs ∧
          Status.Recorded s.readAt resource conditions b.status d.status written ∧
          (written = false → d = b) ∧ xs.countP (Exchange.isCommit name) = written.toNat ∧
          ∀ kind value, (kind, value) ∈ conditions → ∀ ys answer d',
            (gatewayStore.condition name resource kind).Transcript ys (.ok answer) →
            Served (StatusCell.Answers name) d ys d' → answer = some value) ∧
    ∀ (c d : StatusCell) (xs : List (Exchange gateway)) (r : Except Failure Bool),
      (gatewayStore.setConditions name retry resource conditions).Transcript xs r →
      Served (StatusCell.Works name) c xs d →
        ∃ written now, r = .ok written ∧
          Status.Recorded now resource conditions c.status d.status written ∧
          (written = false → d = c) ∧ xs.countP (·.request.isLoad) = 1 ∧
          xs.countP (·.request.isStore) = written.toNat := by
  constructor
  · intro c d xs written h hs
    obtain ⟨b, s, hb, hload, taken⟩ := StatusCell.update_contended h hs
    have recorded := taken.recorded distinct
    refine ⟨b, s, hb, hload, recorded, taken.unwritten, countP_isCommit h, ?_⟩
    intro kind value hmem ys answer d' hread hread'
    rw [condition_served hread hread']
    exact recorded.answered _ hmem
  · intro c d xs r h hs
    obtain ⟨written, now, rfl, taken, hload, hstore⟩ := StatusCell.update_works h hs
    exact ⟨written, now, rfl, taken.recorded distinct, taken.unwritten, hload, hstore⟩

/-- A cell that others have written to, with a kind that an entry has twice. -/
def withRepeatedKind : StatusCell where
  status :=
    { phase := .ready, resources := [⟨"main", [⟨"sum", "a", default⟩, ⟨"sum", "z", default⟩]⟩] }
  version := some "1"
  past := [none]

/-- Somebody else writes before the status is read in which conditions are recorded. -/
theorem setConditions_records_of_repeated :
    ∃ d xs,
      (gatewayStore.setConditions "cluster" {} "main" [("sum", "b"), ("size", "3")]).Transcript
        xs (.ok true) ∧
      Served (StatusCell.Contended "cluster") ⟨{}, none, []⟩ xs d ∧
      d.status.condition? "main" "sum" = some "b" ∧
      d.status.condition? "main" "size" = some "3" := by
  let after := withRepeatedKind.status.setConditions default "main" [("sum", "b"), ("size", "3")]
  let read : Exchange gateway :=
    ⟨.loadStatus "cluster", .ok ⟨withRepeatedKind.status, some "1", default⟩⟩
  let write : Exchange gateway := ⟨.storeStatus "cluster" after.2 (some "1"), .ok ()⟩
  have h : (gatewayStore.setConditions "cluster" {} "main" [("sum", "b"), ("size", "3")]).Transcript
      [read, write] (.ok true) :=
    update_of_written (s := ⟨withRepeatedKind.status, some "1", default⟩) (by decide)
  have hs : Served (StatusCell.Contended "cluster") ⟨{}, none, []⟩ [read, write]
      ⟨after.2, some "2", [some "1", none]⟩ :=
    .cons ⟨withRepeatedKind, .write _ _ .refl (by decide), .load _ _⟩
      (.cons ⟨withRepeatedKind, .refl, .store _ _ _ (by decide)⟩ (.nil _))
  obtain ⟨b, s, -, -, recorded, -⟩ := (setConditions_records (by decide)).1 _ _ _ _ h hs
  exact ⟨_, _, h, hs, recorded.answered _ List.mem_cons_self,
    recorded.answered _ (List.mem_cons_of_mem _ List.mem_cons_self)⟩

end StatusStore

end ClusterOperator
