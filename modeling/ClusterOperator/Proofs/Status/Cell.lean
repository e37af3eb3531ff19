import ClusterOperator.Proofs.Status.Update

/-!
# The stored status as a cell

What is assumed of the store behind the gateway: the status of a name is a cell with a
version.  Reading answers what the cell holds; writing replaces it and moves it to a
version that it never had, if the version given is the one it has; and both may fail
instead, for whatever reason, without any effect.

In such a world an update that nobody gets in the way of writes what its mutation makes
of the status, or leaves the cell alone (`update_served`).
-/

namespace ClusterOperator

/-- A stored status, its version, and the versions it had before. -/
structure StatusCell where
  status : Status
  version : Option String := none
  past : List (Option String) := []

namespace StatusCell

/-- **How the store answers** for the status of a name. -/
inductive Answers (name : String) : StatusCell → Exchange gateway → StatusCell → Prop where
  | load (c : StatusCell) (readAt : Instant) :
      Answers name c ⟨.loadStatus name, .ok ⟨c.status, c.version, readAt⟩⟩ c
  | loadFails (c : StatusCell) (e : Failure) : Answers name c ⟨.loadStatus name, .error e⟩ c
  | store (c : StatusCell) (status : Status) (fresh : Option String) :
      fresh ∉ c.version :: c.past →
      Answers name c ⟨.storeStatus name status c.version, .ok ()⟩
        ⟨status, fresh, c.version :: c.past⟩
  | storeFails (c : StatusCell) (status : Status) (version : Option String) (e : StoreFault) :
      Answers name c ⟨.storeStatus name status version, .error e⟩ c
  | elsewhere (c : StatusCell) (x : Exchange gateway) :
      x.request.status? ≠ some name → Answers name c x c

variable {name : String} {c d : StatusCell} {x : Exchange gateway} {xs : List (Exchange gateway)}

theorem answers_elsewhere_iff (hx : x.request.status? ≠ some name) :
    Answers name c x d ↔ d = c := by
  constructor
  · intro h
    cases h with
    | load | loadFails | store | storeFails => exact absurd rfl hx
    | elsewhere => rfl
  · rintro rfl
    exact .elsewhere _ _ hx

theorem answers_elsewhere_of_isWaiting (hx : x.request.isWaiting = true) :
    Answers name c x d ↔ d = c :=
  answers_elsewhere_iff (by simp [Gateway.Request.status?_of_isWaiting hx])

theorem answers_load_iff {r : Except Failure Snapshot} :
    Answers name c ⟨.loadStatus name, r⟩ d ↔
      d = c ∧ ∀ snapshot, r = .ok snapshot →
        snapshot.status = c.status ∧ snapshot.version = c.version := by
  constructor
  · intro h
    cases h with
    | load readAt => refine ⟨rfl, ?_⟩; rintro _ ⟨⟩; exact ⟨rfl, rfl⟩
    | loadFails e => exact ⟨rfl, nofun⟩
    | elsewhere _ hx => exact absurd rfl hx
  · rintro ⟨rfl, h⟩
    cases r with
    | error e => exact .loadFails _ e
    | ok snapshot =>
      obtain ⟨status, version, readAt⟩ := snapshot
      obtain ⟨rfl, rfl⟩ := h _ rfl
      exact .load d readAt

theorem answers_store_iff {status : Status} {version : Option String}
    {r : Except StoreFault Unit} :
    Answers name c ⟨.storeStatus name status version, r⟩ d ↔
      (∃ e, r = .error e ∧ d = c) ∨
        (r = .ok () ∧ version = c.version ∧
          ∃ fresh, fresh ∉ c.version :: c.past ∧ d = ⟨status, fresh, c.version :: c.past⟩) := by
  constructor
  · intro h
    cases h with
    | store _ fresh hfresh => exact .inr ⟨rfl, rfl, fresh, hfresh, rfl⟩
    | storeFails _ _ e => exact .inl ⟨e, rfl, rfl⟩
    | elsewhere _ hx => exact absurd rfl hx
  · rintro (⟨e, rfl, rfl⟩ | ⟨rfl, rfl, fresh, hfresh, rfl⟩)
    · exact .storeFails _ _ _ e
    · exact .store _ _ fresh hfresh

/-- **What an update does to the cell**: it writes what the mutation makes of the status,
finds nothing to change, or fails and writes nothing. -/
inductive Updated (mutate : Mutation) (c : StatusCell) : Option Bool → StatusCell → Prop where
  | written (now : Instant) (d : StatusCell) : (mutate now c.status).1 = true →
      d.status = (mutate now c.status).2 → Updated mutate c (some true) d
  | unchanged (now : Instant) : (mutate now c.status).1 = false → Updated mutate c (some false) c
  | failed : Updated mutate c none c

/-! ## An update that nobody gets in the way of -/

variable {mutate : Mutation}

theorem tryUpdate_served {r : Except StoreFault Bool}
    (h : (gatewayStore.tryUpdate name mutate).Transcript xs r)
    (hs : Served (Answers name) c xs d) : Updated mutate c r.toOption d := by
  rcases StatusStore.tryUpdate_transcript_iff.mp h with
    ⟨e, rfl, rfl⟩ | ⟨s, unchanged, rfl, rfl⟩ | ⟨s, written, changed, rfl, rfl⟩
  · obtain ⟨_, hload, hend⟩ := Served.cons_iff.mp hs
    obtain ⟨rfl, -⟩ := answers_load_iff.mp hload
    obtain rfl := Served.nil_iff.mp hend
    exact .failed
  · obtain ⟨_, hload, hend⟩ := Served.cons_iff.mp hs
    obtain ⟨rfl, hread⟩ := answers_load_iff.mp hload
    obtain rfl := Served.nil_iff.mp hend
    rw [(hread s rfl).1] at unchanged
    exact .unchanged s.readAt unchanged
  · obtain ⟨_, hload, hstore⟩ := Served.cons_iff.mp hs
    obtain ⟨rfl, hread⟩ := answers_load_iff.mp hload
    obtain ⟨_, hwritten, hend⟩ := Served.cons_iff.mp hstore
    obtain rfl := Served.nil_iff.mp hend
    rw [(hread s rfl).1] at changed hwritten
    rcases answers_store_iff.mp hwritten with ⟨e, rfl, rfl⟩ | ⟨rfl, -, fresh, -, rfl⟩
    · exact .failed
    · exact .written s.readAt _ changed rfl

@[simp] theorem updated_none_iff : Updated mutate c none d ↔ d = c := by
  constructor
  · rintro ⟨⟩; rfl
  · rintro rfl; exact .failed

/-- **An update that nobody gets in the way of** does what one attempt does, however often
it was repeated. -/
theorem update_served {retry : Backoff} {r : Except Failure Bool}
    (h : (gatewayStore.update name retry mutate).Transcript xs r)
    (hs : Served (Answers name) c xs d) : Updated mutate c r.toOption d := by
  have idle : ∀ {t x u}, x.request.isWaiting = true → Answers name t x u → u = t :=
    fun hwaiting => (answers_elsewhere_of_isWaiting hwaiting).mp
  have stays : ∀ {e t ys u}, (gatewayStore.tryUpdate name mutate).Transcript ys (.error e) →
      Served (Answers name) t ys u → u = t := fun htry hys =>
    updated_none_iff.mp (tryUpdate_served htry hys)
  rcases StatusStore.update_served (R := fun t u => u = t) (fun _ => rfl)
      (fun h h' => h'.trans h) idle stays h hs with
    ⟨written, ys, _, rfl, rfl, hlast, -, hys⟩ | ⟨⟨e, rfl⟩, rfl⟩
  · exact tryUpdate_served hlast hys
  · exact .failed

end StatusCell

end ClusterOperator
