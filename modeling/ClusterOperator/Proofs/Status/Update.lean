import ClusterOperator.Cluster.Update
import ClusterOperator.Proofs.Retry

/-!
# What an update of a status asks

An attempt reads the status and, if the mutation changes what was read, writes the result
at the version that was read; nothing else is asked (`tryUpdate_transcript_iff`).  An
update makes such attempts, with pauses in between.
-/

namespace ClusterOperator

namespace Gateway

/-- Whatever is asked, there is something to reply. -/
theorem reply_nonempty (q : Request) : Nonempty (Reply q) := by
  cases q with
  | lookUp => exact ⟨.ok ⟨.succeeded, .null⟩⟩
  | submit => exact ⟨.ok ()⟩
  | containerExists => exact ⟨.ok true⟩
  | listObjects => exact ⟨.ok []⟩
  | readObject => exact ⟨.ok ""⟩
  | writeObject => exact ⟨.ok ()⟩
  | render => exact ⟨.ok ""⟩
  | template => exact ⟨.ok .null⟩
  | loadStatus => exact ⟨.ok ⟨{}, none, default⟩⟩
  | storeStatus => exact ⟨.ok ()⟩
  | guard => exact ⟨true⟩
  | draw => exact ⟨default⟩
  | pause => exact ⟨()⟩

end Gateway

namespace Gateway.Request

/-- The name of the status that a request is about. -/
def status? : Gateway.Request → Option String
  | .loadStatus name => some name
  | .storeStatus name _ _ => some name
  | _ => none

/-- Whether a request reads a status. -/
def isLoad : Gateway.Request → Bool
  | .loadStatus _ => true
  | _ => false

/-- Whether a request writes a status. -/
def isStore : Gateway.Request → Bool
  | .storeStatus _ _ _ => true
  | _ => false

/-- Whether a request is part of waiting for another attempt. -/
def isWaiting : Gateway.Request → Bool
  | .draw => true
  | .pause _ => true
  | _ => false

/-- Whether a request is part of updating the status of a name. -/
def isUpdate (name : String) : Gateway.Request → Bool
  | .loadStatus n => n == name
  | .storeStatus n _ _ => n == name
  | q => q.isWaiting

/-- Waiting has nothing to do with a status. -/
theorem status?_of_isWaiting {q : Gateway.Request} (h : q.isWaiting = true) : q.status? = none := by
  cases q with
  | draw | pause => rfl
  | _ => cases h

theorem isStore_of_isWaiting {q : Gateway.Request} (h : q.isWaiting = true) :
    q.isStore = false := by
  cases q with
  | draw | pause => rfl
  | _ => cases h

theorem isUpdate_of_isWaiting {name : String} {q : Gateway.Request} (h : q.isWaiting = true) :
    q.isUpdate name = true := by
  cases q with
  | draw | pause => rfl
  | _ => cases h

end Gateway.Request

namespace StatusStore

variable {name : String} {mutate : Mutation} {retry : Backoff} {xs : List (Exchange gateway)}

theorem tryUpdate_transcript_iff {r : Except StoreFault Bool} :
    (gatewayStore.tryUpdate name mutate).Transcript xs r ↔
      (∃ e, xs = [⟨.loadStatus name, .error e⟩] ∧ r = .error (.other e)) ∨
      (∃ s : Snapshot, (mutate s.readAt s.status).1 = false ∧
        xs = [⟨.loadStatus name, .ok s⟩] ∧ r = .ok false) ∨
      ∃ (s : Snapshot) (written : Except StoreFault Unit), (mutate s.readAt s.status).1 = true ∧
        xs = [⟨.loadStatus name, .ok s⟩,
          ⟨.storeStatus name (mutate s.readAt s.status).2 s.version, written⟩] ∧
        r = written.map fun _ => true := by
  constructor
  · intro h
    obtain ⟨reply, ys, rfl, hrest⟩ := Program.transcript_call_bind_iff.mp h
    cases reply with
    | error e =>
      obtain ⟨rfl, rfl⟩ := Program.transcript_done_iff.mp hrest
      exact .inl ⟨e, rfl, rfl⟩
    | ok s =>
      dsimp only at hrest
      split at hrest
      · rename_i changed
        obtain ⟨written, zs, rfl, hend⟩ := Program.transcript_call_bind_iff.mp hrest
        refine .inr (.inr ⟨s, written, changed, ?_⟩)
        cases written <;> (obtain ⟨rfl, rfl⟩ := Program.transcript_done_iff.mp hend)
        · exact ⟨rfl, rfl⟩
        · exact ⟨rfl, rfl⟩
      · rename_i changed
        obtain ⟨rfl, rfl⟩ := Program.transcript_done_iff.mp hrest
        exact .inr (.inl ⟨s, Bool.eq_false_iff.mpr changed, rfl, rfl⟩)
  · rintro (⟨e, rfl, rfl⟩ | ⟨s, unchanged, rfl, rfl⟩ | ⟨s, written, changed, rfl, rfl⟩)
    · exact Program.transcript_call_bind_iff.mpr ⟨.error e, [], rfl, .done _⟩
    · refine Program.transcript_call_bind_iff.mpr ⟨.ok s, [], rfl, ?_⟩
      dsimp only
      rw [if_neg (by simp [unchanged])]
      exact .done _
    · refine Program.transcript_call_bind_iff.mpr ⟨.ok s, _, rfl, ?_⟩
      dsimp only
      rw [if_pos changed]
      refine Program.transcript_call_bind_iff.mpr ⟨written, [], rfl, ?_⟩
      cases written <;> exact .done _

/-- A pause draws a factor, and is made if the length times the factor is one. -/
theorem pause_transcript_iff {d : Duration} {r : Except Duration.Fault Unit} :
    (gatewayStore.pause d).Transcript xs r ↔
      ∃ jitter,
        (∃ fault, d.stretch jitter = .error fault ∧ xs = [⟨.draw, jitter⟩] ∧ r = .error fault) ∨
          ∃ length, d.stretch jitter = .ok length ∧
            xs = [⟨.draw, jitter⟩, ⟨.pause length, ()⟩] ∧ r = .ok () := by
  refine Retry.stretched_transcript_iff.trans (exists_congr fun jitter => ?_)
  constructor
  · rintro ⟨ys, zs, rfl, hdraw, hsleep⟩
    obtain rfl := Program.transcript_call_iff.mp hdraw
    rcases hsleep with ⟨fault, hfault, rfl, rfl⟩ | ⟨length, hlength, hsleep, rfl⟩
    · exact .inl ⟨fault, hfault, rfl, rfl⟩
    · obtain rfl := Program.transcript_call_iff.mp hsleep
      exact .inr ⟨length, hlength, rfl, rfl⟩
  · rintro (⟨fault, hfault, rfl, rfl⟩ | ⟨length, hlength, rfl, rfl⟩)
    · exact ⟨_, [], rfl, Program.transcript_call_iff.mpr rfl, .inl ⟨fault, hfault, rfl, rfl⟩⟩
    · exact ⟨_, _, rfl, Program.transcript_call_iff.mpr rfl,
        .inr ⟨length, hlength, Program.transcript_call_iff.mpr rfl, rfl⟩⟩

/-- A pause asks for nothing but a factor and time. -/
theorem isWaiting_of_pause {d : Duration} {r : Except Duration.Fault Unit} {x : Exchange gateway}
    (h : (gatewayStore.pause d).Transcript xs r) (hx : x ∈ xs) : x.request.isWaiting = true := by
  obtain ⟨jitter, ⟨fault, -, rfl, -⟩ | ⟨length, -, rfl, -⟩⟩ := pause_transcript_iff.mp h
  · rw [List.mem_singleton.mp hx]
    rfl
  · simp only [List.mem_cons, List.not_mem_nil, or_false] at hx
    rcases hx with rfl | rfl <;> rfl

/-- An update begins by reading the status. -/
theorem update_begins {r : Except Failure Bool}
    (h : (gatewayStore.update name retry mutate).Transcript xs r) :
    ∃ reply rest, xs = ⟨.loadStatus name, reply⟩ :: rest := by
  obtain ⟨ending, hrun, -⟩ := Program.transcript_map_iff.mp h
  obtain ⟨r, ys, zs, rfl, hattempt⟩ := Retry.run_begins hrun
  rcases tryUpdate_transcript_iff.mp hattempt with
    ⟨e, rfl, -⟩ | ⟨s, -, rfl, -⟩ | ⟨s, written, -, rfl, -⟩
  · exact ⟨_, _, rfl⟩
  · exact ⟨_, _, rfl⟩
  · exact ⟨_, _, rfl⟩

/-- Every exchange of an update is one of a pause or one of an attempt. -/
theorem update_mem {r : Except Failure Bool} {x : Exchange gateway}
    (h : (gatewayStore.update name retry mutate).Transcript xs r) (hx : x ∈ xs) :
    x.request.isWaiting = true ∨
      ∃ r ys, (gatewayStore.tryUpdate name mutate).Transcript ys r ∧ x ∈ ys ∧ ys ⊆ xs := by
  obtain ⟨ending, hrun, -⟩ := Program.transcript_map_iff.mp h
  rcases Retry.attemptFrom_mem hrun hx with ⟨d, u, ys, hpause, hy⟩ | hattempt
  · exact .inl (isWaiting_of_pause hpause hy)
  · exact .inr hattempt

/-- An update asks for nothing but the status of its name and pauses. -/
theorem update_requests {r : Except Failure Bool}
    (h : (gatewayStore.update name retry mutate).Transcript xs r) :
    ∀ x ∈ xs, x.request.isUpdate name = true := by
  intro x hx
  rcases update_mem h hx with hwaiting | ⟨r, ys, hattempt, hy, -⟩
  · exact Gateway.Request.isUpdate_of_isWaiting hwaiting
  · rcases tryUpdate_transcript_iff.mp hattempt with
      ⟨e, rfl, -⟩ | ⟨s, -, rfl, -⟩ | ⟨s, written, -, rfl, -⟩
    · obtain rfl := List.mem_singleton.mp hy
      simp [Gateway.Request.isUpdate]
    · obtain rfl := List.mem_singleton.mp hy
      simp [Gateway.Request.isUpdate]
    · simp only [List.mem_cons, List.not_mem_nil, or_false] at hy
      rcases hy with rfl | rfl
      · simp [Gateway.Request.isUpdate]
      · simp [Gateway.Request.isUpdate]

/-- What an update writes is made of a status that it read. -/
theorem update_writes {r : Except Failure Bool} {n : String} {status : Status}
    {version : Option String} {reply : Except StoreFault Unit}
    (h : (gatewayStore.update name retry mutate).Transcript xs r)
    (hx : ⟨.storeStatus n status version, reply⟩ ∈ xs) :
    ∃ s : Snapshot, ⟨.loadStatus name, .ok s⟩ ∈ xs ∧ n = name ∧ version = s.version ∧
      status = (mutate s.readAt s.status).2 := by
  rcases update_mem h hx with hwaiting | ⟨r, ys, hattempt, hy, hsub⟩
  · cases hwaiting
  · rcases tryUpdate_transcript_iff.mp hattempt with
      ⟨e, rfl, -⟩ | ⟨s, -, rfl, -⟩ | ⟨s, written, -, rfl, -⟩
    · cases List.mem_singleton.mp hy
    · cases List.mem_singleton.mp hy
    · simp only [List.mem_cons, List.not_mem_nil, or_false] at hy
      rcases hy with heq | heq
      · cases heq
      · cases heq
        exact ⟨s, hsub List.mem_cons_self, rfl, rfl, rfl⟩

/-- What an update writes was made before of a status that it had read. -/
theorem update_writes_after {r : Except Failure Bool} {n : String} {status : Status}
    {version : Option String} {reply : Except StoreFault Unit}
    {before behind : List (Exchange gateway)}
    (h : (gatewayStore.update name retry mutate).Transcript
      (before ++ ⟨.storeStatus n status version, reply⟩ :: behind) r) :
    ∃ s : Snapshot, ⟨.loadStatus name, .ok s⟩ ∈ before ∧ n = name ∧ version = s.version ∧
      (mutate s.readAt s.status).1 = true ∧ status = (mutate s.readAt s.status).2 := by
  obtain ⟨ending, hrun, -⟩ := Program.transcript_map_iff.mp h
  rcases Retry.attemptFrom_split hrun with
    ⟨d, r, ys, hpause, hx⟩ | ⟨r, ys, zs, hattempt, hsuffix, -⟩
  · cases isWaiting_of_pause hpause hx
  · rcases tryUpdate_transcript_iff.mp hattempt with
      ⟨e, heq, -⟩ | ⟨s, -, heq, -⟩ | ⟨s, written, changed, heq, -⟩
    · rcases List.append_eq_singleton_iff.mp heq with ⟨-, hx⟩ | ⟨-, hx⟩
      · cases hx
      · cases hx
    · rcases List.append_eq_singleton_iff.mp heq with ⟨-, hx⟩ | ⟨-, hx⟩
      · cases hx
      · cases hx
    · cases ys with
      | nil => cases heq
      | cons y ys =>
        obtain ⟨rfl, hrest⟩ := List.cons.inj heq
        rcases List.append_eq_singleton_iff.mp hrest with ⟨rfl, hx⟩ | ⟨-, hx⟩
        · cases hx
          exact ⟨s, hsuffix.subset List.mem_cons_self, rfl, rfl, changed, rfl⟩
        · cases hx

/-- What an attempt does once it has read the status. -/
theorem tryUpdate_of_load {n : String} {reply : Except Failure Snapshot}
    {ys zs : List (Exchange gateway)} {r : Except StoreFault Bool}
    (h : (gatewayStore.tryUpdate name mutate).Transcript (ys ++ ⟨.loadStatus n, reply⟩ :: zs) r) :
    (∃ e, reply = .error e ∧ zs = [] ∧ r = .error (.other e)) ∨
      (∃ s : Snapshot, reply = .ok s ∧ (mutate s.readAt s.status).1 = false ∧ zs = [] ∧
        r = .ok false) ∨
      ∃ (s : Snapshot) (written : Except StoreFault Unit), reply = .ok s ∧
        (mutate s.readAt s.status).1 = true ∧
        zs = [⟨.storeStatus name (mutate s.readAt s.status).2 s.version, written⟩] ∧
        r = written.map fun _ => true := by
  rcases tryUpdate_transcript_iff.mp h with
    ⟨e, heq, rfl⟩ | ⟨s, unchanged, heq, rfl⟩ | ⟨s, written, changed, heq, rfl⟩
  · obtain ⟨-, hx⟩ | ⟨-, hx⟩ := List.append_eq_singleton_iff.mp heq
    · obtain ⟨⟨⟩, rfl⟩ := List.cons.inj hx
      exact .inl ⟨e, rfl, rfl, rfl⟩
    · cases hx
  · obtain ⟨-, hx⟩ | ⟨-, hx⟩ := List.append_eq_singleton_iff.mp heq
    · obtain ⟨⟨⟩, rfl⟩ := List.cons.inj hx
      exact .inr (.inl ⟨s, rfl, unchanged, rfl, rfl⟩)
    · cases hx
  · cases ys with
    | nil =>
      obtain ⟨⟨⟩, rfl⟩ := List.cons.inj heq
      exact .inr (.inr ⟨s, written, rfl, changed, rfl, rfl⟩)
    | cons y ys =>
      -- The second exchange of an attempt is a write.
      obtain ⟨-, hx⟩ | ⟨-, hx⟩ := List.append_eq_singleton_iff.mp (List.cons.inj heq).2
      · cases hx
      · cases hx

/-- **What an update does once it has read the status**: it ends if the status cannot be read or
needs no change, and writes the changed one at its version otherwise.  A write that is accepted
or fails for good is the end of it. -/
theorem update_of_load {n : String} {reply : Except Failure Snapshot} {r : Except Failure Bool}
    {before behind : List (Exchange gateway)}
    (h : (gatewayStore.update name retry mutate).Transcript
      (before ++ ⟨.loadStatus n, reply⟩ :: behind) r) :
    (∃ e, reply = .error e ∧ behind = [] ∧ r = .error e) ∨
      (∃ s : Snapshot, reply = .ok s ∧ (mutate s.readAt s.status).1 = false ∧ behind = [] ∧
        r = .ok false) ∨
      ∃ (s : Snapshot) (written : Except StoreFault Unit) (rest : List (Exchange gateway)),
        reply = .ok s ∧ (mutate s.readAt s.status).1 = true ∧
        behind =
          ⟨.storeStatus name (mutate s.readAt s.status).2 s.version, written⟩ :: rest ∧
        (written = .ok () → rest = [] ∧ r = .ok true) ∧
        ∀ e, written = .error (.other e) → rest = [] ∧ r = .error e := by
  obtain ⟨ending, hrun, rfl⟩ := Program.transcript_map_iff.mp h
  rcases Retry.attemptFrom_split hrun with
    ⟨d, paused, ys, hpause, hx⟩ | ⟨result, ys, zs, hattempt, -, hnext, hfinal⟩
  · cases isWaiting_of_pause hpause hx
  rcases tryUpdate_of_load hattempt with
    ⟨e, rfl, rfl, rfl⟩ | ⟨s, rfl, unchanged, rfl, rfl⟩ | ⟨s, written, rfl, changed, rfl, rfl⟩
  · obtain ⟨rfl, rfl⟩ := hfinal (by rintro _ ⟨⟩; rfl)
    exact .inl ⟨e, rfl, rfl, rfl⟩
  · obtain ⟨rfl, rfl⟩ := hfinal nofun
    exact .inr (.inl ⟨s, rfl, unchanged, rfl, rfl⟩)
  · obtain ⟨rest, rfl⟩ := hnext
    refine .inr (.inr ⟨s, written, rest, rfl, changed, rfl, ?_, ?_⟩)
    · rintro rfl
      obtain ⟨hrest, rfl⟩ := hfinal nofun
      exact ⟨List.append_right_eq_self.mp hrest, rfl⟩
    · rintro e rfl
      obtain ⟨hrest, rfl⟩ := hfinal (by rintro _ ⟨⟩; rfl)
      exact ⟨List.append_right_eq_self.mp hrest, rfl⟩

/-- **In a world that only drifts in pauses and failed attempts**, an update does what its last
attempt does, or nothing.  A world that they leave alone is one that drifts nowhere. -/
theorem update_served {σ : Type} {answers : σ → Exchange gateway → σ → Prop} {R : σ → σ → Prop}
    {c d : σ} {r : Except Failure Bool} (refl : ∀ s, R s s)
    (trans : ∀ {s t u}, R s t → R t u → R s u)
    (idle : ∀ {t x u}, x.request.isWaiting = true → answers t x u → R t u)
    (stays : ∀ {e t ys u}, (gatewayStore.tryUpdate name mutate).Transcript ys (.error e) →
      Served answers t ys u → R t u)
    (h : (gatewayStore.update name retry mutate).Transcript xs r) (hs : Served answers c xs d) :
    (∃ written ys b, r = .ok written ∧ R c b ∧
      (gatewayStore.tryUpdate name mutate).Transcript ys (.ok written) ∧ ys <:+ xs ∧
      Served answers b ys d) ∨
      ((∃ e, r = .error e) ∧ R c d) := by
  obtain ⟨ending, hrun, rfl⟩ := Program.transcript_map_iff.mp h
  have pauses : ∀ pause r t ys t', (gatewayStore.pause pause).Transcript ys r →
      Served answers t ys t' → R t t' := fun pause r t ys t' hp hs =>
    Served.invariant (P := R t) (fun _ _ _ hx hanswers hbefore =>
      trans hbefore (idle (isWaiting_of_pause hp hx) hanswers)) hs (refl t)
  rcases Retry.attemptFrom_served refl trans pauses (fun _ _ _ _ => stays) hrun hs with
    ⟨written, ys, b, rfl, hb, hlast, hsuffix, hys⟩ | ⟨hending, hd⟩
  · exact .inl ⟨written, ys, b, rfl, hb, hlast, hsuffix, hys⟩
  · refine .inr ⟨?_, hd⟩
    cases ending with
    | succeeded a => exact absurd rfl (hending a)
    | failed e => cases e <;> exact ⟨_, rfl⟩
    | unpaced | overflowed => exact ⟨_, rfl⟩

/-- An update whose first attempt is answered well. -/
theorem update_of_written {s : Snapshot} (changed : (mutate s.readAt s.status).1 = true) :
    (gatewayStore.update name retry mutate).Transcript
      [⟨.loadStatus name, .ok s⟩,
        ⟨.storeStatus name (mutate s.readAt s.status).2 s.version, .ok ()⟩] (.ok true) :=
  Program.transcript_map_iff.mpr ⟨.succeeded true, Retry.run_of_ok
    (tryUpdate_transcript_iff.mpr (.inr (.inr ⟨s, .ok (), changed, rfl, rfl⟩))), rfl⟩

/-- An update that finds nothing to change. -/
theorem update_of_unchanged {s : Snapshot} (unchanged : (mutate s.readAt s.status).1 = false) :
    (gatewayStore.update name retry mutate).Transcript [⟨.loadStatus name, .ok s⟩] (.ok false) :=
  Program.transcript_map_iff.mpr ⟨.succeeded false, Retry.run_of_ok
    (tryUpdate_transcript_iff.mpr (.inr (.inl ⟨s, unchanged, rfl, rfl⟩))), rfl⟩

/-- An update whose write fails for good. -/
theorem update_of_storeFails {s : Snapshot} {e : Failure}
    (changed : (mutate s.readAt s.status).1 = true) :
    (gatewayStore.update name retry mutate).Transcript
      [⟨.loadStatus name, .ok s⟩,
        ⟨.storeStatus name (mutate s.readAt s.status).2 s.version, .error (.other e)⟩]
      (.error e) :=
  Program.transcript_map_iff.mpr ⟨.failed (.other e), Retry.run_of_error
    (tryUpdate_transcript_iff.mpr (.inr (.inr ⟨s, .error (.other e), changed, rfl, rfl⟩))) rfl, rfl⟩

end StatusStore

end ClusterOperator
