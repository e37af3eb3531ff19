import ClusterOperator.Proofs.Status.Concurrent

/-!
# Updates among other writers

The store of `StatusCell.Answers` is shared: before each exchange of an update, others may write
to the cell any number of times (`StatusCell.Contended`).  An update that succeeds nevertheless is
made of the status that the cell holds when it is over (`update_contended`): the version that was
read is still there, and no version comes twice.  One write was accepted if the update says so,
and none otherwise (`countP_isCommit`).

On a store that works and that nobody else writes to, an update succeeds at once
(`update_works`).
-/

namespace ClusterOperator

variable {name : String}

namespace StatusCell

/-- Others write to the cell, any number of times. -/
inductive Overwritten (c : StatusCell) : StatusCell → Prop where
  | refl : Overwritten c c
  | write {d : StatusCell} (status : Status) (fresh : Option String) :
      Overwritten c d → fresh ∉ d.version :: d.past →
      Overwritten c ⟨status, fresh, d.version :: d.past⟩

/-- **How the store answers if others may write** before each exchange. -/
def Contended (name : String) (c : StatusCell) (x : Exchange gateway) (d : StatusCell) : Prop :=
  ∃ b, Overwritten c b ∧ Answers name b x d

/-- **How a store answers that works** and that nobody else writes to: it fails only if it is
given a version that it does not have. -/
inductive Works (name : String) : StatusCell → Exchange gateway → StatusCell → Prop where
  | load (c : StatusCell) (readAt : Instant) :
      Works name c ⟨.loadStatus name, .ok ⟨c.status, c.version, readAt⟩⟩ c
  | store (c : StatusCell) (status : Status) (fresh : Option String) :
      fresh ∉ c.version :: c.past →
      Works name c ⟨.storeStatus name status c.version, .ok ()⟩
        ⟨status, fresh, c.version :: c.past⟩
  | conflict (c : StatusCell) (status : Status) (version : Option String) :
      version ≠ c.version →
      Works name c ⟨.storeStatus name status version, .error (.conflict name)⟩ c
  | elsewhere (c : StatusCell) (x : Exchange gateway) :
      x.request.status? ≠ some name → Works name c x c

variable {b c d : StatusCell} {x : Exchange gateway} {xs : List (Exchange gateway)}
  {mutate : Mutation}

namespace Overwritten

theorem trans (h : Overwritten b c) (h' : Overwritten c d) : Overwritten b d := by
  induction h' with
  | refl => exact h
  | write status fresh _ hfresh ih => exact .write status fresh ih hfresh

theorem version_mem (h : Overwritten c d) : c.version ∈ d.version :: d.past := by
  induction h with
  | refl => exact List.mem_cons_self
  | write _ _ _ _ ih => exact List.mem_cons_of_mem _ ih

/-- **As long as the version is the same, nobody has written.** -/
theorem eq_of_version (h : Overwritten c d) (hversion : c.version = d.version) : d = c := by
  cases h with
  | refl => rfl
  | write status fresh hd hfresh =>
    have hseen := hd.version_mem
    rw [hversion] at hseen
    exact absurd hseen hfresh

end Overwritten

/-- **What an update leaves behind** that was made of the status of a cell. -/
structure Taken (mutate : Mutation) (b : StatusCell) (now : Instant) (written : Bool)
    (d : StatusCell) : Prop where
  changed : (mutate now b.status).1 = written
  status : d.status = if written then (mutate now b.status).2 else b.status
  unwritten : written = false → d = b

/-- An attempt among others fails, or it is made of the status that the cell holds when it is
over. -/
theorem tryUpdate_contended {r : Except StoreFault Bool}
    (h : (gatewayStore.tryUpdate name mutate).Transcript xs r)
    (hs : Served (Contended name) c xs d) :
    (∃ e, r = .error e ∧ Overwritten c d) ∨
      ∃ written b s, r = .ok written ∧ Overwritten c b ∧ ⟨.loadStatus name, .ok s⟩ ∈ xs ∧
        Taken mutate b s.readAt written d := by
  rcases StatusStore.tryUpdate_transcript_iff.mp h with
    ⟨e, rfl, rfl⟩ | ⟨s, unchanged, rfl, rfl⟩ | ⟨s, reply, changed, rfl, rfl⟩
  · obtain ⟨_, ⟨b, hb, hload⟩, hend⟩ := Served.cons_iff.mp hs
    obtain ⟨rfl, -⟩ := answers_load_iff.mp hload
    obtain rfl := Served.nil_iff.mp hend
    exact .inl ⟨_, rfl, hb⟩
  · obtain ⟨_, ⟨b, hb, hload⟩, hend⟩ := Served.cons_iff.mp hs
    obtain ⟨rfl, hread⟩ := answers_load_iff.mp hload
    obtain rfl := Served.nil_iff.mp hend
    obtain ⟨hstatus, -⟩ := hread s rfl
    exact .inr ⟨false, d, s, rfl, hb, List.mem_cons_self, hstatus ▸ unchanged, rfl, fun _ => rfl⟩
  · obtain ⟨_, ⟨b, hb, hload⟩, hstore⟩ := Served.cons_iff.mp hs
    obtain ⟨rfl, hread⟩ := answers_load_iff.mp hload
    obtain ⟨hstatus, hversion⟩ := hread s rfl
    obtain ⟨_, ⟨b', hb', hwrite⟩, hend⟩ := Served.cons_iff.mp hstore
    obtain rfl := Served.nil_iff.mp hend
    rcases answers_store_iff.mp hwrite with ⟨e, rfl, rfl⟩ | ⟨rfl, hheld, fresh, -, rfl⟩
    · exact .inl ⟨e, rfl, hb.trans hb'⟩
    · -- The cell still has the version that was read, so nobody wrote in between.
      obtain rfl := hb'.eq_of_version (hversion.symm.trans hheld)
      exact .inr ⟨true, b', s, rfl, hb, List.mem_cons_self, hstatus ▸ changed,
        congrArg (fun status => (mutate s.readAt status).2) hstatus, nofun⟩

/-- **An update that succeeds among others** is made of the status that the cell holds when it
is over, at the time at which it was read, however often it was repeated. -/
theorem update_contended {retry : Backoff} {written : Bool}
    (h : (gatewayStore.update name retry mutate).Transcript xs (.ok written))
    (hs : Served (Contended name) c xs d) :
    ∃ b s, Overwritten c b ∧ ⟨.loadStatus name, .ok s⟩ ∈ xs ∧
      Taken mutate b s.readAt written d := by
  have idle : ∀ {t x u}, x.request.isWaiting = true → Contended name t x u → Overwritten t u := by
    rintro t x u hwaiting ⟨b, hb, hpause⟩
    obtain rfl := (answers_elsewhere_of_isWaiting hwaiting).mp hpause
    exact hb
  have stays : ∀ {e t ys u}, (gatewayStore.tryUpdate name mutate).Transcript ys (.error e) →
      Served (Contended name) t ys u → Overwritten t u := by
    intro e t ys u htry hys
    rcases tryUpdate_contended htry hys with ⟨_, -, hu⟩ | ⟨_, _, _, hok, -⟩
    · exact hu
    · cases hok
  rcases StatusStore.update_served (R := Overwritten) (fun _ => .refl) Overwritten.trans idle stays
    h hs with ⟨_, ys, b, heq, hb, hlast, hsuffix, hys⟩ | ⟨⟨e, he⟩, -⟩
  · cases heq
    rcases tryUpdate_contended hlast hys with ⟨_, he, -⟩ | ⟨_, b', s, heq, hb', hload, taken⟩
    · cases he
    · cases heq
      exact ⟨b', s, hb.trans hb', hsuffix.subset hload, taken⟩
  · cases he

theorem tryUpdate_works {r : Except StoreFault Bool}
    (h : (gatewayStore.tryUpdate name mutate).Transcript xs r)
    (hs : Served (Works name) c xs d) :
    ∃ written now, r = .ok written ∧ Taken mutate c now written d ∧
      xs.countP (·.request.isLoad) = 1 ∧ xs.countP (·.request.isStore) = written.toNat := by
  rcases StatusStore.tryUpdate_transcript_iff.mp h with
    ⟨e, rfl, rfl⟩ | ⟨s, unchanged, rfl, rfl⟩ | ⟨s, reply, changed, rfl, rfl⟩
  · obtain ⟨_, hload, -⟩ := Served.cons_iff.mp hs
    cases hload with
    | elsewhere _ hx => exact absurd rfl hx
  · obtain ⟨_, hload, hend⟩ := Served.cons_iff.mp hs
    obtain rfl := Served.nil_iff.mp hend
    cases hload with
    | load now => exact ⟨false, now, rfl, ⟨unchanged, rfl, fun _ => rfl⟩, rfl, rfl⟩
    | elsewhere _ hx => exact absurd rfl hx
  · obtain ⟨_, hload, hstore⟩ := Served.cons_iff.mp hs
    obtain ⟨_, hwrite, hend⟩ := Served.cons_iff.mp hstore
    obtain rfl := Served.nil_iff.mp hend
    cases hload with
    | elsewhere _ hx => exact absurd rfl hx
    | load now =>
      cases hwrite with
      | store _ fresh => exact ⟨true, now, rfl, ⟨changed, rfl, nofun⟩, rfl, rfl⟩
      | conflict _ _ hversion => exact absurd rfl hversion
      | elsewhere _ hx => exact absurd rfl hx

/-- **On a store that works** and that nobody else writes to, an update succeeds at once. -/
theorem update_works {retry : Backoff} {r : Except Failure Bool}
    (h : (gatewayStore.update name retry mutate).Transcript xs r)
    (hs : Served (Works name) c xs d) :
    ∃ written now, r = .ok written ∧ Taken mutate c now written d ∧
      xs.countP (·.request.isLoad) = 1 ∧ xs.countP (·.request.isStore) = written.toNat := by
  obtain ⟨ending, hrun, -⟩ := Program.transcript_map_iff.mp h
  obtain ⟨attempt, ys, zs, rfl, hattempt⟩ := Retry.run_begins hrun
  obtain ⟨b, hys, hzs⟩ := Served.append_iff.mp hs
  obtain ⟨written, now, rfl, taken, hcounts⟩ := tryUpdate_works hattempt hys
  -- The first attempt ends the update, so nothing is exchanged behind it.
  have hupdate : (gatewayStore.update name retry mutate).Transcript ys (.ok written) :=
    Program.transcript_map_iff.mpr ⟨.succeeded written, Retry.run_of_ok hattempt, rfl⟩
  obtain ⟨hnone, rfl⟩ := h.unique hupdate (List.append_nil (ys ++ zs))
  obtain rfl := List.append_right_eq_self.mp hnone
  obtain rfl := Served.nil_iff.mp hzs
  rw [List.append_nil]
  exact ⟨written, now, rfl, taken, hcounts⟩

end StatusCell

namespace StatusStore

variable {retry : Backoff} {mutate : Mutation} {xs : List (Exchange gateway)}

/-- Counting, as a world in which exchanges of one sort leave a mark. -/
theorem served_countP {sort : Exchange gateway → Bool} (n : Nat) :
    Served (fun k x l => l = k + (sort x).toNat) n xs (n + xs.countP sort) := by
  induction xs generalizing n with
  | nil => exact .nil n
  | cons x xs ih =>
    refine .cons rfl ?_
    have hcount : n + (x :: xs).countP sort = n + (sort x).toNat + xs.countP sort := by
      rw [List.countP_cons]
      cases sort x with
      | true => simp; omega
      | false => simp
    rw [hcount]
    exact ih _

/-- **An update that succeeds has had one write accepted** if it says so, and none otherwise. -/
theorem countP_isCommit {written : Bool}
    (h : (gatewayStore.update name retry mutate).Transcript xs (.ok written)) :
    xs.countP (Exchange.isCommit name) = written.toNat := by
  have idle : ∀ {k x l}, x.request.isWaiting = true →
      l = k + (Exchange.isCommit name x).toNat → l = k := by
    rintro k ⟨request, reply⟩ l hwaiting hl
    cases request with
    | draw | pause => exact hl
    | _ => cases hwaiting
  have stays : ∀ {e k ys l}, (gatewayStore.tryUpdate name mutate).Transcript ys (.error e) →
      Served (fun k x l => l = k + (x.isCommit name).toNat) k ys l → l = k := by
    intro e k ys l htry hys
    rcases tryUpdate_transcript_iff.mp htry with
      ⟨_, rfl, -⟩ | ⟨_, -, -, hr⟩ | ⟨_, reply, -, rfl, hr⟩
    · simpa [Exchange.isCommit] using hys
    · cases hr
    · cases reply with
      | error => simpa [Exchange.isCommit] using hys
      | ok => cases hr
  rcases update_served (R := fun k l => l = k) (fun _ => rfl) (fun h h' => h'.trans h) idle stays
    h (served_countP 0) with ⟨_, ys, _, heq, rfl, hlast, -, hys⟩ | ⟨⟨_, he⟩, -⟩
  · cases heq
    rcases tryUpdate_transcript_iff.mp hlast with
      ⟨_, -, hr⟩ | ⟨_, -, rfl, hr⟩ | ⟨_, reply, -, rfl, hr⟩
    · cases hr
    · cases hr
      simpa [Exchange.isCommit] using hys
    · cases reply with
      | error => cases hr
      | ok =>
        cases hr
        simpa [Exchange.isCommit] using hys
  · cases he

end StatusStore

end ClusterOperator
