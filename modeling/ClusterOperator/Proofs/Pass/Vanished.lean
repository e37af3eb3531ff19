import ClusterOperator.Proofs.Pass.Upkeep

/-!
# Objects that vanish

An object that was listed may be gone when it is read.  This makes no difference but that it is
not there: the run is the one that it would be if the object had not been listed, request by
request (`reconcile_without`).
-/

namespace ClusterOperator

namespace BootObjects

variable {cluster : Cluster} {ctx after : PassContext} {s : StorageContainer}
  {xs gets before behind : List (Exchange gateway)} {keys : List String} {key : String}
  {e : CloudFault}

/-- The listing without a key. -/
def unlist (key : String) : Exchange gateway → Exchange gateway
  | ⟨.listObjects account container, .ok keys⟩ =>
    ⟨.listObjects account container, .ok (keys.filter (· ≠ key))⟩
  | x => x

/-- Nothing but a listing is changed by it. -/
theorem map_unlist (h : ∀ x ∈ xs, ∃ s key, x.request = readOf s key) :
    xs.map (unlist key) = xs := by
  refine (List.map_congr_left fun x hx => ?_).trans (List.map_id xs)
  obtain ⟨s, k, heq⟩ := h x hx
  obtain ⟨request, reply⟩ := x
  subst heq
  rfl

/-- An exchange that is not the first one is behind it. -/
theorem exists_of_append_cons_eq_cons {α : Type} {before behind ys : List α} {x y : α}
    (h : before ++ x :: behind = y :: ys) (hne : x ≠ y) :
    ∃ rest, before = y :: rest ∧ rest ++ x :: behind = ys := by
  cases before with
  | nil => exact absurd (List.cons.inj h).1 hne
  | cons b before =>
    obtain ⟨rfl, rfl⟩ := List.cons.inj h
    exact ⟨before, rfl, rfl⟩

theorem planned_of_readObjects {found : List BootObject}
    {result : Except Failure (List BootObject)}
    (h : (readObjects s found keys).Transcript ctx xs result after) :
    xs.map (·.request) <+: keys.map (readOf s) := by
  rcases readObjects_cases h with halts | ⟨-, -, goes⟩
  · exact halts.planned
  · exact goes.planned

/-- **An object that was gone is only skipped**: the others are read as if it had not been among
the keys. -/
theorem readObjects_without {found : List BootObject} {result : Except Failure (List BootObject)}
    (distinct : keys.Nodup) (gone : (e.isNotFound && !e.isStorageNotReady) = true)
    (h : (readObjects s found keys).Transcript ctx
      (before ++ ⟨readOf s key, .error e⟩ :: behind) result after) :
    (readObjects s found (keys.filter (· ≠ key))).Transcript ctx (before ++ behind) result
      after := by
  induction keys generalizing found before with
  | nil =>
    obtain ⟨hnil, -⟩ := Step.transcript_pure_iff.mp h
    exact absurd hnil (by simp)
  | cons first keys ih =>
    obtain ⟨hfirst, hkeys⟩ := List.nodup_cons.mp distinct
    obtain ⟨reply, ys, heq, hreply⟩ := Step.transcript_ask_bind_iff.mp h
    cases before with
    | nil =>
      obtain ⟨hx, rfl⟩ := List.cons.inj heq
      cases hx
      have hskip : (if e.isNotFound && !e.isStorageNotReady then readObjects s found keys
          else (notReadyOrFail e "storage.get_object").bind fun _ => pure []).Transcript ctx behind
            result after := hreply
      rw [if_pos gone] at hskip
      have hfilter : (key :: keys).filter (· ≠ key) = keys := by
        rw [List.filter_cons_of_neg (by simp)]
        exact List.filter_eq_self.mpr fun k hk => decide_eq_true (ne_of_mem_of_not_mem hk hfirst)
      rw [hfilter]
      exact hskip
    | cons b before =>
      obtain ⟨rfl, rfl⟩ := List.cons.inj heq
      -- The key is read later, so this is another one.
      have hother : ∀ {read : List BootObject}, (readObjects s read keys).Transcript ctx
          (before ++ ⟨readOf s key, .error e⟩ :: behind) result after →
          (first :: keys).filter (· ≠ key) = first :: keys.filter (· ≠ key) := by
        intro read hread
        have hx : (⟨readOf s key, .error e⟩ : Exchange gateway) ∈
            before ++ ⟨readOf s key, .error e⟩ :: behind :=
          List.mem_append_right before List.mem_cons_self
        have hmem : readOf s key ∈ keys.map (readOf s) :=
          (planned_of_readObjects hread).subset (List.mem_map_of_mem hx)
        obtain ⟨k, hk, heq⟩ := List.mem_map.mp hmem
        obtain rfl := readOf_inj heq
        exact List.filter_cons_of_pos (decide_eq_true (ne_of_mem_of_not_mem hk hfirst).symm)
      split at hreply
      · rw [hother hreply]
        exact Step.transcript_ask_bind_iff.mpr ⟨_, _, rfl, ih hkeys hreply⟩
      · split at hreply
        · rename_i skipped
          rw [hother hreply]
          refine Step.transcript_ask_bind_iff.mpr ⟨_, _, rfl, ?_⟩
          dsimp only
          rw [if_pos skipped]
          exact ih hkeys hreply
        · obtain ⟨hnil, -⟩ := notReadyOrFail_bind_pure hreply
          exact absurd hnil (by simp)

/-- The same of what is read in the container. -/
theorem current_without {result : Except Failure (List BootObject)} (storage : ctx.storage = some s)
    (distinct : ∀ keys, ⟨.listObjects s.account s.container, .ok keys⟩ ∈ before → keys.Nodup)
    (gone : (e.isNotFound && !e.isStorageNotReady) = true)
    (h : current.Transcript ctx (before ++ ⟨readOf s key, .error e⟩ :: behind) result after) :
    current.Transcript ctx (before.map (unlist key) ++ behind) result after := by
  simp only [current, Step.bind_eq_bind] at h ⊢
  -- The exchanges before the reading are others.
  have hne : ∀ {reply}, (⟨readOf s key, .error e⟩ : Exchange gateway) ≠
      ⟨.containerExists s.account s.container, reply⟩ := by
    intro reply heq
    cases heq
  have hne' : ∀ {reply}, (⟨readOf s key, .error e⟩ : Exchange gateway) ≠
      ⟨.listObjects s.account s.container, reply⟩ := by
    intro reply heq
    cases heq
  rcases Step.transcript_bind_iff.mp h with
    ⟨failure, hready, rfl⟩ | ⟨ready, between, ys, zs, heq, hready, hlist⟩
  · rcases readyStorage_cases storage hready with ⟨reply, heq, -, -⟩ | ⟨-, hok, -⟩
    · obtain ⟨rest, -, hnil⟩ := exists_of_append_cons_eq_cons heq hne
      exact absurd hnil (by simp)
    · cases hok
  rcases readyStorage_cases storage hready with ⟨reply, rfl, -, hnone⟩ | ⟨rfl, hok, rfl⟩
  · obtain rfl := hnone ready rfl
    obtain ⟨rfl, -⟩ := Step.transcript_pure_iff.mp hlist
    obtain ⟨rest, -, hnil⟩ := exists_of_append_cons_eq_cons heq hne
    exact absurd hnil (by simp)
  cases hok
  obtain ⟨opening, rfl, hbehind⟩ := exists_of_append_cons_eq_cons heq hne
  obtain ⟨reply, ws, rfl, hreply⟩ := Step.transcript_ask_bind_iff.mp hlist
  obtain ⟨others, rfl, rfl⟩ := exists_of_append_cons_eq_cons hbehind hne'
  split at hreply
  · rename_i keys
    have hnodup := distinct keys (by simp)
    have hread := readObjects_without (hnodup.filter _) gone hreply
    rw [List.filter_comm] at hread
    rw [List.map_cons, List.map_cons, map_unlist fun x hx => ?_]
    · exact Step.transcript_bind_iff.mpr (.inr ⟨some s, between, [_], _, rfl, hready,
        Step.transcript_ask_bind_iff.mpr ⟨.ok _, _, rfl, hread⟩⟩)
    · have hmem := (planned_of_readObjects hreply).subset
        (List.mem_map_of_mem (List.mem_append_left _ hx))
      obtain ⟨k, -, heq⟩ := List.mem_map.mp hmem
      exact ⟨s, k, heq.symm⟩
  · obtain ⟨hnil, -⟩ := notReadyOrFail_bind_pure hreply
    exact absurd hnil (by simp)

/-- After reading nothing is read. -/
theorem Finish.not_reads {result : Except Failure (ChangeSet BootObject)} {x : Exchange gateway}
    (h : Finish cluster ctx s gets xs result after) (hx : x ∈ xs) : x.request ≠ readOf s key := by
  obtain ⟨renders, writes, rfl, rendered, written, -⟩ := h.parts
  intro heq
  rcases List.mem_append.mp hx with hx | hx
  · obtain ⟨role, -, hrender⟩ := List.mem_map.mp (rendered.subset (List.mem_map_of_mem hx))
    cases hrender.trans heq
  · obtain ⟨record, -, hwrite⟩ := List.mem_map.mp (written.subset (List.mem_map_of_mem hx))
    cases hwrite.trans heq

/-- **An object that was gone is only skipped**: the run is the one that it would be if the object
had not been listed. -/
theorem reconcile_without {result : Except Failure (ChangeSet BootObject)}
    (storage : ctx.storage = some s)
    (distinct : ∀ keys, ⟨.listObjects s.account s.container, .ok keys⟩ ∈ before → keys.Nodup)
    (gone : (e.isNotFound && !e.isStorageNotReady) = true)
    (h : (resource.reconcile cluster).Transcript ctx
      (before ++ ⟨readOf s key, .error e⟩ :: behind) result after) :
    (resource.reconcile cluster).Transcript ctx (before.map (unlist key) ++ behind) result
      after := by
  cases hcanceled : ctx.isCanceled with
  | true =>
    obtain ⟨hnil, -⟩ := (RecordResource.transcript_unlessCanceled_of_canceled hcanceled).mp h
    exact absurd hnil (by simp)
  | false =>
    refine (RecordResource.transcript_unlessCanceled_of_live hcanceled).mpr ?_
    replace h := (RecordResource.transcript_unlessCanceled_of_live hcanceled).mp h
    rcases Step.transcript_bind_iff.mp h with
      ⟨failure, hcurrent, rfl⟩ | ⟨listed, between, ys, zs, heq, hcurrent, hmake⟩
    · exact Step.transcript_bind_iff.mpr
        (.inl ⟨failure, current_without storage distinct gone hcurrent, rfl⟩)
    rcases append_cons_eq_append heq with ⟨ws, rfl, rfl⟩ | ⟨ws, rfl, rfl⟩
    · have hwithout := current_without storage distinct gone hcurrent
      exact Step.transcript_bind_iff.mpr
        (.inr ⟨listed, between, _, zs, (List.append_assoc ..).symm, hwithout, hmake⟩)
    -- Nothing is read any more once the objects were read, or could not be.
    exfalso
    rcases current_cases storage hcurrent with halts | ⟨_, hok, rfl, keys, gets, rfl, rfl, -⟩
    · obtain ⟨_, _, -, -, hend⟩ := halts
      obtain ⟨hnil, -⟩ := (RecordResource.transcript_unlessCanceled_of_canceled
        (isCanceled_of_ending hend)).mp hmake
      exact absurd hnil (by simp)
    · cases hok
      have finish := finish_of_desired hcanceled storage
        ((RecordResource.transcript_unlessCanceled_of_live hcanceled).mp hmake)
      exact finish.not_reads (List.mem_append_right ws List.mem_cons_self) rfl

end BootObjects

end ClusterOperator
