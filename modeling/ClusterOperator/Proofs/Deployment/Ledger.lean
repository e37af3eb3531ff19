import ClusterOperator.Proofs.Deployment.Course
import ClusterOperator.Proofs.Status.Cell

/-!
# The checksums that are recorded, whoever else writes

The status of a cluster is written from many sides: phases are set, other resources record
their conditions, a write that conflicts is repeated.  All that matters for a deployment is the
**ledger** of recorded checksums, which nobody else writes.  So the store is described by what
it does to the ledger alone: a status that is read holds it, and one that is written replaces
it.  Everything else about the status, and its version, may have changed in between.

In such a world the recording of checksums enters them in the ledger, or fails and leaves the
ledger alone (`recordChecksums_served`).
-/

namespace ClusterOperator

/-- The checksums that are recorded for deployments, by the names of these. -/
abbrev Ledger : Type := String → Option String × Option String

/-- The ledger that a status holds. -/
def Status.checksums (s : Status) : Ledger := fun name =>
  (s.condition? name DeploymentOrchestrator.templateCondition,
    s.condition? name DeploymentOrchestrator.parametersCondition)

namespace Ledger

/-- The checksums of a deployment are entered. -/
def record (l : Ledger) (d : Deployment) : Ledger := fun name =>
  if name = d.name then (some d.templateChecksum, some d.parametersChecksum) else l name

theorem record_self {l : Ledger} {d : Deployment} :
    l.record d d.name = (some d.templateChecksum, some d.parametersChecksum) := if_pos rfl

theorem record_of_ne {l : Ledger} {d : Deployment} {name : String} (h : name ≠ d.name) :
    l.record d name = l name := if_neg h

/-- **How the store answers**, as far as the ledger goes. -/
inductive Answers (name : String) : Ledger → Exchange gateway → Ledger → Prop where
  | load (s : Snapshot) : Answers name s.status.checksums ⟨.loadStatus name, .ok s⟩
      s.status.checksums
  | loadFails (l : Ledger) (e : Failure) : Answers name l ⟨.loadStatus name, .error e⟩ l
  | store (l : Ledger) (status : Status) (version : Option String) :
      Answers name l ⟨.storeStatus name status version, .ok ()⟩ status.checksums
  | storeFails (l : Ledger) (status : Status) (version : Option String) (e : StoreFault) :
      Answers name l ⟨.storeStatus name status version, .error e⟩ l
  | elsewhere (l : Ledger) (x : Exchange gateway) :
      x.request.status? ≠ some name → Answers name l x l

variable {name : String} {l l' : Ledger} {d : Deployment} {x : Exchange gateway}
  {xs : List (Exchange gateway)}

theorem eq_of_answers (h : Answers name l x l') (unwritten : x.request.isStore = false) :
    l' = l := by
  cases h with
  | store => cases unwritten
  | _ => rfl

theorem checksums_of_load {s : Snapshot} (h : Answers name l ⟨.loadStatus name, .ok s⟩ l') :
    s.status.checksums = l ∧ l' = l := by
  cases h with
  | load => exact ⟨rfl, rfl⟩
  | elsewhere _ _ hx => exact absurd rfl hx

theorem of_store {status : Status} {version : Option String} {r : Except StoreFault Unit}
    (h : Answers name l ⟨.storeStatus name status version, r⟩ l') :
    (∃ e, r = .error e ∧ l' = l) ∨ (r = .ok () ∧ l' = status.checksums) := by
  cases h with
  | store => exact .inr ⟨rfl, rfl⟩
  | storeFails _ _ _ e => exact .inl ⟨e, rfl, rfl⟩
  | elsewhere _ _ hx => exact absurd rfl hx

/-- Where nothing is written the ledger stays as it is. -/
theorem eq_of_served (h : Served (Answers name) l xs l')
    (unwritten : ∀ x ∈ xs, x.request.isStore = false) : l' = l := by
  refine h.invariant (P := fun t => t = l) ?_ rfl
  rintro s x t hx hanswer rfl
  exact eq_of_answers hanswer (unwritten x hx)

end Ledger

/-! ## Entering checksums -/

namespace DeploymentOrchestrator

variable {o : DeploymentOrchestrator} {cluster : Cluster} {name : String} {l l' : Ledger}
  {d : Deployment} {xs : List (Exchange gateway)} {now : Instant} {s : Status}

theorem checksums_setConditions :
    (s.setConditions now d.name (conditionsOf d)).2.checksums = s.checksums.record d := by
  have distinct : ((conditionsOf d).map (·.1)).Nodup := by
    simp [conditionsOf, templateCondition, parametersCondition]
  funext other
  by_cases hname : other = d.name
  · subst hname
    rw [Ledger.record_self]
    refine Prod.ext ?_ ?_
    · exact Status.condition?_setConditions_of_mem distinct (by simp [conditionsOf])
    · exact Status.condition?_setConditions_of_mem distinct (by simp [conditionsOf])
  · rw [Ledger.record_of_ne hname]
    refine Prod.ext ?_ ?_
    · exact Status.condition?_setConditions_of_ne hname
    · exact Status.condition?_setConditions_of_ne hname

/-- Nothing is written if these checksums are entered already. -/
theorem record_of_unchanged (h : (s.setConditions now d.name (conditionsOf d)).1 = false) :
    s.checksums.record d = s.checksums := by
  refine (checksums_setConditions : (s.setConditions now d.name (conditionsOf d)).2.checksums =
    s.checksums.record d).symm.trans ?_
  funext other
  refine Prod.ext ?_ ?_
  · exact Status.condition?_setConditions_unchanged h
  · exact Status.condition?_setConditions_unchanged h

/-- The attempts at recording the checksums of a deployment. -/
theorem tryRecord_served {r : Except StoreFault Bool}
    (h : (gatewayStore.tryUpdate name fun now status =>
      status.setConditions now d.name (conditionsOf d)).Transcript xs r)
    (hs : Served (Ledger.Answers name) l xs l') :
    (∃ e, r = .error e ∧ l' = l) ∨ ((∃ written, r = .ok written) ∧ l' = l.record d) := by
  rcases StatusStore.tryUpdate_transcript_iff.mp h with
    ⟨e, rfl, rfl⟩ | ⟨s, unchanged, rfl, rfl⟩ | ⟨s, reply, -, rfl, rfl⟩
  · exact .inl ⟨_, rfl, Ledger.eq_of_served hs (by simp [Gateway.Request.isStore])⟩
  · obtain ⟨_, hload, hend⟩ := Served.cons_iff.mp hs
    obtain ⟨rfl, rfl⟩ := Ledger.checksums_of_load hload
    obtain rfl := Served.nil_iff.mp hend
    exact .inr ⟨⟨false, rfl⟩, (record_of_unchanged unchanged).symm⟩
  · obtain ⟨_, hload, hstore⟩ := Served.cons_iff.mp hs
    obtain ⟨rfl, rfl⟩ := Ledger.checksums_of_load hload
    obtain ⟨_, hwritten, hend⟩ := Served.cons_iff.mp hstore
    obtain rfl := Served.nil_iff.mp hend
    rcases Ledger.of_store hwritten with ⟨e, rfl, rfl⟩ | ⟨rfl, rfl⟩
    · exact .inl ⟨e, rfl, rfl⟩
    · exact .inr ⟨⟨true, rfl⟩, checksums_setConditions⟩

/-- **Recording the checksums of a deployment** enters them, or fails and enters nothing. -/
theorem recordChecksums_served {r : Except Failure Bool}
    (h : (o.recordChecksums cluster d).Transcript xs r)
    (hs : Served (Ledger.Answers cluster.name) l xs l') :
    (∃ e, r = .error e ∧ l' = l) ∨ ((∃ written, r = .ok written) ∧ l' = l.record d) := by
  have idle : ∀ {t x u}, x.request.isWaiting = true → Ledger.Answers cluster.name t x u → u = t :=
    fun hwaiting hx => Ledger.eq_of_answers hx (Gateway.Request.isStore_of_isWaiting hwaiting)
  have stays : ∀ {e t ys u}, (gatewayStore.tryUpdate cluster.name fun now status =>
      status.setConditions now d.name (conditionsOf d)).Transcript ys (.error e) →
      Served (Ledger.Answers cluster.name) t ys u → u = t := by
    intro e t ys u htry hys
    rcases tryRecord_served htry hys with ⟨_, -, hu⟩ | ⟨⟨_, hok⟩, -⟩
    · exact hu
    · cases hok
  rcases StatusStore.update_served (R := fun t u => u = t) (fun _ => rfl)
      (fun h h' => h'.trans h) idle stays h hs with
    ⟨written, ys, _, rfl, rfl, hlast, -, hys⟩ | ⟨⟨e, rfl⟩, rfl⟩
  · rcases tryRecord_served hlast hys with ⟨_, he, -⟩ | ⟨-, hrecorded⟩
    · cases he
    · exact .inr ⟨⟨written, rfl⟩, hrecorded⟩
  · exact .inl ⟨e, rfl, rfl⟩

end DeploymentOrchestrator

end ClusterOperator
