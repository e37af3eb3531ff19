import ClusterOperator.Operator
import ClusterOperator.Proofs.Status.Cell
import Mathlib.Logic.Function.Basic

/-!
# Concurrent updates of one status

Any number of updates of the status of one name, each with a mutation and a backoff of its
own, run at once: at every instant one of them has its next request answered, by a store
that holds the status in a versioned cell.  What they leave is what their mutations make of
the status one after another, in the order of the writes that were accepted
(`updates_serialize`).

The invariant ties every write that is about to be made to the status it was computed from:
as long as the cell has the version that was read, it holds the status that was read, since
no version comes twice.
-/

namespace ClusterOperator

/-! ## Interleavings -/

/-- **An interleaving** of programs in a world: who asked what, in order, what the programs
are left with, and the state of the world. -/
inductive Interleaved {I : Interface} {ι σ α : Type} [DecidableEq ι]
    (answers : σ → Exchange I → σ → Prop) (start : ι → Program I α) (s : σ) :
    List (ι × Exchange I) → (ι → Program I α) → σ → Prop where
  | nil : Interleaved answers start s [] start s
  | step {history : List (ι × Exchange I)} {threads : ι → Program I α} {t u : σ} (i : ι)
      (x : Exchange I) (next : I.Reply x.request → Program I α) :
      Interleaved answers start s history threads t → threads i = .ask x.request next →
      answers t x u →
      Interleaved answers start s (history ++ [(i, x)])
        (Function.update threads i (next x.reply)) u

/-- The exchanges of one of the programs, in order. -/
def exchangesOf {I : Interface} {ι : Type} [DecidableEq ι] (i : ι)
    (history : List (ι × Exchange I)) : List (Exchange I) :=
  history.filterMap fun e => if e.1 = i then some e.2 else none

section

variable {I : Interface} {ι σ α : Type} [DecidableEq ι] {answers : σ → Exchange I → σ → Prop}
  {start threads threads' : ι → Program I α} {s t u : σ} {history later : List (ι × Exchange I)}
  {i j : ι} {x : Exchange I}

theorem mem_exchangesOf_iff : x ∈ exchangesOf i history ↔ (i, x) ∈ history := by
  simp [exchangesOf]

theorem exchangesOf_append :
    exchangesOf i (history ++ later) = exchangesOf i history ++ exchangesOf i later :=
  List.filterMap_append

theorem exchangesOf_singleton : exchangesOf i [(j, x)] = if j = i then [x] else [] := by
  by_cases h : j = i <;> simp [exchangesOf, h]

/-- However a program goes on from where it stands, that is a way it could go from the
start. -/
theorem Interleaved.transcript (h : Interleaved answers start s history threads t) :
    ∀ {i ys a}, (threads i).Transcript ys a →
      (start i).Transcript (exchangesOf i history ++ ys) a := by
  induction h with
  | nil => exact fun h => h
  | step j x next _ hasks _ ih =>
    intro i ys a h
    rw [exchangesOf_append, exchangesOf_singleton]
    by_cases hij : j = i
    · subst hij
      rw [Function.update_self] at h
      have hask : (Program.ask x.request next).Transcript (x :: ys) a := .ask x.reply h
      rw [← hasks] at hask
      rw [if_pos rfl, List.append_assoc, List.singleton_append]
      exact ih hask
    · rw [Function.update_of_ne (Ne.symm hij)] at h
      rw [if_neg hij, List.append_nil]
      exact ih h

/-- An interleaving that goes on is one interleaving. -/
theorem Interleaved.append (h : Interleaved answers start s history threads t)
    (h' : Interleaved answers threads t later threads' u) :
    Interleaved answers start s (history ++ later) threads' u := by
  induction h' with
  | nil => rwa [List.append_nil]
  | step i x next _ hasks hanswers ih =>
    rw [← List.append_assoc]
    exact ih.step i x next hasks hanswers

end

/-- Whether this is a write of the status of a name that was accepted. -/
def Exchange.isCommit (name : String) : Exchange gateway → Bool
  | ⟨.storeStatus n _ _, .ok _⟩ => n == name
  | _ => false

/-- Who had a write accepted, in order. -/
def commits {ι : Type} (name : String) (history : List (ι × Exchange gateway)) : List ι :=
  (history.filter fun e => e.2.isCommit name).map (·.1)

/-- What mutations make of a status, one after another at the given times. -/
def applied {ι : Type} (mutate : ι → Mutation) (s : Status) (log : List (ι × Instant)) : Status :=
  log.foldl (fun s e => (mutate e.1 e.2 s).2) s

/-! ## The stages of an update -/

namespace StatusStore

variable {name : String} {retry : Backoff} {mutate : Mutation} {steps attempt : Nat}
  {p : Program gateway (Except Failure Bool)}

/-- An update that is about to make an attempt. -/
def attempting (name : String) (retry : Backoff) (mutate : Mutation) (steps attempt : Nat) :
    Program gateway (Except Failure Bool) :=
  (Retry.attemptFrom retry StoreFault.isConflict gatewayStore.pause
    (gatewayStore.tryUpdate name mutate) steps attempt).bind fun ending =>
      .done (outcome name retry ending)

/-- An update that has drawn a factor for a pause. -/
def drawn (name : String) (retry : Backoff) (mutate : Mutation) (steps attempt : Nat)
    (d : Duration) (jitter : Jitter) : Program gateway (Except Failure Bool) :=
  match d.stretch jitter with
  | .error fault => .done (outcome name retry (.unpaced fault))
  | .ok length => .ask (.pause length) fun _ => attempting name retry mutate steps (attempt + 1)

/-- An update after an attempt with this result. -/
def attempted (name : String) (retry : Backoff) (mutate : Mutation) (steps attempt : Nat) :
    Except StoreFault Bool → Program gateway (Except Failure Bool)
  | .ok written => .done (.ok written)
  | .error e =>
    if e.isConflict then
      if retry.exhausted attempt then .done (outcome name retry (.failed e))
      else
        match retry.pause attempt with
        | .error fault => .done (outcome name retry (.unpaced fault))
        | .ok d => .ask .draw (drawn name retry mutate steps attempt d)
    else .done (outcome name retry (.failed e))

/-- An update that has read the status. -/
def hasRead (name : String) (retry : Backoff) (mutate : Mutation) (steps attempt : Nat) :
    Except Failure Snapshot → Program gateway (Except Failure Bool)
  | .error e => attempted name retry mutate steps attempt (.error (.other e))
  | .ok s =>
    if (mutate s.readAt s.status).1 then
      .ask (.storeStatus name (mutate s.readAt s.status).2 s.version) fun r =>
        attempted name retry mutate steps attempt (r.map fun _ => true)
    else .done (.ok false)

theorem attempting_eq_bind :
    attempting name retry mutate (steps + 1) attempt =
      (gatewayStore.tryUpdate name mutate).bind
        (attempted name retry mutate steps attempt) := by
  rw [attempting, Retry.attemptFrom, Program.bind_assoc]
  refine congrArg (Program.bind _) (funext fun r => ?_)
  cases r with
  | ok written => rfl
  | error e =>
    dsimp only [attempted]
    by_cases hconflict : e.isConflict = true
    · by_cases hlast : retry.exhausted attempt = true
      · rw [if_pos hconflict, if_pos hconflict, if_pos hlast, if_pos hlast]
        rfl
      · rw [if_pos hconflict, if_pos hconflict, if_neg hlast, if_neg hlast]
        cases retry.pause attempt with
        | error fault => rfl
        | ok d =>
          refine congrArg (@Program.ask gateway _ .draw) (funext fun jitter => ?_)
          dsimp only [Program.bind, drawn]
          cases d.stretch jitter <;> rfl
    · rw [if_neg hconflict, if_neg hconflict]
      rfl

theorem attempting_succ :
    attempting name retry mutate (steps + 1) attempt =
      .ask (.loadStatus name) (hasRead name retry mutate steps attempt) := by
  rw [attempting_eq_bind, tryUpdate, Program.bind_assoc]
  refine congrArg (Program.ask _) (funext fun reply => ?_)
  cases reply with
  | error e => rfl
  | ok s =>
    dsimp only [Program.bind, hasRead]
    by_cases changed : (mutate s.readAt s.status).1 = true
    · rw [if_pos changed, if_pos changed]
      refine congrArg (Program.ask _) (funext fun written => ?_)
      cases written <;> rfl
    · rw [if_neg changed, if_neg changed]
      rfl

/-- Where an update stands. -/
inductive Standing where
  /-- It has to read the status, or to wait. -/
  | working
  /-- It is about to write what its mutation made of what it read. -/
  | writing (read : Snapshot)
  /-- It has written. -/
  | committed
  /-- It has ended without having written. -/
  | gone

/-- **The stages of an update.** -/
inductive Stage (name : String) (retry : Backoff) (mutate : Mutation) :
    Program gateway (Except Failure Bool) → Standing → Prop where
  | attempt (steps attempt : Nat) :
      Stage name retry mutate (attempting name retry mutate (steps + 1) attempt) .working
  | draw (d : Duration) (steps attempt : Nat) :
      Stage name retry mutate (.ask .draw (drawn name retry mutate steps attempt d)) .working
  | pause (d : Duration) (steps attempt : Nat) :
      Stage name retry mutate
        (.ask (.pause d) fun _ => attempting name retry mutate steps attempt) .working
  | store (s : Snapshot) (steps attempt : Nat) :
      (mutate s.readAt s.status).1 = true →
      Stage name retry mutate
        (.ask (.storeStatus name (mutate s.readAt s.status).2 s.version) fun r =>
          attempted name retry mutate steps attempt (r.map fun _ => true))
        (.writing s)
  | committed : Stage name retry mutate (.done (.ok true)) .committed
  | unchanged : Stage name retry mutate (.done (.ok false)) .gone
  | failed (e : Failure) : Stage name retry mutate (.done (.error e)) .gone

namespace Stage

variable {st : Standing}

theorem of_attempting (steps attempt : Nat) :
    ∃ st, Stage name retry mutate (attempting name retry mutate steps attempt) st ∧
      (st = .working ∨ st = .gone) := by
  cases steps with
  | zero => exact ⟨.gone, .failed _, .inr rfl⟩
  | succ steps => exact ⟨.working, .attempt steps attempt, .inl rfl⟩

/-- After a failed attempt an update goes on or ends, without having written. -/
theorem of_error (steps attempt : Nat) (e : StoreFault) :
    ∃ st, Stage name retry mutate (attempted name retry mutate steps attempt (.error e)) st ∧
      (st = .working ∨ st = .gone) := by
  have hfailed : ∃ f, outcome name retry (.failed e) = .error f := by
    cases e <;> exact ⟨_, rfl⟩
  obtain ⟨f, hf⟩ := hfailed
  rw [attempted, hf]
  split
  · split
    · exact ⟨.gone, .failed f, .inr rfl⟩
    · split
      · exact ⟨.gone, .failed _, .inr rfl⟩
      · exact ⟨.working, .draw _ _ _, .inl rfl⟩
  · exact ⟨.gone, .failed f, .inr rfl⟩

/-- With a factor drawn an update pauses, or ends if there is no such pause. -/
theorem of_drawn (steps attempt : Nat) (d : Duration) (jitter : Jitter) :
    ∃ st, Stage name retry mutate (drawn name retry mutate steps attempt d jitter) st ∧
      (st = .working ∨ st = .gone) := by
  rw [drawn]
  split
  · exact ⟨.gone, .failed _, .inr rfl⟩
  · exact ⟨.working, .pause _ _ _, .inl rfl⟩

theorem of_update : ∃ st, Stage name retry mutate (gatewayStore.update name retry mutate) st ∧
    (st = .working ∨ st = .gone) :=
  of_attempting _ _

/-- An update has written exactly if it answers so. -/
theorem committed_iff (h : Stage name retry mutate p st) :
    st = .committed ↔ p = .done (.ok true) := by
  cases h with
  | attempt steps attempt => rw [attempting_succ]; simp
  | _ => simp

theorem of_idle {P : Snapshot → Prop}
    (h : ∃ st, Stage name retry mutate p st ∧ (st = .working ∨ st = .gone)) :
    ∃ st, Stage name retry mutate p st ∧ st ≠ .committed ∧ ∀ s, st = .writing s → P s := by
  obtain ⟨st, hst, rfl | rfl⟩ := h
  · exact ⟨.working, hst, nofun, nofun⟩
  · exact ⟨.gone, hst, nofun, nofun⟩

/-- **One request of an update.**  Either it changes nothing, and what the update may be
about to write then is made of what the cell holds; or it is the write of what the update
read, at the version that the cell still has. -/
theorem step {x : Exchange gateway} {next : gateway.Reply x.request → _} {c d : StatusCell}
    (h : Stage name retry mutate p st) (hp : p = .ask x.request next)
    (hx : StatusCell.Answers name c x d) :
    (x.isCommit name = false ∧ d = c ∧ ∃ st', Stage name retry mutate (next x.reply) st' ∧
      st' ≠ .committed ∧ ∀ s, st' = .writing s →
        s.status = c.status ∧ s.version = c.version ∧ x = ⟨.loadStatus name, .ok s⟩) ∨
    ∃ s fresh, st = .writing s ∧ x.isCommit name = true ∧ s.version = c.version ∧
      fresh ∉ c.version :: c.past ∧
      d = ⟨(mutate s.readAt s.status).2, fresh, c.version :: c.past⟩ ∧
      next x.reply = .done (.ok true) := by
  obtain ⟨request, reply⟩ := x
  cases h with
  | attempt steps attempt =>
    rw [attempting_succ] at hp
    cases hp
    obtain ⟨rfl, hread⟩ := StatusCell.answers_load_iff.mp hx
    refine .inl ⟨rfl, rfl, ?_⟩
    cases reply with
    | error e => exact of_idle (of_error steps attempt (.other e))
    | ok s =>
      dsimp only [hasRead]
      split
      · rename_i changed
        refine ⟨.writing s, .store s steps attempt changed, nofun, ?_⟩
        rintro _ ⟨⟩
        exact ⟨(hread s rfl).1, (hread s rfl).2, rfl⟩
      · exact ⟨.gone, .unchanged, nofun, nofun⟩
  | draw d steps attempt =>
    cases hp
    obtain rfl := (StatusCell.answers_elsewhere_iff (by simp [Gateway.Request.status?])).mp hx
    exact .inl ⟨rfl, rfl, of_idle (of_drawn steps attempt d reply)⟩
  | pause d steps attempt =>
    cases hp
    obtain rfl := (StatusCell.answers_elsewhere_iff (by simp [Gateway.Request.status?])).mp hx
    exact .inl ⟨rfl, rfl, of_idle (of_attempting steps attempt)⟩
  | store s steps attempt changed =>
    cases hp
    -- The cell moves only here, and only if it still has the version that was read.
    rcases StatusCell.answers_store_iff.mp hx with
      ⟨e, rfl, rfl⟩ | ⟨rfl, hversion, fresh, hfresh, rfl⟩
    · exact .inl ⟨rfl, rfl, of_idle (of_error steps attempt e)⟩
    · exact .inr ⟨s, fresh, rfl, by simp [Exchange.isCommit], hversion, hfresh, rfl, rfl⟩
  | committed => cases hp
  | unchanged => cases hp
  | failed e => cases hp

end Stage

end StatusStore

/-! ## The invariant -/

section

variable {ι : Type} {name : String} {retry : ι → Backoff} {mutate : ι → Mutation}
  {c₀ c d : StatusCell} {history : List (ι × Exchange gateway)}
  {threads : ι → Program gateway (Except Failure Bool)} {log : List (ι × Instant)}

/-- **What an interleaving has come to**: the log of the accepted writes, each with the time
at which its status was read, accounts for the status and for where every update stands. -/
structure Accounts (name : String) (retry : ι → Backoff) (mutate : ι → Mutation) (s₀ : Status)
    (history : List (ι × Exchange gateway))
    (threads : ι → Program gateway (Except Failure Bool)) (c : StatusCell)
    (log : List (ι × Instant)) : Prop where
  commits : log.map (·.1) = commits name history
  status : c.status = applied mutate s₀ log
  distinct : (log.map (·.1)).Nodup
  times : ∀ e ∈ log, ∃ s : Snapshot, (e.1, ⟨.loadStatus name, .ok s⟩) ∈ history ∧ s.readAt = e.2
  /-- As long as the cell has the version that was read, it holds the status that was. -/
  stages : ∀ i, ∃ st, StatusStore.Stage name (retry i) (mutate i) (threads i) st ∧
    (i ∈ log.map (·.1) ↔ st = .committed) ∧
    ∀ s, st = .writing s → s.version ∈ c.version :: c.past ∧
      (s.version = c.version → s.status = c.status) ∧
      (i, ⟨.loadStatus name, .ok s⟩) ∈ history

theorem accounts_start : Accounts name retry mutate c₀.status []
    (fun i => gatewayStore.update name (retry i) (mutate i)) c₀ [] where
  commits := rfl
  status := rfl
  distinct := List.nodup_nil
  times := nofun
  stages i := by
    have idle : ∃ st, StatusStore.Stage name (retry i) (mutate i)
        (gatewayStore.update name (retry i) (mutate i)) st ∧ (st = .working ∨ st = .gone) :=
      StatusStore.Stage.of_update
    obtain ⟨st, hst, rfl | rfl⟩ := idle
    · exact ⟨.working, hst, by simp, nofun⟩
    · exact ⟨.gone, hst, by simp, nofun⟩

theorem commits_append {i : ι} {x : Exchange gateway} :
    commits name (history ++ [(i, x)]) =
      commits name history ++ if x.isCommit name then [i] else [] := by
  rw [commits, commits, List.filter_append, List.map_append]
  by_cases h : x.isCommit name = true <;> simp [h]

variable [DecidableEq ι]

/-- A request that changes nothing. -/
theorem Accounts.idle {i : ι} {x : Exchange gateway}
    {next : Program gateway (Except Failure Bool)} {st : StatusStore.Standing}
    (h : Accounts name retry mutate c₀.status history threads c log)
    (hidle : x.isCommit name = false) (hi : i ∉ log.map (·.1))
    (hnext : StatusStore.Stage name (retry i) (mutate i) next st) (hst : st ≠ .committed)
    (hread : ∀ s, st = .writing s →
      s.status = c.status ∧ s.version = c.version ∧ x = ⟨.loadStatus name, .ok s⟩) :
    Accounts name retry mutate c₀.status (history ++ [(i, x)]) (Function.update threads i next)
      c log where
  commits := by rw [commits_append, hidle, h.commits]; simp
  status := h.status
  distinct := h.distinct
  times e he := by
    obtain ⟨s, hs, ht⟩ := h.times e he
    exact ⟨s, List.mem_append_left _ hs, ht⟩
  stages j := by
    by_cases hj : j = i
    · subst hj
      rw [Function.update_self]
      refine ⟨st, hnext, ⟨fun hmem => absurd hmem hi, fun heq => absurd heq hst⟩, ?_⟩
      intro s hs
      obtain ⟨hstatus, hversion, rfl⟩ := hread s hs
      exact ⟨hversion ▸ List.mem_cons_self, fun _ => hstatus,
        List.mem_append_right _ List.mem_cons_self⟩
    · rw [Function.update_of_ne hj]
      obtain ⟨st', hst', hmem, hwriting⟩ := h.stages j
      refine ⟨st', hst', hmem, fun s hs => ?_⟩
      obtain ⟨hversion, hstatus, hload⟩ := hwriting s hs
      exact ⟨hversion, hstatus, List.mem_append_left _ hload⟩

/-- A write that is accepted. -/
theorem Accounts.commit {i : ι} {x : Exchange gateway} {s : Snapshot} {fresh : Option String}
    (h : Accounts name retry mutate c₀.status history threads c log)
    (hcommit : x.isCommit name = true) (hi : i ∉ log.map (·.1))
    (hload : (i, ⟨.loadStatus name, .ok s⟩) ∈ history) (hstatus : s.status = c.status)
    (hfresh : fresh ∉ c.version :: c.past) :
    Accounts name retry mutate c₀.status (history ++ [(i, x)])
      (Function.update threads i (.done (.ok true)))
      ⟨(mutate i s.readAt s.status).2, fresh, c.version :: c.past⟩ (log ++ [(i, s.readAt)]) where
  commits := by rw [commits_append, hcommit, List.map_append, h.commits]; rfl
  status := by
    rw [applied, List.foldl_append]
    have hlog := h.status
    rw [applied] at hlog
    rw [← hlog, ← hstatus]
    rfl
  distinct := by
    rw [List.map_append]
    refine List.nodup_append.mpr ⟨h.distinct, by simp, ?_⟩
    intro j hj k hk hjk
    obtain rfl := List.mem_singleton.mp hk
    exact hi (hjk ▸ hj)
  times e he := by
    rcases List.mem_append.mp he with he | he
    · obtain ⟨s', hs', ht⟩ := h.times e he
      exact ⟨s', List.mem_append_left _ hs', ht⟩
    · obtain rfl := List.mem_singleton.mp he
      exact ⟨s, List.mem_append_left _ hload, rfl⟩
  stages j := by
    by_cases hj : j = i
    · subst hj
      rw [Function.update_self]
      exact ⟨.committed, .committed, by simp, nofun⟩
    · rw [Function.update_of_ne hj]
      obtain ⟨st', hst', hmem, hwriting⟩ := h.stages j
      refine ⟨st', hst', by simpa [hj] using hmem, fun s' hs' => ?_⟩
      obtain ⟨hversion, -, hload'⟩ := hwriting s' hs'
      -- The version that `j` read is not the fresh one, so its write will conflict.
      refine ⟨List.mem_cons_of_mem _ hversion, fun heq => ?_, List.mem_append_left _ hload'⟩
      have hsame : s'.version = fresh := heq
      exact absurd (hsame ▸ hversion) hfresh

/-- **Every interleaving is accounted for.** -/
theorem exists_accounts
    (h : Interleaved (StatusCell.Answers name)
      (fun i => gatewayStore.update name (retry i) (mutate i)) c₀ history threads c) :
    ∃ log, Accounts name retry mutate c₀.status history threads c log := by
  induction h with
  | nil => exact ⟨[], accounts_start⟩
  | step i x next _ hasks hanswers ih =>
    obtain ⟨log, accounts⟩ := ih
    obtain ⟨st, hst, hmem, hwriting⟩ := accounts.stages i
    -- An update that has written is done, so it is not the one that asks.
    have hi : i ∉ log.map (·.1) := by
      rw [hmem, hst.committed_iff, hasks]
      exact nofun
    rcases hst.step hasks hanswers with
      ⟨hidle, rfl, st', hnext, hst', hread⟩ | ⟨s, fresh, rfl, hcommit, hversion, hfresh, rfl, hnext⟩
    · exact ⟨log, accounts.idle hidle hi hnext hst' hread⟩
    · obtain ⟨-, hstatus, hload⟩ := hwriting s rfl
      rw [hnext]
      exact ⟨_, accounts.commit hcommit hi hload (hstatus hversion) hfresh⟩

end

/-! ## Writers of phases and of conditions -/

/-- The updates that the operator makes. -/
inductive StatusWrite where
  /-- Recording the phase of a pass. -/
  | phase (phase : Phase) (message : Option String)
  /-- Recording conditions of a resource. -/
  | conditions (resource : String) (conditions : List (String × String))

namespace StatusWrite

/-- What an update makes of a status. -/
def mutation : StatusWrite → Mutation
  | .phase p message => Operator.phaseMutation p message
  | .conditions resource cs => fun now s => s.setConditions now resource cs

/-- Phase and message after an update. -/
def ontoPhase (before : Phase × Option String) : StatusWrite → Phase × Option String
  | .phase p message => (p, message)
  | .conditions _ _ => before

/-- The entries after an update. -/
def ontoEntries (now : Instant) (before : List ResourceEntry) : StatusWrite → List ResourceEntry
  | .phase _ _ => before
  | .conditions resource cs => (updateEntry resource (setConditions now cs) before).2

theorem phase_mutation (w : StatusWrite) (now : Instant) (s : Status) :
    ((w.mutation now s).2.phase, (w.mutation now s).2.message) =
      w.ontoPhase (s.phase, s.message) := by
  cases w with
  | phase p message =>
    dsimp only [mutation, Operator.phaseMutation, ontoPhase]
    split
    · rename_i h
      rw [← h.1, ← h.2]
    · rfl
  | conditions resource cs => rfl

theorem resources_mutation (w : StatusWrite) (now : Instant) (s : Status) :
    (w.mutation now s).2.resources = w.ontoEntries now s.resources := by
  cases w with
  | phase p message =>
    dsimp only [mutation, Operator.phaseMutation, ontoEntries]
    split <;> rfl
  | conditions resource cs => rfl

variable {ι : Type} {writes : ι → StatusWrite} {s : Status} {log : List (ι × Instant)}

theorem phase_applied :
    ((applied (fun i => (writes i).mutation) s log).phase,
      (applied (fun i => (writes i).mutation) s log).message) =
      log.foldl (fun v e => (writes e.1).ontoPhase v) (s.phase, s.message) := by
  induction log generalizing s with
  | nil => rfl
  | cons e log ih =>
    rw [List.foldl_cons, ← phase_mutation _ e.2]
    exact ih

theorem resources_applied :
    (applied (fun i => (writes i).mutation) s log).resources =
      log.foldl (fun v e => (writes e.1).ontoEntries e.2 v) s.resources := by
  induction log generalizing s with
  | nil => rfl
  | cons e log ih =>
    rw [List.foldl_cons, ← resources_mutation]
    exact ih

end StatusWrite

/-- **Updates serialize.**  Whatever the order of their requests, the status is what the
mutations of the updates that answered that they wrote make of the first status, one after
another, each once, in the order of the accepted writes and each at the time at which its
status was read.  So phases are undone by phases only, and conditions by conditions. -/
theorem updates_serialize {ι : Type} [DecidableEq ι] {name : String} {retry : ι → Backoff}
    {mutate : ι → Mutation} {c₀ c : StatusCell} {history : List (ι × Exchange gateway)}
    {threads : ι → Program gateway (Except Failure Bool)}
    (h : Interleaved (StatusCell.Answers name)
      (fun i => gatewayStore.update name (retry i) (mutate i)) c₀ history threads c) :
    ∃ log : List (ι × Instant),
      c.status = applied mutate c₀.status log ∧
      log.map (·.1) = commits name history ∧ (log.map (·.1)).Nodup ∧
      (∀ i, i ∈ log.map (·.1) ↔ threads i = .done (.ok true)) ∧
      (∀ e ∈ log, ∃ s : Snapshot,
        (e.1, ⟨.loadStatus name, .ok s⟩) ∈ history ∧ s.readAt = e.2) ∧
      ∀ writes : ι → StatusWrite, (mutate = fun i => (writes i).mutation) →
        (c.status.phase, c.status.message) =
          log.foldl (fun v e => (writes e.1).ontoPhase v) (c₀.status.phase, c₀.status.message) ∧
        c.status.resources =
          log.foldl (fun v e => (writes e.1).ontoEntries e.2 v) c₀.status.resources := by
  obtain ⟨log, accounts⟩ := exists_accounts h
  refine ⟨log, accounts.status, accounts.commits, accounts.distinct, fun i => ?_, accounts.times,
    ?_⟩
  · obtain ⟨st, hst, hmem, -⟩ := accounts.stages i
    exact hmem.trans hst.committed_iff
  · rintro writes rfl
    rw [accounts.status]
    exact ⟨StatusWrite.phase_applied, StatusWrite.resources_applied⟩

/-- Three updates: of the phase, and of the conditions of two resources. -/
def contenders : Fin 3 → StatusWrite
  | 0 => .phase .ready none
  | 1 => .conditions "lost" [("checksum", "a")]
  | 2 => .conditions "kept" [("checksum", "b")]

/-- The first two read the same status; the first one writes, the second one loses the race
and gives up, and the third one reads and writes after them. -/
theorem updates_serialize_of_contenders :
    ∃ (history : List (Fin 3 × Exchange gateway))
      (threads : Fin 3 → Program gateway (Except Failure Bool)) (c : StatusCell)
      (log : List (Fin 3 × Instant)),
      Interleaved (StatusCell.Answers "cluster")
        (fun i => gatewayStore.update "cluster" (.withMaxAttempts 1) (contenders i).mutation)
        ⟨{}, none, []⟩ history threads c ∧
      threads 1 = .done (.error (.statusConflict "cluster" 1)) ∧
      log.map (·.1) = [0, 2] ∧
      c.status = applied (fun i => (contenders i).mutation) {} log := by
  have h₀ : Interleaved (StatusCell.Answers "cluster")
      (fun i => gatewayStore.update "cluster" (.withMaxAttempts 1) (contenders i).mutation)
      ⟨{}, none, []⟩ [] _ _ := .nil
  have h₁ := h₀.step 0 (⟨.loadStatus "cluster", .ok ⟨{}, none, default⟩⟩ : Exchange gateway) _
    rfl (.load _ _)
  have h₂ := h₁.step 1 (⟨.loadStatus "cluster", .ok ⟨{}, none, default⟩⟩ : Exchange gateway) _
    rfl (.load _ _)
  have h₃ := h₂.step 0
    (⟨.storeStatus "cluster" { phase := .ready } none, .ok ()⟩ : Exchange gateway) _
    rfl (.store _ _ (some "1") (by simp))
  have h₄ := h₃.step 1
    (⟨.storeStatus "cluster" { resources := [⟨"lost", [⟨"checksum", "a", default⟩]⟩] } none,
      .error (.conflict "cluster")⟩ : Exchange gateway) _
    rfl (.storeFails _ _ _ _)
  have h₅ := h₄.step 2
    (⟨.loadStatus "cluster", .ok ⟨{ phase := .ready }, some "1", default⟩⟩ : Exchange gateway) _
    rfl (.load _ _)
  have h₆ := h₅.step 2
    (⟨.storeStatus "cluster"
      { phase := .ready, resources := [⟨"kept", [⟨"checksum", "b", default⟩]⟩] } (some "1"),
      .ok ()⟩ : Exchange gateway) _
    rfl (.store _ _ (some "2") (by simp))
  obtain ⟨log, hstatus, hcommits, -⟩ := updates_serialize h₆
  exact ⟨_, _, _, log, h₆, rfl, hcommits, hstatus⟩

end ClusterOperator
