import ClusterOperator.Proofs.Watchdog.Losses

/-!
# What becomes of a job

A submitted job is known by its serial number.  Its **story** in a run lists what happened to
it: how its submission was answered, when a poll of it began and how that ended, that it was
told to have converged, and why it was dropped.  Whatever else goes on in the pool, with jobs
of the same id or of others, the job is always in one place, and what can happen to it next
depends on that place alone (`Goes`).  A move of the pool takes one job one step on or leaves
all jobs where they are, unless it costs a worker, which may take the jobs in the queue along
(`Shift`).

So the stories are those of a single job: a rejection and nothing else, or an acceptance, any
number of polls that ended unconverged, and then an ending (`Life.tells`).
-/

namespace ClusterOperator.Watchdog

variable {J : Type}

/-- How a poll ended. -/
inductive Outcome where
  /-- The poll succeeded, and the job has not converged. -/
  | unfinished
  | finished
  | failed
  | panicked
  deriving DecidableEq, Repr

def PollEnd.outcome : PollEnd J → Outcome
  | .pending _ => .unfinished
  | .finished _ => .finished
  | .failed _ => .failed
  | .panicked _ => .panicked

/-- Whether a poll that ends so can cost its worker: it panics, or the job is to wait for a
pause that may have no length. -/
def Outcome.isUnsettled : Outcome → Bool
  | .unfinished | .panicked => true
  | .finished | .failed => false

/-- Whether a job is dropped because the queue is closed. -/
def DropCause.isClosure : DropCause → Bool
  | .stopped | .abandoned => true
  | .failed | .panicked => false

/-- What can happen to a job. -/
inductive Fact where
  /-- Its submission was answered: it is in the queue. -/
  | accepted
  /-- Its submission was answered: it is not taken on. -/
  | rejected
  /-- A poll of it has begun. -/
  | polled
  /-- Its poll has ended. -/
  | returned (outcome : Outcome)
  /-- It was told that it has converged. -/
  | notified
  /-- It left the pool without having converged. -/
  | dropped (cause : DropCause)
  deriving DecidableEq, Repr

/-! ## Reading a run -/

/-- The submission that a move goes on with. -/
def Move.submission? : Move J → Option Nat
  | .register serial => some serial
  | .enter serial => some serial
  | _ => none

/-- How the poll of a job ends with a move. -/
def Move.outcome? (serial : Nat) : Move J → Option Outcome
  | .conclude s result => if s = serial then some result.outcome else none
  | _ => none

/-- What an event of a move means for a job. -/
def Event.fact? (serial : Nat) (m : Move J) : Event J → Option Fact
  | .queued t => if t.serial = serial ∧ m.submission? = some serial then some .accepted else none
  | .rejected _ _ => if m.submission? = some serial then some .rejected else none
  | .polling t => if t.serial = serial then some .polled else none
  | .parked _ => none
  | .finished t => if t.serial = serial then some .notified else none
  | .dropped t cause => if t.serial = serial then some (.dropped cause) else none

/-- What happens to a job with a move. -/
def factsOf (serial : Nat) (m : Move J) (events : List (Event J)) : List Fact :=
  ((m.outcome? serial).map Fact.returned).toList ++ events.filterMap (Event.fact? serial m)

/-- **The story of a job** in a run of moves. -/
def Pool.story (serial : Nat) (p : Pool J) : List (Move J) → List Fact
  | [] => []
  | m :: moves =>
    match p.step m with
    | none => []
    | some (q, events) => factsOf serial m events ++ q.story serial moves

/-! ## The steps of one job -/

/-- Where a job is. -/
inductive Stage where
  /-- It was not submitted yet. -/
  | unborn
  /-- It is submitted, and has not taken its id. -/
  | arriving
  /-- It has taken its id, and its submission is not answered. -/
  | entering
  /-- It is in the queue, or a worker has taken it out. -/
  | waiting
  /-- It is being polled. -/
  | polling
  /-- It waits for its next poll. -/
  | resting
  /-- It has left the pool, or was not taken on. -/
  | gone
  deriving DecidableEq, Repr

/-- The place as one of the pool; a job that is not there has none. -/
def Stage.lodging : Stage → Multiset Stage
  | .unborn | .gone => 0
  | stage => {stage}

/-- **What can happen to a job next**, and where that leads it. -/
inductive Goes : Stage → List Fact → Stage → Prop where
  | submit : Goes .unborn [] .arriving
  | register : Goes .arriving [] .entering
  | refuse : Goes .arriving [.rejected] .gone
  | accept : Goes .entering [.accepted] .waiting
  | reject : Goes .entering [.rejected] .gone
  | poll : Goes .waiting [.polled] .polling
  | discard {cause : DropCause} : cause.isClosure = true → Goes .waiting [.dropped cause] .gone
  | rest : Goes .polling [.returned .unfinished] .resting
  | converge : Goes .polling [.returned .finished, .notified] .gone
  | fail : Goes .polling [.returned .failed, .dropped .failed] .gone
  /-- The job is lost with its worker. -/
  | crash {outcome : Outcome} : outcome.isUnsettled = true →
      Goes .polling [.returned outcome, .dropped .panicked] .gone
  | requeue : Goes .resting [] .waiting
  | abandon {cause : DropCause} : cause.isClosure = true → Goes .resting [.dropped cause] .gone

/-- The facts lead a job from its submission to a place. -/
inductive Life : List Fact → Stage → Prop where
  | unborn : Life [] .unborn
  | goes {facts more : List Fact} {a b : Stage} : Life facts a → Goes a more b →
      Life (facts ++ more) b

/-- A number of polls that ended unconverged. -/
def rounds : Nat → List Fact
  | 0 => []
  | n + 1 => rounds n ++ [.polled, .returned .unfinished]

/-- How the story of a job that was accepted can end. -/
inductive Ending : List Fact → Prop where
  | converged : Ending [.polled, .returned .finished, .notified]
  | failed : Ending [.polled, .returned .failed, .dropped .failed]
  | panicked : Ending [.polled, .returned .panicked, .dropped .panicked]
  /-- The job was to wait for a pause without a length. -/
  | unpaced : Ending [.polled, .returned .unfinished, .dropped .panicked]
  | stopped : Ending [.dropped .stopped]
  /-- No worker was left. -/
  | abandoned : Ending [.dropped .abandoned]

/-- **The story of a job**, by the place where it is. -/
def Tells (facts : List Fact) : Stage → Prop
  | .unborn | .arriving | .entering => facts = []
  | .waiting | .resting => ∃ n, facts = .accepted :: rounds n
  | .polling => ∃ n, facts = .accepted :: rounds n ++ [.polled]
  | .gone => facts = [.rejected] ∨ ∃ n ending, Ending ending ∧
      facts = .accepted :: rounds n ++ ending

theorem Life.tells {facts : List Fact} {stage : Stage} (h : Life facts stage) :
    Tells facts stage := by
  induction h with
  | unborn => rfl
  | goes _ hgoes ih =>
    cases hgoes with
    | submit | register => exact (List.append_nil _).trans ih
    | refuse | reject => exact .inl (congrArg (· ++ [Fact.rejected]) ih)
    | accept => exact ⟨0, congrArg (· ++ [Fact.accepted]) ih⟩
    | requeue => exact (List.append_nil _).symm ▸ ih
    | poll =>
      obtain ⟨n, rfl⟩ := ih
      exact ⟨n, rfl⟩
    | rest =>
      obtain ⟨n, rfl⟩ := ih
      exact ⟨n + 1, by simp [rounds]⟩
    | @discard cause hcause | @abandon cause hcause =>
      obtain ⟨n, rfl⟩ := ih
      cases cause with
      | stopped => exact .inr ⟨n, _, .stopped, rfl⟩
      | abandoned => exact .inr ⟨n, _, .abandoned, rfl⟩
      | failed | panicked => cases hcause
    | @crash outcome houtcome =>
      obtain ⟨n, rfl⟩ := ih
      cases outcome with
      | panicked => exact .inr ⟨n, _, .panicked, by simp⟩
      | unfinished => exact .inr ⟨n, _, .unpaced, by simp⟩
      | finished | failed => cases houtcome
    | converge =>
      obtain ⟨n, rfl⟩ := ih
      exact .inr ⟨n, _, .converged, by simp⟩
    | fail =>
      obtain ⟨n, rfl⟩ := ih
      exact .inr ⟨n, _, .failed, by simp⟩

/-! ## Where the jobs of a pool are -/

namespace Pool

/-- The jobs that are in the pool or on their way into it, each with its place. -/
def posts (p : Pool J) : Multiset (Stage × Ticket J) :=
  (p.arriving : Multiset (Ticket J)).map (Prod.mk .arriving) +
    (p.entering : Multiset (Ticket J)).map (Prod.mk .entering) +
    (p.queue : Multiset (Ticket J)).map (Prod.mk .waiting) +
    (p.taken : Multiset (Ticket J)).map (Prod.mk .waiting) +
    (p.running : Multiset (Ticket J)).map (Prod.mk .polling) +
    (p.parked : Multiset (Parked J)).map fun k => (.resting, k.ticket)

/-- The places of the jobs with a serial number. -/
def stagesOf (serial : Nat) (posts : Multiset (Stage × Ticket J)) : Multiset Stage :=
  (posts.filter fun x => x.2.serial = serial).map Prod.fst

/-- **What a move does to the jobs.** -/
inductive Shift (p q : Pool J) (m : Move J) (events : List (Event J)) : Prop where
  /-- All jobs stay where they are, and nothing happens to them. -/
  | stays : q.posts = p.posts → q.submitted = p.submitted →
      (∀ serial, factsOf serial m events = []) → Shift p q m events
  /-- One more job is submitted. -/
  | submits (t : Ticket J) : t.serial = p.submitted → q.posts = (.arriving, t) ::ₘ p.posts →
      q.submitted = p.submitted + 1 → (∀ serial, factsOf serial m events = []) →
      Shift p q m events
  /-- One job goes to another place, or away. -/
  | goes {a b : Stage} {t u : Ticket J} {others : Multiset (Stage × Ticket J)}
      {facts : List Fact} : Goes a facts b → u.serial = t.serial →
      p.posts = (a, t) ::ₘ others → q.posts = b.lodging.map (fun c => (c, u)) + others →
      q.submitted = p.submitted →
      (∀ serial, factsOf serial m events = if t.serial = serial then facts else []) →
      Shift p q m events
  /-- One job is lost while it is polled, and what is given up of the queue is dropped. -/
  | loses (queue : List (Ticket J)) {t : Ticket J} {others : Multiset (Stage × Ticket J)}
      {outcome : Outcome} : outcome.isUnsettled = true →
      p.posts = (.polling, t) ::ₘ ((queue : Multiset (Ticket J)).map (Prod.mk .waiting) + others) →
      q.posts = others → q.submitted = p.submitted →
      (∀ serial, factsOf serial m events =
        (if t.serial = serial then [.returned outcome, .dropped .panicked] else []) ++
          (queue.filter fun u => u.serial = serial).map fun _ => .dropped .abandoned) →
      Shift p q m events

variable {p q : Pool J} {events : List (Event J)} {serial : Nat}

theorem extract_holds {α : Type} {test : α → Bool} {l rest : List α} {a : α}
    (h : extract test l = some (a, rest)) : test a = true := by
  induction l generalizing rest with
  | nil => cases h
  | cons b l ih =>
    rw [extract] at h
    split at h
    · cases h
      assumption
    · obtain ⟨⟨_, rest'⟩, hrest, heq⟩ := Option.map_eq_some_iff.mp h
      cases heq
      exact ih hrest

theorem serial_of_extract {l rest : List (Ticket J)} {t : Ticket J}
    (h : extract (fun t => t.serial == serial) l = some (t, rest)) : t.serial = serial := by
  have htest := extract_holds h
  exact beq_iff_eq.mp htest

theorem arrive_shift {id : String} {job : J} (h : p.arrive id job = (q, events)) :
    Shift p q (.arrive id job) events := by
  rw [arrive] at h
  split at h <;> cases h
  · exact .stays rfl rfl fun _ => rfl
  · refine .submits ⟨p.submitted, id, 0, job⟩ rfl ?_ rfl fun _ => rfl
    simp only [posts, coe_concat, Multiset.map_cons, Multiset.cons_add]

theorem registerNext_shift (h : p.registerNext serial = some (q, events)) :
    Shift p q (.register serial) events := by
  rw [registerNext] at h
  split at h
  · cases h
  · rename_i t arriving hextract
    have harriving := extract_eq hextract
    obtain rfl := serial_of_extract hextract
    have hposts : p.posts = (.arriving, t) ::ₘ ({ p with arriving } : Pool J).posts := by
      simp only [posts, harriving, Multiset.map_cons, Multiset.cons_add]
    split at h
    · cases h
      refine .goes .refuse rfl hposts (zero_add _).symm rfl fun s => ?_
      by_cases hs : t.serial = s <;>
        simp [factsOf, Move.outcome?, Event.fact?, Move.submission?, hs]
    · rename_i registered hregister
      obtain ⟨-, rfl⟩ := register_eq_some_iff.mp hregister
      cases h
      refine .goes .register rfl hposts ?_ rfl fun s => ?_
      · simp only [posts, coe_concat, Multiset.map_cons, Multiset.cons_add, Multiset.add_cons,
          Stage.lodging, Multiset.map_singleton, Multiset.singleton_add]
      · simp [factsOf, Move.outcome?]

theorem enterNext_shift (h : p.enterNext serial = some (q, events)) :
    Shift p q (.enter serial) events := by
  rw [enterNext] at h
  split at h
  · cases h
  · rename_i t entering hextract
    have hentering := extract_eq hextract
    obtain rfl := serial_of_extract hextract
    have hposts : p.posts = (.entering, t) ::ₘ ({ p with entering } : Pool J).posts := by
      simp only [posts, hentering, Multiset.map_cons, Multiset.cons_add, Multiset.add_cons]
    rw [enter] at h
    split at h <;> cases h
    · refine .goes .accept rfl hposts ?_ rfl fun s => ?_
      · simp only [posts, coe_concat, Multiset.map_cons, Multiset.cons_add, Multiset.add_cons,
          Stage.lodging, Multiset.map_singleton, Multiset.singleton_add]
      · by_cases hs : t.serial = s <;>
          simp [factsOf, Move.outcome?, Event.fact?, Move.submission?, hs]
    · refine .goes .reject rfl hposts (zero_add _).symm rfl fun s => ?_
      by_cases hs : t.serial = s <;>
        simp [factsOf, Move.outcome?, Event.fact?, Move.submission?, hs]

theorem receive_shift (h : p.receive = some (q, events)) : Shift p q .receive events := by
  rw [receive] at h
  split at h
  · rename_i idle t queue _ hqueue
    cases h
    refine .stays ?_ rfl fun _ => rfl
    simp only [posts, hqueue, ← Multiset.cons_coe, coe_concat, Multiset.map_cons,
      Multiset.cons_add, Multiset.add_cons]
  · cases h

theorem beginNext_shift (h : p.beginNext serial = some (q, events)) :
    Shift p q (.begin serial) events := by
  rw [beginNext] at h
  split at h
  · cases h
  · rename_i t taken hextract
    have htaken := extract_eq hextract
    obtain rfl := serial_of_extract hextract
    have hposts : p.posts = (.waiting, t) ::ₘ ({ p with taken } : Pool J).posts := by
      simp only [posts, htaken, Multiset.map_cons, Multiset.cons_add, Multiset.add_cons]
    rw [begin] at h
    split at h <;> cases h
    · have hclosure : DropCause.stopped.isClosure = true := rfl
      refine .goes (.discard hclosure) rfl hposts (zero_add _).symm rfl fun s => ?_
      by_cases hs : t.serial = s <;> simp [factsOf, Move.outcome?, Event.fact?, hs]
    · refine .goes (t := t) (u := { t with polls := t.polls + 1 }) .poll rfl hposts ?_ rfl
        fun s => ?_
      · simp only [posts, coe_concat, Multiset.map_cons, Multiset.cons_add, Multiset.add_cons,
          Stage.lodging, Multiset.map_singleton, Multiset.singleton_add]
      · by_cases hs : t.serial = s <;> simp [factsOf, Move.outcome?, Event.fact?, hs]

theorem filterMap_abandoned (serial : Nat) (m : Move J) (queue : List (Ticket J)) :
    (queue.map fun t => Event.dropped t .abandoned).filterMap (Event.fact? serial m) =
      (queue.filter fun u => u.serial = serial).map fun _ => .dropped .abandoned := by
  induction queue with
  | nil => rfl
  | cons t queue ih =>
    rw [List.map_cons, List.filterMap_cons, ih, List.filter_cons]
    by_cases hs : t.serial = serial <;> simp [Event.fact?, hs]

theorem lose_shift {t u : Ticket J} {running : List (Ticket J)} {result : PollEnd J}
    (hextract : extract (fun t => t.serial == serial) p.running = some (t, running))
    (hserial : u.serial = t.serial) (houtcome : result.outcome.isUnsettled = true) :
    Shift p (({ p with running } : Pool J).lose u).1 (.conclude serial result)
      (({ p with running } : Pool J).lose u).2 := by
  have hrunning := extract_eq hextract
  obtain rfl := serial_of_extract hextract
  have hposts : p.posts = (.polling, t) ::ₘ ({ p with running } : Pool J).posts := by
    simp only [posts, hrunning, Multiset.map_cons, Multiset.cons_add, Multiset.add_cons]
  by_cases hworkers : ({ p with running } : Pool J).hasWorkers = true
  · simp only [lose, abandon, hworkers, if_true]
    refine .loses [] (t := t) houtcome (by rw [hposts]; simp) rfl rfl fun s => ?_
    by_cases hs : t.serial = s <;>
      simp [factsOf, Move.outcome?, Event.fact?, hserial, hs]
  · simp only [lose, abandon, hworkers, if_false, Bool.false_eq_true]
    refine .loses p.queue (t := t) houtcome ?_ rfl rfl fun s => ?_
    · rw [hposts]
      simp only [posts, Multiset.coe_nil, Multiset.map_zero]
      ac_rfl
    · rw [factsOf, List.filterMap_cons, filterMap_abandoned]
      by_cases hs : t.serial = s <;> simp [Move.outcome?, Event.fact?, hserial, hs]

theorem conclude_shift {result : PollEnd J} (h : p.conclude serial result = some (q, events)) :
    Shift p q (.conclude serial result) events := by
  rw [conclude] at h
  split at h
  · cases h
  · rename_i t running hextract
    have hrunning := extract_eq hextract
    have hserial := serial_of_extract hextract
    have hposts : p.posts = (.polling, t) ::ₘ ({ p with running } : Pool J).posts := by
      simp only [posts, hrunning, Multiset.map_cons, Multiset.cons_add, Multiset.add_cons]
    cases result with
    | panicked job =>
      cases h
      exact lose_shift hextract rfl rfl
    | finished job =>
      cases h
      refine .goes .converge rfl hposts (zero_add _).symm rfl fun s => ?_
      by_cases hs : t.serial = s <;>
        simp [factsOf, Move.outcome?, PollEnd.outcome, Event.fact?, ← hserial, hs]
    | failed job =>
      cases h
      refine .goes .fail rfl hposts (zero_add _).symm rfl fun s => ?_
      by_cases hs : t.serial = s <;>
        simp [factsOf, Move.outcome?, PollEnd.outcome, Event.fact?, ← hserial, hs]
    | pending job =>
      simp only [settle] at h
      split at h <;> cases h
      · exact lose_shift hextract rfl rfl
      · refine .goes (t := t) (u := { t with job }) .rest rfl hposts ?_ rfl fun s => ?_
        · simp only [posts, coe_concat, Multiset.map_cons, Multiset.add_cons, Stage.lodging,
            Multiset.map_singleton, Multiset.singleton_add]
        · by_cases hs : t.serial = s <;>
            simp [factsOf, Move.outcome?, PollEnd.outcome, Event.fact?, ← hserial, hs]

theorem wake_shift (h : p.wake serial = some (q, events)) : Shift p q (.wake serial) events := by
  rw [wake] at h
  split at h
  · cases h
  · rename_i due t parked hextract
    have hparked := extract_eq hextract
    have htest := extract_holds hextract
    obtain rfl : t.serial = serial := beq_iff_eq.mp htest
    have hposts : p.posts = (.resting, t) ::ₘ ({ p with parked } : Pool J).posts := by
      simp only [posts, hparked, Multiset.map_cons, Multiset.add_cons]
    split at h
    · split at h
      · cases h
        refine .goes .requeue rfl hposts ?_ rfl fun s => ?_
        · simp only [posts, coe_concat, Multiset.map_cons, Multiset.cons_add, Multiset.add_cons,
          Stage.lodging, Multiset.map_singleton, Multiset.singleton_add]
        · simp [factsOf, Move.outcome?, Event.fact?, Move.submission?]
      · cases h
        have hclosure : (if p.stopped then DropCause.stopped else .abandoned).isClosure = true := by
          split <;> rfl
        refine .goes (.abandon hclosure) rfl hposts (zero_add _).symm rfl fun s => ?_
        by_cases hs : t.serial = s <;> simp [factsOf, Move.outcome?, Event.fact?, hs]
    · cases h

theorem exit_shift (h : p.exit = some (q, events)) : Shift p q .exit events := by
  rw [exit] at h
  split at h
  · split at h <;> cases h
    exact .stays rfl rfl fun _ => rfl
  · cases h

/-- **Every move shifts the jobs so**, however polls end. -/
theorem step_shift {m : Move J} (h : p.step m = some (q, events)) : Shift p q m events := by
  cases m with
  | arrive id job => exact arrive_shift (Option.some.inj h)
  | register serial => exact registerNext_shift h
  | enter serial => exact enterNext_shift h
  | receive => exact receive_shift h
  | begin serial => exact beginNext_shift h
  | conclude serial result => exact conclude_shift h
  | wake serial => exact wake_shift h
  | exit => exact exit_shift h
  | stop =>
    cases h
    exact .stays rfl rfl fun _ => rfl
  | tick ms =>
    cases h
    exact .stays rfl rfl fun _ => rfl

/-! ## Every run -/

/-- **What happened to each job so far has led it to where it is**, to that place and to no
other. -/
def Tracked (p : Pool J) (past : Nat → List Fact) : Prop :=
  ∀ serial, ∃ stage, Life (past serial) stage ∧ stagesOf serial p.posts = stage.lodging ∧
    (stage = .unborn ↔ p.submitted ≤ serial)

variable {past : Nat → List Fact} {m : Move J} {stage a : Stage} {t : Ticket J}
  {posts others : Multiset (Stage × Ticket J)}

theorem stagesOf_cons : stagesOf serial ((a, t) ::ₘ posts) =
    if t.serial = serial then a ::ₘ stagesOf serial posts else stagesOf serial posts := by
  by_cases h : t.serial = serial <;> simp [stagesOf, h]

theorem stagesOf_lodging : stagesOf serial (stage.lodging.map (fun c => (c, t)) + posts) =
    (if t.serial = serial then stage.lodging else 0) + stagesOf serial posts := by
  by_cases h : t.serial = serial <;> cases stage <;> simp [stagesOf, Stage.lodging, h]

theorem stagesOf_map_add (queue : List (Ticket J)) :
    stagesOf serial ((queue : Multiset (Ticket J)).map (Prod.mk a) + others) =
      (((queue.filter fun u => u.serial = serial).map fun _ => a : List Stage) : Multiset Stage) +
        stagesOf serial others := by
  induction queue with
  | nil => simp
  | cons t queue ih =>
    rw [← Multiset.cons_coe, Multiset.map_cons, Multiset.cons_add, stagesOf_cons, ih,
      List.filter_cons]
    by_cases hs : t.serial = serial <;> simp [hs, ← Multiset.cons_coe]

theorem lodging_eq_cons {rest : Multiset Stage} (h : a ::ₘ rest = stage.lodging) :
    stage = a ∧ rest = 0 ∧ stage ≠ .unborn := by
  cases stage with
  | unborn | gone => exact absurd h (Multiset.cons_ne_zero)
  | arriving | entering | waiting | polling | resting =>
    obtain ⟨rfl, rfl⟩ := (Multiset.singleton_eq_cons_iff _).mp h.symm
    exact ⟨rfl, rfl, nofun⟩

theorem lodging_eq_cons_add {more : List Stage} {rest : Multiset Stage}
    (h : a ::ₘ ((more : Multiset Stage) + rest) = stage.lodging) :
    stage = a ∧ more = [] ∧ rest = 0 ∧ stage ≠ .unborn := by
  obtain ⟨hstage, hzero, hborn⟩ := lodging_eq_cons h
  have hmore : (more : Multiset Stage) = 0 :=
    Multiset.le_zero.mp (hzero ▸ Multiset.le_add_right (more : Multiset Stage) rest)
  have hrest : rest = 0 :=
    Multiset.le_zero.mp (hzero ▸ Multiset.le_add_left rest (more : Multiset Stage))
  exact ⟨hstage, (Multiset.coe_eq_zero _).mp hmore, hrest, hborn⟩

theorem Shift.tracked (h : Shift p q m events) (ht : Tracked p past) :
    Tracked q fun serial => past serial ++ factsOf serial m events := by
  intro serial
  dsimp only
  obtain ⟨stage, hlife, hlodging, hunborn⟩ := ht serial
  cases h with
  | stays hposts hsubmitted hfacts =>
    rw [hfacts, List.append_nil, hposts, hsubmitted]
    exact ⟨stage, hlife, hlodging, hunborn⟩
  | submits t hserial hposts hsubmitted hfacts =>
    rw [hfacts, hposts, hsubmitted, stagesOf_cons, hserial]
    by_cases hs : p.submitted = serial
    · -- The serial number was free, so the job is where the move has put it.
      obtain rfl := hunborn.mpr (Nat.le_of_eq hs)
      rw [if_pos hs, hlodging]
      exact ⟨.arriving, hlife.goes .submit, rfl, iff_of_false nofun (by omega)⟩
    · rw [if_neg hs, List.append_nil]
      exact ⟨stage, hlife, hlodging, hunborn.trans (by omega)⟩
  | @goes a b t u others facts hgoes hserial hp hq hsubmitted hfacts =>
    rw [hp, stagesOf_cons] at hlodging
    rw [hfacts, hq, hsubmitted, stagesOf_lodging, hserial]
    by_cases hs : t.serial = serial
    · -- The job was at one place only, and that is left.
      rw [if_pos hs] at hlodging
      obtain ⟨rfl, hothers, hborn⟩ := lodging_eq_cons hlodging
      rw [if_pos hs, if_pos hs, hothers, add_zero]
      refine ⟨b, hlife.goes hgoes, rfl, iff_of_false ?_ fun hle => hborn (hunborn.mpr hle)⟩
      rintro rfl
      cases hgoes
    · rw [if_neg hs] at hlodging
      rw [if_neg hs, if_neg hs, List.append_nil, zero_add]
      exact ⟨stage, hlife, hlodging, hunborn⟩
  | @loses queue t others outcome houtcome hp hq hsubmitted hfacts =>
    rw [hp, stagesOf_cons, stagesOf_map_add] at hlodging
    rw [hfacts, hq, hsubmitted]
    by_cases hs : t.serial = serial
    · -- The job was being polled, so it is not in the queue.
      rw [if_pos hs] at hlodging
      obtain ⟨rfl, hqueue, hothers, hborn⟩ := lodging_eq_cons_add hlodging
      rw [if_pos hs, List.map_eq_nil_iff.mp hqueue, hothers]
      exact ⟨.gone, hlife.goes (.crash houtcome), rfl,
        iff_of_false nofun fun hle => hborn (hunborn.mpr hle)⟩
    · rw [if_neg hs] at hlodging
      rw [if_neg hs, List.nil_append]
      cases hqueue : queue.filter fun u => u.serial = serial with
      | nil =>
        rw [hqueue, List.map_nil, Multiset.coe_nil, zero_add] at hlodging
        rw [List.map_nil, List.append_nil]
        exact ⟨stage, hlife, hlodging, hunborn⟩
      | cons u more =>
        -- A job is in the queue once at most, and nowhere else.
        rw [hqueue, List.map_cons, ← Multiset.cons_coe, Multiset.cons_add] at hlodging
        obtain ⟨rfl, hmore, hothers, hborn⟩ := lodging_eq_cons_add hlodging
        rw [List.map_cons, List.map_eq_nil_iff.mp hmore, hothers]
        exact ⟨.gone, hlife.goes (.discard rfl), rfl,
          iff_of_false nofun fun hle => hborn (hunborn.mpr hle)⟩

theorem run_tracked {moves : List (Move J)} {trace : List (Nat × Event J)}
    (hrun : p.run moves = some (q, trace)) (ht : Tracked p past) :
    Tracked q fun serial => past serial ++ p.story serial moves := by
  induction moves generalizing p past trace with
  | nil =>
    cases hrun
    simpa only [story, List.append_nil] using ht
  | cons m moves ih =>
    obtain ⟨r, events, rest, hstep, hrest, rfl⟩ := run_cons_eq_some hrun
    simpa only [story, hstep, List.append_assoc] using ih hrest ((step_shift hstep).tracked ht)

/-! ## Why jobs are dropped -/

theorem mem_factsOf_dropped {cause : DropCause} (h : .dropped cause ∈ factsOf serial m events) :
    ∃ t, .dropped t cause ∈ events := by
  rcases List.mem_append.mp h with houtcome | hevent
  · obtain ⟨_, _, heq⟩ := Option.map_eq_some_iff.mp (Option.mem_toList.mp houtcome)
    cases heq
  · obtain ⟨e, he, hfact⟩ := List.mem_filterMap.mp hevent
    cases e with
    | dropped t cause' =>
      obtain ⟨-, heq⟩ := Option.ite_none_right_eq_some.mp hfact
      cases heq
      exact ⟨t, he⟩
    | queued | rejected | polling | finished =>
      obtain ⟨-, heq⟩ := Option.ite_none_right_eq_some.mp hfact
      cases heq
    | parked => cases hfact

/-- As long as no worker is lost, a job is only dropped because its poll failed or the pool was
stopped. -/
theorem cause_of_spared {cause : DropCause} (manned : p.Manned)
    (spared : ∀ e ∈ events, Shift.losesWorker e = false) (h : p.step m = some (q, events))
    (he : .dropped t cause ∈ events) : cause = .failed ∨ cause = .stopped := by
  cases m with
  | arrive id job =>
    rw [step, arrive] at h
    split at h <;> cases h <;> simp at he
  | register serial =>
    rw [step, registerNext] at h
    split at h
    · cases h
    · split at h <;> cases h <;> simp at he
  | enter serial =>
    rw [step, enterNext] at h
    split at h
    · cases h
    · rw [enter] at h
      split at h <;> cases h <;> simp at he
  | receive =>
    rw [step, receive] at h
    split at h <;> cases h
    cases he
  | begin serial =>
    rw [step, beginNext] at h
    split at h
    · cases h
    · rw [begin] at h
      split at h <;> cases h
      · cases List.mem_singleton.mp he
        exact .inr rfl
      · simp at he
  | conclude serial result =>
    rw [step, conclude] at h
    split at h
    · cases h
    · cases result with
      | panicked job =>
        cases h
        exact absurd spared not_spared_lose
      | finished job =>
        cases h
        simp at he
      | failed job =>
        cases h
        cases List.mem_singleton.mp he
        exact .inl rfl
      | pending job =>
        simp only [settle] at h
        split at h <;> cases h
        · exact absurd spared not_spared_lose
        · simp at he
  | wake serial =>
    rw [step, wake] at h
    split at h
    · cases h
    · split at h
      · split at h
        · cases h
          simp at he
        · rename_i hclosed
          -- Some worker is left unless the pool is stopped, so the queue is closed for that.
          have hstopped : p.stopped = true := by
            by_contra hrunning
            have hrunning : p.stopped = false := Bool.eq_false_iff.mpr hrunning
            exact hclosed (by simp [isOpen, hrunning, manned hrunning])
          cases h
          cases List.mem_singleton.mp he
          exact .inr (if_pos hstopped)
      · cases h
  | exit =>
    rw [step, exit] at h
    split at h
    · split at h <;> cases h
      cases he
    · cases h
  | stop | tick =>
    cases h
    cases he

theorem causes_of_run {cause : DropCause} {moves : List (Move J)} {trace : List (Nat × Event J)}
    (manned : p.Manned) (hrun : p.run moves = some (q, trace))
    (spared : ∀ e ∈ trace, Shift.losesWorker e.2 = false)
    (h : .dropped cause ∈ p.story serial moves) : cause = .failed ∨ cause = .stopped := by
  induction moves generalizing p trace with
  | nil => cases h
  | cons m moves ih =>
    obtain ⟨r, events, rest, hstep, hrest, rfl⟩ := run_cons_eq_some hrun
    obtain ⟨hfirst, hlater⟩ := List.forall_mem_append.mp spared
    have hfirst := List.forall_mem_map.mp hfirst
    simp only [story, hstep] at h
    rcases List.mem_append.mp h with hnow | hthen
    · obtain ⟨t, he⟩ := mem_factsOf_dropped hnow
      exact cause_of_spared manned hfirst hstep he
    · exact ih ((step_orderly hfirst hstep).manned manned) hrest hlater hthen

/-! ## What the stories say -/

/-- How the polls of a job ended, in order. -/
def outcomes (facts : List Fact) : List Outcome :=
  facts.filterMap fun
    | .returned outcome => some outcome
    | _ => none

theorem eq_of_mem_rounds {fact : Fact} {n : Nat} (h : fact ∈ rounds n) :
    fact = .polled ∨ fact = .returned .unfinished := by
  induction n with
  | zero => cases h
  | succ n ih => exact (List.mem_append.mp h).elim ih (by simp)

theorem count_rounds {fact : Fact} {n : Nat} (hpolled : fact ≠ .polled)
    (hreturned : fact ≠ .returned .unfinished) : (rounds n).count fact = 0 :=
  List.count_eq_zero.mpr fun h => (eq_of_mem_rounds h).elim hpolled hreturned

theorem count_polled_rounds (n : Nat) : (rounds n).count .polled = n := by
  induction n with
  | zero => rfl
  | succ n ih => simp [rounds, ih]

theorem outcomes_append (facts more : List Fact) :
    outcomes (facts ++ more) = outcomes facts ++ outcomes more :=
  List.filterMap_append

theorem outcomes_rounds (n : Nat) : outcomes (rounds n) = List.replicate n .unfinished := by
  induction n with
  | zero => rfl
  | succ n ih => rw [rounds, outcomes_append, ih, List.replicate_succ']; rfl

theorem outcomes_accepted (n : Nat) (rest : List Fact) :
    outcomes (.accepted :: rounds n ++ rest) = List.replicate n .unfinished ++ outcomes rest := by
  rw [outcomes_append, ← outcomes_rounds]
  rfl

/-- Of a fact that is no part of the rounds, what comes after them decides. -/
theorem count_accepted (fact : Fact) {n : Nat} {rest : List Fact}
    (hother : fact ∉ [Fact.accepted, .polled, .returned .unfinished]) :
    (.accepted :: rounds n ++ rest).count fact = rest.count fact := by
  simp only [List.mem_cons, List.not_mem_nil, or_false, not_or] at hother
  obtain ⟨haccepted, hpolled, hreturned⟩ := hother
  rw [List.count_append, List.count_cons_of_ne (Ne.symm haccepted),
    count_rounds hpolled hreturned, Nat.zero_add]

theorem count_polled_accepted (n : Nat) (rest : List Fact) :
    (.accepted :: rounds n ++ rest).count .polled = n + rest.count .polled := by
  rw [List.count_append, List.count_cons_of_ne (by decide), count_polled_rounds]

/-- No worker polls, nothing is queued, and nothing waits for its next poll. -/
def Settled (p : Pool J) : Prop :=
  p.queue = [] ∧ p.taken = [] ∧ p.running = [] ∧ p.parked = []

/-- **How a pool tends its jobs** in a run of moves, given their stories. -/
structure Tends (p : Pool J) (moves : List (Move J)) (story : Nat → List Fact) : Prop where
  /-- Nothing happens to a job that is not accepted.  One that is accepted is polled a number
  of times, all but the last time without having converged. -/
  told : ∀ serial, story serial = [] ∨ story serial = [.rejected] ∨
    ∃ n rest, story serial = .accepted :: rounds n ++ rest ∧
      (rest = [] ∨ rest = [.polled] ∨ Ending rest)
  /-- A job that is rejected is neither polled nor told anything. -/
  rejected : ∀ serial, .rejected ∈ story serial → story serial = [.rejected]
  /-- One that finds the pool stopped does not get in at all. -/
  turnedAway : p.stopped = true → ∀ id job, p.arrive id job = (p, [.rejected id job])
  /-- Every poll but the last has ended without the job having converged. -/
  retried : ∀ serial,
    (outcomes (story serial)).take ((story serial).count .polled - 1) =
      List.replicate ((story serial).count .polled - 1) .unfinished
  /-- A job is told that it has converged once if its last poll ended so, and else never. -/
  notified : ∀ serial, (story serial).count .notified =
    if (outcomes (story serial)).getLast? = some .finished then 1 else 0
  /-- A poll that fails is the last thing that happens to a job before it is dropped. -/
  failed : ∀ serial, .returned .failed ∈ story serial → ∃ n,
    story serial = .accepted :: rounds n ++ [.polled, .returned .failed, .dropped .failed]
  /-- Once everything is settled, each accepted job has ended, -/
  settled : p.Settled → ∀ serial, .accepted ∈ story serial →
    ∃ n ending, Ending ending ∧ story serial = .accepted :: rounds n ++ ending
  /-- and that in one of three ways, if all polls have returned. -/
  ended : (∀ m ∈ moves, m.panics = false) → p.Settled → ∀ serial, .accepted ∈ story serial →
    (story serial).count .notified + (story serial).count (.dropped .failed) +
      (story serial).count (.dropped .stopped) = 1
  /-- No job is polled by two workers. -/
  alone : (p.running.map Ticket.serial).Nodup

theorem Tracked.told (h : Tracked p past) (serial : Nat) : past serial = [] ∨
    past serial = [.rejected] ∨ ∃ n rest, past serial = .accepted :: rounds n ++ rest ∧
      (rest = [] ∨ rest = [.polled] ∨ Ending rest) := by
  obtain ⟨stage, hlife, -⟩ := h serial
  have htells := hlife.tells
  cases stage with
  | unborn | arriving | entering => exact .inl htells
  | waiting | resting =>
    obtain ⟨n, hn⟩ := htells
    exact .inr (.inr ⟨n, [], by simpa using hn, .inl rfl⟩)
  | polling =>
    obtain ⟨n, hn⟩ := htells
    exact .inr (.inr ⟨n, _, hn, .inr (.inl rfl)⟩)
  | gone =>
    rcases htells with hn | ⟨n, ending, hending, hn⟩
    · exact .inr (.inl hn)
    · exact .inr (.inr ⟨n, ending, hn, .inr (.inr hending)⟩)

/-- In a settled pool an accepted job has ended. -/
theorem Tracked.ended (h : Tracked p past) (settled : p.Settled)
    (haccepted : .accepted ∈ past serial) :
    ∃ n ending, Ending ending ∧ past serial = .accepted :: rounds n ++ ending := by
  obtain ⟨stage, hlife, hlodging, -⟩ := h serial
  obtain ⟨hqueue, htaken, hrunning, hparked⟩ := settled
  have nowhere : ∀ stage, stagesOf serial p.posts = {stage} →
      stage = .arriving ∨ stage = .entering := by
    intro stage hstage
    obtain ⟨⟨stage', t⟩, hx, rfl⟩ :=
      Multiset.mem_map.mp (hstage ▸ Multiset.mem_singleton_self stage)
    have hmem := Multiset.mem_of_mem_filter hx
    simp only [posts, hqueue, htaken, hrunning, hparked, Multiset.coe_nil, Multiset.map_zero,
      add_zero, Multiset.mem_add, Multiset.mem_map, Prod.mk.injEq] at hmem
    rcases hmem with ⟨_, _, rfl, _⟩ | ⟨_, _, rfl, _⟩
    · exact .inl rfl
    · exact .inr rfl
  have htells := hlife.tells
  cases stage with
  | unborn | arriving | entering =>
    rw [show past serial = [] from htells] at haccepted
    cases haccepted
  | waiting | resting | polling => exact absurd (nowhere _ hlodging) nofun
  | gone =>
    refine htells.resolve_left fun hrejected => ?_
    rw [hrejected] at haccepted
    exact absurd (List.mem_singleton.mp haccepted) nofun

/-- The jobs that are being polled have different serial numbers. -/
theorem Tracked.alone (h : Tracked p past) : (p.running.map Ticket.serial).Nodup := by
  refine List.nodup_iff_count_le_one.mpr fun serial => ?_
  obtain ⟨stage, -, hlodging, -⟩ := h serial
  have hone : (stagesOf serial p.posts).card ≤ 1 := by
    rw [hlodging]
    cases stage <;> simp [Stage.lodging]
  have hle : (p.running : Multiset (Ticket J)).map (Prod.mk Stage.polling) ≤ p.posts :=
    (Multiset.le_add_left _ _).trans (Multiset.le_add_right _ _)
  have hcard := Multiset.card_le_card
    (Multiset.map_le_map (f := Prod.fst) (Multiset.filter_le_filter (·.2.serial = serial) hle))
  have hcount : (p.running.map Ticket.serial).count serial = (stagesOf serial
      ((p.running : Multiset (Ticket J)).map (Prod.mk Stage.polling))).card := by
    rw [← Multiset.coe_count, ← Multiset.map_coe, Multiset.count_map]
    simp [stagesOf, Multiset.filter_map, eq_comm]
  exact hcount ▸ hcard.trans hone

theorem Tracked.tends {moves : List (Move J)} (h : Tracked p past)
    (causes : (∀ m ∈ moves, m.panics = false) → ∀ serial cause,
      .dropped cause ∈ past serial → cause = .failed ∨ cause = .stopped) :
    Tends p moves past where
  told := h.told
  rejected serial hmem := by
    rcases h.told serial with hs | hs | ⟨n, rest, hs, hrest⟩
    · rw [hs] at hmem
      cases hmem
    · exact hs
    · have hcount := List.count_pos_iff.mpr hmem
      rw [hs, count_accepted .rejected (by decide)] at hcount
      rcases hrest with rfl | rfl | ⟨_ | _ | _⟩ <;> exact absurd hcount (by decide)
  turnedAway stopped id job := if_pos stopped
  retried serial := by
    rcases h.told serial with hs | hs | ⟨n, rest, hs, hrest⟩
    · rw [hs]; rfl
    · rw [hs]; rfl
    · rw [hs, outcomes_accepted, count_polled_accepted]
      rcases hrest with rfl | rfl | ⟨_ | _ | _⟩ <;> simp [outcomes]
  notified serial := by
    rcases h.told serial with hs | hs | ⟨n, rest, hs, hrest⟩
    · rw [hs]; rfl
    · rw [hs]; rfl
    · rw [hs, outcomes_accepted, count_accepted .notified (by decide)]
      rcases hrest with rfl | rfl | ⟨_ | _ | _⟩ <;> simp [outcomes, List.getLast?_replicate]
  failed serial hmem := by
    rcases h.told serial with hs | hs | ⟨n, rest, hs, hrest⟩
    · rw [hs] at hmem
      cases hmem
    · rw [hs] at hmem
      exact absurd (List.mem_singleton.mp hmem) nofun
    · have hcount := List.count_pos_iff.mpr hmem
      rw [hs, count_accepted (.returned .failed) (by decide)] at hcount
      rcases hrest with rfl | rfl | ending
      · exact absurd hcount (by decide)
      · exact absurd hcount (by decide)
      · cases ending with
        | failed => exact ⟨n, hs⟩
        | converged | panicked | unpaced | stopped | abandoned =>
          exact absurd hcount (by decide)
  settled settled _ hmem := h.ended settled hmem
  ended calm settled serial hmem := by
    obtain ⟨n, ending, hending, hs⟩ := h.ended settled hmem
    have known : ∀ cause, .dropped cause ∈ ending → cause = .failed ∨ cause = .stopped :=
      fun cause hcause => causes calm serial cause (hs ▸ List.mem_append_right _ hcause)
    rw [hs, count_accepted .notified (by decide), count_accepted (.dropped .failed) (by decide),
      count_accepted (.dropped .stopped) (by decide)]
    cases hending with
    | converged | failed | stopped => rfl
    | panicked | unpaced => exact absurd (known .panicked (by simp)) (by decide)
    | abandoned => exact absurd (known .abandoned (by simp)) (by decide)
  alone := h.alone

theorem start_tracked {workers : Nat} {backoff : Backoff} (h : startPool workers backoff = .ok p)
    (sleep : Nat → Nat) : Tracked ({ p with sleep } : Pool J) fun _ => [] := by
  rw [startPool] at h
  split at h
  · cases h
  · cases h
    exact fun serial => ⟨.unborn, .unborn, rfl, iff_of_true rfl (Nat.zero_le serial)⟩

/-- **Every pool that can be reached has tended its jobs so**, whatever the order of the moves
and however its polls ended. -/
theorem tends_of_run {workers : Nat} {backoff : Backoff} {start : Pool J} {sleep : Nat → Nat}
    {moves : List (Move J)} {trace : List (Nat × Event J)}
    (hstart : startPool workers backoff = .ok start) (paced : backoff.Paced)
    (hrun : ({ start with sleep } : Pool J).run moves = some (p, trace)) :
    Tends p moves fun serial => ({ start with sleep } : Pool J).story serial moves := by
  obtain ⟨-, hmanned, hbackoff⟩ := start_registered hstart
  have hpaced : ({ start with sleep } : Pool J).backoff.Paced := hbackoff ▸ paced
  refine (run_tracked hrun (start_tracked hstart sleep)).tends fun calm serial cause => ?_
  exact causes_of_run hmanned hrun (run_spares hpaced calm hrun)

/-- A run to a settled pool in which one job converges at its second poll, a second one of the
same id is rejected, a poll of a third one fails, and a fourth one waits for its next poll when
the pool is stopped. -/
theorem tends_of_three_endings :
    ∃ (start p : Pool Unit) (trace : List (Nat × Event Unit)) (moves : List (Move Unit)),
      startPool 2 (OperatorConfig.watchdogBackoff {}) = .ok start ∧
      (∀ m ∈ moves, m.panics = false) ∧
      ({ start with sleep := id } : Pool Unit).run moves = some (p, trace) ∧
      p.Settled ∧
      ({ start with sleep := id } : Pool Unit).story 0 moves =
        [.accepted, .polled, .returned .unfinished, .polled, .returned .finished, .notified] ∧
      ({ start with sleep := id } : Pool Unit).story 1 moves = [.rejected] ∧
      Tends p moves fun serial => ({ start with sleep := id } : Pool Unit).story serial moves := by
  let moves : List (Move Unit) :=
    [.arrive "a" (), .register 0, .enter 0, .arrive "a" (), .register 1, .receive, .begin 0,
      .arrive "b" (), .register 2, .enter 2, .arrive "c" (), .register 3, .enter 3,
      .conclude 0 (.pending ()), .receive, .receive, .begin 3, .begin 2, .conclude 2 (.failed ()),
      .tick 60000, .wake 0, .receive, .begin 0, .conclude 0 (.finished ()),
      .conclude 3 (.pending ()), .stop, .wake 3]
  have hstart : startPool 2 (OperatorConfig.watchdogBackoff {}) =
      .ok (Pool.start (J := Unit) 2 (OperatorConfig.watchdogBackoff {})) := rfl
  have hcalm : ∀ m ∈ moves, m.panics = false := by decide
  have hrun : (({ Pool.start 2 (OperatorConfig.watchdogBackoff {}) with sleep := id } :
      Pool Unit).run moves).map (fun r => r.1.queue.isEmpty && r.1.taken.isEmpty &&
        r.1.running.isEmpty && r.1.parked.isEmpty) = some true := by
    decide +kernel
  obtain ⟨⟨p, trace⟩, hp, hempty⟩ := Option.map_eq_some_iff.mp hrun
  simp only [Bool.and_eq_true, List.isEmpty_iff, and_assoc] at hempty
  refine ⟨_, p, trace, moves, hstart, hcalm, hp, hempty, ?_, ?_,
    tends_of_run hstart watchdogBackoff_paced hp⟩
  · decide +kernel
  · decide +kernel

end Pool

end ClusterOperator.Watchdog
