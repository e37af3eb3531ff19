import ClusterOperator.Proofs.Watchdog.Turns
import ClusterOperator.Watchdog.Timetable

/-!
# The pools of a timetable

The pools of a timetable share its agenda, and a round moves the tasks of all of them in one
order.  What one crew does leaves the tasks of the others alone (`Shift.Within`).  So whatever is
done to a timetable is a course of each of its crews (`Timetable.Along`), and what holds of every
course holds of every pool that was ever added to a timetable (`Timetable.attends_of_addPool`).
-/

namespace ClusterOperator.Watchdog

variable {J W : Type} {w : Workload J W}

/-! ## The tasks of one crew -/

namespace Agenda

variable {n : Nat} {task : Task} {a : Agenda Task}

theorem own_add (tasks : List Task) :
    (a.add tasks).own n = (a.own n).add (tasks.filter fun task => task.pool == n) := by
  simp [own, add]

theorem own_add_of_ne {tasks : List Task} (h : ∀ task ∈ tasks, task.pool ≠ n) :
    (a.add tasks).own n = a.own n := by
  have htasks : tasks.filter (fun task => task.pool == n) = [] :=
    List.filter_eq_nil_iff.mpr fun task htask => by simpa using h task htask
  rw [own_add, htasks, add, List.append_nil]

theorem own_awaken (h : task.pool ≠ n) : (a.awaken task).own n = a.own n := by
  rw [awaken]
  split
  · rfl
  · exact own_add_of_ne (List.forall_mem_singleton.mpr h)

theorem own_giveWay (h : task.pool ≠ n) : (a.giveWay task).own n = a.own n := by
  simp [own, giveWay, h]

theorem own_setAlarm {due : Nat} (h : task.pool ≠ n) :
    (a.setAlarm due task).own n = a.own n := by
  simp [own, setAlarm, h]

theorem own_interrupt {picked : Task → Bool}
    (h : ∀ task : Task, picked task = true → task.pool ≠ n) :
    (a.interrupt picked).own n = a.own n := by
  have hnow : ((a.alarms.filter fun alarm => picked alarm.2).map Prod.snd).filter
      (fun task => task.pool == n) = [] := by
    refine List.filter_eq_nil_iff.mpr fun task htask => ?_
    obtain ⟨alarm, halarm, rfl⟩ := List.mem_map.mp htask
    simpa using h alarm.2 (List.mem_filter.mp halarm).2
  have hlater : (a.alarms.filter (not ∘ fun alarm => picked alarm.2)).filter
      (fun alarm => alarm.2.pool == n) = a.alarms.filter fun alarm => alarm.2.pool == n := by
    rw [List.filter_filter]
    refine List.filter_congr fun alarm _ => ?_
    cases hpicked : picked alarm.2 with
    | false => simp [hpicked]
    | true => simp [h alarm.2 hpicked]
  simp only [own, interrupt, List.partition_eq_filter_filter, List.filter_append, hnow, hlater,
    List.append_nil]

theorem own_ready {ready : List Task} (hready : a.ready = task :: ready) (h : task.pool ≠ n) :
    ({ a with ready } : Agenda Task).own n = a.own n := by
  simp [own, hready, h]

/-- A part of an agenda has no tasks that the agenda does not have. -/
theorem own_eq_nil : a.own n = {} ↔
    (∀ task ∈ a.ready, task.pool ≠ n) ∧ (∀ task ∈ a.aside, task.pool ≠ n) ∧
      ∀ alarm ∈ a.alarms, alarm.2.pool ≠ n := by
  simp [own, Agenda.mk.injEq]

end Agenda

/-- **The tasks of all other crews are left alone**: those of the number of this one may change. -/
structure Agenda.Within (a : Agenda Task) (number : Nat) (number' : Nat) (a' : Agenda Task) :
    Prop where
  same : number' = number
  others : ∀ n, n ≠ number → a'.own n = a.own n

namespace Shift

variable {s t r : Shift J W}

/-- **What happens to a crew stays within it.** -/
abbrev Within (s t : Shift J W) : Prop := s.agenda.Within s.number t.number t.agenda

theorem Within.refl (s : Shift J W) : Within s s := ⟨rfl, fun _ _ => rfl⟩

theorem Within.trans (hst : Within s t) (htr : Within t r) : Within s r where
  same := htr.same.trans hst.same
  others n hn := (htr.others n (hst.same.symm ▸ hn)).trans (hst.others n hn)

theorem awaken_within (member : Member) : Within s (s.awaken member) :=
  ⟨rfl, fun _ hn => Agenda.own_awaken (Ne.symm hn)⟩

theorem awakenListener_within : Within s s.awakenListener := by
  rw [awakenListener]
  split
  · exact awaken_within _
  · exact .refl s

theorem passTurn_within : Within s s.passTurn := by
  rw [passTurn]
  split
  · exact .refl s
  · exact ⟨rfl, fun _ hn => Agenda.own_awaken (Ne.symm hn)⟩

theorem enqueue_within (id : String) (job : J) : Within s (s.enqueue w id job).2 := by
  rw [enqueue]
  split
  · rename_i pool t _
    exact awakenListener_within (s := s.setPool pool)
  · exact .refl s

theorem finish_within (t : Ticket J) : Within s (s.finish w t) := by
  rw [finish]
  split
  · exact .refl s
  · rename_i next world _
    exact enqueue_within (s := { s with world }) t.id next

theorem handle_within (e : Event J) : Within s (s.handle w e) := by
  cases e with
  | queued t => exact awakenListener_within
  | parked p => exact awaken_within _
  | finished t => exact finish_within t
  | rejected | polling | dropped => exact .refl s

theorem handleAll_within (events : List (Event J)) : Within s (s.handleAll w events) := by
  induction events generalizing s with
  | nil => exact .refl s
  | cons e events ih => exact (handle_within e).trans ih

theorem conclude_within (serial : Nat) : Within s (s.conclude w serial).2 := by
  rw [conclude]
  split
  · exact .refl s
  · rename_i ticket _
    dsimp only
    split
    · exact .refl s
    · rename_i pool events _
      let world := (w.conclude s.now ticket.job s.world).2
      exact handleAll_within (s := { s.setPool pool with world }) events

theorem begin_within (k : Nat) (ticket : Ticket J) : Within s (s.begin w k ticket).2 := by
  rw [begin]
  dsimp only
  split
  · exact conclude_within (s := { s with world := (w.begin s.now ticket.job s.world).2 }) _
  · exact .refl s

theorem look_within (k : Nat) : Within s (s.look w k).2 := by
  rw [look]
  split
  · rename_i pool ticket _
    have hpassed : Within s (s.setPool pool).passTurn := passTurn_within (s := s.setPool pool)
    exact hpassed.trans (begin_within k ticket)
  · rename_i pool events _ _
    have hpassed : Within s (s.setPool pool).passTurn := passTurn_within (s := s.setPool pool)
    exact hpassed.trans (handleAll_within events)
  · split
    · rename_i pool _ _
      exact passTurn_within (s := s.setPool pool)
    · exact .refl s

theorem endPoll_within (poll : LongPoll) : Within s (s.endPoll w poll).2 := by
  let polling := s.crew.polling.filter fun p => p.worker != poll.worker
  exact conclude_within (s := { s with crew := { s.crew with polling } }) poll.serial

theorem moveWorker_within (k budget : Nat) : Within s (s.moveWorker w k budget) := by
  induction budget generalizing s with
  | zero => exact ⟨rfl, fun _ hn => Agenda.own_giveWay (Ne.symm hn)⟩
  | succ budget ih =>
    have hgoOn : ∀ {r : Bool × Shift J W}, Within s r.2 → Within s (goOn w k budget r) := by
      rintro ⟨goes, r⟩ hr
      cases goes with
      | true => exact hr.trans ih
      | false => exact hr
    rw [moveWorker_succ]
    split
    · split
      · exact ⟨rfl, fun _ hn => Agenda.own_setAlarm (Ne.symm hn)⟩
      · exact hgoOn (endPoll_within _)
    · split
      · exact hgoOn (.refl s)
      · split
        · exact .refl s
        · split
          · exact hgoOn (.refl s)
          · exact hgoOn (look_within k)

theorem moveTimer_within (serial : Nat) : Within s (s.moveTimer w serial) := by
  rw [moveTimer]
  split
  · rename_i pool events _
    exact handleAll_within (s := s.setPool pool) events
  · split
    · exact ⟨rfl, fun _ hn => Agenda.own_setAlarm (Ne.symm hn)⟩
    · exact .refl s

theorem move_within (member : Member) : Within s (s.move w member) := by
  cases member with
  | worker k => exact moveWorker_within k budget
  | timer serial => exact moveTimer_within serial

theorem stop_within : Within s s.stop := by
  let timers (task : Task) : Bool := task.pool == s.number && task.member.isTimer
  let later : Shift J W :=
    { s.setPool s.crew.pool.stop with agenda := s.agenda.interrupt timers }
  have hlater : Within s later := ⟨rfl, fun n hn => Agenda.own_interrupt fun task htask heq =>
    hn (heq.symm.trans (beq_iff_eq.mp ((Bool.and_eq_true _ _).mp htask).1))⟩
  exact hlater.trans (awakenListener_within (s := later))

end Shift

/-! ## What happens to a timetable -/

namespace Timetable

variable {t t' r : Timetable J W} {k n : Nat}

/-- A crew of a timetable, with what it works on. -/
def shift (t : Timetable J W) (n : Nat) (crew : Crew J) : Shift J W :=
  { number := n, crew, agenda := t.agenda, world := t.world }

/-- There are no tasks of pools that are not there. -/
def Tidy (t : Timetable J W) : Prop := ∀ n, t.crews.length ≤ n → t.agenda.own n = {}

/-- **What happens to a timetable** is a course of each of its crews. -/
structure Along (w : Workload J W) (t t' : Timetable J W) : Prop where
  course : ∀ n crew, t.crews[n]? = some crew →
    ∃ crew', t'.crews[n]? = some crew' ∧ (t.shift n crew).Course w (t'.shift n crew')
  tidy : t.Tidy → t'.Tidy

theorem Along.refl (t : Timetable J W) : Along w t t := ⟨fun _ crew h => ⟨crew, h, .refl⟩, id⟩

theorem Along.trans (htt' : Along w t t') (hr : Along w t' r) : Along w t r where
  course n crew h := by
    obtain ⟨crew', h', hcourse⟩ := htt'.course n crew h
    obtain ⟨crew'', h'', hcourse'⟩ := hr.course n crew' h'
    exact ⟨crew'', h'', hcourse.trans hcourse'⟩
  tidy h := hr.tidy (htt'.tidy h)

theorem lt_of_getElem? {crew : Crew J} (h : t.crews[n]? = some crew) : n < t.crews.length :=
  (List.getElem?_eq_some_iff.mp h).1

/-- **One crew does something**, and the others go on. -/
theorem along_set {crew : Crew J} {s : Shift J W} (h : t.crews[k]? = some crew)
    (hcourse : (t.shift k crew).Course w s) (hwithin : (t.shift k crew).Within s) :
    Along w t { t with crews := t.crews.set k s.crew, agenda := s.agenda, world := s.world } where
  course n other hn := by
    by_cases hk : k = n
    · subst hk
      obtain rfl : other = crew := Option.some.inj (hn.symm.trans h)
      have hlt := lt_of_getElem? h
      refine ⟨s.crew, by simp [hlt], ?_⟩
      obtain ⟨number, crew, agenda, world⟩ := s
      obtain rfl : number = k := hwithin.same
      exact hcourse
    · refine ⟨other, by simpa [hk] using hn, .single (.others s.agenda s.world ?_)⟩
      exact hwithin.others n (Ne.symm hk)
  tidy htidy n hn := by
    have hn : t.crews.length ≤ n := by simpa using hn
    have hlt := lt_of_getElem? h
    exact (hwithin.others n (by show n ≠ k; omega)).trans (htidy n hn)

theorem along_onPool {α : Type} {default : α} {f : Shift J W → α × Shift J W}
    (h : ∀ s : Shift J W, s.Course w (f s).2 ∧ s.Within (f s).2) :
    Along w t (t.onPool k default f).2 := by
  rw [onPool]
  split
  · exact .refl t
  · rename_i crew hcrew
    obtain ⟨hcourse, hwithin⟩ := h (t.shift k crew)
    exact along_set hcrew hcourse hwithin

theorem along_enqueue (id : String) (job : J) : Along w t (t.enqueue w k id job).2 :=
  along_onPool fun _ => ⟨.single (.enqueue id job), Shift.enqueue_within id job⟩

theorem along_stop : Along w t (t.stop k) :=
  along_onPool (f := fun s => ((), s.stop)) fun _ => ⟨.single .stop, Shift.stop_within⟩

/-- Others take tasks off the agenda or change the world, and bring no tasks of pools that are not
there. -/
theorem along_of_own {agenda : Agenda Task} {world : W}
    (h : ∀ n crew, t.crews[n]? = some crew → agenda.own n = t.agenda.own n)
    (tidy : ∀ n, t.crews.length ≤ n → t.agenda.own n = {} → agenda.own n = {}) :
    Along w t { t with agenda, world } where
  course n crew hn := ⟨crew, hn, .single (.others agenda world (h n crew hn))⟩
  tidy htidy n hn := tidy n hn (htidy n hn)

/-- A task that is moved stood at the front of the line. -/
theorem along_move {task : Task} {ready : List Task} (hready : t.agenda.ready = task :: ready) :
    Along w t ({ t with agenda := { t.agenda with ready } }.move w task) := by
  obtain ⟨number, member⟩ := task
  rw [move, onPool]
  split
  · rename_i hnone
    refine along_of_own (fun n crew hn => ?_) fun n _ hown => ?_
    · refine Agenda.own_ready hready ?_
      rintro rfl
      exact nomatch hnone.symm.trans hn
    · rw [Agenda.own_eq_nil] at hown ⊢
      exact ⟨fun task htask => hown.1 task (hready ▸ List.mem_cons_of_mem _ htask), hown.2⟩
  · rename_i crew hcrew
    let popped : Shift J W := ⟨number, crew, { t.agenda with ready }, t.world⟩
    have hpopped : (t.shift number crew).Within popped :=
      ⟨rfl, fun n hn => Agenda.own_ready hready (Ne.symm hn)⟩
    have hcourse : (t.shift number crew).Course w (popped.move w member) := by
      cases member with
      | worker k => exact .single (.worker [] ready k 127 hready)
      | timer serial => exact .single (.timer [] ready serial hready)
    exact along_set hcrew hcourse (hpopped.trans (Shift.move_within member))

theorem along_moveSome (moves : Nat) : Along w t (moveSome w moves t) := by
  induction moves generalizing t with
  | zero => exact .refl t
  | succ moves ih =>
    rw [moveSome]
    split
    · exact .refl t
    · rename_i task ready hready
      exact (along_move hready).trans ih

/-- The tasks that stand aside come back. -/
theorem along_comeBack : Along w t { t with agenda := t.agenda.comeBack } where
  course n crew hn := ⟨crew, hn, .single .comeBack⟩
  tidy htidy n hn := by
    obtain ⟨hready, haside, halarms⟩ := Agenda.own_eq_nil.mp (htidy n hn)
    refine Agenda.own_eq_nil.mpr ⟨fun task htask => ?_, nofun, halarms⟩
    rcases List.mem_append.mp htask with htask | htask
    · exact hready task htask
    · exact haside task (List.mem_reverse.mp htask)

theorem along_round : Along w t (t.round w) := (along_moveSome movesOfRound).trans along_comeBack

theorem along_settleIn (rounds : Nat) : Along w t (settleIn w rounds t) := by
  induction rounds generalizing t with
  | zero => exact .refl t
  | succ rounds ih =>
    rw [settleIn]
    split
    · exact .refl t
    · exact along_round.trans ih

/-- Time goes on for all crews. -/
theorem along_moveTo (time : Nat) : Along w t (t.moveTo time) where
  course n crew hn :=
    ⟨{ crew with pool := crew.pool.tick (time - crew.pool.now) }, by simp [moveTo, hn],
      .single (.tick (time - crew.pool.now) time)⟩
  tidy htidy n hn := by
    have hn : t.crews.length ≤ n := by simpa [moveTo] using hn
    obtain ⟨hready, haside, halarms⟩ := Agenda.own_eq_nil.mp (htidy n hn)
    simp only [moveTo, Agenda.ring, List.partition_eq_filter_filter, Agenda.own_eq_nil]
    refine ⟨fun task htask => ?_, haside, fun alarm h => halarms alarm (List.mem_filter.mp h).1⟩
    rcases List.mem_append.mp htask with htask | htask
    · exact hready task htask
    · obtain ⟨alarm, halarm, rfl⟩ := List.mem_map.mp htask
      exact halarms alarm (List.mem_filter.mp halarm).1

theorem along_goOn (target : Nat) (enough : Timetable J W → Bool) (fuel : Nat) :
    Along w t (goOn w target enough fuel t) := by
  induction fuel generalizing t with
  | zero => exact .refl t
  | succ fuel ih =>
    rw [goOn]
    split
    · exact .refl t
    · split
      · split
        · rename_i time _
          split
          · exact (along_moveTo time).trans ih
          · exact along_moveTo target
        · exact along_moveTo target
      · exact along_round.trans ih

theorem along_pass (ms : Nat) : Along w t (t.pass w ms) := by
  rw [pass]
  split
  · exact .refl t
  · exact along_goOn _ _ _

theorem along_advance (ms : Nat) : Along w t (t.advance w ms) :=
  (along_pass ms).trans (along_settleIn fuel)

theorem along_join (limit : Nat) : Along w t (t.join w k limit).2 := by
  have hjoined : Along w t (t.onPool k true fun s =>
      (s.crew.joined, { s with crew := { s.crew with joined := true } })).2 :=
    along_onPool fun s => ⟨.single .join, .refl s⟩
  rw [join]
  dsimp only
  split
  · exact hjoined
  · exact hjoined.trans (along_goOn _ _ _)

/-- Another pool is added. -/
theorem along_addPool (p : Pool J) : Along w t (t.addPool p).2 := by
  have hother : ∀ n, n ≠ t.crews.length → (t.addPool p).2.agenda.own n = t.agenda.own n := by
    refine fun n hn => Agenda.own_add_of_ne fun task htask => ?_
    obtain ⟨k, -, rfl⟩ := List.mem_map.mp htask
    exact Ne.symm hn
  refine ⟨fun n crew hn => ⟨crew, ?_, .single (.others _ _ (hother n ?_))⟩, fun htidy n hn => ?_⟩
  · exact (List.getElem?_append_left (lt_of_getElem? hn)).trans hn
  · exact (lt_of_getElem? hn).ne
  · have hn : t.crews.length + 1 ≤ n := by simpa [addPool] using hn
    exact (hother n (by omega)).trans (htidy n (by omega))

/-- What is done to a timetable. -/
inductive Does (w : Workload J W) (t : Timetable J W) : Timetable J W → Prop where
  | addPool (p : Pool J) : Does w t (t.addPool p).2
  | enqueue (number : Nat) (id : String) (job : J) : Does w t (t.enqueue w number id job).2
  | stop (number : Nat) : Does w t (t.stop number)
  | pass (ms : Nat) : Does w t (t.pass w ms)
  | advance (ms : Nat) : Does w t (t.advance w ms)
  | join (number limit : Nat) : Does w t (t.join w number limit).2
  /-- Somebody else changes the world. -/
  | change (world : W) : Does w t { t with world }

theorem Does.along (h : Does w t t') : Along w t t' := by
  cases h with
  | addPool p => exact along_addPool p
  | enqueue number id job => exact along_enqueue id job
  | stop number => exact along_stop
  | pass ms => exact along_pass ms
  | advance ms => exact along_advance ms
  | join number limit => exact along_join limit
  | change world => exact along_of_own (fun _ _ _ => rfl) fun _ _ hown => hown

theorem along_of_does (h : Relation.ReflTransGen (Does w) t t') : Along w t t' := by
  induction h with
  | refl => exact .refl t
  | tail _ hdoes ih => exact ih.trans hdoes.along

/-- **The workers of a pool attend to its queue** when it is added to a timetable, whatever was
done to that before and is done to it later. -/
theorem attends_of_addPool {workers : Nat} {backoff : Backoff} {p : Pool J} {world : W}
    (hstart : startPool workers backoff = .ok p)
    (hbefore : Relation.ReflTransGen (Does w) { world } t)
    (hafter : Relation.ReflTransGen (Does w) (t.addPool p).2 t') :
    ∃ crew, t'.crews[t.crews.length]? = some crew ∧
      crew.Attends w workers { p with sleep, now := t.now } t.crews.length t'.agenda := by
  have htidy : t.Tidy := (along_of_does hbefore).tidy fun _ _ => rfl
  obtain ⟨crew, hcrew, hcourse⟩ := (along_of_does hafter).course t.crews.length
    { pool := { p with sleep, now := t.now } } (by simp [addPool])
  refine ⟨crew, hcrew, hcourse.attends hstart ⟨rfl, ?_⟩⟩
  have hworkers : ((List.range p.idle).map fun k => (⟨t.crews.length, .worker k⟩ : Task)).filter
      (fun task => task.pool == t.crews.length) =
        (List.range p.idle).map fun k => ⟨t.crews.length, .worker k⟩ := by
    simp
  show (t.agenda.add _).own t.crews.length = _
  rw [Agenda.own_add, htidy _ (Nat.le_refl _), hworkers]
  rfl

end Timetable

end ClusterOperator.Watchdog
