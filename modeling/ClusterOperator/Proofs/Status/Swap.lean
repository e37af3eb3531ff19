import ClusterOperator.Proofs.Status.Cell

/-!
# Compare and swap

What those see of a versioned status who load and store it, one operation after another,
while others change the object around it.  A load gives the status that the last successful
store was given; a store at the version of a load succeeds exactly if nothing was changed in
between, and conflicts otherwise (`ComparesAndSwaps`).

This is so if every operation does to a cell what it should (`StatusCell.Does`): no version
comes twice, so a version that is still there tells that nothing was changed.  To those who use the
gateway the operations look as if they were answered by its versioned cell (`Course.served`).
-/

namespace ClusterOperator

/-- What happens to a stored status, with what was answered. -/
inductive StatusEvent where
  | load (reply : Except Failure Snapshot)
  | store (status : Status) (version : Option String) (reply : Except StoreFault Unit)
  /-- Somebody else changes the object, but not its status. -/
  | edit

namespace StatusEvent

/-- The status that an event leaves. -/
def leaves (s : Status) : StatusEvent → Status
  | .store status _ (.ok _) => status
  | _ => s

/-- Whether an event gives the object another version. -/
def changes : StatusEvent → Bool
  | .store _ _ (.ok _) => true
  | .edit => true
  | _ => false

/-- What an event is to those who use the gateway. -/
def exchange? (name : String) : StatusEvent → Option (Exchange gateway)
  | .load reply => some ⟨.loadStatus name, reply⟩
  | .store status version reply => some ⟨.storeStatus name status version, reply⟩
  | .edit => none

/-- The status that was last stored, or the first one. -/
def lastStored (first : Status) (events : List StatusEvent) : Status := events.foldl leaves first

end StatusEvent

open StatusEvent (lastStored)

/-- **Loads and stores compare and swap** the whole status.  What goes wrong for another reason
than a conflict only does so where it may. -/
structure ComparesAndSwaps (name : String) (mayFail : Prop) (first : Status)
    (events : List StatusEvent) : Prop where
  /-- A load gives exactly what the last successful store was given. -/
  load : ∀ before reply after, events = before ++ .load reply :: after →
    (∃ snapshot, reply = .ok snapshot ∧ snapshot.status = lastStored first before) ∨
      ((∃ e, reply = .error e) ∧ mayFail)
  /-- A store at the version of a load succeeds exactly if nothing was changed since. -/
  store : ∀ before snapshot between status reply after,
    events = before ++ .load (.ok snapshot) ::
      (between ++ .store status snapshot.version reply :: after) →
    (reply = .ok () ∧ between.any StatusEvent.changes = false) ∨
      (reply = .error (.conflict name) ∧ between.any StatusEvent.changes = true) ∨
      ((∃ e, reply = .error (.other e)) ∧ mayFail)

namespace StatusCell

/-- **What an event does to the cell.**  A store without a version goes through always. -/
inductive Does (name : String) (mayFail : Prop) : StatusCell → StatusEvent → StatusCell → Prop where
  | loaded (c : StatusCell) (readAt : Instant) :
      Does name mayFail c (.load (.ok ⟨c.status, c.version, readAt⟩)) c
  | loadFailed (c : StatusCell) (e : Failure) : mayFail → Does name mayFail c (.load (.error e)) c
  | stored (c : StatusCell) (status : Status) (version : Option String) (fresh : String) :
      version = none ∨ version = c.version → some fresh ∉ c.version :: c.past →
      Does name mayFail c (.store status version (.ok ()))
        ⟨status, some fresh, c.version :: c.past⟩
  | conflicted (c : StatusCell) (status : Status) (version : Option String) :
      version ≠ none → version ≠ c.version →
      Does name mayFail c (.store status version (.error (.conflict name))) c
  | storeFailed (c : StatusCell) (status : Status) (version : Option String) (e : Failure) :
      mayFail → Does name mayFail c (.store status version (.error (.other e))) c
  | edited (c : StatusCell) (fresh : String) : some fresh ∉ c.version :: c.past →
      Does name mayFail c .edit ⟨c.status, some fresh, c.version :: c.past⟩

/-- Events, one after another. -/
inductive Course (name : String) (mayFail : Prop) :
    StatusCell → List StatusEvent → StatusCell → Prop where
  | nil (c : StatusCell) : Course name mayFail c [] c
  | cons {c d e : StatusCell} {x : StatusEvent} {xs : List StatusEvent} :
      Does name mayFail c x d → Course name mayFail d xs e → Course name mayFail c (x :: xs) e

/-- The cell has a version, and not one that it had before. -/
structure Versioned (c : StatusCell) : Prop where
  isSome : c.version ≠ none
  fresh : c.version ∉ c.past

variable {name : String} {mayFail : Prop} {c d e : StatusCell} {x : StatusEvent}
  {xs ys : List StatusEvent}

/-! ## One event -/

theorem Does.versioned (h : Does name mayFail c x d) (hc : c.Versioned) : d.Versioned := by
  cases h with
  | stored _ _ _ _ hfresh | edited _ hfresh => exact ⟨nofun, hfresh⟩
  | loaded | loadFailed | conflicted | storeFailed => exact hc

theorem Does.status (h : Does name mayFail c x d) : d.status = x.leaves c.status := by
  cases h <;> rfl

/-- An event that changes nothing leaves the cell alone; any other one gives it another
version. -/
theorem Does.version (h : Does name mayFail c x d) :
    (x.changes = false ∧ d = c) ∨ (x.changes = true ∧ d.past = c.version :: c.past) := by
  cases h with
  | stored | edited => exact .inr ⟨rfl, rfl⟩
  | loaded | loadFailed | conflicted | storeFailed => exact .inl ⟨rfl, rfl⟩

/-- A load does what the world of the gateway has it do. -/
theorem Does.answers_load {reply : Except Failure Snapshot}
    (h : Does name mayFail c (.load reply) d) : Answers name c ⟨.loadStatus name, reply⟩ d := by
  cases h with
  | loaded readAt => exact .load c readAt
  | loadFailed e => exact .loadFails c e

/-- So does a store, at any version that was ever loaded. -/
theorem Does.answers_store {status : Status} {version : Option String}
    {reply : Except StoreFault Unit} (h : Does name mayFail c (.store status version reply) d)
    (hversion : version ≠ none) : Answers name c ⟨.storeStatus name status version, reply⟩ d := by
  cases h with
  | stored _ _ fresh hgiven hfresh =>
    obtain rfl := hgiven.resolve_left hversion
    exact .store c status (some fresh) hfresh
  | conflicted | storeFailed => exact .storeFails c status version _

/-! ## A course of events -/

namespace Course

/-- **Loads and stores look as if the cell of the gateway answered them**, as long as nobody else
changes the object and every store is made at a version. -/
theorem served (h : Course name mayFail c xs d) (unedited : .edit ∉ xs)
    (versioned : ∀ status version reply, .store status version reply ∈ xs → version ≠ none) :
    Served (Answers name) c (xs.filterMap (StatusEvent.exchange? name)) d := by
  induction h with
  | nil => exact .nil _
  | @cons _ _ _ x _ hx _ ih =>
    have hrest := ih (fun hmem => unedited (List.mem_cons_of_mem _ hmem))
      fun _ _ _ hmem => versioned _ _ _ (List.mem_cons_of_mem _ hmem)
    cases x with
    | load reply => exact .cons hx.answers_load hrest
    | store status version reply =>
      exact .cons (hx.answers_store (versioned _ _ _ List.mem_cons_self)) hrest
    | edit => exact absurd List.mem_cons_self unedited

theorem append_iff : Course name mayFail c (xs ++ ys) e ↔
    ∃ d, Course name mayFail c xs d ∧ Course name mayFail d ys e := by
  induction xs generalizing c with
  | nil =>
    constructor
    · intro h; exact ⟨c, .nil c, h⟩
    · rintro ⟨_, ⟨⟩, h⟩; exact h
  | cons x xs ih =>
    constructor
    · rintro (_ | ⟨hx, hrest⟩)
      obtain ⟨d, hxs, hys⟩ := ih.mp hrest
      exact ⟨d, .cons hx hxs, hys⟩
    · rintro ⟨d, _ | ⟨hx, hxs⟩, hys⟩
      exact .cons hx (ih.mpr ⟨d, hxs, hys⟩)

theorem cons_iff : Course name mayFail c (x :: xs) e ↔
    ∃ d, Does name mayFail c x d ∧ Course name mayFail d xs e := by
  constructor
  · rintro (_ | ⟨hx, hxs⟩); exact ⟨_, hx, hxs⟩
  · rintro ⟨d, hx, hxs⟩; exact .cons hx hxs

theorem versioned (h : Course name mayFail c xs d) (hc : c.Versioned) : d.Versioned := by
  induction h with
  | nil => exact hc
  | cons hx _ ih => exact ih (hx.versioned hc)

/-- The cell holds what was last stored. -/
theorem status (h : Course name mayFail c xs d) : d.status = lastStored c.status xs := by
  induction h with
  | nil => rfl
  | cons hx _ ih => rw [ih, hx.status]; rfl

/-- Once another version is there, the first one is past for good. -/
theorem past (h : Course name mayFail c xs d) :
    (∀ v ∈ c.past, v ∈ d.past) ∧
      (xs.any StatusEvent.changes = true → c.version ∈ d.past) := by
  induction h with
  | nil => exact ⟨fun _ hv => hv, nofun⟩
  | cons hx _ ih =>
    rw [List.any_cons]
    rcases hx.version with ⟨hunchanged, rfl⟩ | ⟨-, hpast⟩
    · rw [hunchanged, Bool.false_or]
      exact ih
    · rw [hpast] at ih
      exact ⟨fun v hv => ih.1 v (List.mem_cons_of_mem _ hv),
        fun _ => ih.1 _ List.mem_cons_self⟩

theorem eq_of_unchanged (h : Course name mayFail c xs d)
    (hxs : xs.any StatusEvent.changes = false) : d = c := by
  induction h with
  | nil => rfl
  | cons hx _ ih =>
    rw [List.any_cons, Bool.or_eq_false_iff] at hxs
    rcases hx.version with ⟨-, rfl⟩ | ⟨hchanged, -⟩
    · exact ih hxs.2
    · rw [hxs.1] at hchanged
      cases hchanged

/-- **The version tells whether anything was changed.** -/
theorem version_eq_iff (h : Course name mayFail c xs d) (hc : c.Versioned) :
    d.version = c.version ↔ xs.any StatusEvent.changes = false := by
  cases hany : xs.any StatusEvent.changes with
  | false => exact iff_of_true (congrArg StatusCell.version (h.eq_of_unchanged hany)) rfl
  | true =>
    have hpast := h.past.2 hany
    have hfresh := (h.versioned hc).fresh
    exact iff_of_false (fun heq => hfresh (heq ▸ hpast)) nofun

/-- **A course of events compares and swaps.** -/
theorem comparesAndSwaps (h : Course name mayFail c xs d) (hc : c.Versioned) :
    ComparesAndSwaps name mayFail c.status xs where
  load before reply after hxs := by
    rw [hxs] at h
    obtain ⟨u, hbefore, hrest⟩ := append_iff.mp h
    obtain ⟨_, hload, -⟩ := cons_iff.mp hrest
    cases hload with
    | loaded readAt => exact .inl ⟨_, rfl, hbefore.status⟩
    | loadFailed e hmay => exact .inr ⟨⟨e, rfl⟩, hmay⟩
  store before snapshot between status reply after hxs := by
    rw [hxs] at h
    obtain ⟨u, hbefore, hrest⟩ := append_iff.mp h
    obtain ⟨_, hload, hrest⟩ := cons_iff.mp hrest
    obtain ⟨v, hbetween, hrest⟩ := append_iff.mp hrest
    obtain ⟨_, hstore, -⟩ := cons_iff.mp hrest
    have hu := hbefore.versioned hc
    cases hload with
    | loaded readAt =>
      have hversion := hbetween.version_eq_iff hu
      dsimp only at hstore
      cases hstore with
      | stored _ _ _ hgiven _ =>
        have heq : u.version = v.version := hgiven.resolve_left hu.isSome
        exact .inl ⟨rfl, hversion.mp heq.symm⟩
      | conflicted _ _ _ hstale =>
        refine .inr (.inl ⟨rfl, ?_⟩)
        rw [← Bool.not_eq_false]
        exact fun hunchanged => hstale (hversion.mpr hunchanged).symm
      | storeFailed _ _ e hmay => exact .inr (.inr ⟨⟨e, rfl⟩, hmay⟩)

end Course

end StatusCell

end ClusterOperator
