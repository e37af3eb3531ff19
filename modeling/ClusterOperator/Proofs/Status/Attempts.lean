import ClusterOperator.Proofs.Binary64.Product
import ClusterOperator.Proofs.Status.Update
import ClusterOperator.Rehearsal.World

/-!
# The attempts of an update

An update is a list of attempts, whatever the store does.  Each of them reads the status anew
and gives the store what the mutation makes of that very reading, at the version of that very
reading; all but the last one conflicted (`GoesByAttempts`).

With a limit on the attempts, the update answers what its last attempt came to, or that it
conflicted until the limit was reached (`Decides`).  Only where a pause is due that has no length
the attempts break off before the limit (`BreaksOff`, `not_always_conflicting`); a backoff whose
pauses have a length whatever factor is drawn never does.
-/

namespace ClusterOperator

namespace Gateway.Request

theorem status?_of_isLoad {q : Gateway.Request} (h : q.isLoad = true) :
    q.status?.isSome = true := by
  cases q with
  | loadStatus => rfl
  | _ => cases h

theorem status?_of_isStore {q : Gateway.Request} (h : q.isStore = true) :
    q.status?.isSome = true := by
  cases q with
  | storeStatus => rfl
  | _ => cases h

end Gateway.Request

/-- What the store itself fails with in an exchange, conflicts apart. -/
def Exchange.storeFailure? : Exchange gateway → Option Failure
  | ⟨.loadStatus _, .error e⟩ => some e
  | ⟨.storeStatus _ _ _, .error (.other e)⟩ => some e
  | _ => none

/-- Only reading and writing a status can fail so. -/
theorem Exchange.status?_of_storeFailure {x : Exchange gateway} {e : Failure}
    (h : x.storeFailure? = some e) : x.request.status?.isSome = true := by
  obtain ⟨request, reply⟩ := x
  cases request with
  | loadStatus | storeStatus => rfl
  | _ => cases h

namespace StatusStore

/-- **How one attempt at an update goes.** -/
inductive Attempt where
  /-- The status cannot be read. -/
  | unread (e : Failure)
  /-- There is nothing to change in what was read. -/
  | unchanged (read : Snapshot)
  /-- What the mutation made of what was read is given to the store. -/
  | stored (read : Snapshot) (reply : Except StoreFault Unit)

namespace Attempt

variable {name : String} {mutate : Mutation} {a : Attempt} {x : Exchange gateway} {e : Failure}

/-- The attempt writes exactly if the mutation changes what was read. -/
def Fits (mutate : Mutation) : Attempt → Prop
  | .unread _ => True
  | .unchanged s => (mutate s.readAt s.status).1 = false
  | .stored s _ => (mutate s.readAt s.status).1 = true

/-- What is exchanged in an attempt: what is written is made of what was read just before, and
written at its version. -/
def exchanges (name : String) (mutate : Mutation) : Attempt → List (Exchange gateway)
  | .unread e => [⟨.loadStatus name, .error e⟩]
  | .unchanged s => [⟨.loadStatus name, .ok s⟩]
  | .stored s reply =>
    [⟨.loadStatus name, .ok s⟩,
      ⟨.storeStatus name (mutate s.readAt s.status).2 s.version, reply⟩]

/-- What an attempt comes to. -/
def result : Attempt → Except StoreFault Bool
  | .unread e => .error (.other e)
  | .unchanged _ => .ok false
  | .stored _ reply => reply.map fun _ => true

/-- The answer of an update that ends with this attempt; none if the attempt conflicted. -/
def answer? : Attempt → Option (Except Failure Bool)
  | .unread e => some (.error e)
  | .unchanged _ => some (.ok false)
  | .stored _ (.ok ()) => some (.ok true)
  | .stored _ (.error (.other e)) => some (.error e)
  | .stored _ (.error (.conflict _)) => none

theorem answer?_eq_none_iff : a.answer? = none ↔ ∃ n, a.result = .error (.conflict n) := by
  rcases a with e | s | ⟨s, (⟨n⟩ | e) | ⟨⟩⟩ <;> simp [answer?, result, Except.map]

theorem answer?_of_error (h : a.result = .error (.other e)) : a.answer? = some (.error e) := by
  rcases a with e | s | ⟨s, (⟨n⟩ | e) | ⟨⟩⟩ <;> cases h <;> rfl

/-- The attempt as one of a repetition. -/
def made (name : String) (mutate : Mutation) (a : Attempt) :
    Retry.Attempt gateway StoreFault Bool :=
  ⟨a.exchanges name mutate, a.result⟩

/-- An attempt that did not conflict gives the update its answer. -/
theorem outcome_of_answer {retry : Backoff} {answer : Except Failure Bool}
    (h : a.answer? = some answer) :
    outcome name retry (Retry.endingOf a.result) = answer := by
  rcases a with e | s | ⟨s, (⟨n⟩ | e) | ⟨⟩⟩ <;> cases h <;> rfl

theorem outcome_of_conflict {retry : Backoff} (h : a.answer? = none) :
    outcome name retry (Retry.endingOf a.result) =
      .error (.statusConflict name retry.maxAttempts) := by
  obtain ⟨n, hn⟩ := answer?_eq_none_iff.mp h
  rw [hn]
  rfl

/-- In an attempt that conflicted the store does not fail otherwise. -/
theorem storeFailure?_of_conflict (h : a.answer? = none) (hx : x ∈ a.exchanges name mutate) :
    x.storeFailure? = none := by
  rcases a with e | s | ⟨s, (⟨n⟩ | e) | ⟨⟩⟩ <;> cases h
  simp only [exchanges, List.mem_cons, List.not_mem_nil, or_false] at hx
  rcases hx with rfl | rfl <;> rfl

/-- A failure that an update answers because of an attempt is one of the store. -/
theorem exists_storeFailure (h : a.answer? = some (.error e)) :
    ∃ x ∈ a.exchanges name mutate, x.storeFailure? = some e := by
  rcases a with e | s | ⟨s, (⟨n⟩ | e) | ⟨⟩⟩ <;> cases h
  · exact ⟨_, List.mem_cons_self, rfl⟩
  · exact ⟨_, List.mem_cons_of_mem _ List.mem_cons_self, rfl⟩

/-- An attempt is about a status. -/
theorem status?_isSome (hx : x ∈ a.exchanges name mutate) : x.request.status?.isSome = true := by
  rcases a with e | s | ⟨s, reply⟩ <;>
    simp only [exchanges, List.mem_cons, List.not_mem_nil, or_false] at hx
  · rw [hx]; rfl
  · rw [hx]; rfl
  · rcases hx with rfl | rfl <;> rfl

theorem countP_isLoad : (a.exchanges name mutate).countP (·.request.isLoad) = 1 := by
  cases a <;> rfl

theorem countP_isStore : (a.exchanges name mutate).countP (·.request.isStore) ≤ 1 := by
  cases a <;> simp [exchanges, Gateway.Request.isStore]

end Attempt

variable {name : String} {mutate : Mutation} {retry : Backoff} {xs : List (Exchange gateway)}
  {r : Except Failure Bool} {attempts : List Attempt}

theorem tryUpdate_attempt_iff {r : Except StoreFault Bool} :
    (gatewayStore.tryUpdate name mutate).Transcript xs r ↔
      ∃ a : Attempt, a.Fits mutate ∧ xs = a.exchanges name mutate ∧ r = a.result := by
  rw [tryUpdate_transcript_iff]
  constructor
  · rintro (⟨e, rfl, rfl⟩ | ⟨s, unchanged, rfl, rfl⟩ | ⟨s, written, changed, rfl, rfl⟩)
    · exact ⟨.unread e, trivial, rfl, rfl⟩
    · exact ⟨.unchanged s, unchanged, rfl, rfl⟩
    · exact ⟨.stored s written, changed, rfl, rfl⟩
  · rintro ⟨e | s | ⟨s, written⟩, hfits, rfl, rfl⟩
    · exact .inl ⟨e, rfl, rfl⟩
    · exact .inr (.inl ⟨s, hfits, rfl, rfl⟩)
    · exact .inr (.inr ⟨s, written, hfits, rfl, rfl⟩)

/-- Requests about a status are among those about statuses. -/
theorem countP_filter_status {kind : Gateway.Request → Bool}
    (hkind : ∀ q, kind q = true → q.status?.isSome = true) :
    xs.countP (kind ·.request) =
      (xs.filter fun x => x.request.status?.isSome).countP (kind ·.request) := by
  rw [List.countP_filter]
  refine List.countP_congr fun x _ => ?_
  simp only [Bool.and_eq_true]
  exact ⟨fun h => ⟨h, hkind _ h⟩, And.left⟩

/-- What every attempt asks for at most once is asked for at most as often as there are
attempts. -/
theorem countP_flatMap_le {kind : Exchange gateway → Bool} (attempts : List Attempt)
    (once : ∀ a : Attempt, (a.exchanges name mutate).countP kind ≤ 1) :
    (attempts.flatMap (Attempt.exchanges name mutate)).countP kind ≤ attempts.length := by
  induction attempts with
  | nil => exact Nat.le_refl 0
  | cons a attempts ih =>
    rw [List.flatMap_cons, List.countP_append, List.length_cons]
    have hfirst := once a
    omega

/-! ## What an update ends with -/

/-- **The last attempt decides**: the update answers what it came to; or that it conflicted, if
that one conflicted too, and then it was the last one allowed. -/
structure Decides (name : String) (retry : Backoff) (made : Nat) (r : Except Failure Bool)
    (last : Attempt) : Prop where
  answer : ∀ answer, last.answer? = some answer → r = answer
  conflict : last.answer? = none →
    made = retry.maxAttempts ∧ r = .error (.statusConflict name retry.maxAttempts)

/-- **An update breaks off after so many attempts**, fewer than are allowed, as there is no length
for the pause that is due: the backoff has none, or none times the factor that was drawn last. -/
def BreaksOff (retry : Backoff) (made : Nat) (xs : List (Exchange gateway))
    (r : Except Failure Bool) : Prop :=
  made < retry.maxAttempts ∧ ∃ fault : Duration.Fault,
    r = .error (.internal "update_status" fault.message) ∧
      (retry.pause made = .error fault ∨
        ∃ d jitter, retry.pause made = .ok d ∧ d.stretch jitter = .error fault ∧
          [⟨.draw, jitter⟩] <:+ xs)

theorem BreaksOff.not_pacedWithin {made : Nat} (h : BreaksOff retry made xs r) (hmade : 1 ≤ made) :
    ¬retry.PacedWithin := by
  intro paced
  obtain ⟨hleft, fault, -, hfault⟩ := h
  have unstretched : ∃ jitter, retry.stretchedPause made jitter = .error fault := by
    rcases hfault with hpause | ⟨d, jitter, hd, hstretch, -⟩
    · exact ⟨default, Backoff.stretchedPause_eq_error_iff.mpr (.inl hpause)⟩
    · exact ⟨jitter, Backoff.stretchedPause_eq_error_iff.mpr (.inr ⟨d, hd, hstretch⟩)⟩
  obtain ⟨jitter, hjitter⟩ := unstretched
  obtain ⟨length, hlength⟩ := paced made hmade hleft jitter
  rw [hjitter] at hlength
  cases hlength

/-! ## The repetition of an attempt -/

/-- An update is the repetition of these attempts. -/
structure Repeats (name : String) (retry : Backoff) (mutate : Mutation) (attempts : List Attempt)
    (xs : List (Exchange gateway)) (ending : Ending StoreFault Bool) : Prop where
  fits : ∀ a ∈ attempts, a.Fits mutate
  course : Retry.Course retry StoreFault.isConflict gatewayStore.pause
    (gatewayStore.tryUpdate name mutate) (Retry.countable retry) 1
    (attempts.map (Attempt.made name mutate)) xs ending

variable {ending : Ending StoreFault Bool}

/-- Attempts of a repetition that are attempts at an update. -/
theorem exists_attempts {made : List (Retry.Attempt gateway StoreFault Bool)}
    (h : ∀ a ∈ made, (gatewayStore.tryUpdate name mutate).Transcript a.exchanges a.result) :
    ∃ attempts : List Attempt, (∀ a ∈ attempts, a.Fits mutate) ∧
      made = attempts.map (Attempt.made name mutate) := by
  induction made with
  | nil => exact ⟨[], List.forall_mem_nil _, rfl⟩
  | cons m made ih =>
    rw [List.forall_mem_cons] at h
    obtain ⟨a, hfits, hexchanges, hresult⟩ := tryUpdate_attempt_iff.mp h.1
    obtain ⟨attempts, hrest, rfl⟩ := ih h.2
    refine ⟨a :: attempts, List.forall_mem_cons.mpr ⟨hfits, hrest⟩, ?_⟩
    rw [List.map_cons, Attempt.made, ← hexchanges, ← hresult]

theorem repeats_of_transcript (h : (gatewayStore.update name retry mutate).Transcript xs r) :
    ∃ attempts ending, Repeats name retry mutate attempts xs ending ∧
      r = outcome name retry ending := by
  obtain ⟨ending, hrun, rfl⟩ := Program.transcript_map_iff.mp h
  obtain ⟨made, course⟩ := Retry.attemptFrom_course hrun
  obtain ⟨attempts, fits, rfl⟩ := exists_attempts course.made
  exact ⟨attempts, ending, ⟨fits, course⟩, rfl⟩

namespace Repeats

/-- Besides pauses, an update asks for what its attempts ask for. -/
theorem asked (h : Repeats name retry mutate attempts xs ending) :
    (xs.filter fun x => x.request.status?.isSome) =
      attempts.flatMap (Attempt.exchanges name mutate) := by
  have hfilter : (xs.filter fun x => x.request.status?.isSome) =
      (attempts.map (Attempt.made name mutate)).flatMap (·.exchanges) := by
    refine h.course.filter_exchanges ?_ ?_
    · intro d ys r hpause y hy
      rw [Gateway.Request.status?_of_isWaiting (isWaiting_of_pause hpause hy)]
      rfl
    · intro ys r hattempt y hy
      obtain ⟨a, -, rfl, -⟩ := tryUpdate_attempt_iff.mp hattempt
      exact Attempt.status?_isSome hy
  rw [hfilter, List.flatMap_map]
  rfl

theorem conflicted (h : Repeats name retry mutate attempts xs ending) :
    ∀ a ∈ attempts.dropLast, a.answer? = none := by
  intro a ha
  have hmade : a.made name mutate ∈ (attempts.map (Attempt.made name mutate)).dropLast := by
    rw [← List.map_dropLast]
    exact List.mem_map_of_mem ha
  obtain ⟨e, he, hconflict⟩ := h.course.repeated _ hmade
  cases e with
  | conflict n => exact Attempt.answer?_eq_none_iff.mpr ⟨n, he⟩
  | other e => cases hconflict

/-- A limit on the attempts is a limit on what is read and on what is written. -/
theorem bounded (h : Repeats name retry mutate attempts xs ending)
    (limited : 0 < retry.maxAttempts) :
    xs.countP (·.request.isLoad) ≤ retry.maxAttempts ∧
      xs.countP (·.request.isStore) ≤ retry.maxAttempts := by
  have hlength : attempts.length ≤ retry.maxAttempts := by
    have hle := h.course.length_le
    rwa [List.length_map, Retry.countable, if_neg (Nat.ne_of_gt limited)] at hle
  rw [countP_filter_status @Gateway.Request.status?_of_isLoad,
    countP_filter_status @Gateway.Request.status?_of_isStore, h.asked]
  exact ⟨Nat.le_trans (countP_flatMap_le attempts fun _ => Nat.le_of_eq Attempt.countP_isLoad)
      hlength,
    Nat.le_trans (countP_flatMap_le attempts fun _ => Attempt.countP_isStore) hlength⟩

theorem breaksOff {made : Nat} (hmade : made < retry.maxAttempts)
    (h : Retry.BreaksOff retry gatewayStore.pause made xs ending) :
    BreaksOff retry made xs (outcome name retry ending) := by
  obtain ⟨fault, rfl, hpause | ⟨d, ys, hd, hpause, hsuffix⟩⟩ := h
  · exact ⟨hmade, fault, rfl, .inl hpause⟩
  · obtain ⟨jitter, ⟨_, hfault, rfl, ⟨⟩⟩ | ⟨_, -, -, ⟨⟩⟩⟩ := pause_transcript_iff.mp hpause
    exact ⟨hmade, fault, rfl, .inr ⟨d, jitter, hd, hfault, hsuffix⟩⟩

/-- With a limit the last attempt decides, or the update breaks off. -/
theorem answers (h : Repeats name retry mutate attempts xs ending)
    (limited : 0 < retry.maxAttempts) :
    ∃ earlier last, attempts = earlier ++ [last] ∧
      (Decides name retry attempts.length (outcome name retry ending) last ∨
        last.answer? = none ∧ BreaksOff retry attempts.length xs (outcome name retry ending)) := by
  have hsteps : Retry.countable retry = retry.maxAttempts := if_neg (Nat.ne_of_gt limited)
  obtain ⟨front, final, hmade, hends⟩ :=
    h.course.ends_with_last limited Retry.countable_pos (by omega)
  obtain ⟨earlier, rest, rfl, rfl, hrest⟩ := List.map_eq_append_iff.mp hmade
  obtain ⟨last, rfl, rfl⟩ := List.map_eq_singleton_iff.mp hrest
  have hlength : 1 + (earlier.map (Attempt.made name mutate)).length =
      (earlier ++ [last]).length := by
    rw [List.length_map, List.length_append, List.length_singleton, Nat.add_comm]
  rw [hlength] at hends
  refine ⟨earlier, last, rfl, ?_⟩
  rcases hends with ⟨rfl, hspent⟩ | ⟨hleft, ⟨e, he, hworth⟩, hbroken⟩
  · refine .inl ⟨fun answer => Attempt.outcome_of_answer, fun hconflict => ⟨?_, ?_⟩⟩
    · obtain ⟨n, hn⟩ := Attempt.answer?_eq_none_iff.mp hconflict
      exact hspent _ hn rfl
    · exact Attempt.outcome_of_conflict hconflict
  · refine .inr ⟨?_, breaksOff hleft hbroken⟩
    cases e with
    | conflict n => exact Attempt.answer?_eq_none_iff.mpr ⟨n, he⟩
    | other e => cases hworth

theorem answers_of_paced (h : Repeats name retry mutate attempts xs ending)
    (limited : 0 < retry.maxAttempts) (paced : retry.PacedWithin) :
    ∃ earlier last, attempts = earlier ++ [last] ∧
      Decides name retry attempts.length (outcome name retry ending) last := by
  obtain ⟨earlier, last, rfl, decides | ⟨-, hbroken⟩⟩ := h.answers limited
  · exact ⟨earlier, last, rfl, decides⟩
  · exact absurd paced (hbroken.not_pacedWithin (by simp))

/-- What the store fails with otherwise is a failure of an attempt. -/
theorem storeFailure?_of_mem (h : Repeats name retry mutate attempts xs ending)
    {x : Exchange gateway} (hx : x ∈ xs) {e : Failure} (hfails : x.storeFailure? = some e) :
    ∃ a ∈ attempts, a.answer? ≠ none := by
  have hmem : x ∈ attempts.flatMap (Attempt.exchanges name mutate) := by
    rw [← h.asked, List.mem_filter]
    exact ⟨hx, Exchange.status?_of_storeFailure hfails⟩
  obtain ⟨a, ha, hxa⟩ := List.mem_flatMap.mp hmem
  refine ⟨a, ha, fun hconflict => ?_⟩
  rw [Attempt.storeFailure?_of_conflict hconflict hxa] at hfails
  cases hfails

/-- A failure of an attempt, other than a conflict, is one of the store. -/
theorem exists_storeFailure (h : Repeats name retry mutate attempts xs ending) {a : Attempt}
    (ha : a ∈ attempts) {e : Failure} (hfails : a.answer? = some (.error e)) :
    ∃ x ∈ xs, x.storeFailure? = some e := by
  obtain ⟨x, hx, hxe⟩ : ∃ x ∈ a.exchanges name mutate, x.storeFailure? = some e :=
    Attempt.exists_storeFailure hfails
  have hmem : x ∈ xs.filter fun x => x.request.status?.isSome := by
    rw [h.asked]
    exact List.mem_flatMap.mpr ⟨a, ha, hx⟩
  exact ⟨x, (List.mem_filter.mp hmem).1, hxe⟩

theorem conflict_iff (h : Repeats name retry mutate attempts xs ending)
    (limited : 0 < retry.maxAttempts) :
    (outcome name retry ending = .error (.statusConflict name retry.maxAttempts) ∧
        ∀ x ∈ xs, x.storeFailure? ≠ some (.statusConflict name retry.maxAttempts)) ↔
      attempts.length = retry.maxAttempts ∧ ∀ a ∈ attempts, a.answer? = none := by
  obtain ⟨earlier, last, hattempts, hends⟩ := h.answers limited
  have hlast : last ∈ attempts := by simp [hattempts]
  constructor
  · rintro ⟨hconflict, own⟩
    rcases hends with decides | ⟨-, -, fault, hbroken, -⟩
    · have hnone : last.answer? = none := by
        refine Option.eq_none_iff_forall_ne_some.mpr fun answer hanswer => ?_
        rw [← decides.answer answer hanswer, hconflict] at hanswer
        obtain ⟨x, hx, hfails⟩ := h.exists_storeFailure hlast hanswer
        exact own x hx hfails
      refine ⟨(decides.conflict hnone).1, fun a ha => ?_⟩
      have hearlier := h.conflicted
      rw [hattempts, List.dropLast_concat] at hearlier
      rw [hattempts, List.mem_append, List.mem_singleton] at ha
      exact ha.elim (hearlier a) fun heq => heq ▸ hnone
    · rw [hconflict] at hbroken
      cases hbroken
  · rintro ⟨hlength, hall⟩
    rcases hends with decides | ⟨-, hleft, -⟩
    · refine ⟨(decides.conflict (hall last hlast)).2, fun x hx hfails => ?_⟩
      obtain ⟨a, ha, hanswer⟩ := h.storeFailure?_of_mem hx hfails
      exact hanswer (hall a ha)
    · omega

theorem unlimited (h : Repeats name retry mutate attempts xs ending)
    (unlimited : retry.maxAttempts = 0) {n : String} {k : Nat}
    (hanswer : outcome name retry ending = .error (.statusConflict n k)) :
    ∃ x ∈ xs, x.storeFailure? = some (.statusConflict n k) := by
  cases ending with
  | succeeded | unpaced | overflowed => cases hanswer
  | failed fault =>
    obtain ⟨⟨made, hmade, hresult⟩, hlimited⟩ := h.course.of_failed
    cases fault with
    | conflict => exact absurd (hlimited rfl) (by omega)
    | other e =>
      cases hanswer
      obtain ⟨a, ha, rfl⟩ := List.mem_map.mp hmade
      exact h.exists_storeFailure ha (Attempt.answer?_of_error hresult)

end Repeats

/-! ## Every update -/

/-- **An update goes by its attempts.** -/
structure GoesByAttempts (name : String) (retry : Backoff) (mutate : Mutation)
    (attempts : List Attempt) (xs : List (Exchange gateway)) (r : Except Failure Bool) : Prop where
  /-- What is read and written is what the attempts read and write, in this order. -/
  asked : (xs.filter fun x => x.request.status?.isSome) =
    attempts.flatMap (Attempt.exchanges name mutate)
  fits : ∀ a ∈ attempts, a.Fits mutate
  /-- Another attempt is made only after a conflict. -/
  conflicted : ∀ a ∈ attempts.dropLast, a.answer? = none
  bounded : 0 < retry.maxAttempts →
    xs.countP (·.request.isLoad) ≤ retry.maxAttempts ∧
      xs.countP (·.request.isStore) ≤ retry.maxAttempts
  /-- The last attempt decides, or it conflicted and there is no length for a pause. -/
  answers : 0 < retry.maxAttempts → ∃ earlier last, attempts = earlier ++ [last] ∧
    (Decides name retry attempts.length r last ∨
      last.answer? = none ∧ BreaksOff retry attempts.length xs r)
  /-- Where all pauses have a length, whatever factor is drawn, the last attempt decides. -/
  paced : 0 < retry.maxAttempts → retry.PacedWithin → ∃ earlier last,
    attempts = earlier ++ [last] ∧ Decides name retry attempts.length r last
  /-- Unless the store itself fails with it, the answer is a conflict exactly if all attempts
  that are allowed conflicted. -/
  conflict_iff : 0 < retry.maxAttempts →
    ((r = .error (.statusConflict name retry.maxAttempts) ∧
        ∀ x ∈ xs, x.storeFailure? ≠ some (.statusConflict name retry.maxAttempts)) ↔
      attempts.length = retry.maxAttempts ∧ ∀ a ∈ attempts, a.answer? = none)
  /-- Without a limit the answer is a conflict only if the store itself fails with it. -/
  unlimited : retry.maxAttempts = 0 → ∀ n k, r = .error (.statusConflict n k) →
    ∃ x ∈ xs, x.storeFailure? = some (.statusConflict n k)

theorem goesByAttempts_of_transcript
    (h : (gatewayStore.update name retry mutate).Transcript xs r) :
    ∃ attempts, GoesByAttempts name retry mutate attempts xs r := by
  obtain ⟨attempts, ending, repeats, rfl⟩ := repeats_of_transcript h
  exact ⟨attempts, repeats.asked, repeats.fits, repeats.conflicted, repeats.bounded,
    repeats.answers, repeats.answers_of_paced, repeats.conflict_iff,
    fun h _ _ => repeats.unlimited h⟩

/-- **Every update comes to an answer, and goes by its attempts**, whatever the store replies. -/
theorem update_goes_by_attempts {σ : Type}
    (serve : (q : Gateway.Request) → σ → Gateway.Reply q × σ) (s : σ) (name : String)
    (retry : Backoff) (mutate : Mutation) :
    ∃ xs attempts,
      Served (fun s x t => serve x.request s = (x.reply, t)) s xs
        ((gatewayStore.update name retry mutate).run serve s).2 ∧
      GoesByAttempts name retry mutate attempts xs
        ((gatewayStore.update name retry mutate).run serve s).1 := by
  obtain ⟨xs, htranscript, hserved⟩ :=
    Program.run_transcript serve (gatewayStore.update name retry mutate) s
  obtain ⟨attempts, goes⟩ := goesByAttempts_of_transcript htranscript
  exact ⟨xs, attempts, hserved, goes⟩

/-! ## Stores that are written by others -/

namespace Overtaken

/-- Surroundings in which somebody else writes the status first, so many times. -/
def surroundings (times : Nat) : Rehearsal :=
  .ofSurroundings
    { present := default, store := { stores := List.replicate times (.overtaken none) } }

/-- Recording that a cluster is ready, whatever its status says. -/
def setReady : Mutation := fun _ s => (true, { s with phase := .ready })

theorem statusRetry_paced : (OperatorConfig.statusRetry {}).PacedWithin := by
  refine Backoff.pacedWithin_of_short ?_
  decide +kernel

theorem written_after_two : ((surroundings 2).perform
    (gatewayStore.update "production" (OperatorConfig.statusRetry {}) setReady)).1 = .ok true := by
  rfl

/-- Whether an update answers that it conflicted. -/
def isConflict : Except Failure Bool → Bool
  | .error (.statusConflict _ _) => true
  | _ => false

end Overtaken

/-- An update that is overtaken twice: its first attempts conflict, and the last one writes. -/
theorem update_goes_by_attempts_of_overtaken :
    ∃ xs attempts earlier last,
      GoesByAttempts "production" (OperatorConfig.statusRetry {}) Overtaken.setReady attempts xs
        (.ok true) ∧
      attempts = earlier ++ [last] ∧ last.answer? = some (.ok true) := by
  obtain ⟨xs, attempts, -, goes⟩ := update_goes_by_attempts Rehearsal.serve
    (Overtaken.surroundings 2) "production" (OperatorConfig.statusRetry {}) Overtaken.setReady
  have hanswer := Overtaken.written_after_two
  rw [Rehearsal.perform] at hanswer
  rw [hanswer] at goes
  obtain ⟨earlier, last, hattempts, decides⟩ :=
    goes.paced (by decide) Overtaken.statusRetry_paced
  refine ⟨xs, attempts, earlier, last, goes, hattempts, ?_⟩
  cases hlast : last.answer? with
  | none => exact nomatch (decides.conflict hlast).2
  | some answer => rw [decides.answer answer hlast]

/-- **Conflicts are not always counted to the limit**: after the second attempt the backoff has
no length, so there is no third one. -/
theorem not_always_conflicting :
    ¬∀ (r : Rehearsal) (name : String) (retry : Backoff) (mutate : Mutation),
      0 < retry.maxAttempts → (∀ now s, (mutate now s).1 = true) → r.world.store.loads = [] →
      r.world.store.stores = List.replicate retry.maxAttempts (.overtaken none) →
      (r.perform (gatewayStore.update name retry mutate)).1 =
        .error (.statusConflict name retry.maxAttempts) := by
  intro always
  let retry : Backoff :=
    { maxAttempts := 3, initial := .ofSecs 1, longest := .ofSecs 8, multiplier := -1.0 }
  have hbroken : Overtaken.isConflict ((Overtaken.surroundings 3).perform
      (gatewayStore.update "production" retry Overtaken.setReady)).1 = false := by
    decide +kernel
  rw [always (Overtaken.surroundings 3) "production" retry Overtaken.setReady (by decide)
    (fun _ _ => rfl) rfl rfl] at hbroken
  cases hbroken

end StatusStore

end ClusterOperator
