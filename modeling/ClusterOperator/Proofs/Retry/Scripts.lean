import ClusterOperator.Proofs.Backoff
import ClusterOperator.Proofs.Retry
import Mathlib.Order.Nat
import Mathlib.Tactic.Choose

/-!
# Repeating an operation that goes by a script

What the attempts at an operation come to is laid down in a script, which the repetition does not
know, and so are the factors that are drawn for the pauses.  It ends with the first attempt that
succeeds, that fails in a way that is not worth another one, or that is the last one allowed
(`Settles`); and every attempt before has one pause behind it.

An attempt that does not settle the repetition makes one round and leaves the rest to the next one
(`scriptedFrom_run_of_not_settles`), so a repetition is as many rounds as there are such attempts
(`scriptedFrom_run_rounds`), and then the attempt that settles it, if there is one
(`attempts_go_by_script`).  Only the pauses that are made have to have a length; the first one
without is where a repetition breaks off.
-/

namespace ClusterOperator

namespace Retry

variable {ε α : Type} {b : Backoff} {worthwhile : ε → Bool} {script : Nat → Except ε α}
  {factors : Nat → Jitter} {lengths : Nat → Duration} {n steps attempt : Nat}
  {log : List (Exchange (interface ε α))}

/-! ## Scripts -/

/-- Whether a request is an attempt. -/
def Request.isAttempt : Request → Bool
  | .attempt => true
  | _ => false

/-- Whether a request is a pause. -/
def Request.isPause : Request → Bool
  | .pause _ => true
  | _ => false

/-- How many attempts were made. -/
def attemptsIn (log : List (Exchange (interface ε α))) : Nat := log.countP (·.request.isAttempt)

/-- How many pauses were made. -/
def pausesIn (log : List (Exchange (interface ε α))) : Nat := log.countP (·.request.isPause)

/-- Answers attempts by the script, whose first entry is number one, draws the factor with the
number of the attempt before, and writes down what is exchanged. -/
def playing (script : Nat → Except ε α) (factors : Nat → Jitter) (q : Request)
    (log : List (Exchange (interface ε α))) :
    (interface ε α).Reply q × List (Exchange (interface ε α)) :=
  match q with
  | .attempt =>
    let result := script (attemptsIn log + 1)
    (result, log ++ [⟨.attempt, result⟩])
  | .draw =>
    let factor := factors (attemptsIn log)
    (factor, log ++ [⟨.draw, factor⟩])
  | .pause d => ((), log ++ [⟨.pause d, ()⟩])

/-- An attempt of the script, the draw of a factor, and the pause. -/
def round (script : Nat → Except ε α) (factors : Nat → Jitter) (lengths : Nat → Duration)
    (n : Nat) : List (Exchange (interface ε α)) :=
  [⟨.attempt, script n⟩, ⟨.draw, factors n⟩, ⟨.pause (lengths n), ()⟩]

/-- So many rounds from the given attempt on. -/
def rounds (script : Nat → Except ε α) (factors : Nat → Jitter) (lengths : Nat → Duration)
    (attempt count : Nat) : List (Exchange (interface ε α)) :=
  (List.range' attempt count).flatMap (round script factors lengths)

/-- All attempts up to the given one, with one pause between any two of them. -/
def scripted (script : Nat → Except ε α) (factors : Nat → Jitter) (lengths : Nat → Duration)
    (n : Nat) : List (Exchange (interface ε α)) :=
  rounds script factors lengths 1 (n - 1) ++ [⟨.attempt, script n⟩]

/-- What is exchanged before it turns out that the pause after an attempt has no length: a factor
is drawn if the backoff has a length to be stretched. -/
def fruitless (b : Backoff) (factors : Nat → Jitter) (n : Nat) :
    List (Exchange (interface ε α)) :=
  if (b.pause n).isOk then [⟨.draw, factors n⟩] else []

theorem rounds_succ (attempt count : Nat) :
    rounds script factors lengths attempt (count + 1) =
      round script factors lengths attempt ++
        rounds script factors lengths (attempt + 1) count := by
  rw [rounds, List.range'_succ, List.flatMap_cons, ← rounds]

theorem attemptsIn_append (xs ys : List (Exchange (interface ε α))) :
    attemptsIn (xs ++ ys) = attemptsIn xs + attemptsIn ys :=
  List.countP_append

theorem pausesIn_append (xs ys : List (Exchange (interface ε α))) :
    pausesIn (xs ++ ys) = pausesIn xs + pausesIn ys :=
  List.countP_append

theorem counts_rounds (script : Nat → Except ε α) (factors : Nat → Jitter)
    (lengths : Nat → Duration) (attempt count : Nat) :
    attemptsIn (rounds script factors lengths attempt count) = count ∧
      pausesIn (rounds script factors lengths attempt count) = count := by
  induction count generalizing attempt with
  | zero => exact ⟨rfl, rfl⟩
  | succ count ih =>
    obtain ⟨hattempts, hpauses⟩ := ih (attempt + 1)
    rw [rounds_succ, attemptsIn_append, pausesIn_append, hattempts, hpauses]
    exact ⟨Nat.add_comm 1 count, Nat.add_comm 1 count⟩

theorem counts_scripted (hn : 1 ≤ n) :
    attemptsIn (scripted script factors lengths n) = n ∧
      pausesIn (scripted script factors lengths n) = n - 1 := by
  obtain ⟨hattempts, hpauses⟩ := counts_rounds script factors lengths 1 (n - 1)
  rw [scripted, attemptsIn_append, pausesIn_append, hattempts, hpauses]
  exact ⟨Nat.sub_add_cancel hn, rfl⟩

theorem counts_fruitless :
    attemptsIn (fruitless b factors n : List (Exchange (interface ε α))) = 0 ∧
      pausesIn (fruitless b factors n : List (Exchange (interface ε α))) = 0 := by
  unfold fruitless
  split <;> exact ⟨rfl, rfl⟩

/-! ## Attempts that settle a repetition -/

/-- **The attempt settles the repetition**: it succeeds, it fails in a way that is not worth
another one, or it is the last one that is allowed. -/
def Settles (b : Backoff) (worthwhile : ε → Bool) (script : Nat → Except ε α) (n : Nat) : Prop :=
  (∃ a, script n = .ok a) ∨ (∃ e, script n = .error e ∧ worthwhile e = false) ∨
    0 < b.maxAttempts ∧ n = b.maxAttempts

/-- A failure that is worth another attempt settles the repetition only at the limit. -/
theorem settles_iff_of_error {e : ε} (fails : script n = .error e) (worth : worthwhile e = true) :
    Settles b worthwhile script n ↔ 0 < b.maxAttempts ∧ n = b.maxAttempts := by
  simp [Settles, fails, worth]

/-- What does not settle the repetition is a failure that is worth another attempt. -/
theorem exists_error_of_not_settles (unsettled : ¬Settles b worthwhile script n) :
    ∃ e, script n = .error e ∧ worthwhile e = true := by
  cases hresult : script n with
  | ok a => exact absurd (.inl ⟨a, hresult⟩) unsettled
  | error e =>
    refine ⟨e, rfl, Bool.not_eq_false _ ▸ fun final => ?_⟩
    exact unsettled (.inr (.inl ⟨e, hresult, final⟩))

theorem exhausted_iff : b.exhausted n = true ↔ 0 < b.maxAttempts ∧ b.maxAttempts ≤ n := by
  simp [Backoff.exhausted]

/-- An attempt leaves another one if it is not the last of those allowed. -/
theorem exhausted_eq_false (allowed : b.maxAttempts = 0 ∨ n < b.maxAttempts) :
    b.exhausted n = false := by
  rw [Bool.eq_false_iff, ne_eq, exhausted_iff]
  omega

/-- The pause between two attempts. -/
abbrev pausing : Duration → Program (interface ε α) (Except Duration.Fault Unit) :=
  stretched (@Program.call (interface ε α) .draw) fun d => @Program.call (interface ε α) (.pause d)

/-- The repetition from an attempt on. -/
abbrev scriptedFrom (b : Backoff) (worthwhile : ε → Bool) (steps attempt : Nat) :
    Program (interface ε α) (Ending ε α) :=
  attemptFrom b worthwhile pausing (@Program.call (interface ε α) .attempt) steps attempt

/-- A pause draws a factor, and is made if the length times the factor is one. -/
theorem pausing_run (d : Duration) :
    (pausing d).run (playing script factors) log =
      match d.stretch (factors (attemptsIn log)) with
      | .error fault => (.error fault, log ++ [⟨.draw, factors (attemptsIn log)⟩])
      | .ok length =>
        (.ok (), log ++ [⟨.draw, factors (attemptsIn log)⟩] ++ [⟨.pause length, ()⟩]) := by
  cases hlength : d.stretch (factors (attemptsIn log)) with
  | error fault =>
    simp only [pausing, stretched, Program.call, Program.bind, Program.run, playing, hlength]
  | ok length =>
    simp only [pausing, stretched, Program.call, Program.bind, Program.run, playing, hlength]

/-- An attempt comes to what the script says. -/
theorem scriptedFrom_run_succ (hlog : attemptsIn log + 1 = attempt) :
    (scriptedFrom b worthwhile (steps + 1) attempt).run (playing script factors) log =
      (match script attempt with
        | .ok a => .done (.succeeded a)
        | .error e =>
          if worthwhile e then
            if b.exhausted attempt then .done (.failed e)
            else
              match b.pause attempt with
              | .error fault => .done (.unpaced fault)
              | .ok d => (pausing d).bind fun
                | .error fault => .done (.unpaced fault)
                | .ok () => scriptedFrom b worthwhile steps (attempt + 1)
          else .done (.failed e) : Program (interface ε α) (Ending ε α)).run
        (playing script factors) (log ++ [⟨.attempt, script attempt⟩]) := by
  subst hlog
  rfl

/-- An attempt that settles the repetition is the last thing that is done. -/
theorem scriptedFrom_run_of_settles (hlog : attemptsIn log + 1 = attempt)
    (settles : Settles b worthwhile script attempt) :
    (scriptedFrom b worthwhile (steps + 1) attempt).run (playing script factors) log =
      (endingOf (script attempt), log ++ [⟨.attempt, script attempt⟩]) := by
  rw [scriptedFrom_run_succ hlog]
  cases hresult : script attempt with
  | ok a => rfl
  | error e =>
    cases hworth : worthwhile e with
    | false =>
      simp only [hworth, Bool.false_eq_true, if_false]
      rfl
    | true =>
      obtain ⟨limited, hlast⟩ := (settles_iff_of_error hresult hworth).mp settles
      have hspent : b.exhausted attempt = true := exhausted_iff.mpr ⟨limited, hlast.ge⟩
      simp only [hworth, if_true, hspent]
      rfl

/-- An attempt that does not settle the repetition leads to the pause. -/
theorem scriptedFrom_run_unsettled (hlog : attemptsIn log + 1 = attempt)
    (allowed : b.maxAttempts = 0 ∨ attempt ≤ b.maxAttempts)
    (unsettled : ¬Settles b worthwhile script attempt) :
    (scriptedFrom b worthwhile (steps + 1) attempt).run (playing script factors) log =
      (match b.pause attempt with
        | .error fault => .done (.unpaced fault)
        | .ok d => (pausing d).bind fun
          | .error fault => .done (.unpaced fault)
          | .ok () => scriptedFrom b worthwhile steps (attempt + 1) :
        Program (interface ε α) (Ending ε α)).run
        (playing script factors) (log ++ [⟨.attempt, script attempt⟩]) := by
  obtain ⟨e, hresult, hworth⟩ := exists_error_of_not_settles unsettled
  have hleft : b.exhausted attempt = false := by
    rw [settles_iff_of_error hresult hworth] at unsettled
    exact exhausted_eq_false (by omega)
  rw [scriptedFrom_run_succ hlog, hresult]
  simp only [hworth, if_true, hleft, Bool.false_eq_true, if_false]

/-- An attempt that does not settle it makes a round and leaves the rest to the next one. -/
theorem scriptedFrom_run_of_not_settles
    (paced : b.stretchedPause attempt (factors attempt) = .ok (lengths attempt))
    (hlog : attemptsIn log + 1 = attempt) (allowed : b.maxAttempts = 0 ∨ attempt ≤ b.maxAttempts)
    (unsettled : ¬Settles b worthwhile script attempt) :
    (scriptedFrom b worthwhile (steps + 1) attempt).run (playing script factors) log =
      (scriptedFrom b worthwhile steps (attempt + 1)).run (playing script factors)
        (log ++ round script factors lengths attempt) := by
  obtain ⟨d, hd, hlength⟩ := Backoff.stretchedPause_eq_ok_iff.mp paced
  have hmade : attemptsIn (log ++ [⟨.attempt, script attempt⟩]) = attempt := by
    rw [attemptsIn_append]
    exact hlog
  have hround : log ++ [⟨.attempt, script attempt⟩] ++ [⟨.draw, factors attempt⟩] ++
      [⟨.pause (lengths attempt), ()⟩] = log ++ round script factors lengths attempt := by
    simp [round]
  rw [scriptedFrom_run_unsettled hlog allowed unsettled, hd, Program.run_bind, pausing_run, hmade,
    hlength, ← hround]

/-- A pause that has no length is the end of it. -/
theorem scriptedFrom_run_of_fault {fault : Duration.Fault}
    (unpaced : b.stretchedPause attempt (factors attempt) = .error fault)
    (hlog : attemptsIn log + 1 = attempt) (allowed : b.maxAttempts = 0 ∨ attempt ≤ b.maxAttempts)
    (unsettled : ¬Settles b worthwhile script attempt) :
    (scriptedFrom b worthwhile (steps + 1) attempt).run (playing script factors) log =
      (.unpaced fault, log ++ [⟨.attempt, script attempt⟩] ++ fruitless b factors attempt) := by
  have hmade : attemptsIn (log ++ [⟨.attempt, script attempt⟩]) = attempt := by
    rw [attemptsIn_append]
    exact hlog
  rw [scriptedFrom_run_unsettled hlog allowed unsettled, fruitless]
  rcases Backoff.stretchedPause_eq_error_iff.mp unpaced with hpause | ⟨d, hd, hlength⟩
  · rw [hpause]
    simp only [Except.isOk, Except.toBool, Bool.false_eq_true, if_false, List.append_nil]
    rfl
  · rw [hd, Program.run_bind, pausing_run, hmade, hlength]
    rfl

/-- **As long as nothing settles the repetition, it makes one round after another.** -/
theorem scriptedFrom_run_rounds {count : Nat}
    (paced : ∀ k, attempt ≤ k → k < attempt + count →
      b.stretchedPause k (factors k) = .ok (lengths k))
    (hlog : attemptsIn log + 1 = attempt)
    (allowed : b.maxAttempts = 0 ∨ attempt + count ≤ b.maxAttempts + 1)
    (unsettled : ∀ k, attempt ≤ k → k < attempt + count → ¬Settles b worthwhile script k) :
    (scriptedFrom b worthwhile (count + steps) attempt).run (playing script factors) log =
      (scriptedFrom b worthwhile steps (attempt + count)).run (playing script factors)
        (log ++ rounds script factors lengths attempt count) := by
  induction count generalizing attempt log with
  | zero => rw [Nat.zero_add, Nat.add_zero, rounds, List.range'_zero, List.flatMap_nil,
      List.append_nil]
  | succ count ih =>
    have hnext : attemptsIn (log ++ round script factors lengths attempt) + 1 = attempt + 1 := by
      rw [attemptsIn_append, ← hlog]
      rfl
    have hpause : b.stretchedPause attempt (factors attempt) = .ok (lengths attempt) :=
      paced attempt (by omega) (by omega)
    rw [Nat.succ_add, scriptedFrom_run_of_not_settles hpause hlog (by omega)
      (unsettled attempt (by omega) (by omega)), ih (fun k _ _ => paced k (by omega) (by omega))
      hnext (by omega) fun k _ _ => unsettled k (by omega) (by omega), rounds_succ,
      List.append_assoc, Nat.add_assoc, Nat.add_comm 1 count]

/-! ## The whole repetition -/

/-- The first attempt that settles a repetition, counted from one. -/
abbrev IsLast (b : Backoff) (worthwhile : ε → Bool) (script : Nat → Except ε α) (n : Nat) : Prop :=
  IsLeast {k | 1 ≤ k ∧ Settles b worthwhile script k} n

theorem exists_isLast (limited : 0 < b.maxAttempts) :
    ∃ n ≤ b.maxAttempts, IsLast b worthwhile script n := by
  classical
  have hlimit : 1 ≤ b.maxAttempts ∧ Settles b worthwhile script b.maxAttempts :=
    ⟨limited, .inr (.inr ⟨limited, rfl⟩)⟩
  exact ⟨_, Nat.find_min' ⟨_, hlimit⟩ hlimit, Nat.isLeast_find ⟨_, hlimit⟩⟩

/-- All pauses between the first attempts, up to the `n`-th, have these lengths. -/
def LastsUntil (b : Backoff) (factors : Nat → Jitter) (lengths : Nat → Duration) (n : Nat) : Prop :=
  ∀ k, 1 ≤ k → k < n → b.stretchedPause k (factors k) = .ok (lengths k)

/-- As long as attempts do not settle it and pauses have a length, the repetition comes to the
next attempt. -/
theorem run_until (paced : LastsUntil b factors lengths n) (hpos : 1 ≤ n)
    (hcountable : n ≤ countable b) (allowed : b.maxAttempts = 0 ∨ n ≤ b.maxAttempts)
    (unsettled : ∀ k, 1 ≤ k → k < n → ¬Settles b worthwhile script k) :
    ∃ steps, (program b worthwhile).run (playing script factors) [] =
        (scriptedFrom b worthwhile (steps + 1) n).run (playing script factors)
          (rounds script factors lengths 1 (n - 1)) ∧
      attemptsIn (rounds script factors lengths 1 (n - 1)) + 1 = n := by
  obtain ⟨steps, hsteps⟩ : ∃ steps, countable b = n - 1 + (steps + 1) :=
    ⟨countable b - n, by omega⟩
  have hnext : 1 + (n - 1) = n := by omega
  have hbegin : attemptsIn ([] : List (Exchange (interface ε α))) + 1 = 1 := rfl
  refine ⟨steps, ?_, ?_⟩
  · rw [program, run, hsteps, scriptedFrom_run_rounds (fun k hk hlt => paced k hk (by omega))
      hbegin (by omega) fun k hk hlt => unsettled k hk (by omega), hnext, List.nil_append]
  · rw [(counts_rounds script factors lengths 1 (n - 1)).1, Nat.sub_add_cancel hpos]

/-- A repetition that nothing settles makes all the rounds that can be counted. -/
theorem run_of_not_settles {count : Nat} (unlimited : b.maxAttempts = 0)
    (hcount : countable b = count) (paced : LastsUntil b factors lengths (1 + count))
    (unsettled : ∀ n, 1 ≤ n → n < 1 + count → ¬Settles b worthwhile script n) :
    (program b worthwhile).run (playing script factors) [] =
      (.overflowed, rounds script factors lengths 1 count) := by
  rw [program, run, hcount, ← Nat.add_zero count]
  exact scriptedFrom_run_rounds paced rfl (.inl unlimited) unsettled

/-- Where nothing has settled a repetition yet, the limit is not reached yet. -/
theorem lt_maxAttempts (limited : 0 < b.maxAttempts)
    (unsettled : ∀ k, 1 ≤ k → k ≤ n → ¬Settles b worthwhile script k) : n < b.maxAttempts := by
  refine Nat.lt_of_not_ge fun hreached => ?_
  exact unsettled b.maxAttempts limited hreached (.inr (.inr ⟨limited, rfl⟩))

/-- The attempts that are not beyond the limit can be counted. -/
theorem le_countable (hshort : b.maxAttempts = 0 → n < Nat.pow 2 32)
    (hallowed : 0 < b.maxAttempts → n ≤ b.maxAttempts) : n ≤ countable b := by
  unfold countable
  split
  · rename_i hnone
    exact Nat.le_sub_one_of_lt (hshort hnone)
  · rename_i hlimit
    exact hallowed (Nat.pos_of_ne_zero hlimit)

/-- **How a repetition goes by a script**, with these factors drawn. -/
structure GoesByScript (b : Backoff) (worthwhile : ε → Bool) (factors : Nat → Jitter)
    (script : Nat → Except ε α) : Prop where
  /-- It ends with the result of the first attempt that settles it, made of this attempt and those
  before and of one pause between any two of them. -/
  settled : ∀ n lengths, IsLast b worthwhile script n → (b.maxAttempts = 0 → n < Nat.pow 2 32) →
    LastsUntil b factors lengths n →
    (program b worthwhile).run (playing script factors) [] =
        (endingOf (script n), scripted script factors lengths n) ∧
      attemptsIn (scripted script factors lengths n) = n ∧
      pausesIn (scripted script factors lengths n) = n - 1
  /-- With a limit there is such an attempt, and the limit is not passed. -/
  limited : 0 < b.maxAttempts → ∃ n ≤ b.maxAttempts, IsLast b worthwhile script n
  /-- Without a limit it goes on as long as attempts can be counted. -/
  unlimited : ∀ lengths, b.maxAttempts = 0 → LastsUntil b factors lengths (Nat.pow 2 32) →
    (∀ n, 1 ≤ n → n < Nat.pow 2 32 → ¬Settles b worthwhile script n) →
    (program b worthwhile).run (playing script factors) [] =
      (.overflowed, rounds script factors lengths 1 (Nat.pow 2 32 - 1))
  /-- It breaks off where a pause is due that has no length, stretched as it would be. -/
  broken : ∀ n lengths fault, 1 ≤ n → (b.maxAttempts = 0 → n < Nat.pow 2 32) →
    (∀ k, 1 ≤ k → k ≤ n → ¬Settles b worthwhile script k) → LastsUntil b factors lengths n →
    b.stretchedPause n (factors n) = .error fault →
    (program b worthwhile).run (playing script factors) [] =
        (.unpaced fault, scripted script factors lengths n ++ fruitless b factors n) ∧
      attemptsIn (scripted script factors lengths n ++ fruitless b factors n) = n ∧
      pausesIn (scripted script factors lengths n ++ fruitless b factors n) = n - 1

theorem goesByScript : GoesByScript b worthwhile factors script where
  settled n lengths hlast hshort paced := by
    obtain ⟨⟨hpos, settles⟩, hleast⟩ := hlast
    have unsettled : ∀ k, 1 ≤ k → k < n → ¬Settles b worthwhile script k :=
      fun k hk hlt hsettled => absurd (hleast ⟨hk, hsettled⟩) (Nat.not_le_of_lt hlt)
    have hallowed : 0 < b.maxAttempts → n ≤ b.maxAttempts := fun hlimit => by
      obtain ⟨m, hm, hfirst⟩ : ∃ m ≤ b.maxAttempts, IsLast b worthwhile script m :=
        exists_isLast hlimit
      exact Nat.le_trans (hleast hfirst.1) hm
    obtain ⟨steps, hrun, hcount⟩ := run_until paced hpos (le_countable hshort hallowed)
      ((Nat.eq_zero_or_pos b.maxAttempts).imp_right hallowed) unsettled
    refine ⟨?_, counts_scripted hpos⟩
    rw [hrun, scriptedFrom_run_of_settles hcount settles, scripted]
  limited := exists_isLast
  unlimited lengths hnone paced unsettled := by
    have hcountable : countable b = Nat.pow 2 32 - 1 := if_pos hnone
    exact run_of_not_settles hnone hcountable (fun k hk hlt => paced k hk (by omega))
      fun k hk hlt => unsettled k hk (by omega)
  broken n lengths fault hpos hshort unsettled paced unpaced := by
    have hallowed : 0 < b.maxAttempts → n ≤ b.maxAttempts := fun hlimit =>
      (lt_maxAttempts hlimit unsettled).le
    have allowed : b.maxAttempts = 0 ∨ n ≤ b.maxAttempts :=
      (Nat.eq_zero_or_pos b.maxAttempts).imp_right hallowed
    obtain ⟨steps, hrun, hcount⟩ := run_until paced hpos (le_countable hshort hallowed) allowed
      fun k hk hlt => unsettled k hk hlt.le
    obtain ⟨hattempts, hpauses⟩ : attemptsIn (scripted script factors lengths n) = n ∧
        pausesIn (scripted script factors lengths n) = n - 1 := counts_scripted hpos
    refine ⟨?_, ?_, ?_⟩
    · rw [hrun, scriptedFrom_run_of_fault unpaced hcount allowed
        (unsettled n hpos (Nat.le_refl n)), scripted]
    · rw [attemptsIn_append, hattempts, counts_fruitless.1, Nat.add_zero]
    · rw [pausesIn_append, hpauses, counts_fruitless.2, Nat.add_zero]

/-! ## Whatever the attempts come to -/

variable {xs : List (Exchange (interface ε α))} {ending : Ending ε α}

/-- In a pause a factor is drawn and time passes, nothing else. -/
theorem pausing_mem {d : Duration} {r : Except Duration.Fault Unit}
    {x : Exchange (interface ε α)} (h : (pausing d).Transcript xs r) (hx : x ∈ xs) :
    x.request = .draw ∨ ∃ length, x.request = .pause length := by
  obtain ⟨jitter, ys, zs, rfl, hdraw, hsleep⟩ := stretched_transcript_iff.mp h
  obtain rfl := Program.transcript_call_iff.mp hdraw
  rcases List.mem_cons.mp hx with rfl | hx
  · exact .inl rfl
  · rcases hsleep with ⟨fault, -, rfl, -⟩ | ⟨length, -, hsleep, -⟩
    · cases hx
    · obtain rfl := Program.transcript_call_iff.mp hsleep
      rw [List.mem_singleton.mp hx]
      exact .inr ⟨length, rfl⟩

/-- A limit on the attempts is not passed. -/
theorem attemptsIn_le (limited : 0 < b.maxAttempts)
    (h : (program b worthwhile).Transcript xs ending) : attemptsIn xs ≤ b.maxAttempts := by
  obtain ⟨attempts, hcourse⟩ := attemptFrom_course h
  have hsteps : countable b = b.maxAttempts := if_neg (Nat.ne_of_gt limited)
  have hattempts : xs.filter (·.request.isAttempt) = attempts.flatMap (·.exchanges) := by
    refine hcourse.filter_exchanges (fun d ys r hpause y hy => ?_) fun ys r hattempt y hy => ?_
    · rcases pausing_mem hpause hy with hdraw | ⟨length, hlength⟩
      · rw [hdraw]
        rfl
      · rw [hlength]
        rfl
    · obtain rfl := Program.transcript_call_iff.mp hattempt
      obtain rfl := List.mem_singleton.mp hy
      rfl
  have hsingle : ∀ a ∈ attempts, a.exchanges.length = 1 := by
    intro a ha
    rw [Program.transcript_call_iff.mp (hcourse.made a ha)]
    rfl
  calc attemptsIn xs
      = (attempts.flatMap (·.exchanges)).length := by
        rw [attemptsIn, List.countP_eq_length_filter, hattempts]
    _ = (attempts.map fun _ => 1).sum := by
        rw [List.length_flatMap, List.map_congr_left hsingle]
    _ = attempts.length := by rw [List.map_const', List.sum_replicate_nat, Nat.mul_one]
    _ ≤ b.maxAttempts := hsteps ▸ hcourse.length_le

/-- Without a limit no failure that is worth another attempt is the end. -/
theorem not_worthwhile_of_failed (unlimited : b.maxAttempts = 0) {e : ε}
    (h : (program b worthwhile).Transcript xs (.failed e)) : worthwhile e = false := by
  obtain ⟨attempts, hcourse⟩ := attemptFrom_course h
  refine Bool.eq_false_iff.mpr fun hworth => ?_
  have hlimit := hcourse.of_failed.2 hworth
  omega

/-- **A repetition goes by its attempts**: it ends with the first one that settles it, makes one
pause between any two of them, keeps to a limit, and without one does not give up what is worth
another attempt.  Only where a pause is due that has no length it breaks off. -/
theorem attempts_go_by_script (b : Backoff) (worthwhile : ε → Bool) :
    (∀ (factors : Nat → Jitter) (script : Nat → Except ε α),
      GoesByScript b worthwhile factors script) ∧
    (0 < b.maxAttempts → ∀ (xs : List (Exchange (interface ε α))) (ending : Ending ε α),
      (program b worthwhile).Transcript xs ending → attemptsIn xs ≤ b.maxAttempts) ∧
    (b.maxAttempts = 0 → ∀ (xs : List (Exchange (interface ε α))) (e : ε),
      (program b worthwhile).Transcript xs (.failed e) → worthwhile e = false) :=
  ⟨fun _ _ => goesByScript, fun limited _ _ => attemptsIn_le limited,
    fun unlimited _ _ => not_worthwhile_of_failed unlimited⟩

namespace Failing

/-- An operation that always fails, with the number of the attempt. -/
def results (n : Nat) : Except Nat Unit := .error n

/-- A half after the first attempt, and five quarters after the others. -/
def drawn (n : Nat) : Jitter :=
  if n = 1 then ⟨0.5, by decide, by decide⟩ else ⟨1.25, by decide, by decide⟩

/-- A pause of fifty milliseconds, and others of a quarter of a second. -/
def slept (n : Nat) : Duration := if n = 1 then .ofMillis 50 else .ofMillis 250

theorem lastsUntil : LastsUntil (Backoff.withMaxAttempts 3) drawn slept 3 := by
  intro k hpos hlt
  obtain rfl | rfl : k = 1 ∨ k = 2 := by omega
  · decide +kernel
  · decide +kernel

theorem isLast : IsLast (Backoff.withMaxAttempts 3) (fun _ => true) results 3 := by
  refine ⟨⟨by decide, .inr (.inr ⟨by decide, rfl⟩)⟩, ?_⟩
  rintro k ⟨-, ⟨_, ⟨⟩⟩ | ⟨_, -, ⟨⟩⟩ | ⟨-, rfl⟩⟩
  exact Nat.le_refl 3

end Failing

/-- Attempts that all fail in a way that is worth another one, three of which are allowed: the
failure of the third one is the result, and there are two pauses. -/
theorem attempts_go_by_script_of_failures :
    (program (Backoff.withMaxAttempts 3) fun _ => true).run
        (playing Failing.results Failing.drawn) [] =
      (.failed 3, [⟨.attempt, .error 1⟩, ⟨.draw, Failing.drawn 1⟩, ⟨.pause (.ofMillis 50), ()⟩,
        ⟨.attempt, .error 2⟩, ⟨.draw, Failing.drawn 2⟩, ⟨.pause (.ofMillis 250), ()⟩,
        ⟨.attempt, .error 3⟩]) :=
  (((attempts_go_by_script (Backoff.withMaxAttempts 3) fun _ => true).1 Failing.drawn
    Failing.results).settled 3 Failing.slept Failing.isLast nofun Failing.lastsUntil).1

end Retry

end ClusterOperator
