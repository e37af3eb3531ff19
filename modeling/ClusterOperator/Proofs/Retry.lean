import ClusterOperator.Proofs.Transcript
import ClusterOperator.Retry

/-!
# What repeating an operation comes to

A repetition is a list of attempts, all of which fail in a way that is worth another one, but
for the last; between two of them there is a pause (`Course`).  So an operation whose failures
and pauses leave the world as it was has, however often it is repeated, the effect of its last
attempt alone (`attemptFrom_served`).

With a limit on the attempts, a repetition ends with the result of its last attempt, or breaks
off before a pause that has no length (`Course.ends_with_last`).
-/

namespace ClusterOperator

namespace Retry

variable {I : Interface} {ε α σ : Type} {answers : σ → Exchange I → σ → Prop} {b : Backoff}
  {worthwhile : ε → Bool} {pause : Duration → Program I (Except Duration.Fault Unit)}
  {operation : Program I (Except ε α)} {xs : List (Exchange I)} {ending : Ending ε α} {s t : σ}

/-! ## Pauses -/

/-- A pause draws a factor, and then sleeps if the length times the factor is one. -/
theorem stretched_transcript_iff {draw : Program I Jitter} {sleep : Duration → Program I Unit}
    {d : Duration} {r : Except Duration.Fault Unit} :
    (stretched draw sleep d).Transcript xs r ↔
      ∃ jitter ys zs, xs = ys ++ zs ∧ draw.Transcript ys jitter ∧
        ((∃ fault, d.stretch jitter = .error fault ∧ zs = [] ∧ r = .error fault) ∨
          ∃ length, d.stretch jitter = .ok length ∧ (sleep length).Transcript zs () ∧
            r = .ok ()) := by
  rw [stretched, Program.transcript_bind_iff]
  refine exists_congr fun jitter => exists_congr fun ys => exists_congr fun zs =>
    and_congr_right fun _ => and_congr_right fun _ => ?_
  cases d.stretch jitter with
  | error fault => simp
  | ok length =>
    refine Program.transcript_map_iff.trans ⟨?_, ?_⟩
    · rintro ⟨⟨⟩, hsleep, rfl⟩
      exact .inr ⟨length, rfl, hsleep, rfl⟩
    · rintro (⟨_, ⟨⟩, -⟩ | ⟨_, ⟨⟩, hsleep, rfl⟩)
      exact ⟨(), hsleep, rfl⟩

/-! ## The attempts of a repetition -/

/-- An attempt that was made: what was exchanged in it, and what it came to. -/
structure Attempt (I : Interface) (ε α : Type) where
  exchanges : List (Exchange I)
  result : Except ε α

/-- **The course of a repetition** from the `attempt`-th attempt on: the attempts that are made,
everything that is exchanged, and the ending. -/
inductive Course (b : Backoff) (worthwhile : ε → Bool)
    (pause : Duration → Program I (Except Duration.Fault Unit))
    (operation : Program I (Except ε α)) :
    (steps attempt : Nat) → List (Attempt I ε α) → List (Exchange I) → Ending ε α → Prop where
  | overflowed (attempt : Nat) : Course b worthwhile pause operation 0 attempt [] [] .overflowed
  | succeeded {steps attempt : Nat} {xs : List (Exchange I)} {a : α} :
      operation.Transcript xs (.ok a) →
      Course b worthwhile pause operation (steps + 1) attempt [⟨xs, .ok a⟩] xs (.succeeded a)
  /-- The failure is not worth another attempt, or no attempt is left. -/
  | failed {steps attempt : Nat} {xs : List (Exchange I)} {e : ε} :
      operation.Transcript xs (.error e) → worthwhile e = false ∨ b.exhausted attempt = true →
      Course b worthwhile pause operation (steps + 1) attempt [⟨xs, .error e⟩] xs (.failed e)
  | unpaced {steps attempt : Nat} {xs : List (Exchange I)} {e : ε} {fault : Duration.Fault} :
      operation.Transcript xs (.error e) → worthwhile e = true → b.exhausted attempt = false →
      b.pause attempt = .error fault →
      Course b worthwhile pause operation (steps + 1) attempt [⟨xs, .error e⟩] xs
        (.unpaced fault)
  /-- The pause has a length, but not once it is stretched. -/
  | unstretched {steps attempt : Nat} {xs ys : List (Exchange I)} {e : ε} {d : Duration}
      {fault : Duration.Fault} :
      operation.Transcript xs (.error e) → worthwhile e = true → b.exhausted attempt = false →
      b.pause attempt = .ok d → (pause d).Transcript ys (.error fault) →
      Course b worthwhile pause operation (steps + 1) attempt [⟨xs, .error e⟩] (xs ++ ys)
        (.unpaced fault)
  | again {steps attempt : Nat} {attempts : List (Attempt I ε α)} {xs ys zs : List (Exchange I)}
      {e : ε} {d : Duration} {ending : Ending ε α} :
      operation.Transcript xs (.error e) → worthwhile e = true → b.exhausted attempt = false →
      b.pause attempt = .ok d → (pause d).Transcript ys (.ok ()) →
      Course b worthwhile pause operation steps (attempt + 1) attempts zs ending →
      Course b worthwhile pause operation (steps + 1) attempt (⟨xs, .error e⟩ :: attempts)
        (xs ++ (ys ++ zs)) ending

variable {steps attempt : Nat} {attempts : List (Attempt I ε α)}

theorem attemptFrom_course
    (h : (attemptFrom b worthwhile pause operation steps attempt).Transcript xs ending) :
    ∃ attempts, Course b worthwhile pause operation steps attempt attempts xs ending := by
  induction steps generalizing attempt xs with
  | zero =>
    obtain ⟨rfl, rfl⟩ := Program.transcript_done_iff.mp h
    exact ⟨[], .overflowed attempt⟩
  | succ steps ih =>
    obtain ⟨reply, ys, zs, rfl, hop, hrest⟩ := Program.transcript_bind_iff.mp h
    -- An attempt that is the last one leaves nothing to be exchanged.
    have last : ∀ {last : Ending ε α},
        (Program.done last : Program I (Ending ε α)).Transcript zs ending →
        zs = [] ∧ ending = last := Program.transcript_done_iff.mp
    cases reply with
    | ok a =>
      obtain ⟨rfl, rfl⟩ := last hrest
      exact ⟨_, by rw [List.append_nil]; exact .succeeded hop⟩
    | error e =>
      dsimp only at hrest
      split at hrest
      · rename_i hworth
        split at hrest
        · rename_i hspent
          obtain ⟨rfl, rfl⟩ := last hrest
          exact ⟨_, by rw [List.append_nil]; exact .failed hop (.inr hspent)⟩
        · rename_i hleft
          split at hrest
          · rename_i fault hfault
            obtain ⟨rfl, rfl⟩ := last hrest
            exact ⟨_, by
              rw [List.append_nil]
              exact .unpaced hop hworth (Bool.eq_false_iff.mpr hleft) hfault⟩
          · rename_i d hd
            obtain ⟨paused, ps, rs, rfl, hpause, hagain⟩ := Program.transcript_bind_iff.mp hrest
            cases paused with
            | error fault =>
              obtain ⟨rfl, rfl⟩ := Program.transcript_done_iff.mp hagain
              exact ⟨_, by
                rw [List.append_nil]
                exact .unstretched hop hworth (Bool.eq_false_iff.mpr hleft) hd hpause⟩
            | ok _ =>
              obtain ⟨attempts, hcourse⟩ := ih hagain
              exact ⟨_, .again hop hworth (Bool.eq_false_iff.mpr hleft) hd hpause hcourse⟩
      · rename_i hworth
        obtain ⟨rfl, rfl⟩ := last hrest
        exact ⟨_, by rw [List.append_nil]; exact .failed hop (.inl (Bool.eq_false_iff.mpr hworth))⟩

namespace Course

theorem length_le (h : Course b worthwhile pause operation steps attempt attempts xs ending) :
    attempts.length ≤ steps := by
  induction h with
  | overflowed => exact Nat.le_refl 0
  | succeeded | failed | unpaced | unstretched => simp
  | again _ _ _ _ _ _ ih => simpa using ih

/-- Every attempt is one at the operation. -/
theorem made (h : Course b worthwhile pause operation steps attempt attempts xs ending) :
    ∀ a ∈ attempts, operation.Transcript a.exchanges a.result := by
  induction h with
  | overflowed => exact nofun
  | succeeded hop => exact List.forall_mem_singleton.mpr hop
  | failed hop | unpaced hop | unstretched hop => exact List.forall_mem_singleton.mpr hop
  | again hop _ _ _ _ _ ih => exact List.forall_mem_cons.mpr ⟨hop, ih⟩

/-- An attempt is followed by another one only if it failed in a way that is worth it. -/
theorem repeated (h : Course b worthwhile pause operation steps attempt attempts xs ending) :
    ∀ a ∈ attempts.dropLast, ∃ e, a.result = .error e ∧ worthwhile e = true := by
  induction h with
  | overflowed | succeeded | failed | unpaced | unstretched => exact nofun
  | again _ hworth _ _ _ hrest ih =>
    intro a ha
    cases hrest with
    | overflowed => cases ha
    | succeeded | failed | unpaced | unstretched | again =>
      rcases List.mem_cons.mp ha with rfl | ha
      · exact ⟨_, rfl, hworth⟩
      · exact ih a ha

/-- What is exchanged besides pauses is what the attempts exchange. -/
theorem filter_exchanges {during : Exchange I → Bool}
    (h : Course b worthwhile pause operation steps attempt attempts xs ending)
    (paused : ∀ d ys r, (pause d).Transcript ys r → ∀ y ∈ ys, during y = false)
    (attempted : ∀ ys r, operation.Transcript ys r → ∀ y ∈ ys, during y = true) :
    xs.filter during = attempts.flatMap (·.exchanges) := by
  have kept : ∀ {ys r}, operation.Transcript ys r → ys.filter during = ys := fun hop =>
    List.filter_eq_self.mpr (attempted _ _ hop)
  have dropped : ∀ {d ys r}, (pause d).Transcript ys r → ys.filter during = [] := fun hpause =>
    List.filter_eq_nil_iff.mpr fun y hy => Bool.eq_false_iff.mp (paused _ _ _ hpause y hy)
  induction h with
  | overflowed => rfl
  | succeeded hop => rw [kept hop]; simp
  | failed hop | unpaced hop => rw [kept hop]; simp
  | unstretched hop _ _ _ hpause => rw [List.filter_append, kept hop, dropped hpause]; simp
  | again hop _ _ _ hpause _ ih =>
    rw [List.filter_append, List.filter_append, kept hop, dropped hpause, ih]
    rfl

end Course

/-! ## What a repetition leaves behind -/

/-- **A repetition either succeeds with one attempt from a state that it may have come to on the
way, or it only comes to such a state.**  Where nothing but the operation has an effect, that is
the state it started in. -/
theorem attemptFrom_served {R : σ → σ → Prop} (refl : ∀ s, R s s)
    (trans : ∀ {s t u}, R s t → R t u → R s u)
    (idle : ∀ d r s xs t, (pause d).Transcript xs r → Served answers s xs t → R s t)
    (stays : ∀ e s xs t, operation.Transcript xs (.error e) → Served answers s xs t → R s t)
    (h : (attemptFrom b worthwhile pause operation steps attempt).Transcript xs ending)
    (hs : Served answers s xs t) :
    (∃ a ys u, ending = .succeeded a ∧ R s u ∧ operation.Transcript ys (.ok a) ∧ ys <:+ xs ∧
        Served answers u ys t) ∨
      ((∀ a, ending ≠ .succeeded a) ∧ R s t) := by
  obtain ⟨attempts, hcourse⟩ := attemptFrom_course h
  clear h
  induction hcourse generalizing s with
  | overflowed =>
    obtain rfl := Served.nil_iff.mp hs
    exact .inr ⟨nofun, refl _⟩
  | succeeded hop => exact .inl ⟨_, _, s, rfl, refl _, hop, List.suffix_refl _, hs⟩
  | failed hop | unpaced hop => exact .inr ⟨nofun, stays _ _ _ _ hop hs⟩
  | unstretched hop _ _ _ hpause =>
    obtain ⟨u, hxs, hys⟩ := Served.append_iff.mp hs
    exact .inr ⟨nofun, trans (stays _ _ _ _ hop hxs) (idle _ _ _ _ _ hpause hys)⟩
  | again hop _ _ _ hpause _ ih =>
    -- The next attempt starts where the failed attempt and the pause have come to.
    obtain ⟨u, hxs, hrest⟩ := Served.append_iff.mp hs
    obtain ⟨v, hys, hzs⟩ := Served.append_iff.mp hrest
    have hbetween := trans (stays _ _ _ _ hop hxs) (idle _ _ _ _ _ hpause hys)
    rcases ih hzs with ⟨a, ws, w, rfl, hw, hlast, hsuffix, hws⟩ | ⟨hending, ht⟩
    · refine .inl ⟨a, ws, w, rfl, trans hbetween hw, hlast, ?_, hws⟩
      exact (hsuffix.trans (List.suffix_append _ _)).trans (List.suffix_append _ _)
    · exact .inr ⟨hending, trans hbetween ht⟩

/-- Every exchange is one of a pause or of an attempt. -/
theorem attemptFrom_mem {x : Exchange I}
    (h : (attemptFrom b worthwhile pause operation steps attempt).Transcript xs ending)
    (hx : x ∈ xs) :
    (∃ d r ys, (pause d).Transcript ys r ∧ x ∈ ys) ∨
      ∃ r ys, operation.Transcript ys r ∧ x ∈ ys ∧ ys ⊆ xs := by
  obtain ⟨attempts, hcourse⟩ := attemptFrom_course h
  clear h
  induction hcourse with
  | overflowed => cases hx
  | succeeded hop | failed hop | unpaced hop =>
    exact .inr ⟨_, _, hop, hx, List.Subset.refl _⟩
  | unstretched hop _ _ _ hpause =>
    rcases List.mem_append.mp hx with hx | hx
    · exact .inr ⟨_, _, hop, hx, List.subset_append_left _ _⟩
    · exact .inl ⟨_, _, _, hpause, hx⟩
  | again hop _ _ _ hpause _ ih =>
    rcases List.mem_append.mp hx with hx | hx
    · exact .inr ⟨_, _, hop, hx, List.subset_append_left _ _⟩
    rcases List.mem_append.mp hx with hx | hx
    · exact .inl ⟨_, _, _, hpause, hx⟩
    · rcases ih hx with hp | ⟨r, ws, hw, hxw, hsub⟩
      · exact .inl hp
      · refine .inr ⟨r, ws, hw, hxw, fun y hy => ?_⟩
        exact List.mem_append_right _ (List.mem_append_right _ (hsub hy))

/-! ## What a repetition ends with -/

/-- The ending of a repetition whose last attempt came to this. -/
def endingOf : Except ε α → Ending ε α
  | .ok a => .succeeded a
  | .error e => .failed e

/-- Whether a result is one that no other attempt follows. -/
def Final (worthwhile : ε → Bool) (r : Except ε α) : Prop :=
  ∀ e, r = .error e → worthwhile e = false

/-- What an attempt has exchanged before one of its exchanges is all that was exchanged last,
and what it exchanges after it is all that is exchanged next.  An attempt with a final result is
the last thing that is done. -/
theorem attemptFrom_split {x : Exchange I} {before behind : List (Exchange I)}
    (h : (attemptFrom b worthwhile pause operation steps attempt).Transcript
      (before ++ x :: behind) ending) :
    (∃ d r ys, (pause d).Transcript ys r ∧ x ∈ ys) ∨
      ∃ r ys zs, operation.Transcript (ys ++ x :: zs) r ∧ ys <:+ before ∧ zs <+: behind ∧
        (Final worthwhile r → behind = zs ∧ ending = endingOf r) := by
  obtain ⟨attempts, hcourse⟩ := attemptFrom_course h
  clear h
  generalize hxs : before ++ x :: behind = xs at hcourse
  -- A failure that is worth another attempt is not final.
  have again : ∀ {e : ε}, worthwhile e = true → ¬Final worthwhile (Except.error e : Except ε α) :=
    fun hworth final => Bool.false_ne_true ((final _ rfl).symm.trans hworth)
  induction hcourse generalizing before with
  | overflowed => simp at hxs
  | succeeded hop | failed hop =>
    exact .inr ⟨_, before, behind, hxs ▸ hop, List.suffix_refl _, List.prefix_refl _,
      fun _ => ⟨rfl, rfl⟩⟩
  | unpaced hop hworth =>
    exact .inr ⟨_, before, behind, hxs ▸ hop, List.suffix_refl _, List.prefix_refl _,
      fun final => absurd final (again hworth)⟩
  | unstretched hop hworth _ _ hpause =>
    rcases append_cons_eq_append hxs with ⟨ws, rfl, rfl⟩ | ⟨ws, rfl, rfl⟩
    · exact .inr ⟨_, before, ws, hop, List.suffix_refl _, List.prefix_append _ _,
        fun final => absurd final (again hworth)⟩
    · exact .inl ⟨_, _, _, hpause, by simp⟩
  | @again _ _ _ ys ps _ _ _ _ hop hworth _ _ hpause _ ih =>
    rcases append_cons_eq_append hxs with ⟨ws, rfl, rfl⟩ | ⟨ws, rfl, hrest⟩
    · exact .inr ⟨_, before, ws, hop, List.suffix_refl _, List.prefix_append _ _,
        fun final => absurd final (again hworth)⟩
    -- The exchange is behind this attempt, so in the pause after it or further on.
    rcases append_cons_eq_append hrest.symm with ⟨vs, rfl, -⟩ | ⟨vs, rfl, hlater⟩
    · exact .inl ⟨_, _, _, hpause, by simp⟩
    · rcases ih hlater.symm with hp | ⟨r, as, bs, has, hsuffix, hbs⟩
      · exact .inl hp
      · refine .inr ⟨r, as, bs, has, ?_, hbs⟩
        exact ((hsuffix.trans (List.suffix_append ps vs)).trans
          (List.suffix_append ys (ps ++ vs)))

/-- **A repetition breaks off after the `n`-th attempt**, as there is no length for a pause: the
backoff has none, or the pause itself fails for want of one. -/
def BreaksOff (b : Backoff) (pause : Duration → Program I (Except Duration.Fault Unit)) (n : Nat)
    (xs : List (Exchange I)) (ending : Ending ε α) : Prop :=
  ∃ fault, ending = .unpaced fault ∧
    (b.pause n = .error fault ∨
      ∃ d ys, b.pause n = .ok d ∧ (pause d).Transcript ys (.error fault) ∧ ys <:+ xs)

theorem BreaksOff.append {n : Nat} {ys : List (Exchange I)} (h : BreaksOff b pause n xs ending) :
    BreaksOff b pause n (ys ++ xs) ending := by
  obtain ⟨fault, hending, hpause | ⟨d, zs, hd, hzs, hsuffix⟩⟩ := h
  · exact ⟨fault, hending, .inl hpause⟩
  · exact ⟨fault, hending, .inr ⟨d, zs, hd, hzs, hsuffix.trans (List.suffix_append _ _)⟩⟩

namespace Course

/-- **A repetition with a limit on the attempts ends with the result of its last attempt**, or
breaks off before the limit is reached.  If the last attempt failed in a way that is worth
another one, the limit is reached, or the repetition broke off. -/
theorem ends_with_last
    (h : Course b worthwhile pause operation steps attempt attempts xs ending)
    (limited : 0 < b.maxAttempts) (left : 0 < steps)
    (budget : attempt + steps = b.maxAttempts + 1) :
    ∃ earlier last, attempts = earlier ++ [last] ∧
      ((ending = endingOf last.result ∧
          ∀ e, last.result = .error e → worthwhile e = true →
            attempt + earlier.length = b.maxAttempts) ∨
        (attempt + earlier.length < b.maxAttempts ∧
          (∃ e, last.result = .error e ∧ worthwhile e = true) ∧
          BreaksOff b pause (attempt + earlier.length) xs ending)) := by
  have below : ∀ {n}, b.exhausted n = false → n < b.maxAttempts := fun hleft => by
    simpa [Backoff.exhausted, limited] using hleft
  induction h with
  | overflowed => exact absurd left (Nat.lt_irrefl 0)
  | succeeded hop => exact ⟨[], _, rfl, .inl ⟨rfl, nofun⟩⟩
  | @failed steps attempt _ _ hop hlast =>
    refine ⟨[], _, rfl, .inl ⟨rfl, ?_⟩⟩
    rintro e ⟨⟩ hworth
    have hspent : b.exhausted attempt = true := by
      refine hlast.resolve_left fun hfinal => ?_
      rw [hworth] at hfinal
      cases hfinal
    have hreached : b.maxAttempts ≤ attempt := by
      simp only [Backoff.exhausted, Bool.and_eq_true, decide_eq_true_eq] at hspent
      exact hspent.2
    show attempt + 0 = b.maxAttempts
    omega
  | unpaced hop hworth hleft hfault =>
    exact ⟨[], _, rfl, .inr ⟨below hleft, ⟨_, rfl, hworth⟩, _, rfl, .inl hfault⟩⟩
  | unstretched hop hworth hleft hd hpause =>
    exact ⟨[], _, rfl, .inr ⟨below hleft, ⟨_, rfl, hworth⟩, _, rfl,
      .inr ⟨_, _, hd, hpause, List.suffix_append _ _⟩⟩⟩
  | @again steps attempt _ _ _ _ _ _ _ hop _ hleft _ _ _ ih =>
    have hbelow : attempt < b.maxAttempts := below hleft
    obtain ⟨earlier, last, rfl, hlast⟩ := ih (by omega) (by omega)
    have hlength : ∀ made : Attempt I ε α,
        attempt + 1 + earlier.length = attempt + (made :: earlier).length := fun made => by
      rw [List.length_cons]
      omega
    refine ⟨_ :: earlier, last, rfl, ?_⟩
    rw [← hlength]
    exact hlast.imp_right fun ⟨hshort, hworth, hbroken⟩ =>
      ⟨hshort, hworth, hbroken.append.append⟩

/-- A failure that a repetition ends with is one of an attempt, and one that is worth another
attempt only if there is a limit on them. -/
theorem of_failed {e : ε}
    (h : Course b worthwhile pause operation steps attempt attempts xs (.failed e)) :
    (∃ a ∈ attempts, a.result = .error e) ∧ (worthwhile e = true → 0 < b.maxAttempts) := by
  generalize hending : Ending.failed e = ending at h
  induction h with
  | overflowed | succeeded | unpaced | unstretched => cases hending
  | failed hop hlast =>
    cases hending
    refine ⟨⟨_, List.mem_singleton_self _, rfl⟩, fun hworth => ?_⟩
    rcases hlast with hfinal | hspent
    · rw [hworth] at hfinal
      cases hfinal
    · simp only [Backoff.exhausted, Bool.and_eq_true, decide_eq_true_eq] at hspent
      exact hspent.1
  | again _ _ _ _ _ _ ih =>
    obtain ⟨⟨a, ha, hresult⟩, hlimited⟩ := ih hending
    exact ⟨⟨a, List.mem_cons_of_mem _ ha, hresult⟩, hlimited⟩

end Course

/-! ## Repetitions that need one attempt -/

theorem countable_pos : 0 < countable b := by
  unfold countable
  split
  · decide
  · omega

/-- Whatever comes of it, there is a first attempt. -/
theorem run_begins (h : (run b worthwhile pause operation).Transcript xs ending) :
    ∃ r ys zs, xs = ys ++ zs ∧ operation.Transcript ys r := by
  obtain ⟨steps, hsteps⟩ := Nat.exists_eq_add_one.mpr (countable_pos (b := b))
  rw [run, hsteps] at h
  obtain ⟨r, ys, zs, rfl, hop, -⟩ := Program.transcript_bind_iff.mp h
  exact ⟨r, ys, zs, rfl, hop⟩

theorem run_of_ok {a : α} (h : operation.Transcript xs (.ok a)) :
    (run b worthwhile pause operation).Transcript xs (.succeeded a) := by
  obtain ⟨steps, hsteps⟩ := Nat.exists_eq_add_one.mpr (countable_pos (b := b))
  rw [run, hsteps]
  exact Program.transcript_bind_iff.mpr ⟨.ok a, xs, [], by simp, h, .done _⟩

theorem run_of_error {e : ε} (h : operation.Transcript xs (.error e))
    (final : worthwhile e = false) :
    (run b worthwhile pause operation).Transcript xs (.failed e) := by
  obtain ⟨steps, hsteps⟩ := Nat.exists_eq_add_one.mpr (countable_pos (b := b))
  rw [run, hsteps]
  refine Program.transcript_bind_iff.mpr ⟨.error e, xs, [], by simp, h, ?_⟩
  dsimp only
  rw [if_neg (by simp [final])]
  exact .done _

end Retry

end ClusterOperator
