import ClusterOperator.Backoff

/-!
# The pauses of a backoff

The exponent of a pause is capped, so a backoff has no more than sixty-four different
pauses, and has all of them if it has those.  Between attempts a pause is stretched: it has a
length then if the pause has one and the product is still one (`stretchedPause_eq_ok_iff`).
-/

namespace ClusterOperator.Backoff

variable {b : Backoff}

/-- Whether every pause has a length. -/
def Paced (b : Backoff) : Prop := ∀ n, ∃ d, b.pause n = .ok d

/-- The pause after the given attempt, stretched by a factor. -/
def stretchedPause (b : Backoff) (attempt : Nat) (jitter : Jitter) :
    Except Duration.Fault Duration :=
  (b.pause attempt).bind (·.stretch jitter)

/-- Whether every pause between two attempts has a length, up to the last attempt that is
allowed, whatever it is stretched by. -/
def PacedWithin (b : Backoff) : Prop :=
  ∀ n, 1 ≤ n → n < b.maxAttempts → ∀ jitter, ∃ d, b.stretchedPause n jitter = .ok d

theorem exists_pause_of_isOk {n : Nat} (h : (b.pause n).isOk = true) : ∃ d, b.pause n = .ok d := by
  cases hp : b.pause n with
  | ok d => exact ⟨d, rfl⟩
  | error e =>
    rw [hp] at h
    cases h

/-- A late pause is as long as the sixty-fourth. -/
theorem pause_eq_capped (n : Nat) : b.pause n = b.pause (min (n - 1) 63 + 1) := by
  have h : min (min (n - 1) 63 + 1 - 1) 63 = min (n - 1) 63 := by omega
  rw [pause, pause, h]

theorem paced_of_capped (h : ∀ k : Fin 64, (b.pause (k + 1)).isOk = true) : b.Paced := by
  intro n
  have hk : min (n - 1) 63 < 64 := by omega
  rw [pause_eq_capped]
  exact exists_pause_of_isOk (h ⟨min (n - 1) 63, hk⟩)

/-- A stretched pause has a length if the pause has one and has it once it is stretched. -/
theorem stretchedPause_eq_ok_iff {n : Nat} {jitter : Jitter} {length : Duration} :
    b.stretchedPause n jitter = .ok length ↔
      ∃ d, b.pause n = .ok d ∧ d.stretch jitter = .ok length := by
  rw [stretchedPause]
  cases b.pause n with
  | error fault => simp [Except.bind]
  | ok d => simp [Except.bind]

theorem stretchedPause_eq_error_iff {n : Nat} {jitter : Jitter} {fault : Duration.Fault} :
    b.stretchedPause n jitter = .error fault ↔
      b.pause n = .error fault ∨ ∃ d, b.pause n = .ok d ∧ d.stretch jitter = .error fault := by
  rw [stretchedPause]
  cases b.pause n with
  | error other => simp [Except.bind]
  | ok d => simp [Except.bind]

end ClusterOperator.Backoff
