import ClusterOperator.Json.Canonical
import ClusterOperator.Proofs.Binary64.Written

/-!
# The texts of numbers

The text of a number begins with a digit, a sign or a letter that no other document begins
with, and holds none of the marks that end a document inside another one; so it ends where
the number ends.  An integer is written with digits and a sign alone, a double with a point,
an exponent or letters: no integer is written like a double.  No two integers are written
alike, and no two finite doubles (`numberChars_inj`).
-/

namespace ClusterOperator

/-- The numbers that documents hold: integers and finite doubles. -/
def Number.Proper : Number → Prop
  | .integer _ => True
  | .double x => x.Proper

namespace Json

variable {c : Char} {digits : List Char}

/-- The marks that end a document inside another one. -/
def isEnd (c : Char) : Bool := c = ',' || c = ']' || c = '\x7d'

/-- The characters that documents other than numbers begin with. -/
def isLead (c : Char) : Bool :=
  c = 'n' || c = 't' || c = 'f' || c = '"' || c = '[' || c = '\x7b'

theorem isEnd_of_isDigit (h : c.isDigit = true) : isEnd c = false := by
  refine Bool.eq_false_iff.mpr fun hend => ?_
  simp only [isEnd, Bool.or_eq_true, decide_eq_true_eq] at hend
  rcases hend with (rfl | rfl) | rfl <;> cases h

theorem isLead_of_isDigit (h : c.isDigit = true) : isLead c = false := by
  refine Bool.eq_false_iff.mpr fun hlead => ?_
  simp only [isLead, Bool.or_eq_true, decide_eq_true_eq] at hlead
  rcases hlead with ((((rfl | rfl) | rfl) | rfl) | rfl) | rfl <;> cases h

/-- A text that can stand for a number among the texts of other documents. -/
structure Numeral (s : List Char) : Prop where
  /-- It does not begin like another document. -/
  lead : ∃ c rest, s = c :: rest ∧ isLead c = false
  /-- It goes over no mark that ends a document. -/
  free : ∀ c ∈ s, isEnd c = false

/-! ## Integers -/

theorem digits_inj {j k : Nat} (h : Nat.toDigits 10 j = Nat.toDigits 10 k) : j = k := by
  rw [← Nat.ofDigitChars_ten_toDigits (n := j), h, Nat.ofDigitChars_ten_toDigits]

theorem integerChars_ofNat (k : Nat) :
    numberChars (.integer (Int.ofNat k)) = Nat.toDigits 10 k := String.toList_ofList

theorem integerChars_negSucc (k : Nat) :
    numberChars (.integer (Int.negSucc k)) = '-' :: Nat.toDigits 10 (k + 1) := by
  have htext : toString (Int.negSucc k) = "-" ++ String.ofList (Nat.toDigits 10 (k + 1)) := rfl
  rw [numberChars, htext, String.toList_append]
  exact congrArg ('-' :: ·) String.toList_ofList

/-- An integer is written with digits, behind a sign if it is negative. -/
theorem mem_integerChars {k : Int} (h : c ∈ numberChars (.integer k)) :
    c.isDigit = true ∨ c = '-' := by
  cases k with
  | ofNat k =>
    rw [integerChars_ofNat] at h
    exact .inl (Binary64.isDigit_of_mem_toDigits _ h)
  | negSucc k =>
    rw [integerChars_negSucc] at h
    rcases List.mem_cons.mp h with rfl | h
    · exact .inr rfl
    · exact .inl (Binary64.isDigit_of_mem_toDigits _ h)

theorem numeral_integer (k : Int) : Numeral (numberChars (.integer k)) where
  lead := by
    cases k with
    | ofNat k =>
      rw [integerChars_ofNat]
      obtain ⟨c, rest, hcons⟩ := List.exists_cons_of_ne_nil (Nat.toDigits_ne_nil (n := k) (b := 10))
      have hdigit : c.isDigit = true :=
        Binary64.isDigit_of_mem_toDigits _ (hcons ▸ List.mem_cons_self)
      exact ⟨c, rest, hcons, isLead_of_isDigit hdigit⟩
    | negSucc k => exact ⟨'-', _, integerChars_negSucc k, rfl⟩
  free := by
    intro c hc
    rcases mem_integerChars hc with hdigit | rfl
    · exact isEnd_of_isDigit hdigit
    · rfl

theorem integerChars_inj {j k : Int}
    (h : numberChars (.integer j) = numberChars (.integer k)) : j = k := by
  have hsign : ∀ {i : Nat} {ds : List Char}, Nat.toDigits 10 i ≠ '-' :: ds := by
    intro i ds heq
    cases Binary64.isDigit_of_mem_toDigits _ (heq ▸ List.mem_cons_self)
  cases j with
  | ofNat j =>
    cases k with
    | ofNat k =>
      rw [integerChars_ofNat, integerChars_ofNat] at h
      exact congrArg Int.ofNat (digits_inj h)
    | negSucc k =>
      rw [integerChars_ofNat, integerChars_negSucc] at h
      exact absurd h hsign
  | negSucc j =>
    cases k with
    | ofNat k =>
      rw [integerChars_negSucc, integerChars_ofNat] at h
      exact absurd h.symm hsign
    | negSucc k =>
      rw [integerChars_negSucc, integerChars_negSucc] at h
      have hsucc := digits_inj (List.cons.inj h).2
      exact congrArg Int.negSucc (Nat.succ.inj hsucc)

/-! ## Doubles -/

/-- The text of a number that is no integer: a character of it is neither digit nor sign. -/
structure Fractional (s : List Char) : Prop extends Numeral s where
  mark : ∃ c ∈ s, c.isDigit = false ∧ c ≠ '-'

theorem fractional_writtenOut {power : Int} (hne : digits ≠ [])
    (hdigits : ∀ c ∈ digits, c.isDigit = true) :
    Fractional (Binary64.writtenOut digits power) := by
  obtain ⟨d, ds, rfl⟩ := List.exists_cons_of_ne_nil hne
  have hfree : ∀ c, c ∈ d :: ds → isEnd c = false := fun c hc => isEnd_of_isDigit (hdigits c hc)
  unfold Binary64.writtenOut
  split
  · refine ⟨⟨⟨'0', _, rfl, rfl⟩, ?_⟩, '.', by simp, rfl, by decide⟩
    intro c hc
    simp only [List.mem_append, List.mem_replicate, List.mem_cons, List.not_mem_nil,
      or_false] at hc
    rcases hc with ((rfl | rfl) | ⟨-, rfl⟩) | hc
    · rfl
    · rfl
    · rfl
    · exact hfree c (List.mem_cons.mpr hc)
  · dsimp only
    refine ⟨⟨⟨d, _, rfl, isLead_of_isDigit (hdigits d List.mem_cons_self)⟩, ?_⟩, '.', by simp,
      rfl, by decide⟩
    intro c hc
    simp only [List.mem_append, List.mem_replicate, List.mem_singleton] at hc
    rcases hc with ((hc | ⟨-, rfl⟩) | rfl) | hc
    · exact hfree c (List.mem_of_mem_take hc)
    · rfl
    · rfl
    · split at hc
      · obtain rfl := List.mem_singleton.mp hc
        rfl
      · exact hfree c (List.mem_of_mem_drop hc)

theorem fractional_withPower {plus : Bool} {power : Int} (hne : digits ≠ [])
    (hdigits : ∀ c ∈ digits, c.isDigit = true) :
    Fractional (Binary64.withPower plus digits power) := by
  obtain ⟨d, ds, rfl⟩ := List.exists_cons_of_ne_nil hne
  have hfree : ∀ c, c ∈ d :: ds → isEnd c = false := fun c hc => isEnd_of_isDigit (hdigits c hc)
  unfold Binary64.withPower
  dsimp only
  refine ⟨⟨⟨d, _, rfl, isLead_of_isDigit (hdigits d List.mem_cons_self)⟩, ?_⟩, 'e', by simp,
    rfl, by decide⟩
  intro c hc
  simp only [List.mem_append, List.mem_singleton] at hc
  rcases hc with (((hc | hc) | rfl) | hc) | hc
  · exact hfree c (List.mem_of_mem_take hc)
  · split at hc
    · cases hc
    · rcases List.mem_cons.mp hc with rfl | hc
      · rfl
      · exact hfree c (List.mem_of_mem_drop hc)
  · rfl
  · split at hc
    · obtain rfl := List.mem_singleton.mp hc
      rfl
    · split at hc
      · obtain rfl := List.mem_singleton.mp hc
        rfl
      · cases hc
  · exact isEnd_of_isDigit (Binary64.isDigit_of_mem_toDigits _ hc)

theorem fractional_double (x : Binary64) : Fractional (x.chars doubleStyle) := by
  have hmagnitude : Fractional (x.magnitudeChars doubleStyle) := by
    unfold Binary64.magnitudeChars
    dsimp only
    split
    · exact fractional_writtenOut Nat.toDigits_ne_nil Binary64.isDigit_of_mem_toDigits
    · exact fractional_withPower Nat.toDigits_ne_nil Binary64.isDigit_of_mem_toDigits
  have hunsigned : Fractional
      (if x.isFinite then x.magnitudeChars doubleStyle else "inf".toList) := by
    split
    · exact hmagnitude
    · exact ⟨⟨⟨'i', _, rfl, rfl⟩, by simp [isEnd]⟩, 'i', by simp, rfl, by decide⟩
  unfold Binary64.chars
  split
  · exact ⟨⟨⟨'N', _, rfl, rfl⟩, by simp [isEnd]⟩, 'N', by simp, rfl, by decide⟩
  · split
    · obtain ⟨⟨-, hfree⟩, c, hc, hmark⟩ := hunsigned
      refine ⟨⟨⟨'-', _, rfl, rfl⟩, ?_⟩, c, List.mem_cons_of_mem _ hc, hmark⟩
      exact List.forall_mem_cons.mpr ⟨rfl, hfree⟩
    · exact hunsigned

/-! ## Numbers -/

theorem numeral_numberChars : ∀ n : Number, Numeral (numberChars n)
  | .integer k => numeral_integer k
  | .double x => (fractional_double x).toNumeral

theorem integerChars_ne_doubleChars {k : Int} {x : Binary64} :
    numberChars (.integer k) ≠ numberChars (.double x) := by
  intro h
  obtain ⟨c, hc, hdigit, hsign⟩ := (fractional_double x).mark
  have hmem : c ∈ numberChars (.integer k) := h ▸ hc
  rcases mem_integerChars hmem with hc | hc
  · rw [hdigit] at hc
    cases hc
  · exact hsign hc

/-- **The text of a number determines it.** -/
theorem numberChars_inj {n m : Number} (hn : n.Proper) (hm : m.Proper)
    (h : numberChars n = numberChars m) : n = m := by
  cases n with
  | integer j =>
    cases m with
    | integer k => exact congrArg Number.integer (integerChars_inj h)
    | double y => exact absurd h integerChars_ne_doubleChars
  | double x =>
    cases m with
    | integer k => exact absurd h.symm integerChars_ne_doubleChars
    | double y => exact congrArg Number.double (Binary64.chars_inj hn hm h)

end Json

end ClusterOperator
