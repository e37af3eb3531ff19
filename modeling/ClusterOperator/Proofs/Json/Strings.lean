import ClusterOperator.Json.Canonical
import ClusterOperator.Json.Reader

/-!
# Strings are read back

A character of a written string is itself, unless it is a quote, a backslash or a control
character; these are written behind a backslash, which no other character begins with.  So
the reader finds every character again, and finds the closing quote where it stands
(`readString_written`).  What follows a written string does not matter, which is why two
texts that begin with strings begin with the same one (`stringChars_cancel`).
-/

namespace ClusterOperator.Json

variable {c : Char} {cs r r' : List Char} {s t : String} {steps : Nat}

/-! ## One character -/

/-- A control character has two hexadecimal digits, after two zeros. -/
theorem hexDigits_control : ∀ n < 0x20,
    (Text.padZeros 4 (Text.hexDigits n)).toList =
        ['0', '0', Nat.digitChar (n / 16), Nat.digitChar (n % 16)] ∧
      hexValue? (Nat.digitChar (n / 16)) = some (n / 16) ∧
      hexValue? (Nat.digitChar (n % 16)) = some (n % 16) := by
  decide +kernel

theorem readUnit_control {n : Nat} (h : n < 0x20) :
    readUnit ((Text.padZeros 4 (Text.hexDigits n)).toList ++ r) = .ok (n, r) := by
  obtain ⟨hdigits, hhigh, hlow⟩ := hexDigits_control n h
  rw [hdigits]
  simp only [List.cons_append, List.nil_append, readUnit, hhigh, hlow]
  have hzero : hexValue? '0' = some 0 := rfl
  simp only [hzero, Except.ok.injEq, Prod.mk.injEq, and_true]
  omega

theorem readCodePoint_control (h : c.toNat < 0x20) :
    readCodePoint ((Text.padZeros 4 (Text.hexDigits c.toNat)).toList ++ r) = .ok (some c, r) := by
  have hlow : ¬(0xD800 ≤ c.toNat ∧ c.toNat ≤ 0xDBFF) := by omega
  have htrail : ¬(0xDC00 ≤ c.toNat ∧ c.toNat ≤ 0xDFFF) := by omega
  rw [readCodePoint, readUnit_control h]
  simp only [bind, Except.bind, if_neg hlow, if_neg htrail, Char.ofNat_toNat]
  rfl

/-- A character is written behind a backslash and read back as an escape, or stands for
itself. -/
theorem escapeChar_cases (c : Char) :
    (∃ e, escapeChar c = '\\' :: e ∧ ∀ r, readEscape (e ++ r) = .ok (some c, r)) ∨
      (escapeChar c = [c] ∧ c ≠ '"' ∧ c ≠ '\\' ∧ ¬c.toNat < 0x20) := by
  unfold escapeChar
  by_cases h₁ : c = '"'
  · subst h₁; exact .inl ⟨['"'], rfl, fun _ => rfl⟩
  by_cases h₂ : c = '\\'
  · subst h₂; exact .inl ⟨['\\'], rfl, fun _ => rfl⟩
  by_cases h₃ : c = '\x08'
  · subst h₃; exact .inl ⟨['b'], rfl, fun _ => rfl⟩
  by_cases h₄ : c = '\t'
  · subst h₄; exact .inl ⟨['t'], rfl, fun _ => rfl⟩
  by_cases h₅ : c = '\n'
  · subst h₅; exact .inl ⟨['n'], rfl, fun _ => rfl⟩
  by_cases h₆ : c = '\x0c'
  · subst h₆; exact .inl ⟨['f'], rfl, fun _ => rfl⟩
  by_cases h₇ : c = '\r'
  · subst h₇; exact .inl ⟨['r'], rfl, fun _ => rfl⟩
  rw [if_neg h₁, if_neg h₂, if_neg h₃, if_neg h₄, if_neg h₅, if_neg h₆, if_neg h₇]
  by_cases hcontrol : c.toNat < 0x20
  · rw [if_pos hcontrol]
    exact .inl ⟨'u' :: _, rfl, fun _ => readCodePoint_control hcontrol⟩
  · rw [if_neg hcontrol]
    exact .inr ⟨rfl, h₁, h₂, hcontrol⟩

/-! ## Whole strings -/

theorem readStringBody_cons_plain (hquote : c ≠ '"') (hback : c ≠ '\\')
    (hcontrol : ¬c.toNat < 0x20) (h : readStringBody steps r = .ok (some cs, r')) :
    readStringBody (steps + 1) (c :: r) = .ok (some (c :: cs), r') := by
  rw [readStringBody.eq_def]
  dsimp only
  split
  · rename_i heq; cases heq
  · rename_i heq; cases heq; exact absurd rfl hquote
  · rename_i heq; cases heq; exact absurd rfl hback
  · rename_i heq
    cases heq
    rw [if_neg hcontrol, h]
    rfl

/-- **Reading the body of a string inverts writing it**, whatever follows. -/
theorem readStringBody_escaped (hsteps : cs.length < steps) :
    readStringBody steps (cs.flatMap escapeChar ++ '"' :: r) = .ok (some cs, r) := by
  induction cs generalizing steps with
  | nil =>
    obtain ⟨n, rfl⟩ := Nat.exists_eq_add_one.mpr hsteps
    rfl
  | cons c cs ih =>
    obtain ⟨n, rfl⟩ := Nat.exists_eq_add_one.mpr (Nat.zero_lt_of_lt hsteps)
    have hrest := ih (Nat.lt_of_succ_lt_succ hsteps)
    rw [List.flatMap_cons, List.append_assoc]
    rcases escapeChar_cases c with ⟨e, he, hread⟩ | ⟨he, hquote, hback, hcontrol⟩
    · rw [he, List.cons_append, readStringBody, hread]
      simp only [bind, Except.bind, hrest]
      rfl
    · rw [he]
      exact readStringBody_cons_plain hquote hback hcontrol hrest

/-- **A written string is read back**, with steps to spare for its characters. -/
theorem readString_written (hsteps : s.toList.length < steps) :
    readString steps (s.toList.flatMap escapeChar ++ '"' :: r) = .ok (some s, r) := by
  rw [readString, readStringBody_escaped hsteps]
  simp only [bind, Except.bind, Option.map_some, String.ofList_toList]
  rfl

/-- Texts that begin with written strings begin with the same one. -/
theorem stringChars_cancel (h : stringChars s ++ r = stringChars t ++ r') : s = t ∧ r = r' := by
  simp only [stringChars, List.cons_append, List.append_assoc, List.nil_append,
    List.cons.injEq, true_and] at h
  -- One supply of steps that suffices for both.
  let steps := s.toList.length + t.toList.length + 1
  have hs : readString steps _ = .ok (some s, r) := readString_written (by omega)
  have ht : readString steps _ = .ok (some t, r') := readString_written (by omega)
  rw [h, ht] at hs
  cases hs
  exact ⟨rfl, rfl⟩

end ClusterOperator.Json
