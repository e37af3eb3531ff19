import ClusterOperator.Binary64.Written
import ClusterOperator.Proofs.Binary64.Shortest
import Mathlib.Data.List.TakeWhile

/-!
# The text of a double determines it

The text of a magnitude is read back as a rational: its digits, with as many places as there
are digits after the point, times the power of ten at its end.  However the digits are set
around the point, what is read is the shortest decimal of the double (`reading_magnitudeChars`).
That decimal rounds to the double and to no other one, so finite doubles that are written
alike are equal (`chars_inj`).
-/

namespace ClusterOperator.Binary64

variable {x y : Binary64} {style : Style} {c : Char} {s t digits : List Char} {power : Int}

/-! ## Reading a text -/

/-- The text in front of a mark, all of it if the mark is missing. -/
def before (c : Char) (s : List Char) : List Char := s.takeWhile (· ≠ c)

/-- The text behind a mark. -/
def after (c : Char) (s : List Char) : List Char := (s.dropWhile (· ≠ c)).drop 1

theorem before_append (h : c ∉ s) : before c (s ++ c :: t) = s := by
  have hs : ∀ a ∈ s, decide (a ≠ c) = true := fun _ ha => decide_eq_true fun hac => h (hac ▸ ha)
  rw [before, List.takeWhile_append_of_pos hs, List.takeWhile_cons_of_neg (by simp),
    List.append_nil]

theorem after_append (h : c ∉ s) : after c (s ++ c :: t) = t := by
  have hs : ∀ a ∈ s, decide (a ≠ c) = true := fun _ ha => decide_eq_true fun hac => h (hac ▸ ha)
  rw [after, List.dropWhile_append_of_pos hs, List.dropWhile_cons_of_neg (by simp)]
  rfl

theorem before_of_notMem (h : c ∉ s) : before c s = s :=
  List.takeWhile_eq_self_iff.mpr fun _ ha => decide_eq_true fun hac => h (hac ▸ ha)

theorem after_of_notMem (h : c ∉ s) : after c s = [] := by
  have hs : s.dropWhile (· ≠ c) = [] :=
    List.dropWhile_eq_nil_iff.mpr fun _ ha => decide_eq_true fun hac => h (hac ▸ ha)
  rw [after, hs]
  rfl

/-- The natural number that the digits of a text make up, in their order. -/
def natural (s : List Char) : Nat := Nat.ofDigitChars 10 (s.filter Char.isDigit) 0

/-- The integer of digits behind a sign. -/
def integer (s : List Char) : Int := if '-' ∈ s then -(natural s : Int) else natural s

/-- The rational that the text of a magnitude stands for. -/
def reading (s : List Char) : ℚ :=
  natural (before 'e' s) *
    10 ^ (integer (after 'e' s) - (after '.' (before 'e' s)).length)

theorem filter_digits (h : ∀ c ∈ digits, c.isDigit = true) :
    digits.filter Char.isDigit = digits := List.filter_eq_self.mpr h

theorem notMem_of_isDigit (h : ∀ c ∈ digits, c.isDigit = true) (hc : c.isDigit = false) :
    c ∉ digits := fun hmem => Bool.false_ne_true (hc.symm.trans (h c hmem))

theorem isDigit_of_mem_toDigits {n : Nat} : ∀ c ∈ Nat.toDigits 10 n, c.isDigit = true :=
  fun _ => Nat.isDigit_of_mem_toDigits (by decide) (by decide)

theorem isDigit_of_mem_zeros (k : Nat) : ∀ c ∈ List.replicate k '0', c.isDigit = true :=
  fun _ hc => List.eq_of_mem_replicate hc ▸ rfl

theorem natural_toDigits (n : Nat) : natural (Nat.toDigits 10 n) = n := by
  rw [natural, filter_digits isDigit_of_mem_toDigits, Nat.ofDigitChars_ten_toDigits]

theorem natural_append_zeros (s : List Char) (k : Nat) :
    natural (s ++ List.replicate k '0') = natural s * 10 ^ k := by
  rw [natural, natural, List.filter_append, filter_digits (isDigit_of_mem_zeros k),
    Nat.ofDigitChars_append, Nat.ofDigitChars_replicate_zero, Nat.mul_comm]

theorem natural_zeros_append (k : Nat) (s : List Char) :
    natural (List.replicate k '0' ++ s) = natural s := by
  rw [natural, natural, List.filter_append, filter_digits (isDigit_of_mem_zeros k),
    Nat.ofDigitChars_append, Nat.ofDigitChars_replicate_zero, Nat.mul_zero]

/-! ## The two forms -/

section Forms

variable {whole fraction : List Char}

/-- Digits around a point, and no power after them. -/
theorem reading_pointed (hwhole : ∀ c ∈ whole, c.isDigit = true)
    (hfraction : ∀ c ∈ fraction, c.isDigit = true) :
    reading (whole ++ '.' :: fraction) =
      natural (whole ++ fraction) * 10 ^ (-(fraction.length : Int)) := by
  have hmark : 'e' ∉ whole ++ '.' :: fraction := by
    simp [notMem_of_isDigit hwhole, notMem_of_isDigit hfraction]
  have hpoint : '.' ∉ whole := notMem_of_isDigit hwhole rfl
  have hnatural : natural (whole ++ '.' :: fraction) = natural (whole ++ fraction) := by
    rw [natural, natural, List.filter_append, List.filter_append]
    rfl
  rw [reading, before_of_notMem hmark, after_of_notMem hmark, after_append hpoint, hnatural]
  simp [integer, natural]

theorem reading_writtenOut (h : ∀ c ∈ digits, c.isDigit = true) :
    reading (writtenOut digits power) = natural digits * 10 ^ (power + 1 - digits.length) := by
  unfold writtenOut
  split
  · -- `0.0…0d…d`
    have htext : ['0', '.'] ++ List.replicate (-power - 1).toNat '0' ++ digits =
        List.replicate 1 '0' ++ '.' :: (List.replicate (-power - 1).toNat '0' ++ digits) := rfl
    rw [htext, reading_pointed (isDigit_of_mem_zeros 1)
        (List.forall_mem_append.mpr ⟨isDigit_of_mem_zeros _, h⟩),
      natural_zeros_append, natural_zeros_append, List.length_append, List.length_replicate]
    congr 2
    omega
  · dsimp only
    rw [List.append_assoc _ ['.'], List.singleton_append]
    by_cases hlength : digits.length ≤ power.toNat + 1
    · -- `d…d0…0.0`
      rw [List.drop_eq_nil_of_le hlength, List.take_of_length_le hlength]
      have hwhole := List.forall_mem_append.mpr
        ⟨h, isDigit_of_mem_zeros (power.toNat + 1 - digits.length)⟩
      refine (reading_pointed hwhole (isDigit_of_mem_zeros 1)).trans ?_
      rw [natural_append_zeros, natural_append_zeros]
      have hpower : power + 1 - digits.length = (power.toNat + 1 - digits.length : Nat) := by omega
      rw [hpower, zpow_natCast]
      simp
    · -- `d…d.d…d`
      have hlt : power.toNat + 1 < digits.length := Nat.lt_of_not_le hlength
      have htail : (digits.drop (power.toNat + 1)).isEmpty = false := by
        rw [List.isEmpty_eq_false_iff]
        exact List.drop_eq_nil_iff.not.mpr hlength
      rw [Nat.sub_eq_zero_of_le hlt.le, List.replicate_zero, List.append_nil, htail,
        if_neg (by simp), reading_pointed (fun c hc => h c (List.mem_of_mem_take hc))
          (fun c hc => h c (List.mem_of_mem_drop hc)),
        List.take_append_drop, List.length_drop]
      congr 2
      omega

/-- A mantissa and a power of ten behind it. -/
theorem reading_raised {s : List Char} (hs : 'e' ∉ s) (t : List Char) :
    reading (s ++ 'e' :: t) = reading s * 10 ^ integer t := by
  have hnone : integer [] = 0 := rfl
  rw [reading, reading, before_append hs, after_append hs, before_of_notMem hs,
    after_of_notMem hs, hnone, mul_assoc, ← zpow_add₀ (by norm_num)]
  congr 2
  ring

theorem integer_signed (plus : Bool) (k : Int) :
    integer ((if k < 0 then ['-'] else if plus then ['+'] else []) ++ Nat.toDigits 10 k.natAbs) =
      k := by
  have hminus : '-' ∉ Nat.toDigits 10 k.natAbs := notMem_of_isDigit isDigit_of_mem_toDigits rfl
  have hnatural : ∀ sign : List Char, sign.filter Char.isDigit = [] →
      natural (sign ++ Nat.toDigits 10 k.natAbs) = k.natAbs := by
    intro sign hsign
    rw [natural, List.filter_append, hsign, List.nil_append]
    exact natural_toDigits _
  unfold integer
  split
  · rename_i hnegative
    rw [if_pos (by simp), hnatural _ rfl]
    omega
  · rename_i hnonnegative
    have hsign : (if plus then ['+'] else []).filter Char.isDigit = [] := by cases plus <;> rfl
    have hnone : '-' ∉ (if plus then ['+'] else []) ++ Nat.toDigits 10 k.natAbs := by
      cases plus <;> simp [hminus]
    rw [if_neg hnone, hnatural _ hsign]
    omega

/-- Digits alone, or a digit and the others behind a point. -/
theorem reading_mantissa {d : Char} {ds : List Char} (h : ∀ c ∈ d :: ds, c.isDigit = true) :
    'e' ∉ [d] ++ (if ds.isEmpty then [] else '.' :: ds) ∧
      reading ([d] ++ (if ds.isEmpty then [] else '.' :: ds)) =
        natural (d :: ds) * 10 ^ (-(ds.length : Int)) := by
  have hmark : 'e' ∉ d :: ds := notMem_of_isDigit h rfl
  rw [List.forall_mem_cons] at h
  have hlead : ∀ c ∈ [d], c.isDigit = true := List.forall_mem_singleton.mpr h.1
  cases ds with
  | nil =>
    refine ⟨hmark, ?_⟩
    have hpoint : '.' ∉ [d] := notMem_of_isDigit hlead rfl
    have hreading : reading [d] = natural [d] * 10 ^ (integer [] - ([] : List Char).length) := by
      rw [reading, before_of_notMem hmark, after_of_notMem hmark, after_of_notMem hpoint]
    exact hreading
  | cons c cs =>
    refine ⟨?_, reading_pointed hlead h.2⟩
    simpa using hmark

theorem reading_withPower (plus : Bool) (hne : digits ≠ [])
    (h : ∀ c ∈ digits, c.isDigit = true) :
    reading (withPower plus digits power) =
      natural digits * 10 ^ (power + 1 - digits.length) := by
  obtain ⟨d, ds, rfl⟩ := List.exists_cons_of_ne_nil hne
  obtain ⟨hmark, hmantissa⟩ := reading_mantissa h
  have htext : withPower plus (d :: ds) power = [d] ++ (if ds.isEmpty then [] else '.' :: ds) ++
      'e' :: ((if power < 0 then ['-'] else if plus then ['+'] else []) ++
        Nat.toDigits 10 power.natAbs) := by
    simp [withPower]
  rw [htext, reading_raised hmark, hmantissa, integer_signed, mul_assoc,
    ← zpow_add₀ (by norm_num), List.length_cons]
  congr 2
  push_cast
  ring

end Forms

/-- **What is read is the shortest decimal**, whichever form it is written in. -/
theorem reading_magnitudeChars (style : Style) (x : Binary64) :
    reading (magnitudeChars style x) = (x.shortest style.tie).value := by
  have hvalue : ∀ d : Decimal, (natural (Nat.toDigits 10 d.digits) : ℚ) *
      10 ^ (d.scale + (Nat.toDigits 10 d.digits).length - 1 + 1 -
        (Nat.toDigits 10 d.digits).length) = d.value := by
    intro d
    rw [natural_toDigits, Decimal.value, sub_add_cancel, add_sub_cancel_right]
  unfold magnitudeChars
  dsimp only
  split
  · rw [reading_writtenOut isDigit_of_mem_toDigits, hvalue]
  · rw [reading_withPower style.plus Nat.toDigits_ne_nil isDigit_of_mem_toDigits, hvalue]

/-! ## Finite doubles -/

/-- A double of sixty-four bits that is neither an infinity nor a NaN. -/
structure Proper (x : Binary64) : Prop where
  word : x.bits < Nat.pow 2 64
  finite : x.isFinite = true

theorem Proper.not_isNaN (h : x.Proper) : x.isNaN = false := by
  have hfield : x.exponentField < 2047 := decide_eq_true_iff.mp h.finite
  rw [isNaN, decide_eq_false hfield.ne, Bool.false_and]

/-- The sign bit and the magnitude are the double. -/
theorem Proper.ext (hx : x.Proper) (hy : y.Proper) (hsign : x.isNegative = y.isNegative)
    (hmagnitude : x.magnitude = y.magnitude) : x = y := by
  have hbits : x.bits = y.bits := by
    have hxword := hx.word
    have hyword := hy.word
    rw [isNegative, isNegative, decide_eq_decide] at hsign
    unfold magnitude at hmagnitude
    simp only [Nat.pow_eq] at *
    omega
  cases x
  cases y
  exact congrArg Binary64.mk hbits

theorem Proper.chars_eq (h : x.Proper) :
    x.chars style = (if x.isNegative then ['-'] else []) ++ x.magnitudeChars style := by
  rw [chars, h.not_isNaN, h.finite, if_neg Bool.false_ne_true, if_pos rfl]

/-- The text of a magnitude has no sign in front. -/
theorem head_magnitudeChars (style : Style) (x : Binary64) :
    ∃ c rest, x.magnitudeChars style = c :: rest ∧ c.isDigit = true := by
  obtain ⟨d, ds, hdigits⟩ := List.exists_cons_of_ne_nil
    (Nat.toDigits_ne_nil (n := (x.shortest style.tie).digits) (b := 10))
  have hlead : d.isDigit = true := isDigit_of_mem_toDigits d (hdigits ▸ List.mem_cons_self)
  unfold magnitudeChars
  dsimp only
  rw [hdigits]
  split
  · unfold writtenOut
    split
    · exact ⟨'0', _, rfl, rfl⟩
    · exact ⟨d, _, rfl, hlead⟩
  · exact ⟨d, _, rfl, hlead⟩

/-- **The text of a finite double determines it.** -/
theorem chars_inj (hx : x.Proper) (hy : y.Proper) (h : x.chars style = y.chars style) : x = y := by
  rw [hx.chars_eq, hy.chars_eq] at h
  have hsign : ∀ z w : Binary64, '-' :: z.magnitudeChars style ≠ w.magnitudeChars style := by
    intro z w heq
    obtain ⟨c, rest, hcons, hdigit⟩ := head_magnitudeChars style w
    rw [hcons] at heq
    rw [← (List.cons.inj heq).1] at hdigit
    cases hdigit
  have htexts : x.isNegative = y.isNegative ∧ x.magnitudeChars style = y.magnitudeChars style := by
    cases hxs : x.isNegative <;> cases hys : y.isNegative <;> rw [hxs, hys] at h
    · exact ⟨rfl, h⟩
    · exact absurd h.symm (hsign y x)
    · exact absurd h (hsign x y)
    · exact ⟨rfl, (List.cons.inj h).2⟩
  have hvalue : (x.shortest style.tie).value = (y.shortest style.tie).value := by
    rw [← reading_magnitudeChars, ← reading_magnitudeChars, htexts.2]
  have hcovers : y.Covers (x.shortest style.tie).value := hvalue ▸ covers_shortest style.tie y
  exact hx.ext hy htexts.1 (magnitude_eq_of_covers (covers_shortest style.tie x) hcovers)

end ClusterOperator.Binary64
