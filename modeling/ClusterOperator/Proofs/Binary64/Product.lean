import ClusterOperator.Proofs.Backoff
import ClusterOperator.Proofs.Binary64.Shortest
import Mathlib

/-!
# How large a product of doubles is

A runtime float is unpacked into a sign, a significand and an exponent, which are those of its
bits (`reads_unpack`).  A product has the product of the significands and the sum of the
exponents, is shifted to fifty-three bits, and is rounded, which raises its exponent by one at
most (`exponentLe_roundWithAccuracy`).

So a double below `2 ^ 62`, times a factor below three halves, is far from the largest double, and
still a number of seconds that a duration can have (`IsShort.exists_stretch`): short pauses have a
length, whatever they are stretched by (`Backoff.pacedWithin_of_short`).
-/

namespace ClusterOperator.Binary64

open Float.Model Float.Model.UnpackedFloat

/-! ## What a runtime float is unpacked into -/

/-- The unpacked form is that of the bits. -/
def Reads (b : Binary64) : UnpackedFloat → Prop
  | .infinity _ => b.isFinite = false
  | .notANumber => b.isFinite = false
  | .zero _ => b.isFinite = true ∧ b.significand = 0
  | .finite _ m e _ => b.isFinite = true ∧ b.significand = m ∧ b.exponent = e

variable {x : Float}

theorem toNat_unpackExponent (x : Float) :
    (@unpackExponent .binary64 x.toModel.toBits.toBitVec).toNat = (ofFloat x).exponentField := by
  simp [unpackExponent_def, ofFloat, exponentField, Nat.shiftRight_eq_div_pow, Float.toBits]

theorem toNat_unpackMantissa (x : Float) :
    (@unpackMantissa .binary64 x.toModel.toBits.toBitVec).toNat = (ofFloat x).fraction := by
  simp [unpackMantissa_def, ofFloat, fraction, Float.toBits]

theorem exponentField_lt (b : Binary64) : b.exponentField < 2048 := Nat.mod_lt _ (by decide)

/-- **A runtime float is unpacked as its bits say.** -/
theorem reads_unpack (x : Float) : (ofFloat x).Reads x.toModel.unpack := by
  have hexponent := toNat_unpackExponent x
  have hfraction := toNat_unpackMantissa x
  have hbound := exponentField_lt (ofFloat x)
  have hbias : ((Format.binary64.exponentBias : Nat) : Int) = 1023 := rfl
  simp only [Float.Model.unpack, UnpackedFloat.unpack]
  split
  · rename_i hspecial
    have hfield : (ofFloat x).exponentField = 2047 := by rw [← hexponent, hspecial]; rfl
    split <;> simp [Reads, isFinite, hfield]
  · rename_i hfinite
    have hfield : (ofFloat x).exponentField ≠ 2047 := fun h =>
      hfinite (BitVec.eq_of_toNat_eq (hexponent.trans h))
    have hisFinite : (ofFloat x).isFinite = true := decide_eq_true (by omega)
    split
    · rename_i hsmall
      have hzero : (ofFloat x).exponentField = 0 := by rw [← hexponent, hsmall]; rfl
      split
      · rename_i hnone
        refine ⟨hisFinite, ?_⟩
        rw [significand, if_pos hzero, ← hfraction, hnone]
        rfl
      · refine ⟨hisFinite, ?_, ?_⟩
        · rw [significand, if_pos hzero, hfraction]
        · rw [exponent, if_pos hzero, hexponent, hzero, hbias]
          rfl
    · rename_i hnormal
      have hnonzero : (ofFloat x).exponentField ≠ 0 := fun h =>
        hnormal (BitVec.eq_of_toNat_eq (hexponent.trans h))
      refine ⟨hisFinite, ?_, ?_⟩
      · rw [significand, if_neg hnonzero, BitVec.toNat_append,
          ← Nat.shiftLeft_add_eq_or_of_lt (BitVec.isLt _), hfraction]
        rfl
      · rw [exponent, if_neg hnonzero, hexponent, hbias]
        rfl

/-- A double without the sign bit is not negative. -/
theorem not_lt_zero (h : (ofFloat x).bits < Nat.pow 2 63) : ¬x < 0 := by
  have hsign : Sign.ofBitVec (@unpackSign .binary64 x.toModel.toBits.toBitVec) = .positive := by
    have hbit : @unpackSign .binary64 x.toModel.toBits.toBitVec = 0#1 := by
      refine BitVec.eq_of_toNat_eq ?_
      simp only [ofFloat, Float.toBits] at h
      simp [unpackSign_def, Nat.shiftRight_eq_div_pow, Nat.div_eq_of_lt h]
    rw [hbit]
    rfl
  intro hlt
  replace hlt : x.toModel.unpack.lt (.zero .positive) = true := of_decide_eq_true hlt
  simp only [Float.Model.unpack, UnpackedFloat.unpack, hsign] at hlt
  split at hlt
  · split at hlt <;> cases hlt
  · split at hlt
    · split at hlt <;> cases hlt
    · cases hlt

/-! ## Packing -/

theorem toNat_packComponents (e : BitVec 11) (m : BitVec 52) :
    (packComponents .binary64 .positive e m).toNat = e.toNat * 2 ^ 52 + m.toNat := by
  have hsign : (Sign.positive.toBitVec ++ e).toNat = e.toNat := by
    rw [BitVec.toNat_append]
    simp [Sign.toBitVec]
  rw [packComponents, BitVec.toNat_append, ← Nat.shiftLeft_add_eq_or_of_lt m.isLt, hsign,
    Nat.shiftLeft_eq]

/-- A packed double is as large as its exponent allows. -/
theorem toNat_pack_lt {m k : Nat} {e : Int} (hpos : 0 < m) (hk : k < 2046) (he : e + 1075 ≤ k) :
    (UnpackedFloat.pack .binary64 (.finite .positive m e hpos)).toNat < (k + 1) * 2 ^ 52 := by
  have hbias : (e + (Format.binary64.exponentBias : Nat) +
      (Format.binary64.mantissaBitsWithoutImplicit : Nat)).toNat = (e + 1075).toNat := by
    show (e + (1023 : Nat) + (52 : Nat)).toNat = _
    omega
  have hfraction := (BitVec.ofNat 52 m).isLt
  simp only [UnpackedFloat.pack, hbias]
  rw [if_neg (by show ¬2 ^ 11 ≤ _; omega)]
  split
  · rw [toNat_packComponents, BitVec.toNat_ofNat, Nat.mod_eq_of_lt (by omega)]
    omega
  · rw [toNat_packComponents]
    show 0 * 2 ^ 52 + (BitVec.ofNat 52 m).toNat < _
    omega

/-! ## Rounding -/

theorem mantissa_shiftRight (em : ExtendedMantissa) (n : Nat) :
    (em >>> n).mantissa = em.mantissa / 2 ^ n := by
  induction n with
  | zero => exact (Nat.div_one _).symm
  | succ n ih =>
    show (em >>> n).mantissa / 2 = _
    rw [ih, Nat.div_div_eq_div_mul, Nat.pow_succ]

theorem roundedMantissa_le (em : ExtendedMantissa) : em.roundedMantissa ≤ em.mantissa + 1 := by
  obtain ⟨m, roundBit, stickyBit⟩ := em
  cases roundBit <;> cases stickyBit <;>
    simp only [ExtendedMantissa.roundedMantissa, ExtendedMantissa.accuracy,
      Accuracy.roundToNearestEven] <;> omega

/-- What is shifted has the exponent that fifty-three bits leave, if that is not too small. -/
theorem exponent_shiftToTargetExponent (m : Nat) (e : Int) :
    (shiftToTargetExponent .binary64 m e .exact).2 =
      max e (max (m.log2 + e - 52) (-1074)) := by
  have htarget : Format.binary64.targetExponent (totalExponent m e) =
      max (m.log2 + e - 52) (-1074) := by
    simp only [Format.targetExponent, totalExponent]
    show max ((m.log2 : Int) + 1 + e - 53) (-1074) = _
    omega
  simp only [shiftToTargetExponent, shiftToExponent, htarget]
  omega

/-- Shifted to fifty-three bits and rounded, a significand has fifty-four bits at most. -/
theorem log2_roundedMantissa_le (m : Nat) (e : Int) :
    (shiftToTargetExponent .binary64 m e .exact).1.roundedMantissa.log2 ≤ 53 := by
  have hexponent := exponent_shiftToTargetExponent m e
  simp only [shiftToTargetExponent, shiftToExponent] at hexponent ⊢
  generalize (Format.binary64.targetExponent (totalExponent m e) - e).toNat = n at hexponent ⊢
  have hshifted : m / 2 ^ n < 2 ^ 53 := by
    rw [Nat.div_lt_iff_lt_mul (Nat.two_pow_pos n), ← Nat.pow_add]
    exact Nat.lt_of_lt_of_le Nat.lt_log2_self (Nat.pow_le_pow_right (by decide) (by omega))
  have hrounded : ((ExtendedMantissa.ofMantissaAndAccuracy m .exact) >>> n).roundedMantissa ≤
      m / 2 ^ n + 1 := by
    refine Nat.le_trans (roundedMantissa_le _) ?_
    rw [mantissa_shiftRight]
    exact Nat.le_refl _
  have hbound := Nat.log2_lt
    (n := ((ExtendedMantissa.ofMantissaAndAccuracy m .exact) >>> n).roundedMantissa) (k := 54)
  by_cases hzero : ((ExtendedMantissa.ofMantissaAndAccuracy m .exact) >>> n).roundedMantissa = 0
  · rw [hzero]
    decide
  · exact Nat.le_of_lt_succ ((hbound hzero).mpr (by omega))

/-- A zero, or a positive double with an exponent that is at most `k`. -/
inductive ExponentLe (k : Int) : UnpackedFloat → Prop where
  | zero (s : Sign) : ExponentLe k (.zero s)
  | finite {m : Nat} {e : Int} (hpos : 0 < m) : e ≤ k → ExponentLe k (.finite .positive m e hpos)

/-- **Rounding raises the exponent by one at most.** -/
theorem exponentLe_roundWithAccuracy {m : Nat} {e k : Int} (hleast : -1074 < k) (he : e < k)
    (htotal : m.log2 + e - 52 < k) :
    ExponentLe k (roundWithAccuracy .binary64 .positive m e .exact) := by
  rcases hfirst : shiftToTargetExponent .binary64 m e .exact with ⟨shifted, e₁⟩
  rcases hsecond : shiftToTargetExponent .binary64 shifted.roundedMantissa e₁ .exact with
    ⟨final, e₂⟩
  have hlog := log2_roundedMantissa_le m e
  have hexponent := exponent_shiftToTargetExponent m e
  have hagain := exponent_shiftToTargetExponent shifted.roundedMantissa e₁
  rw [hfirst] at hlog hexponent
  rw [hsecond] at hagain
  dsimp only at hlog hexponent hagain
  simp only [roundWithAccuracy, hfirst, hsecond]
  split
  · exact .zero _
  · exact .finite _ (by omega)

/-! ## Products -/

/-- A zero, or a positive double below `2 ^ k`. -/
inductive Below (k : Int) : UnpackedFloat → Prop where
  | zero (s : Sign) : Below k (.zero s)
  | finite {m : Nat} {e : Int} (hpos : 0 < m) : m < 2 ^ 53 → e + 53 ≤ k →
      Below k (.finite .positive m e hpos)

/-- **A product is as large as its factors allow.** -/
theorem exponentLe_mul {a b : UnpackedFloat} {j k : Int} (hleast : -1022 < j + k)
    (ha : Below j a) (hb : Below k b) :
    ExponentLe (j + k - 52) (UnpackedFloat.mul .binary64 a b) := by
  cases ha with
  | zero s =>
    cases hb with
    | zero t => exact .zero _
    | finite => exact .zero _
  | finite h₁ hm₁ he₁ =>
    cases hb with
    | zero t => exact .zero _
    | @finite m₂ e₂ h₂ hm₂ he₂ =>
      rename_i m₁ e₁
      have hlog : (m₁ * m₂).log2 < 106 := by
        refine (Nat.log2_lt (Nat.ne_of_gt (Nat.mul_pos h₁ h₂))).mpr ?_
        calc m₁ * m₂ < 2 ^ 53 * 2 ^ 53 := Nat.mul_lt_mul'' hm₁ hm₂
          _ = 2 ^ 106 := (Nat.pow_add 2 53 53).symm
      exact exponentLe_roundWithAccuracy (by omega) (by omega) (by omega)

/-! ## What comparisons say -/

/-- What lies between a nonnegative double and a positive one is zero, or positive and below. -/
theorem cases_of_between {l u v : UnpackedFloat} {m₂ : Nat} {e₂ : Int} {h₂ : 0 < m₂}
    (hl : l = .zero .positive ∨ ∃ m₁ e₁ h₁, l = .finite .positive m₁ e₁ h₁)
    (hu : u = .finite .positive m₂ e₂ h₂) (hle : l.le v = true) (hlt : v.lt u = true) :
    (∃ s, v = .zero s) ∨
      ∃ m e h, v = .finite .positive m e h ∧ (e < e₂ ∨ e = e₂ ∧ m < m₂) := by
  subst hu
  cases v with
  | notANumber => cases hlt
  | infinity s =>
    cases s with
    | positive => cases hlt
    | negative => rcases hl with rfl | ⟨_, _, _, rfl⟩ <;> cases hle
  | zero s => exact .inl ⟨s, rfl⟩
  | finite s m e h =>
    cases s with
    | negative => rcases hl with rfl | ⟨_, _, _, rfl⟩ <;> cases hle
    | positive =>
      refine .inr ⟨m, e, h, rfl, ?_⟩
      simpa [UnpackedFloat.lt, UnpackedFloat.compare, Ordering.then_eq_lt, Int.compare_eq_lt,
        Nat.compare_eq_lt] using hlt

/-- A significand without the leading bit has the least exponent. -/
theorem exponent_of_significand_lt {b : Binary64} (h : b.significand < 2 ^ 52) :
    b.exponent = -1074 := by
  have hfield : b.exponentField = 0 := by
    by_contra hnonzero
    rw [significand, if_neg hnonzero, Nat.pow_eq] at h
    omega
  exact if_pos hfield

/-- A factor is below two. -/
theorem below_jitter (jitter : Jitter) : Below 1 jitter.factor.toModel.unpack := by
  have hleast : (0.5 : Float).toModel.unpack = .finite .positive (2 ^ 52) (-53) (by decide) := rfl
  have hbelow : (1.5 : Float).toModel.unpack = .finite .positive (3 * 2 ^ 51) (-52) (by decide) :=
    rfl
  have hreads := reads_unpack jitter.factor
  rcases cases_of_between (.inr ⟨_, _, _, hleast⟩) hbelow (of_decide_eq_true jitter.least)
    (of_decide_eq_true jitter.below) with ⟨s, hs⟩ | ⟨m, e, hpos, hfinite, hless⟩
  · rw [hs]
    exact .zero s
  · rw [hfinite] at hreads ⊢
    exact .finite hpos (hreads.2.1 ▸ significand_lt _) (by omega)

/-- A double from zero up to `2 ^ 62`. -/
theorem below_of_lt (hleast : 0 ≤ x) (hbelow : x < 4611686018427387904.0) :
    Below 62 x.toModel.unpack := by
  have hzero : (0 : Float).toModel.unpack = .zero .positive := rfl
  have hbound : (4611686018427387904.0 : Float).toModel.unpack =
      .finite .positive (2 ^ 52) 10 (by decide) := rfl
  have hreads := reads_unpack x
  rcases cases_of_between (.inl hzero) hbound (of_decide_eq_true hleast)
    (of_decide_eq_true hbelow) with ⟨s, hs⟩ | ⟨m, e, hpos, hfinite, hless⟩
  · rw [hs]
    exact .zero s
  · rw [hfinite] at hreads ⊢
    obtain ⟨-, rfl, rfl⟩ := hreads
    have hsmall := @exponent_of_significand_lt (ofFloat x)
    exact .finite hpos (significand_lt _) (by omega)

/-! ## Stretched durations -/

/-- A magnitude with a small exponent is one of a duration. -/
theorem exists_ofMagnitude {b : Binary64} (h : b.exponentField < 1087) :
    ∃ d, Duration.ofMagnitude b = .ok d := by
  have hexponent : b.exponent ≤ 11 := by
    unfold exponent
    split <;> omega
  have hsignificand := significand_lt b
  have hsize : b.significand * Nat.pow 2 (- -b.exponent).toNat <
      Nat.pow 2 64 * (1 * Nat.pow 2 (-b.exponent).toNat) := by
    calc b.significand * 2 ^ (- -b.exponent).toNat
        < 2 ^ 53 * 2 ^ (- -b.exponent).toNat :=
          Nat.mul_lt_mul_of_pos_right hsignificand (Nat.two_pow_pos _)
      _ ≤ 2 ^ 53 * 2 ^ 11 := Nat.mul_le_mul_left _ (Nat.pow_le_pow_right (by decide) (by omega))
      _ = 2 ^ 64 * (1 * 1) := by decide
      _ ≤ 2 ^ 64 * (1 * 2 ^ (-b.exponent).toNat) :=
          Nat.mul_le_mul_left _ (Nat.mul_le_mul_left _ (Nat.two_pow_pos _))
  exact ⟨_, if_neg (Nat.not_le_of_lt hsize)⟩

/-- A zero or a positive double with a small exponent is a number of seconds. -/
theorem exists_ofSeconds? {u : UnpackedFloat} (hx : x = .ofModel (.pack u))
    (h : ExponentLe 11 u) : ∃ d, Duration.ofSeconds? x = .ok d := by
  subst hx
  cases h with
  | zero s => cases s <;> exact ⟨⟨0⟩, by decide +kernel⟩
  | @finite m e hpos he =>
    have hbits : (ofFloat (.ofModel (.pack (.finite .positive m e hpos)))).bits < 1087 * 2 ^ 52 :=
      toNat_pack_lt hpos (k := 1086) (by decide) (by omega)
    have hfield : (ofFloat (.ofModel (.pack (.finite .positive m e hpos)))).exponentField < 1087 :=
      Nat.lt_of_le_of_lt (Nat.mod_le _ _) ((Nat.div_lt_iff_lt_mul (by decide)).mpr hbits)
    have hfinite : (ofFloat (.ofModel (.pack (.finite .positive m e hpos)))).isFinite = true :=
      decide_eq_true (Nat.lt_trans hfield (by decide))
    obtain ⟨d, hd⟩ := exists_ofMagnitude hfield
    refine ⟨d, ?_⟩
    rw [Duration.ofSeconds?, if_neg (not_lt_zero (Nat.lt_trans hbits (by decide)))]
    exact (if_pos hfinite).trans hd

end ClusterOperator.Binary64

namespace ClusterOperator.Duration

open Binary64

/-- A duration of less than `2 ^ 62` seconds. -/
def IsShort (d : Duration) : Prop := 0 ≤ d.toSeconds ∧ d.toSeconds < 4611686018427387904.0

instance (d : Duration) : Decidable d.IsShort :=
  inferInstanceAs (Decidable (0 ≤ d.toSeconds ∧ d.toSeconds < 4611686018427387904.0))

/-- **A short duration can be stretched by every factor.** -/
theorem IsShort.exists_stretch {d : Duration} (h : d.IsShort) (jitter : Jitter) :
    ∃ length, d.stretch jitter = .ok length :=
  exists_ofSeconds? rfl (exponentLe_mul (by decide) (below_of_lt h.1 h.2) (below_jitter jitter))

/-- A duration that is not short may have no stretched one. -/
example : (Duration.ofSecs 15000000000000000000).stretch ⟨1.25, by decide, by decide⟩ =
    .error .tooBigOrNaN := by
  decide +kernel

end ClusterOperator.Duration

namespace ClusterOperator.Backoff

variable {b : Backoff}

/-- Short pauses have a length, whatever they are stretched by. -/
theorem pacedWithin_of_short
    (h : ∀ n < b.maxAttempts, ((b.pause n).toOption.any fun d => decide d.IsShort) = true) :
    b.PacedWithin := by
  intro n _ hn jitter
  have hshort := h n hn
  cases hpause : b.pause n with
  | error fault =>
    rw [hpause] at hshort
    cases hshort
  | ok d =>
    rw [hpause] at hshort
    have short : d.IsShort := of_decide_eq_true hshort
    obtain ⟨length, hlength⟩ := short.exists_stretch jitter
    exact ⟨length, stretchedPause_eq_ok_iff.mpr ⟨d, hpause, hlength⟩⟩

end ClusterOperator.Backoff
